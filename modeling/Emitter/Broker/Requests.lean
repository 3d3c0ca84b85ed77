import Emitter.Broker.Basic

/-!
# Requests and responses of the in-band RPCs

The JSON bodies of the four `emitter/...` requests and their replies, as declared next to
the handlers. Decoding a body is a collaborator (`Env`); a request's defaults are the
values the handler decodes into, so a field missing from the JSON keeps them.

The one piece of logic here is `keyGenRequest.access`, the loop that turns the requested
type string into permission bits. Its laws (`access_is_flag_union`) are read off a single
bit-level equation, `bit_access`: bit `i` of the result is set iff it is set in
`AllowNone` or in the flag of some byte of the string. Union, order and repetition
insensitivity, and the bound by the seven requestable flags are then facts about `List.any`.
-/

namespace Emitter

/-- A Go `map[string]string`. -/
abbrev Links := AList fun _ : Bytes => Bytes

/-! ### Bodies -/

/-- `keyGenRequest`; `ttl` is an `int32`. -/
structure KeyGenRequest where
  key : Bytes := []
  channel : Bytes := []
  type : Bytes := []
  ttl : Int := 0
  deriving DecidableEq, Repr

/-- `keyGenResponse`, without the request id that the reply path sets. -/
structure KeyGenResponse where
  status : Int
  key : Bytes
  channel : Bytes
  deriving DecidableEq, Repr

/-- `linkRequest`. -/
structure LinkRequest where
  name : Bytes := []
  key : Bytes := []
  channel : Bytes := []
  subscribe : Bool := false
  «private» : Bool := false
  deriving DecidableEq, Repr

/-- `linkResponse`, without the request id. -/
structure LinkResponse where
  status : Int
  name : Bytes
  channel : Bytes
  deriving DecidableEq, Repr

/-- `meResponse`, without the request id. -/
structure MeResponse where
  id : Bytes
  links : Links
  deriving DecidableEq

/-- `presenceRequest`; `changes` is the tri-state `*bool`. -/
structure PresenceRequest where
  key : Bytes := []
  channel : Bytes := []
  status : Bool := false
  changes : Option Bool := none
  deriving DecidableEq, Repr

/-- `presenceEvent`, with its three constants. -/
inductive PresenceEvent
  | status
  | subscribe
  | unsubscribe
  deriving DecidableEq, Repr

/-- `presenceInfo`: one connection present on a channel. -/
structure PresenceInfo where
  id : Bytes
  username : Bytes
  deriving DecidableEq, Repr

/-- `presenceResponse`, without the request id. -/
structure PresenceResponse where
  time : Int
  event : PresenceEvent
  channel : Bytes
  who : List PresenceInfo
  deriving DecidableEq, Repr

/-- The `response` interface: an error or one of the four reply bodies. -/
inductive Response
  | error (e : Error)
  | keyGen (r : KeyGenResponse)
  | link (r : LinkResponse)
  | me (r : MeResponse)
  | presence (r : PresenceResponse)
  deriving DecidableEq

/-! ### `expires` and `access` -/

/-- `keyGenRequest.expires`: the epoch for `ttl = 0`, else `ttl` seconds from `now`. -/
def KeyGenRequest.expires (m : KeyGenRequest) (now : Time) : Time :=
  if m.ttl = 0 then 0 else now + m.ttl * 1000000000

/-- One turn of the loop of `keyGenRequest.access`: the `switch` on the byte. -/
def accessStep (F : Flags) (required c : UInt8) : UInt8 :=
  if c = 'r'.toUInt8 then required ||| F.allowRead
  else if c = 'w'.toUInt8 then required ||| F.allowWrite
  else if c = 's'.toUInt8 then required ||| F.allowStore
  else if c = 'l'.toUInt8 then required ||| F.allowLoad
  else if c = 'p'.toUInt8 then required ||| F.allowPresence
  else if c = 'e'.toUInt8 then required ||| F.allowExtend
  else if c = 'x'.toUInt8 then required ||| F.allowExecute
  else required

/-- `keyGenRequest.access`: the permissions requested by the type string. -/
def KeyGenRequest.access (m : KeyGenRequest) (F : Flags) : UInt8 :=
  m.type.foldl (accessStep F) F.allowNone

/-- The permission a type byte names, and `AllowNone` for any other byte. -/
def Flags.flag (F : Flags) (c : UInt8) : UInt8 :=
  if c = 'r'.toUInt8 then F.allowRead
  else if c = 'w'.toUInt8 then F.allowWrite
  else if c = 's'.toUInt8 then F.allowStore
  else if c = 'l'.toUInt8 then F.allowLoad
  else if c = 'p'.toUInt8 then F.allowPresence
  else if c = 'e'.toUInt8 then F.allowExtend
  else if c = 'x'.toUInt8 then F.allowExecute
  else F.allowNone

/-- Every bit a type string can request: `AllowNone` and the seven named flags. -/
def Flags.requestable (F : Flags) : UInt8 :=
  F.allowNone ||| F.allowRead ||| F.allowWrite ||| F.allowStore ||| F.allowLoad |||
    F.allowPresence ||| F.allowExtend ||| F.allowExecute

/-! ### The bit view of a byte -/

/-- Bit `i` of a byte. -/
def bit (x : UInt8) (i : Nat) : Bool :=
  x.toBitVec.getLsbD i

@[simp] theorem bit_or (x y : UInt8) (i : Nat) : bit (x ||| y) i = (bit x i || bit y i) :=
  BitVec.getLsbD_or

@[simp] theorem bit_and (x y : UInt8) (i : Nat) : bit (x &&& y) i = (bit x i && bit y i) :=
  BitVec.getLsbD_and

@[simp] theorem bit_zero (i : Nat) : bit 0 i = false := by
  simp [bit]

theorem UInt8.ext_bit {x y : UInt8} (h : ∀ i, bit x i = bit y i) : x = y :=
  UInt8.eq_of_toBitVec_eq (BitVec.eq_of_getLsbD_eq fun i => h i)

/-- Bits of an or-fold: those of the seed and those of any element. -/
theorem bit_foldl_or (l : List UInt8) (r : UInt8) (i : Nat) :
    bit (l.foldl (· ||| ·) r) i = (bit r i || l.any fun x => bit x i) := by
  induction l generalizing r with
  | nil => simp
  | cons x l ih => simp [ih, Bool.or_assoc]

/-- A branch of the two `switch`es taken together: the step adds the bits of the branch's
flag, or both fall through. -/
theorem bit_ite_or {p : Prop} [Decidable p] {r a x y : UInt8} {i : Nat}
    (h : bit x i = (bit r i || bit y i)) :
    bit (if p then r ||| a else x) i = (bit r i || bit (if p then a else y) i) := by
  by_cases hp : p
  · rw [if_pos hp, if_pos hp, bit_or]
  · rw [if_neg hp, if_neg hp, h]

/-- One turn of the loop adds the bits of the byte's flag, once the accumulator holds
those of `AllowNone`. -/
theorem bit_accessStep (F : Flags) {r : UInt8} (c : UInt8) (i : Nat)
    (hr : bit F.allowNone i = true → bit r i = true) :
    bit (accessStep F r c) i = (bit r i || bit (F.flag c) i) := by
  unfold accessStep Flags.flag
  iterate 7 apply bit_ite_or
  cases h : bit F.allowNone i <;> simp [hr, h]

/-- **The bit-level meaning of `access`**: bit `i` is requested iff it is in `AllowNone`
or in the flag of some byte of the type string. -/
theorem bit_access (F : Flags) (s : Bytes) (i : Nat) :
    bit (({ type := s } : KeyGenRequest).access F) i =
      (bit F.allowNone i || s.any fun c => bit (F.flag c) i) := by
  suffices h : ∀ r : UInt8, (bit F.allowNone i = true → bit r i = true) →
      bit (s.foldl (accessStep F) r) i = (bit r i || s.any fun c => bit (F.flag c) i) from
    h _ id
  induction s with
  | nil => simp
  | cons c s ih =>
    intro r hr
    rw [List.foldl_cons, ih _ fun h => by simp [bit_accessStep F c i hr, hr h],
      bit_accessStep F c i hr, List.any_cons, Bool.or_assoc]

theorem ite_mem_of_mem {α : Type} {p : Prop} [Decidable p] {a b : α} {l : List α}
    (ha : a ∈ l) (hb : b ∈ l) : (if p then a else b) ∈ l := by
  by_cases hp : p
  · rwa [if_pos hp]
  · rwa [if_neg hp]

/-- `flag` picks one of the seven named flags, or `AllowNone`. -/
theorem Flags.flag_mem (F : Flags) (c : UInt8) :
    F.flag c ∈ [F.allowRead, F.allowWrite, F.allowStore, F.allowLoad, F.allowPresence,
      F.allowExtend, F.allowExecute, F.allowNone] := by
  unfold Flags.flag
  repeat' apply ite_mem_of_mem
  all_goals simp

/-- A flag never lies outside the requestable bits. -/
theorem bit_flag_le (F : Flags) (c : UInt8) (i : Nat) (h : bit (F.flag c) i = true) :
    bit F.requestable i = true := by
  have hc := F.flag_mem c
  simp only [List.mem_cons, List.mem_singleton, List.not_mem_nil, or_false] at hc
  rcases hc with hc | hc | hc | hc | hc | hc | hc | hc <;> rw [hc] at h <;>
    simp [Flags.requestable, h]

/-- **`access` is the union of the flags of the type's bytes.** It is the or-fold of
`flag` from `AllowNone`; so the empty type asks for `AllowNone`, a concatenation asks for
the union, only the set of bytes matters (order and repetition do not), and no bit outside
`AllowNone` and the seven flags is ever set. When the master bit is apart from those, as
with the package's one-bit flags, `access` never sets it. -/
theorem access_is_flag_union (F : Flags) (s t : Bytes) :
    ({ type := s } : KeyGenRequest).access F = (s.map F.flag).foldl (· ||| ·) F.allowNone ∧
    ({ type := [] } : KeyGenRequest).access F = F.allowNone ∧
    ({ type := s ++ t } : KeyGenRequest).access F =
      (({ type := s } : KeyGenRequest).access F ||| ({ type := t } : KeyGenRequest).access F) ∧
    ((∀ c, c ∈ s ↔ c ∈ t) →
      ({ type := s } : KeyGenRequest).access F = ({ type := t } : KeyGenRequest).access F) ∧
    (({ type := s } : KeyGenRequest).access F ||| F.requestable) = F.requestable ∧
    (F.allowMaster &&& F.requestable = 0 →
      ({ type := s } : KeyGenRequest).access F &&& F.allowMaster = 0) := by
  have hsub : ∀ i, bit (({ type := s } : KeyGenRequest).access F) i = true →
      bit F.requestable i = true := by
    intro i h
    rw [bit_access] at h
    rcases Bool.or_eq_true_iff.mp h with h | h
    · simp [Flags.requestable, h]
    · obtain ⟨c, -, hc⟩ := List.any_eq_true.mp h
      exact bit_flag_le F c i hc
  refine ⟨UInt8.ext_bit fun i => ?_, rfl, UInt8.ext_bit fun i => ?_, fun hst => ?_,
    UInt8.ext_bit fun i => ?_, fun hm => UInt8.ext_bit fun i => ?_⟩
  · simp [bit_access, bit_foldl_or, List.any_map, Function.comp_def]
  · simp only [bit_access, List.any_append, bit_or]
    cases bit F.allowNone i <;> simp
  · refine UInt8.ext_bit fun i => ?_
    simp only [bit_access]
    congr 1
    exact Bool.eq_iff_iff.mpr (by simp [List.any_eq_true, hst])
  · have := hsub i
    simp only [bit_or]
    cases h : bit (({ type := s } : KeyGenRequest).access F) i <;> simp_all
  · have h0 : (bit F.allowMaster i && bit F.requestable i) = false := by
      simpa using congrArg (bit · i) hm
    simp only [bit_and, bit_zero]
    cases h : bit (({ type := s } : KeyGenRequest).access F) i
    · rfl
    · rw [hsub i h] at h0
      simpa using h0

/-- The package's one-bit flags keep the master bit apart, so `"rwslpex"` asks for every
requestable bit and not for `AllowMaster`. -/
theorem access_is_flag_union_oneBit :
    (⟨0, 1, 2, 4, 8, 16, 32, 64, 128, 254⟩ : Flags).allowMaster &&&
        (⟨0, 1, 2, 4, 8, 16, 32, 64, 128, 254⟩ : Flags).requestable = 0 ∧
      (({ type := Bytes.ofString "rwslpex" } : KeyGenRequest).access
        ⟨0, 1, 2, 4, 8, 16, 32, 64, 128, 254⟩ &&& 1) = 0 :=
  ⟨by decide, (access_is_flag_union ⟨0, 1, 2, 4, 8, 16, 32, 64, 128, 254⟩
    (Bytes.ofString "rwslpex") []).2.2.2.2.2 (by decide)⟩

end Emitter
