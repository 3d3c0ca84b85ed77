import Mathlib.Data.List.AList
import Mathlib.Algebra.Group.Int

/-!
# The broker's collaborators: channels, keys, messages

`handlers.go` reads its inputs through packages that are not part of this development:
`security` (the parsed channel, keys, permission flags), `message` (SSIDs and messages),
`errors`, and the key and contract providers. This file fixes the shapes of the values the
handlers read from them. What the handlers only call — the channel parser, key decryption,
the store, the subscription trie — is a field of `Env` (`Emitter/Broker/Env.lean`), so
that every result holds for every behaviour of it.

Go strings and byte slices are both `Bytes`, so `len` is byte length as in Go. `int64`
values are `Int`; the one narrowing conversion the handlers make, `uint32(ttl)`, is
`uint32OfInt64`, which keeps the low 32 bits as Go does.
-/

namespace Emitter

/-- A Go `string` or `[]byte`. -/
abbrev Bytes := List UInt8

/-- The bytes of an ASCII literal of the source. -/
def Bytes.ofString (s : String) : Bytes :=
  s.toList.map Char.toUInt8

/-- A point in time, in nanoseconds since the Unix epoch (`time.Time`). -/
abbrev Time := Int

/-- Go's `uint32(x)` on an `int64`: the low 32 bits. -/
def uint32OfInt64 (x : Int) : UInt32 :=
  UInt32.ofNat (x % 2 ^ 32).toNat

/-! ### SSIDs -/

/-- `message.Ssid`: the subscription identifier, `[contract, q0, q1, …]`. -/
abbrev Ssid := List UInt32

/-- Modelled from the spec (§3, SSID), `message.NewSsid` being absent: the contract id
followed by the query. -/
def newSsid (contract : UInt32) (query : List UInt32) : Ssid :=
  contract :: query

/-! ### Channels -/

/-- `security.ChannelInvalid`, `ChannelStatic` and `ChannelWildcard`. -/
inductive ChannelType
  | invalid
  | static
  | wildcard
  deriving DecidableEq, Repr

/-- `security.Channel`, as `security.ParseChannel` returns it. -/
structure Channel where
  key : Bytes
  channel : Bytes
  query : List UInt32
  options : List (Bytes × Bytes)
  channelType : ChannelType
  deriving DecidableEq, Repr

/-! ### Permissions and keys -/

/-- The permission constants of the `security` package, which is not under the source
tree; every result holds for every choice of them unless it says otherwise. -/
structure Flags where
  allowNone : UInt8
  allowMaster : UInt8
  allowRead : UInt8
  allowWrite : UInt8
  allowStore : UInt8
  allowLoad : UInt8
  allowPresence : UInt8
  allowExtend : UInt8
  allowExecute : UInt8
  allowAll : UInt8
  deriving DecidableEq, Repr

/-- Modelled from the spec (§3, Key): a decrypted key exposes its contract id, whether it
is a master key, whether it has expired, and its permission bits. -/
structure Key where
  contract : UInt32
  permissions : UInt8
  isMaster : Bool
  isExpired : Bool
  deriving DecidableEq, Repr

/-- Modelled from the spec (§4.2): a key has a permission when it carries all its bits. -/
def Key.hasPermission (k : Key) (flag : UInt8) : Bool :=
  k.permissions &&& flag == flag

/-- A contract, known to the handlers by its identity only: its checks and counters are
collaborators. -/
structure Contract where
  id : UInt32
  deriving DecidableEq, Repr

/-! ### Messages -/

/-- `message.Message`, with the fields the handlers set or read. -/
structure Message where
  ssid : Ssid
  channel : Bytes
  payload : Bytes
  ttl : UInt32
  deriving DecidableEq, Repr

/-- Modelled from the spec (§3, Message), `message.New` being absent: a new message is
transient, `ttl = 0`. -/
def Message.new (ssid : Ssid) (channel payload : Bytes) : Message :=
  { ssid, channel, payload, ttl := 0 }

/-- Modelled from the spec (§3, Message): `Stored()` holds iff `ttl > 0`. -/
def Message.stored (m : Message) : Bool :=
  0 < m.ttl

/-! ### Errors -/

/-- `errors.Error`: the predefined errors the handlers return, and any other error a
collaborator reports. -/
inductive Error
  | badRequest
  | unauthorized
  | unauthorizedExt
  | forbidden
  | notFound
  | serverError
  | linkInvalid
  | custom (status : Nat) (message : Bytes)
  deriving DecidableEq, Repr

end Emitter
