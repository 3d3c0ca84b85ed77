import Emitter.Properties.Publish
import Emitter.Properties.Presence

/-!
# The in-band requests: who may mint a key, and who gets a reply

`onKeyGen` mints a key only from a parent key that decrypts and has not expired: a master
key creates one, a key with `AllowExtend` extends one to the connection, and any other
parent gets `Unauthorized` before the key provider is called (`onKeyGen_unauthorized`).

`onEmitterRequest` replies from a deferred call, once, with whatever response the routed
handler returned; only `onPresence` returns none, and exactly on its success path when no
status was asked for (`onPresence_result_eq_none`). So every request gets exactly one reply
on its channel with its id, failures included, except a presence request that passed its
key checks without asking for the status, which gets none (`onEmitterRequest_replies`,
`dispatch_result_eq_none`).
-/

namespace Emitter

/-! ### Minting -/

/-- **Minting needs authority**: an expired parent key, or one that is neither a master key
nor may extend, gets `Unauthorized`, and the key provider is not called. -/
theorem onKeyGen_unauthorized {env : Env} {c : Conn} {payload : Bytes}
    {message : KeyGenRequest} {parentKey : Key}
    (h1 : env.decodeKeyGen payload {} = some message)
    (h2 : env.decryptKey message.key = some parentKey)
    (h : parentKey.isExpired ∨
      (parentKey.isMaster = false ∧ parentKey.hasPermission env.flags.allowExtend = false)) :
    onKeyGen env c payload = ⟨(.error .unauthorized, false), []⟩ := by
  rcases h with h | ⟨h3, h4⟩
  · simp [onKeyGen, h1, h2, h]
  · cases h5 : parentKey.isExpired <;> simp [onKeyGen, h1, h2, h3, h4, h5]

theorem keygen_mints_only_with_authority :
    (∀ env c payload, (onKeyGen env c payload).result.2 = true →
      ∃ message parentKey, KeyGenMints env c payload message parentKey) ∧
    (∀ env c payload message parentKey, env.decodeKeyGen payload {} = some message →
      env.decryptKey message.key = some parentKey →
      (parentKey.isExpired ∨
        (parentKey.isMaster = false ∧ parentKey.hasPermission env.flags.allowExtend = false)) →
      onKeyGen env c payload = ⟨(.error .unauthorized, false), []⟩) :=
  ⟨fun _ _ _ => onKeyGen_ok, fun _ _ _ _ _ => onKeyGen_unauthorized⟩

/-- A master key `mk` and an expired master key `xk` of contract 1, and a key provider that
creates the key `nk`: `M` asks `mk` for a read key to `a/`, and `X` asks `xk` for the same. -/
def mintingEnv : Env :=
  { Env.refusing with
    decryptKey := fun k => if k = Bytes.ofString "mk" then some ⟨1, 1, true, false⟩
      else if k = Bytes.ofString "xk" then some ⟨1, 1, true, true⟩ else none
    createKey := fun _ _ _ _ => .ok (Bytes.ofString "nk")
    decodeKeyGen := fun p _ =>
      if p = Bytes.ofString "M" then
        some ⟨Bytes.ofString "mk", Bytes.ofString "a/", Bytes.ofString "r", 0⟩
      else if p = Bytes.ofString "X" then
        some ⟨Bytes.ofString "xk", Bytes.ofString "a/", Bytes.ofString "r", 0⟩
      else none }

theorem keygen_mints_only_with_authority_master :
    (onKeyGen mintingEnv (Conn.fresh []) (Bytes.ofString "M")).result.2 = true ∧
    (∃ message parentKey,
      KeyGenMints mintingEnv (Conn.fresh []) (Bytes.ofString "M") message parentKey) ∧
    onKeyGen mintingEnv (Conn.fresh []) (Bytes.ofString "X") = ⟨(.error .unauthorized, false), []⟩ := by
  have h : (onKeyGen mintingEnv (Conn.fresh []) (Bytes.ofString "M")).result.2 = true := by decide
  exact ⟨h, keygen_mints_only_with_authority.1 _ _ _ h,
    keygen_mints_only_with_authority.2 _ _ _
      ⟨Bytes.ofString "xk", Bytes.ofString "a/", Bytes.ofString "r", 0⟩ ⟨1, 1, true, true⟩
      (by decide) (by decide) (.inl rfl)⟩

/-! ### Replies -/

/-- The reply an effect sends, if it is one. -/
def Effect.reply : Effect → Option (Bytes × Response × UInt16)
  | .sendResponse topic resp requestID => some (topic, resp, requestID)
  | _ => none

/-- **One deferred reply**: the handlers send none, and the router sends the routed
handler's response, if there is one, on the request's channel with its id. -/
theorem onEmitterRequest_replies (env : Env) (c : Conn) (channel : Channel) (payload : Bytes)
    (requestID : UInt16) :
    (onEmitterRequest env c channel payload requestID).effects.filterMap Effect.reply =
      match (dispatch env c channel.query payload).result.1 with
      | some resp => [(env.channelString channel, resp, requestID)]
      | none => [] := by
  have hd : (dispatch env c channel.query payload).effects.filterMap Effect.reply = [] :=
    List.filterMap_eq_nil_iff.mpr fun e he => by
      have := dispatch_handlerCall env c channel.query payload e he
      cases e <;> simp_all [Effect.IsHandlerCall, Effect.reply]
  rw [onEmitterRequest_eq, List.filterMap_append, hd]
  split <;> simp [Effect.reply, *]

/-- The router has no response only for a presence request that returned none. -/
theorem dispatch_result_eq_none {env : Env} {c : Conn} {query : List UInt32} {payload : Bytes} :
    (dispatch env c query payload).result.1 = none ↔
      query.head? = some requestPresence ∧ (onPresence env payload).result.1 = none := by
  rcases query with _ | ⟨q, rest⟩
  · simp [dispatch]
  rw [dispatch_cons]
  split_ifs <;> subst_vars <;>
    simp_all [requestKeygen, requestPresence, requestMe, requestLink]

/-- A presence request that returns none has succeeded. -/
theorem onPresence_ok_of_none {env : Env} {payload : Bytes}
    (h : (onPresence env payload).result.1 = none) : (onPresence env payload).result.2 = true := by
  obtain ⟨_, _, _, _, hs, -⟩ := onPresence_result_eq_none.mp h
  rw [hs.eq]

theorem emitter_request_replies_once :
    (∀ env c channel payload requestID,
      ¬(channel.query.head? = some requestPresence ∧ (onPresence env payload).result.1 = none) →
      ∃ resp, (onEmitterRequest env c channel payload requestID).effects.filterMap Effect.reply =
        [(env.channelString channel, resp, requestID)]) ∧
    (∀ env payload, (onPresence env payload).result.1 = none ↔
      ∃ msg key contract channel, PresenceAnswers env payload msg key contract channel ∧
        msg.status = false) ∧
    (∀ env c channel payload requestID, channel.query.head? = some requestPresence →
      (onPresence env payload).result.1 = none →
      (onPresence env payload).result.2 = true ∧
      (onEmitterRequest env c channel payload requestID).effects.filterMap Effect.reply = []) ∧
    (∀ env c channel payload requestID,
      (onEmitterRequest env c channel payload requestID).result = false →
      ∃ e, (onEmitterRequest env c channel payload requestID).effects.filterMap Effect.reply =
        [(env.channelString channel, .error e, requestID)]) ∧
    (∀ env c channel payload requestID, (channel.query = [] ∨ ∃ q rest,
        channel.query = q :: rest ∧ q ≠ requestKeygen ∧ q ≠ requestPresence ∧ q ≠ requestMe ∧
          q ≠ requestLink) →
      (onEmitterRequest env c channel payload requestID).result = false ∧
      (onEmitterRequest env c channel payload requestID).effects.filterMap Effect.reply =
        [(env.channelString channel, .error .notFound, requestID)]) ∧
    (∀ env c channel payload requestID q rest, channel.query = q :: rest →
      (onEmitterRequest env c channel payload requestID).result =
        if q = requestKeygen then (onKeyGen env c payload).result.2
        else if q = requestPresence then (onPresence env payload).result.2
        else if q = requestMe then (onMe env c).result.2
        else if q = requestLink then (onLink env c payload).result.2
        else false) := by
  refine ⟨fun env c channel payload requestID h => ?_, fun _ _ => onPresence_result_eq_none,
    fun env c channel payload requestID h1 h2 => ?_,
    fun env c channel payload requestID h => ?_, fun env c channel payload requestID h => ?_,
    fun env c channel payload requestID q rest h => ?_⟩
  · rcases hr : (dispatch env c channel.query payload).result.1 with _ | resp
    · exact absurd (dispatch_result_eq_none.mp hr) h
    · exact ⟨resp, by rw [onEmitterRequest_replies, hr]⟩
  · rw [onEmitterRequest_replies, dispatch_result_eq_none.mpr ⟨h1, h2⟩]
    exact ⟨onPresence_ok_of_none h2, rfl⟩
  · rw [onEmitterRequest_eq] at h
    obtain ⟨⟨e, he⟩, -⟩ := dispatch_fail h
    exact ⟨e, by rw [onEmitterRequest_replies, he]⟩
  · rw [onEmitterRequest_replies, onEmitterRequest_eq]
    rcases h with h | ⟨q, rest, h, h1, h2, h3, h4⟩ <;> simp [h, dispatch_cons, dispatch, *]
  · rw [onEmitterRequest_eq, h, dispatch_cons]
    split_ifs <;> rfl

/-- On `presenceEnv`, the join request `J` gets no reply and the status request `S` gets
one; a request with an empty query fails with `NotFound`. -/
theorem emitter_request_replies_once_join :
    (presenceChannel.query.head? = some requestPresence ∧
      (onPresence presenceEnv (Bytes.ofString "J")).result.1 = none ∧
      (onPresence presenceEnv (Bytes.ofString "J")).result.2 = true ∧
      (onEmitterRequest presenceEnv (Conn.fresh []) presenceChannel (Bytes.ofString "J") 1).effects.filterMap
        Effect.reply = []) ∧
    (∃ resp, (onEmitterRequest presenceEnv (Conn.fresh []) presenceChannel (Bytes.ofString "S")
      1).effects.filterMap Effect.reply = [(presenceEnv.channelString presenceChannel, resp, 1)]) ∧
    ((onEmitterRequest Env.refusing (Conn.fresh []) ⟨[], [], [], [], .static⟩ [] 1).result = false ∧
      (onEmitterRequest Env.refusing (Conn.fresh []) ⟨[], [], [], [], .static⟩ [] 1).effects.filterMap
        Effect.reply = [(Env.refusing.channelString ⟨[], [], [], [], .static⟩, .error .notFound, 1)]) := by
  have hq : presenceChannel.query.head? = some requestPresence := rfl
  have hj : (onPresence presenceEnv (Bytes.ofString "J")).result.1 = none := by decide
  exact ⟨⟨hq, hj, emitter_request_replies_once.2.2.1 _ _ _ _ _ hq hj⟩,
    emitter_request_replies_once.1 _ _ _ _ _ (by decide),
    emitter_request_replies_once.2.2.2.2.1 _ _ _ _ _ (.inl rfl)⟩

end Emitter
