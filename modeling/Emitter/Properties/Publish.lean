import Emitter.Broker.Machine

/-!
# What a publish stores and fans out

`onPublish` stores a message, fans it out and records the contract's stats only at the
end of its last path: a valid static channel whose key is not `emitter`, authorized for
writing with a key that cannot extend. The message is that of the key's contract and
the channel, with the packet's payload; it is stored exactly when its TTL is positive and
the key may store; the fan-out excludes the connection itself exactly when the channel
asks for it (`onPublish_delivers_only_authorized`). An `emitter` channel goes to the
router instead, whose calls are the key provider's, link writes, read authorizations,
subscription changes and the reply (`onEmitterRequest_calls`).

The TTL is resolved as the spec orders it, the positive `ttl` option over the retain flag
over the transient default, but the option is an `int64` stored with `uint32(ttl)`, which
keeps the low 32 bits: an option that is a multiple of 2^32 makes the message transient,
retained or not, so it is not stored (`ttl_option_wraps_to_transient`).
-/

namespace Emitter

/-! ### The message -/

theorem publishMessage_fields (env : Env) (channel : Channel) (key : Key) (packet : Publish) :
    (publishMessage env channel key packet).ssid = newSsid key.contract channel.query ∧
      (publishMessage env channel key packet).channel = channel.channel ∧
      (publishMessage env channel key packet).payload = packet.payload := by
  unfold publishMessage
  rcases env.ttl channel with _ | v <;> dsimp only <;> split_ifs <;> exact ⟨rfl, rfl, rfl⟩

/-- A static channel whose `ttl` option is 2^32, under a key that may write and store; the
retained TTL is 30. -/
def wrappingTtlEnv : Env :=
  { Env.refusing with
    retainedTTL := 30
    parseChannel := fun _ => ⟨Bytes.ofString "k", Bytes.ofString "a/", [1], [], .static⟩
    ttl := fun _ => some (2 ^ 32)
    authorize := fun _ _ => some (⟨1⟩, ⟨1, 4 ||| 8, false, false⟩) }

/-- A retained publish of `x` on `k/a/`. -/
def retainedPublish : Publish :=
  ⟨Bytes.ofString "k/a/", Bytes.ofString "x", 0, true⟩

theorem ttl_option_wraps_to_transient :
    wrappingTtlEnv.ttl (wrappingTtlEnv.parseChannel retainedPublish.topic) = some (2 ^ 32) ∧
    retainedPublish.retain = true ∧
    (⟨1, 4 ||| 8, false, false⟩ : Key).hasPermission wrappingTtlEnv.flags.allowStore ∧
    (onPublish wrappingTtlEnv (Conn.fresh []) retainedPublish).effects =
      [.authorize (wrappingTtlEnv.parseChannel retainedPublish.topic) 4,
        .publish ⟨[1, 1], Bytes.ofString "a/", Bytes.ofString "x", 0⟩ [],
        .track ⟨1⟩, .addIngress ⟨1⟩ 1, .addEgress ⟨1⟩ 0] := by
  decide

/-! ### Requests to the broker -/

/-- The calls that store or fan out a message, or record a contract's stats. -/
def Effect.isDelivery : Effect → Bool
  | .store _ | .publish .. | .track _ | .addIngress .. | .addEgress .. => true
  | _ => false

/-- The calls the four request handlers can make: the key provider's, a link write, a read
authorization and a subscription change. -/
def Effect.IsHandlerCall (env : Env) : Effect → Prop
  | .createKey .. | .extendKey .. | .link .. | .subscribe .. | .unsubscribe .. => True
  | .authorize _ permission => permission = env.flags.allowRead
  | _ => False

theorem Effect.isDelivery_of_isHandlerCall {env : Env} {e : Effect} (h : e.IsHandlerCall env) :
    e.isDelivery = false := by
  cases e <;> simp_all [Effect.IsHandlerCall, Effect.isDelivery]

theorem isHandlerCall_of_isKeyCall {env : Env} {e : Effect} (h : e.isKeyCall) :
    e.IsHandlerCall env := by
  cases e <;> simp_all [Effect.IsHandlerCall, Effect.isKeyCall]

theorem onKeyGen_handlerCall (env : Env) (c : Conn) (payload : Bytes) :
    ∀ e ∈ (onKeyGen env c payload).effects, e.IsHandlerCall env := by
  cases hok : (onKeyGen env c payload).result.2
  · exact fun e he => isHandlerCall_of_isKeyCall ((onKeyGen_fail hok).2 e he)
  · obtain ⟨_, _, -, -, -, ⟨-, _, -, h⟩ | ⟨-, -, _, -, h⟩⟩ := onKeyGen_ok hok <;>
      simp [h, Effect.IsHandlerCall]

theorem onPresence_handlerCall (env : Env) (payload : Bytes) :
    ∀ e ∈ (onPresence env payload).effects, e.IsHandlerCall env := by
  cases hok : (onPresence env payload).result.2
  · simp [(onPresence_fail hok).2]
  · obtain ⟨msg, _, _, _, -, -, -, -, -, -, -, -, h⟩ := onPresence_ok hok
    rw [h]
    rcases msg.changes with _ | _ | _ <;> simp [Effect.IsHandlerCall]

theorem onLink_handlerCall (env : Env) (c : Conn) (payload : Bytes) :
    ∀ e ∈ (onLink env c payload).effects, e.IsHandlerCall env := by
  cases hok : (onLink env c payload).result.2
  · exact fun e he => isHandlerCall_of_isKeyCall ((onLink_fail hok).2 e he)
  obtain ⟨request, channel, -, -, -, -, h⟩ := onLink_ok hok
  rw [h]
  simp only [List.mem_append, List.mem_cons]
  rintro e (he | rfl | rfl | he)
  · exact isHandlerCall_of_isKeyCall (linkChannel_isKeyCall env c request e he)
  · trivial
  · rfl
  · split at he <;> simp_all [Effect.IsHandlerCall]

theorem dispatch_handlerCall (env : Env) (c : Conn) (query : List UInt32) (payload : Bytes) :
    ∀ e ∈ (dispatch env c query payload).effects, e.IsHandlerCall env := by
  rcases dispatch_cases env c query payload with ⟨-, h⟩ | ⟨-, h⟩ | ⟨-, h⟩ | ⟨-, h⟩ | ⟨-, h⟩ <;>
    rw [h]
  · exact onKeyGen_handlerCall env c payload
  · exact onPresence_handlerCall env payload
  · simp
  · exact onLink_handlerCall env c payload
  · simp

/-- **What an `emitter` request can do**: the calls of its handler, and a reply on the
request's channel with the request's id. -/
theorem onEmitterRequest_calls (env : Env) (c : Conn) (channel : Channel) (payload : Bytes)
    (requestID : UInt16) :
    ∀ e ∈ (onEmitterRequest env c channel payload requestID).effects, e.IsHandlerCall env ∨
      ∃ resp, e = .sendResponse (env.channelString channel) resp requestID := by
  rw [onEmitterRequest_eq]
  intro e he
  rcases List.mem_append.mp he with he | he
  · exact .inl (dispatch_handlerCall env c channel.query payload e he)
  · split at he <;> simp_all

theorem onEmitterRequest_isDelivery (env : Env) (c : Conn) (channel : Channel)
    (payload : Bytes) (requestID : UInt16) :
    ∀ e ∈ (onEmitterRequest env c channel payload requestID).effects, e.isDelivery = false := by
  intro e he
  rcases onEmitterRequest_calls env c channel payload requestID e he with he | ⟨resp, rfl⟩
  · exact Effect.isDelivery_of_isHandlerCall he
  · rfl

/-! ### Delivery -/

theorem onPublish_delivers_only_authorized :
    (∀ env c packet channel, env.parseChannel (c.resolveTopic packet.topic) = channel →
      (∃ e ∈ (onPublish env c packet).effects, e.isDelivery) →
      ∃ contract key, channel.channelType = .static ∧ channel.key ≠ Bytes.ofString "emitter" ∧
        env.authorize channel env.flags.allowWrite = some (contract, key) ∧
        (∀ m, .store m ∈ (onPublish env c packet).effects ↔
          m = publishMessage env channel key packet ∧ 0 < m.ttl ∧
            key.hasPermission env.flags.allowStore) ∧
        (∀ m exclude, .publish m exclude ∈ (onPublish env c packet).effects ↔
          m = publishMessage env channel key packet ∧
            exclude = if env.exclude channel then c.id else [])) ∧
    (∀ env channel key packet,
      (publishMessage env channel key packet).ssid = newSsid key.contract channel.query ∧
      (publishMessage env channel key packet).channel = channel.channel ∧
      (publishMessage env channel key packet).payload = packet.payload) ∧
    (∀ env c packet channel, env.parseChannel (c.resolveTopic packet.topic) = channel →
      channel.channelType = .static → channel.key = Bytes.ofString "emitter" →
      (onPublish env c packet).effects =
        (onEmitterRequest env c channel packet.payload packet.messageID).effects ∧
      ∀ e ∈ (onPublish env c packet).effects, e.isDelivery = false ∧ (e.IsHandlerCall env ∨
        ∃ resp, e = .sendResponse (env.channelString channel) resp packet.messageID)) := by
  refine ⟨fun env c packet channel hc hd => ?_, publishMessage_fields, fun env c packet channel hc hs hk => ?_⟩
  · obtain ⟨e, he, hd⟩ := hd
    rcases onPublish_cases env c packet hc with ⟨-, h⟩ | ⟨-, -, h⟩ | ⟨-, -, h⟩ | ⟨-, -, -, h⟩ |
      ⟨contract, key, hs, hk, ha, ⟨-, h⟩ | ⟨-, h⟩⟩
    · simp [h] at he
    · simp [h] at he
    · rw [h] at he
      simp [onEmitterRequest_isDelivery _ _ _ _ _ e he] at hd
    · simp [h] at he
      simp [he, Effect.isDelivery] at hd
    · simp [h] at he
      simp [he, Effect.isDelivery] at hd
    · refine ⟨contract, key, hs, hk, ha, fun m => ?_, fun m exclude => by simp [h]⟩
      simp only [h, List.mem_cons, List.mem_append, List.mem_ite_nil_right, List.mem_singleton,
        List.not_mem_nil, Effect.store.injEq, reduceCtorEq, Message.stored, decide_eq_true_eq,
        or_false, false_or]
      rw [and_comm]
      exact and_congr_right fun hm => by rw [hm]
  · rcases onPublish_cases env c packet hc with ⟨hv, -⟩ | ⟨-, hv, -⟩ | ⟨-, -, h⟩ | ⟨-, hk', -⟩ |
      ⟨_, _, -, hk', -⟩
    · simp [hs] at hv
    · exact absurd hs hv
    · rw [h]
      exact ⟨rfl, fun e he => ⟨onEmitterRequest_isDelivery _ _ _ _ _ e he,
        onEmitterRequest_calls _ _ _ _ _ e he⟩⟩
    · exact absurd hk hk'
    · exact absurd hk hk'

end Emitter
