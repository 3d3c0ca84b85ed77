import Emitter.Properties.Publish

/-!
# Accounting over a run: what is stored, fanned out, billed and tracked

A connection changes the broker's shared state through the store, the fan-out and the
contract stats. `onPublish` is the only handler that stores, fans out or bills a message,
and it does so only for a PUBLISH that passes all its checks (`Packet.accepted`): the
message is stored when it is stored and the key may store, handed once to the fan-out, and
billed to the authorizing contract: its payload length as ingress, the fan-out's reported
size as egress (`publishCalls`). Over any run these calls are, in order, one group per
accepted PUBLISH (`publish_calls_follow_accepted`): no message is fanned out or billed
twice, none is lost, and subscriptions and `emitter` requests bill nothing.

`c.track(contract)` counts a contract's operations. It is called once by each SUBSCRIBE or
UNSUBSCRIBE that returns no error and by each accepted PUBLISH, for the contract the
authorizer returned, and never otherwise (`tracking_counts_successes`).

`onPublish_of_accepted` says once what `onPublish` does in terms of `Packet.accepted`; the
step lemmas `handle_publishCalls` and `handle_tracked` are read off it and the other
handlers' inversion lemmas, and the history form of the trace (`Conn.trace_eq`,
`Conn.trace_filterMap`) lifts them to runs.
-/

namespace Emitter

/-! ### The accepted publish -/

/-- The PUBLISH that `onPublish` lets through to the store and the fan-out: a static channel
that is not an `emitter` request, which the authorizer lets a key without `Extend` write.
It gives the contract and key the authorizer returned, the message, and the id the
fan-out excludes. -/
def Packet.accepted (env : Env) (c : Conn) : Packet → Option (Contract × Key × Message × Bytes)
  | .publish packet =>
    let channel := env.parseChannel (c.resolveTopic packet.topic)
    match env.authorize channel env.flags.allowWrite with
    | some (contract, key) =>
      if channel.channelType = .static ∧ channel.key ≠ Bytes.ofString "emitter" ∧
          key.hasPermission env.flags.allowExtend = false then
        some (contract, key, publishMessage env channel key packet,
          if env.exclude channel then c.id else [])
      else none
    | none => none
  | _ => none

/-- The calls that store, fan out or bill a message. -/
def Effect.isPublishCall : Effect → Bool
  | .store _ | .publish .. | .addIngress .. | .addEgress .. => true
  | _ => false

/-- The store, fan-out and billing calls of an accepted publish, in the order of
`Conn.onPublish`. -/
def publishCalls (env : Env) (contract : Contract) (key : Key) (msg : Message)
    (exclude : Bytes) : List Effect :=
  (if msg.stored ∧ key.hasPermission env.flags.allowStore then [.store msg] else []) ++
    [.publish msg exclude, .addIngress contract msg.payload.length,
      .addEgress contract (env.publish msg exclude)]

/-- The contract an effect counts an operation for: that of `c.track(contract)`. -/
def Effect.tracked : Effect → Option Contract
  | .track contract => some contract
  | _ => none

/-- The contract whose operations `c.track` counts for a step: the one the authorizer
returned to a SUBSCRIBE or UNSUBSCRIBE that returned no error, and that of an accepted
publish. -/
def Packet.trackedContract (env : Env) (c : Conn) : Packet → Option Contract
  | .connect _ => none
  | .subscribe t =>
    if (onSubscribe env t).result = none then
      (env.authorize (env.parseChannel t) env.flags.allowRead).map Prod.fst
    else none
  | .unsubscribe t =>
    if (onUnsubscribe env t).result = none then
      (env.authorize (env.parseChannel t) env.flags.allowRead).map Prod.fst
    else none
  | .publish packet => ((Packet.publish packet).accepted env c).map Prod.fst

theorem isPublishCall_of_isDelivery {e : Effect} (h : e.isDelivery = false) :
    e.isPublishCall = false := by
  cases e <;> simp_all [Effect.isDelivery, Effect.isPublishCall]

theorem tracked_of_isDelivery {e : Effect} (h : e.isDelivery = false) : e.tracked = none := by
  cases e <;> simp_all [Effect.isDelivery, Effect.tracked]

/-! ### One step -/

/-- **`onPublish` through `Packet.accepted`**: an accepted publish checks the write and then
makes its delivery calls; any other publish makes none. -/
theorem onPublish_of_accepted (env : Env) (c : Conn) (packet : Publish) :
    match (Packet.publish packet).accepted env c with
    | some (contract, key, msg, exclude) => (onPublish env c packet).effects =
      .authorize (env.parseChannel (c.resolveTopic packet.topic)) env.flags.allowWrite ::
        ((if msg.stored ∧ key.hasPermission env.flags.allowStore then [.store msg] else []) ++
          [.publish msg exclude, .track contract, .addIngress contract msg.payload.length,
            .addEgress contract (env.publish msg exclude)])
    | none => ∀ e ∈ (onPublish env c packet).effects, e.isDelivery = false := by
  simp only [Packet.accepted]
  generalize hch : env.parseChannel (c.resolveTopic packet.topic) = ch
  rcases onPublish_cases env c packet hch with ⟨hv, h⟩ | ⟨-, hs, h⟩ | ⟨hs, hk, h⟩ |
    ⟨-, -, ha, h⟩ | ⟨contract, key, hs, hk, ha, ⟨hx, h⟩ | ⟨hx, h⟩⟩
  · rcases env.authorize ch env.flags.allowWrite with _ | _ <;> simp [h, hv]
  · rcases env.authorize ch env.flags.allowWrite with _ | _ <;> simp [h, hs]
  · have hd := onEmitterRequest_isDelivery env c ch packet.payload packet.messageID
    rcases env.authorize ch env.flags.allowWrite with _ | _ <;> simpa [h, hk] using hd
  · simp [h, ha, Effect.isDelivery]
  · simp [h, ha, hx, Effect.isDelivery]
  · obtain ⟨-, -, hpay⟩ := publishMessage_fields env ch key packet
    simp [h, ha, hs, hk, hx, hpay]

theorem onSubscribe_publishCalls (env : Env) (t : Bytes) :
    (onSubscribe env t).effects.filter Effect.isPublishCall = [] := by
  rcases onSubscribe_cases env t rfl with ⟨-, h⟩ | ⟨-, -, h⟩ | ⟨_, _, -, -, ⟨-, h⟩ | ⟨-, -, h⟩ |
    ⟨-, -, _, -, h⟩ | ⟨-, -, _, -, h⟩⟩ <;>
    simp [h, Effect.isPublishCall, List.filter_eq_nil_iff]

theorem onUnsubscribe_publishCalls (env : Env) (t : Bytes) :
    (onUnsubscribe env t).effects.filter Effect.isPublishCall = [] := by
  rcases onUnsubscribe_cases env t rfl with ⟨-, h⟩ | ⟨-, -, h⟩ | ⟨_, _, -, -, h⟩ <;>
    simp [h, Effect.isPublishCall]

/-- **The store, fan-out and billing calls of a step** are those of its accepted publish,
and there are none when it has none. -/
theorem handle_publishCalls (env : Env) (c : Conn) (p : Packet) :
    (c.handle env p).filter Effect.isPublishCall =
      match p.accepted env c with
      | some (contract, key, msg, exclude) => publishCalls env contract key msg exclude
      | none => [] := by
  cases p with
  | connect => rfl
  | subscribe t => exact onSubscribe_publishCalls env t
  | unsubscribe t => exact onUnsubscribe_publishCalls env t
  | publish packet =>
    have h := onPublish_of_accepted env c packet
    rcases ha : (Packet.publish packet).accepted env c with _ | ⟨contract, key, msg, exclude⟩ <;>
      simp only [ha] at h ⊢
    · exact List.filter_eq_nil_iff.mpr fun e he => by simp [isPublishCall_of_isDelivery (h e he)]
    · rw [Conn.handle, h]
      by_cases hst : msg.stored ∧ key.hasPermission env.flags.allowStore <;>
        simp [publishCalls, hst, Effect.isPublishCall]

/-- **The operations a step counts**: one, for the contract the authorizer returned, when
a SUBSCRIBE or UNSUBSCRIBE returns no error or a publish is accepted; none otherwise. -/
theorem handle_tracked (env : Env) (c : Conn) (p : Packet) :
    (c.handle env p).filterMap Effect.tracked = (p.trackedContract env c).toList := by
  cases p with
  | connect => rfl
  | subscribe t =>
    rcases onSubscribe_cases env t rfl with ⟨-, h⟩ | ⟨-, -, h⟩ | ⟨_, _, -, ha, hs⟩
    · simp [Conn.handle, Packet.trackedContract, h]
    · simp [Conn.handle, Packet.trackedContract, h, Effect.tracked]
    rcases hs with ⟨-, h⟩ | ⟨-, -, h⟩ | ⟨-, -, _, -, h⟩ | ⟨-, -, _, -, h⟩ <;>
      simp [Conn.handle, Packet.trackedContract, h, ha, Effect.tracked, Function.comp_def]
  | unsubscribe t =>
    rcases onUnsubscribe_cases env t rfl with ⟨-, h⟩ | ⟨-, -, h⟩ | ⟨_, _, -, ha, h⟩
    · simp [Conn.handle, Packet.trackedContract, h]
    · simp [Conn.handle, Packet.trackedContract, h, Effect.tracked]
    · simp [Conn.handle, Packet.trackedContract, h, ha, Effect.tracked]
  | publish packet =>
    have h := onPublish_of_accepted env c packet
    simp only [Conn.handle, Packet.trackedContract]
    rcases ha : (Packet.publish packet).accepted env c with _ | ⟨contract, key, msg, exclude⟩ <;>
      simp only [ha] at h ⊢
    · exact List.filterMap_eq_nil_iff.mpr fun e he => tracked_of_isDelivery (h e he)
    · rw [h]
      by_cases hst : msg.stored ∧ key.hasPermission env.flags.allowStore <;>
        simp [hst, Effect.tracked]

/-! ### Over a run -/

/-- **Store, fan-out and billing over a run.** The calls of a run that store, fan out or
bill a message are, in order, those of its accepted publishes, one group for each: the
store when the message is stored and the key may store, the fan-out with its exclusion,
the payload length as the authorizing contract's ingress, and the fan-out's reported size
as its egress. -/
theorem publish_calls_follow_accepted (c : Conn) (steps : List (Env × Packet)) :
    (c.trace steps).filter (fun x => x.2.isPublishCall) =
      (c.history steps).flatMap fun s => match s.2.2.accepted s.1 s.2.1 with
        | some (contract, key, msg, exclude) =>
          (publishCalls s.1 contract key msg exclude).map (s.1, ·)
        | none => [] := by
  rw [Conn.trace_eq, List.filter_flatMap]
  congr 1
  funext s
  rw [List.filter_map]
  change List.map _ ((s.2.1.handle s.1 s.2.2).filter Effect.isPublishCall) = _
  rw [handle_publishCalls]
  split <;> rfl

/-- **Tracking counts the successful operations.** Over a run, `c.track` is called once for
each SUBSCRIBE or UNSUBSCRIBE that returned no error and each accepted publish, in order,
for the contract the authorizer returned, and never otherwise. -/
theorem tracking_counts_successes (c : Conn) (steps : List (Env × Packet)) :
    (c.trace steps).filterMap (fun x => x.2.tracked) =
      (c.history steps).filterMap fun s => s.2.2.trackedContract s.1 s.2.1 := by
  rw [Conn.trace_filterMap, List.filterMap_eq_flatMap_toList]
  exact congrArg _ (funext fun s => handle_tracked s.1 s.2.1 s.2.2)

end Emitter
