import Emitter.Broker.Rpc

/-!
# The MQTT handlers

`onSubscribe`, `onUnsubscribe` and `onPublish` are the broker's answers to the client's
SUBSCRIBE, UNSUBSCRIBE and PUBLISH packets. Each parses the topic into a channel, asks the
authorizer for the permission the operation needs, and only then touches the
subscriptions, the store or the fan-out. A publish first resolves a topic of at most two
bytes through the connection's links, and hands a static channel keyed `emitter` to the
RPC router instead of authorizing it.
-/

namespace Emitter

/-- `mqtt.Publish`, with the fields the handler reads. -/
structure Publish where
  topic : Bytes
  payload : Bytes
  messageID : UInt16
  retain : Bool
  deriving DecidableEq, Repr

/-- `Conn.onConnect`: record the username; every connection is accepted. -/
def onConnect (c : Conn) (username : Bytes) : Conn × Bool :=
  ({ c with username }, true)

/-- `Conn.onSubscribe`: subscribe to an authorized channel, replay its last messages when
the key may load them, and record the stats. -/
def onSubscribe (env : Env) (mqttTopic : Bytes) : Traced (Option Error) := do
  let channel := env.parseChannel mqttTopic
  if channel.channelType = .invalid then
    return some .badRequest
  emit (.authorize channel env.flags.allowRead)
  let some (contract, key) := env.authorize channel env.flags.allowRead
    | return some .unauthorized
  if key.hasPermission env.flags.allowExtend then
    return some .unauthorizedExt
  let ssid := newSsid key.contract channel.query
  emit (.subscribe ssid channel.channel)
  let limit := (env.last channel).getD 1
  if key.hasPermission env.flags.allowLoad then
    let (t0, t1) := env.window channel
    emit (.query ssid t0 t1 limit)
    match env.query ssid t0 t1 limit with
    | .error _ => return some .serverError
    | .ok msgs => msgs.forM fun m => emit (.send m)
  emit (.track contract)
  return none

/-- **Everything `onSubscribe` can do**: fail before any call but the authorization, or
subscribe and then record the stats, replay the store's answer, or fail on the store. -/
theorem onSubscribe_cases (env : Env) (t : Bytes) {channel : Channel}
    (hc : env.parseChannel t = channel) :
    (channel.channelType = .invalid ∧ onSubscribe env t = ⟨some .badRequest, []⟩) ∨
    (channel.channelType ≠ .invalid ∧ env.authorize channel env.flags.allowRead = none ∧
      onSubscribe env t = ⟨some .unauthorized, [.authorize channel env.flags.allowRead]⟩) ∨
    (∃ contract key, channel.channelType ≠ .invalid ∧
      env.authorize channel env.flags.allowRead = some (contract, key) ∧
      ((key.hasPermission env.flags.allowExtend ∧
        onSubscribe env t = ⟨some .unauthorizedExt, [.authorize channel env.flags.allowRead]⟩) ∨
       (key.hasPermission env.flags.allowExtend = false ∧
        key.hasPermission env.flags.allowLoad = false ∧
        onSubscribe env t = ⟨none, [.authorize channel env.flags.allowRead,
          .subscribe (newSsid key.contract channel.query) channel.channel, .track contract]⟩) ∨
       (key.hasPermission env.flags.allowExtend = false ∧ key.hasPermission env.flags.allowLoad ∧
        ∃ err, env.query (newSsid key.contract channel.query) (env.window channel).1
          (env.window channel).2 ((env.last channel).getD 1) = .error err ∧
        onSubscribe env t = ⟨some .serverError, [.authorize channel env.flags.allowRead,
          .subscribe (newSsid key.contract channel.query) channel.channel,
          .query (newSsid key.contract channel.query) (env.window channel).1
            (env.window channel).2 ((env.last channel).getD 1)]⟩) ∨
       (key.hasPermission env.flags.allowExtend = false ∧ key.hasPermission env.flags.allowLoad ∧
        ∃ msgs, env.query (newSsid key.contract channel.query) (env.window channel).1
          (env.window channel).2 ((env.last channel).getD 1) = .ok msgs ∧
        onSubscribe env t = ⟨none, [.authorize channel env.flags.allowRead,
          .subscribe (newSsid key.contract channel.query) channel.channel,
          .query (newSsid key.contract channel.query) (env.window channel).1
            (env.window channel).2 ((env.last channel).getD 1)] ++
          msgs.map .send ++ [.track contract]⟩))) := by
  subst hc
  by_cases h1 : (env.parseChannel t).channelType = .invalid
  · simp [onSubscribe, h1]
  rcases h2 : env.authorize (env.parseChannel t) env.flags.allowRead with _ | ⟨contract, key⟩
  · simp [onSubscribe, h1, h2]
  refine .inr (.inr ⟨contract, key, h1, rfl, ?_⟩)
  cases h3 : key.hasPermission env.flags.allowExtend
  swap
  · simp [onSubscribe, h1, h2, h3]
  cases h4 : key.hasPermission env.flags.allowLoad
  · simp [onSubscribe, h1, h2, h3, h4]
  rcases h5 : env.query (newSsid key.contract (env.parseChannel t).query)
      (env.window (env.parseChannel t)).1 (env.window (env.parseChannel t)).2
      ((env.last (env.parseChannel t)).getD 1) with err | msgs
  · exact .inr (.inr (.inl ⟨rfl, rfl, err, rfl, by simp [onSubscribe, h1, h2, h3, h4, h5]⟩))
  · exact .inr (.inr (.inr ⟨rfl, rfl, msgs, rfl, by simp [onSubscribe, h1, h2, h3, h4, h5]⟩))

/-- `Conn.onUnsubscribe`: unsubscribe from an authorized channel. -/
def onUnsubscribe (env : Env) (mqttTopic : Bytes) : Traced (Option Error) := do
  let channel := env.parseChannel mqttTopic
  if channel.channelType = .invalid then
    return some .badRequest
  emit (.authorize channel env.flags.allowRead)
  let some (contract, key) := env.authorize channel env.flags.allowRead
    | return some .unauthorized
  let ssid := newSsid key.contract channel.query
  emit (.unsubscribe ssid channel.channel)
  emit (.track contract)
  return none

/-- **Everything `onUnsubscribe` can do.** -/
theorem onUnsubscribe_cases (env : Env) (t : Bytes) {channel : Channel}
    (hc : env.parseChannel t = channel) :
    (channel.channelType = .invalid ∧ onUnsubscribe env t = ⟨some .badRequest, []⟩) ∨
    (channel.channelType ≠ .invalid ∧ env.authorize channel env.flags.allowRead = none ∧
      onUnsubscribe env t = ⟨some .unauthorized, [.authorize channel env.flags.allowRead]⟩) ∨
    (∃ contract key, channel.channelType ≠ .invalid ∧
      env.authorize channel env.flags.allowRead = some (contract, key) ∧
      onUnsubscribe env t = ⟨none, [.authorize channel env.flags.allowRead,
        .unsubscribe (newSsid key.contract channel.query) channel.channel, .track contract]⟩) := by
  subst hc
  by_cases h1 : (env.parseChannel t).channelType = .invalid
  · simp [onUnsubscribe, h1]
  rcases h2 : env.authorize (env.parseChannel t) env.flags.allowRead with _ | ⟨contract, key⟩
  · simp [onUnsubscribe, h1, h2]
  · exact .inr (.inr ⟨contract, key, h1, rfl, by simp [onUnsubscribe, h1, h2]⟩)

/-- The first block of `Conn.onPublish`: a topic of at most two bytes is a link name, and
is replaced by the link's channel, the empty string if there is none. -/
def Conn.resolveTopic (c : Conn) (topic : Bytes) : Bytes :=
  if topic.length ≤ 2 then (c.links.lookup topic).getD [] else topic

/-- The message `Conn.onPublish` builds: the SSID of the key's contract and the channel's
query, the channel path and the payload, with the retain flag's TTL and then the positive
`ttl` option's. -/
def publishMessage (env : Env) (channel : Channel) (key : Key) (packet : Publish) : Message :=
  let msg := Message.new (newSsid key.contract channel.query) channel.channel packet.payload
  let msg := if packet.retain then { msg with ttl := env.retainedTTL } else msg
  match env.ttl channel with
  | some ttl => if 0 < ttl then { msg with ttl := uint32OfInt64 ttl } else msg
  | none => msg

/-- `Conn.onPublish`: resolve a link, route an `emitter` request, or store and fan out an
authorized message with its resolved TTL. -/
def onPublish (env : Env) (c : Conn) (packet : Publish) : Traced (Option Error) := do
  let channel := env.parseChannel (c.resolveTopic packet.topic)
  if channel.channelType = .invalid then
    return some .badRequest
  if channel.channelType ≠ .static then
    return some .forbidden
  if channel.key.length = 7 ∧ channel.key = Bytes.ofString "emitter" then
    let _ ← onEmitterRequest env c channel packet.payload packet.messageID
    return none
  emit (.authorize channel env.flags.allowWrite)
  let some (contract, key) := env.authorize channel env.flags.allowWrite
    | return some .unauthorized
  if key.hasPermission env.flags.allowExtend then
    return some .unauthorizedExt
  let msg := publishMessage env channel key packet
  if msg.stored ∧ key.hasPermission env.flags.allowStore then
    emit (.store msg)
  let exclude := if env.exclude channel then c.id else []
  emit (.publish msg exclude)
  emit (.track contract)
  emit (.addIngress contract packet.payload.length)
  emit (.addEgress contract (env.publish msg exclude))
  return none

/-- **Everything `onPublish` can do**: reject the channel, hand an `emitter` request to
the router, fail the authorization, or store (when stored and allowed) and fan out. -/
theorem onPublish_cases (env : Env) (c : Conn) (packet : Publish) {channel : Channel}
    (hc : env.parseChannel (c.resolveTopic packet.topic) = channel) :
    (channel.channelType = .invalid ∧ onPublish env c packet = ⟨some .badRequest, []⟩) ∨
    (channel.channelType ≠ .invalid ∧ channel.channelType ≠ .static ∧
      onPublish env c packet = ⟨some .forbidden, []⟩) ∨
    (channel.channelType = .static ∧ channel.key = Bytes.ofString "emitter" ∧
      onPublish env c packet =
        ⟨none, (onEmitterRequest env c channel packet.payload packet.messageID).effects⟩) ∨
    (channel.channelType = .static ∧ channel.key ≠ Bytes.ofString "emitter" ∧
      env.authorize channel env.flags.allowWrite = none ∧
      onPublish env c packet = ⟨some .unauthorized, [.authorize channel env.flags.allowWrite]⟩) ∨
    (∃ contract key, channel.channelType = .static ∧ channel.key ≠ Bytes.ofString "emitter" ∧
      env.authorize channel env.flags.allowWrite = some (contract, key) ∧
      ((key.hasPermission env.flags.allowExtend ∧ onPublish env c packet =
          ⟨some .unauthorizedExt, [.authorize channel env.flags.allowWrite]⟩) ∨
       (key.hasPermission env.flags.allowExtend = false ∧ onPublish env c packet =
          ⟨none, .authorize channel env.flags.allowWrite ::
            ((if (publishMessage env channel key packet).stored ∧
                key.hasPermission env.flags.allowStore
              then [.store (publishMessage env channel key packet)] else []) ++
            [.publish (publishMessage env channel key packet)
                (if env.exclude channel then c.id else []),
              .track contract, .addIngress contract packet.payload.length,
              .addEgress contract (env.publish (publishMessage env channel key packet)
                (if env.exclude channel then c.id else []))])⟩))) := by
  subst hc
  have hlen : (Bytes.ofString "emitter").length = 7 := rfl
  by_cases h1 : (env.parseChannel (c.resolveTopic packet.topic)).channelType = .invalid
  · simp [onPublish, h1]
  by_cases h2 : (env.parseChannel (c.resolveTopic packet.topic)).channelType = .static
  swap
  · simp [onPublish, h1, h2]
  by_cases h3 : (env.parseChannel (c.resolveTopic packet.topic)).key = Bytes.ofString "emitter"
  · simp [onPublish, h1, h2, h3, hlen]
  rcases h4 : env.authorize (env.parseChannel (c.resolveTopic packet.topic))
      env.flags.allowWrite with _ | ⟨contract, key⟩
  · simp [onPublish, h1, h2, h3, h4]
  refine .inr (.inr (.inr (.inr ⟨contract, key, h2, h3, rfl, ?_⟩)))
  cases h5 : key.hasPermission env.flags.allowExtend
  · refine .inr ⟨rfl, ?_⟩
    by_cases h6 : (publishMessage env (env.parseChannel (c.resolveTopic packet.topic)) key
      packet).stored ∧ key.hasPermission env.flags.allowStore
    · simp only [onPublish, h1, h2, h3, h4, h5, h6]
      simp
    · simp only [onPublish, h1, h2, h3, h4, h5, h6]
      simp
  · simp [onPublish, h1, h2, h3, h4, h5]

end Emitter
