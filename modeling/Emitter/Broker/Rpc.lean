import Emitter.Broker.Env

/-!
# The in-band RPCs

A publish on a static channel whose key is `emitter` is a request to the broker itself:
`onEmitterRequest` routes it by the first query hash to `onKeyGen`, `onPresence`, `onMe`
or `onLink`, and replies on the same channel from a deferred call, so every return path
of the router and of the four handlers ends in that one reply — unless the response is
`nil`, which only `onPresence` returns, when no status was asked for.

The presence lookups (`lookupPresence`, `getClusterPresence`, `getAllPresence`) and the
survey responder `onSurvey` are here too: they are pure functions of the trie and the
cluster's answers.
-/

namespace Emitter

/-! ### Constants -/

/-- `requestKeygen`, the hash of `keygen`. -/
def requestKeygen : UInt32 := 548658350

/-- `requestPresence`, the hash of `presence`. -/
def requestPresence : UInt32 := 3869262148

/-- `requestLink`, the hash of `link`. -/
def requestLink : UInt32 := 2667034312

/-- `requestMe`, the hash of `me`. -/
def requestMe : UInt32 := 2539734036

/-- A byte of the class `[a-zA-Z0-9]`. -/
def isAlnum (b : UInt8) : Bool :=
  ('a'.toUInt8 ≤ b && b ≤ 'z'.toUInt8) || ('A'.toUInt8 ≤ b && b ≤ 'Z'.toUInt8) ||
    ('0'.toUInt8 ≤ b && b ≤ '9'.toUInt8)

/-- `shortcut.Match`: the byte strings of `^[a-zA-Z0-9]{1,2}$`. The class is ASCII, so a
match is one or two bytes; Go's `$` without the multi-line flag is the end of the text. -/
def shortcut (name : Bytes) : Bool :=
  (name.length == 1 || name.length == 2) && name.all isAlnum

/-! ### Link, me, keygen -/

/-- The channel of a link request, the first block of `Conn.onLink`: `MakeChannel` of the
request's key and channel, or for a private link the channel of that key extended to this
connection with `AllowAll` and no expiry. -/
def linkChannel (env : Env) (c : Conn) (request : LinkRequest) :
    Traced (Except Error (Option Channel)) := do
  let channel := env.makeChannel request.key request.channel
  if request.private then
    emit (.extendKey request.key request.channel c.id env.flags.allowAll 0)
    return (env.extendKey request.key request.channel c.id env.flags.allowAll 0).map some
  return .ok channel

theorem linkChannel_eq (env : Env) (c : Conn) (request : LinkRequest) :
    linkChannel env c request =
      if request.private then
        ⟨(env.extendKey request.key request.channel c.id env.flags.allowAll 0).map some,
          [.extendKey request.key request.channel c.id env.flags.allowAll 0]⟩
      else ⟨.ok (env.makeChannel request.key request.channel), []⟩ := by
  unfold linkChannel
  cases request.private <;> rfl

theorem linkChannel_isKeyCall (env : Env) (c : Conn) (request : LinkRequest) :
    ∀ x ∈ (linkChannel env c request).effects, x.isKeyCall := by
  rw [linkChannel_eq]
  split <;> simp [Effect.isKeyCall]

/-- `Conn.onLink`: register a shortcut to a channel, private or not, and optionally
subscribe to it. -/
def onLink (env : Env) (c : Conn) (payload : Bytes) : Traced (Response × Bool) := do
  let some request := env.decodeLink payload {} | return (.error .badRequest, false)
  if !shortcut request.name then
    return (.error .linkInvalid, false)
  match ← linkChannel env c request with
  | .error err => return (.error err, false)
  | .ok channel =>
    let some channel := channel | return (.error .badRequest, false)
    if channel.channelType = .invalid then
      return (.error .badRequest, false)
    emit (.link request.name (env.channelString channel))
    emit (.authorize channel env.flags.allowRead)
    if let some (_, key) := env.authorize channel env.flags.allowRead then
      if request.subscribe then
        emit (.subscribe (newSsid key.contract channel.query) channel.channel)
    return (.link { status := 200, name := request.name, channel := env.safeString channel },
      true)

/-- The success path of `Conn.onLink`: the request decodes to a shortcut name, its channel
resolves to a valid one, and the handler writes the link, checks the channel for reading,
and subscribes to it when asked and allowed. -/
structure LinkSucceeds (env : Env) (c : Conn) (payload : Bytes) (request : LinkRequest)
    (channel : Channel) : Prop where
  decoded : env.decodeLink payload {} = some request
  named : shortcut request.name
  resolved : (linkChannel env c request).result = .ok (some channel)
  valid : channel.channelType ≠ .invalid
  eq : onLink env c payload = ⟨(.link ⟨200, request.name, env.safeString channel⟩, true),
    (linkChannel env c request).effects ++ .link request.name (env.channelString channel) ::
      .authorize channel env.flags.allowRead ::
      match env.authorize channel env.flags.allowRead, request.subscribe with
      | some (_, key), true => [.subscribe (newSsid key.contract channel.query) channel.channel]
      | _, _ => []⟩

/-- **Everything `onLink` can do**: fail with an error after at most the key provider's
call of a private link, or succeed. -/
theorem onLink_cases (env : Env) (c : Conn) (payload : Bytes) :
    ((∃ e, (onLink env c payload).result = (.error e, false)) ∧
      ∀ x ∈ (onLink env c payload).effects, x.isKeyCall) ∨
    ∃ request channel, LinkSucceeds env c payload request channel := by
  unfold onLink
  rcases h1 : env.decodeLink payload {} with _ | request
  · simp [h1]
  cases h2 : shortcut request.name
  · simp [h1, h2]
  have hk := linkChannel_isKeyCall env c request
  rcases hl : linkChannel env c request with ⟨_ | _ | channel, es⟩
  iterate 2
    exact .inl (by simpa only [h2, Bool.not_true, Bool.false_eq_true, ↓reduceIte, Traced.pure_eq,
      hl, Traced.emit_bind, Traced.mk_bind, List.append_nil, List.nil_append, Prod.mk.injEq,
      Response.error.injEq, and_true, exists_eq', true_and] using hk)
  by_cases h3 : channel.channelType = .invalid
  · exact .inl (by simpa only [h2, Bool.not_true, Bool.false_eq_true, ↓reduceIte, Traced.pure_eq,
      hl, h3, Traced.emit_bind, Traced.mk_bind, List.append_nil, List.nil_append, Prod.mk.injEq,
      Response.error.injEq, and_true, exists_eq', true_and] using hk)
  refine .inr ⟨request, channel, h1, h2, by rw [hl], h3, ?_⟩
  unfold onLink
  rcases h4 : env.authorize channel env.flags.allowRead with _ | ⟨contract, key⟩ <;>
    cases h5 : request.subscribe <;>
    simp only [h1, h2, Bool.not_true, Bool.false_eq_true, ↓reduceIte, Traced.pure_eq, hl, h3, h4, h5,
      Traced.emit_bind, Traced.mk_bind, List.append_nil, List.nil_append]

theorem onLink_ok {env : Env} {c : Conn} {payload : Bytes}
    (h : (onLink env c payload).result.2 = true) :
    ∃ request channel, LinkSucceeds env c payload request channel := by
  rcases onLink_cases env c payload with ⟨⟨e, he⟩, -⟩ | hok
  · simp [he] at h
  · exact hok

theorem onLink_fail {env : Env} {c : Conn} {payload : Bytes}
    (h : (onLink env c payload).result.2 = false) :
    (∃ e, (onLink env c payload).result.1 = .error e) ∧
      ∀ x ∈ (onLink env c payload).effects, x.isKeyCall := by
  rcases onLink_cases env c payload with ⟨⟨e, he⟩, hk⟩ | ⟨_, _, hs⟩
  · exact ⟨⟨e, by rw [he]⟩, hk⟩
  · rw [hs.eq] at h
    cases h

/-- `Conn.onMe`: the connection's id and its links, each shown without its key. -/
def onMe (env : Env) (c : Conn) : Traced (Response × Bool) :=
  let links := c.links.foldl
    (fun links k v => links.insert k (env.safeString (env.parseChannel v))) ∅
  pure (.me { id := c.id, links }, true)

theorem onMe_eq (env : Env) (c : Conn) :
    onMe env c = ⟨(.me ⟨c.id, c.links.foldl
      (fun links k v => links.insert k (env.safeString (env.parseChannel v))) ∅⟩, true), []⟩ :=
  rfl

/-- `Conn.onKeyGen`: mint a key from a master key, or extend an extendable one. -/
def onKeyGen (env : Env) (c : Conn) (payload : Bytes) : Traced (Response × Bool) := do
  let some message := env.decodeKeyGen payload {} | return (.error .badRequest, false)
  let some parentKey := env.decryptKey message.key | return (.error .unauthorized, false)
  if parentKey.isExpired then
    return (.error .unauthorized, false)
  if parentKey.isMaster then
    emit (.createKey message.key message.channel (message.access env.flags)
      (message.expires env.now))
    match env.createKey message.key message.channel (message.access env.flags)
        (message.expires env.now) with
    | .error err => return (.error err, false)
    | .ok key => return (.keyGen { status := 200, key, channel := message.channel }, true)
  if parentKey.hasPermission env.flags.allowExtend then
    emit (.extendKey message.key message.channel c.id (message.access env.flags)
      (message.expires env.now))
    match env.extendKey message.key message.channel c.id (message.access env.flags)
        (message.expires env.now) with
    | .error err => return (.error err, false)
    | .ok channel =>
      return (.keyGen { status := 200, key := channel.key, channel := channel.channel }, true)
  return (.error .unauthorized, false)

/-- The success path of `Conn.onKeyGen`: the request decodes, its key decrypts to a parent
that has not expired, and the key provider mints a key: created from a master parent, or
extended to the connection from a parent that may extend. -/
structure KeyGenMints (env : Env) (c : Conn) (payload : Bytes) (message : KeyGenRequest)
    (parentKey : Key) : Prop where
  decoded : env.decodeKeyGen payload {} = some message
  decrypted : env.decryptKey message.key = some parentKey
  unexpired : parentKey.isExpired = false
  mints : (parentKey.isMaster ∧ ∃ key, env.createKey message.key message.channel
      (message.access env.flags) (message.expires env.now) = .ok key ∧
    onKeyGen env c payload = ⟨(.keyGen ⟨200, key, message.channel⟩, true),
      [.createKey message.key message.channel (message.access env.flags)
        (message.expires env.now)]⟩) ∨
   (parentKey.isMaster = false ∧ parentKey.hasPermission env.flags.allowExtend ∧
    ∃ channel, env.extendKey message.key message.channel c.id (message.access env.flags)
      (message.expires env.now) = .ok channel ∧
    onKeyGen env c payload = ⟨(.keyGen ⟨200, channel.key, channel.channel⟩, true),
      [.extendKey message.key message.channel c.id (message.access env.flags)
        (message.expires env.now)]⟩)

/-- **Everything `onKeyGen` can do**: fail with an error after at most one call to the key
provider, or mint a key. -/
theorem onKeyGen_cases (env : Env) (c : Conn) (payload : Bytes) :
    ((∃ e, (onKeyGen env c payload).result = (.error e, false)) ∧
      ∀ x ∈ (onKeyGen env c payload).effects, x.isKeyCall) ∨
    ∃ message parentKey, KeyGenMints env c payload message parentKey := by
  unfold onKeyGen
  rcases h1 : env.decodeKeyGen payload {} with _ | message
  · simp [h1]
  rcases h2 : env.decryptKey message.key with _ | parentKey
  · simp [h1, h2]
  cases h3 : parentKey.isExpired
  swap
  · simp [h1, h2, h3]
  cases h4 : parentKey.isMaster
  · cases h5 : parentKey.hasPermission env.flags.allowExtend
    · simp [h1, h2, h3, h4, h5]
    rcases h6 : env.extendKey message.key message.channel c.id (message.access env.flags)
        (message.expires env.now) with err | channel
    · simp [h1, h2, h3, h4, h5, h6, Effect.isKeyCall]
    · exact .inr ⟨message, parentKey, h1, h2, h3, .inr ⟨h4, h5, channel, h6,
        by simp [onKeyGen, h1, h2, h3, h4, h5, h6]⟩⟩
  · rcases h6 : env.createKey message.key message.channel (message.access env.flags)
        (message.expires env.now) with err | key
    · simp [h1, h2, h3, h4, h6, Effect.isKeyCall]
    · exact .inr ⟨message, parentKey, h1, h2, h3, .inl ⟨h4, key, h6,
        by simp [onKeyGen, h1, h2, h3, h4, h6]⟩⟩

theorem onKeyGen_ok {env : Env} {c : Conn} {payload : Bytes}
    (h : (onKeyGen env c payload).result.2 = true) :
    ∃ message parentKey, KeyGenMints env c payload message parentKey := by
  rcases onKeyGen_cases env c payload with ⟨⟨e, he⟩, -⟩ | hok
  · simp [he] at h
  · exact hok

theorem onKeyGen_fail {env : Env} {c : Conn} {payload : Bytes}
    (h : (onKeyGen env c payload).result.2 = false) :
    (∃ e, (onKeyGen env c payload).result.1 = .error e) ∧
      ∀ x ∈ (onKeyGen env c payload).effects, x.isKeyCall := by
  rcases onKeyGen_cases env c payload with ⟨⟨e, he⟩, hk⟩ |
    ⟨_, _, -, -, -, ⟨-, _, -, hk⟩ | ⟨-, -, _, -, hk⟩⟩
  · exact ⟨⟨e, by rw [he]⟩, hk⟩
  all_goals rw [hk] at h; cases h

/-! ### Presence -/

/-- The survey's query type, `presence`. -/
def presenceQuery : Bytes := Bytes.ofString "presence"

/-- `Service.lookupPresence`: the client connections the trie holds for `ssid`. -/
def lookupPresence (env : Env) (ssid : Ssid) : List PresenceInfo :=
  (env.lookup ssid).foldl (fun resp subscriber => match subscriber with
    | .conn conn => resp ++ [{ id := conn.id, username := conn.username }]
    | .other _ => resp) []

/-- `getClusterPresence`: the decodable answers of the cluster's presence survey. -/
def getClusterPresence (env : Env) (ssid : Ssid) : List PresenceInfo :=
  match env.marshalSsid ssid with
  | none => []
  | some req =>
    match env.survey presenceQuery req with
    | none => []
    | some replies => replies.foldl (fun who resp => match env.unmarshalPresence resp with
        | some info => who ++ info
        | none => who) []

/-- `getLocalPresence`. -/
def getLocalPresence (env : Env) (ssid : Ssid) : List PresenceInfo :=
  lookupPresence env ssid

/-- `getAllPresence`: local presence, then the cluster's. -/
def getAllPresence (env : Env) (ssid : Ssid) : List PresenceInfo :=
  getLocalPresence env ssid ++ getClusterPresence env ssid

/-- `Service.OnSurvey`: answer a peer's presence query from the local trie. -/
def onSurvey (env : Env) (queryType payload : Bytes) : Option Bytes × Bool :=
  if queryType ≠ presenceQuery then (none, false) else
  match env.unmarshalSsid payload with
  | none => (none, false)
  | some target =>
    match env.marshalPresence (lookupPresence env target) with
    | some presence => (some presence, true)
    | none => (none, false)

/-- The presence request's channel, with a trailing slash ensured. -/
def withTrailingSlash (channel : Bytes) : Bytes :=
  if (Bytes.ofString "/").isSuffixOf channel then channel else channel ++ Bytes.ofString "/"

/-- `Conn.onPresence`: check a presence key, toggle the presence subscription, and report
who is on the channel. A `nil` response is a success with no reply. -/
def onPresence (env : Env) (payload : Bytes) : Traced (Option Response × Bool) := do
  let some msg := env.decodePresence payload { status := true, changes := none }
    | return (some (.error .badRequest), false)
  let some key := env.decryptKey msg.key | return (some (.error .unauthorized), false)
  if !key.hasPermission env.flags.allowPresence || key.isExpired then
    return (some (.error .unauthorized), false)
  let some contract := env.contractsGet key.contract | return (some (.error .notFound), false)
  if !env.validate contract key then
    return (some (.error .unauthorized), false)
  let channelName := withTrailingSlash msg.channel
  let channel := env.parseChannel (Bytes.ofString "emitter/" ++ channelName)
  if channel.channelType = .invalid then
    return (some (.error .badRequest), false)
  let ssid := newSsid key.contract channel.query
  match msg.changes with
  | some true => emit (.subscribe (env.newSsidForPresence ssid) [])
  | some false => emit (.unsubscribe (env.newSsidForPresence ssid) [])
  | none => pure ()
  if msg.status then
    let who := getAllPresence env ssid
    return (some (.presence ⟨env.now / 1000000000, .status, channelName, who⟩), true)
  return (none, true)

/-- The success path of `Conn.onPresence`: the request decodes, its key decrypts to one
that may use presence and has not expired, whose contract is found and validates it, and
the request's channel parses to a valid one; the handler then toggles the presence
subscription of `NewSsid(k.Contract(), ch.Query)` as asked, and reports who is on it when
the status is asked for. -/
structure PresenceAnswers (env : Env) (payload : Bytes) (msg : PresenceRequest) (key : Key)
    (contract : Contract) (channel : Channel) : Prop where
  decoded : env.decodePresence payload { status := true } = some msg
  decrypted : env.decryptKey msg.key = some key
  permitted : key.hasPermission env.flags.allowPresence
  unexpired : key.isExpired = false
  found : env.contractsGet key.contract = some contract
  validated : env.validate contract key
  parsed : env.parseChannel (Bytes.ofString "emitter/" ++ withTrailingSlash msg.channel) = channel
  valid : channel.channelType ≠ .invalid
  eq : onPresence env payload =
    ⟨(if msg.status then some (.presence ⟨env.now / 1000000000, .status,
        withTrailingSlash msg.channel, getAllPresence env (newSsid key.contract channel.query)⟩)
      else none, true),
     match msg.changes with
     | some true => [.subscribe (env.newSsidForPresence (newSsid key.contract channel.query)) []]
     | some false => [.unsubscribe (env.newSsidForPresence (newSsid key.contract channel.query)) []]
     | none => []⟩

/-- **Everything `onPresence` can do**: fail with an error before any call, or answer. -/
theorem onPresence_cases (env : Env) (payload : Bytes) :
    ((∃ e, (onPresence env payload).result = (some (.error e), false)) ∧
      (onPresence env payload).effects = []) ∨
    ∃ msg key contract channel, PresenceAnswers env payload msg key contract channel := by
  unfold onPresence
  rcases h1 : env.decodePresence payload { status := true } with _ | msg
  · simp [h1]
  rcases h2 : env.decryptKey msg.key with _ | key
  · simp [h1, h2]
  cases h3 : key.hasPermission env.flags.allowPresence
  · simp [h1, h2, h3]
  cases h4 : key.isExpired
  swap
  · simp [h1, h2, h3, h4]
  rcases h5 : env.contractsGet key.contract with _ | contract
  · simp [h1, h2, h3, h4, h5]
  cases h6 : env.validate contract key
  · simp [h1, h2, h3, h4, h5, h6]
  by_cases h7 : (env.parseChannel (Bytes.ofString "emitter/" ++ withTrailingSlash msg.channel)).channelType = .invalid
  · simp [h1, h2, h3, h4, h5, h6, h7]
  refine .inr ⟨msg, key, contract, _, h1, h2, h3, h4, h5, h6, rfl, h7, ?_⟩
  rcases h8 : msg.changes with _ | _ | _ <;> cases h9 : msg.status <;>
    simp [onPresence, h1, h2, h3, h4, h5, h6, h7, h8, h9]

theorem onPresence_ok {env : Env} {payload : Bytes}
    (h : (onPresence env payload).result.2 = true) :
    ∃ msg key contract channel, PresenceAnswers env payload msg key contract channel := by
  rcases onPresence_cases env payload with ⟨⟨e, he⟩, -⟩ | hok
  · simp [he] at h
  · exact hok

theorem onPresence_fail {env : Env} {payload : Bytes}
    (h : (onPresence env payload).result.2 = false) :
    (∃ e, (onPresence env payload).result.1 = some (.error e)) ∧
      (onPresence env payload).effects = [] := by
  rcases onPresence_cases env payload with ⟨⟨e, he⟩, hk⟩ | ⟨_, _, _, _, hs⟩
  · exact ⟨⟨e, by rw [he]⟩, hk⟩
  · rw [hs.eq] at h
    cases h

/-- `onPresence` answers `nil` exactly on its success path when no status was asked for. -/
theorem onPresence_result_eq_none {env : Env} {payload : Bytes} :
    (onPresence env payload).result.1 = none ↔
      ∃ msg key contract channel, PresenceAnswers env payload msg key contract channel ∧
        msg.status = false := by
  constructor
  · intro h
    rcases onPresence_cases env payload with ⟨⟨e, he⟩, -⟩ | ⟨msg, key, contract, channel, hs⟩
    · simp [he] at h
    · refine ⟨msg, key, contract, channel, hs, ?_⟩
      rw [hs.eq] at h
      cases hm : msg.status <;> simp_all
  · rintro ⟨msg, key, contract, channel, hs, hm⟩
    simp [hs.eq, hm]

/-! ### The router -/

/-- The `switch` of `Conn.onEmitterRequest`: the handler of the first query hash, and
`NotFound` for an empty query or an unknown hash. -/
def dispatch (env : Env) (c : Conn) (query : List UInt32) (payload : Bytes) :
    Traced (Option Response × Bool) :=
  match query with
  | [] => pure (some (.error .notFound), false)
  | q :: _ =>
    if q = requestKeygen then do
      let (resp, ok) ← onKeyGen env c payload
      pure (some resp, ok)
    else if q = requestPresence then onPresence env payload
    else if q = requestMe then do
      let (resp, ok) ← onMe env c
      pure (some resp, ok)
    else if q = requestLink then do
      let (resp, ok) ← onLink env c payload
      pure (some resp, ok)
    else pure (some (.error .notFound), false)

theorem dispatch_cons (env : Env) (c : Conn) (q : UInt32) (rest : List UInt32)
    (payload : Bytes) :
    dispatch env c (q :: rest) payload =
      if q = requestKeygen then
        ⟨(some (onKeyGen env c payload).result.1, (onKeyGen env c payload).result.2),
          (onKeyGen env c payload).effects⟩
      else if q = requestPresence then onPresence env payload
      else if q = requestMe then ⟨(some (onMe env c).result.1, true), []⟩
      else if q = requestLink then
        ⟨(some (onLink env c payload).result.1, (onLink env c payload).result.2),
          (onLink env c payload).effects⟩
      else ⟨(some (.error .notFound), false), []⟩ := by
  simp [dispatch, Traced.bind_eq, onMe_eq]

/-- **Everything the router can do**: hand the request to the handler of its first query
hash, or answer `NotFound` for an empty query or an unknown hash. -/
theorem dispatch_cases (env : Env) (c : Conn) (query : List UInt32) (payload : Bytes) :
    (query.head? = some requestKeygen ∧ dispatch env c query payload =
      ⟨(some (onKeyGen env c payload).result.1, (onKeyGen env c payload).result.2),
        (onKeyGen env c payload).effects⟩) ∨
    (query.head? = some requestPresence ∧ dispatch env c query payload = onPresence env payload) ∨
    (query.head? = some requestMe ∧
      dispatch env c query payload = ⟨(some (onMe env c).result.1, true), []⟩) ∨
    (query.head? = some requestLink ∧ dispatch env c query payload =
      ⟨(some (onLink env c payload).result.1, (onLink env c payload).result.2),
        (onLink env c payload).effects⟩) ∨
    ((∀ q ∈ query.head?, q ≠ requestKeygen ∧ q ≠ requestPresence ∧ q ≠ requestMe ∧
        q ≠ requestLink) ∧
      dispatch env c query payload = ⟨(some (.error .notFound), false), []⟩) := by
  rcases query with _ | ⟨q, rest⟩
  · simp [dispatch]
  rw [dispatch_cons]
  by_cases h1 : q = requestKeygen
  · exact .inl ⟨congrArg some h1, if_pos h1⟩
  rw [if_neg h1]
  by_cases h2 : q = requestPresence
  · exact .inr (.inl ⟨congrArg some h2, if_pos h2⟩)
  rw [if_neg h2]
  by_cases h3 : q = requestMe
  · exact .inr (.inr (.inl ⟨congrArg some h3, if_pos h3⟩))
  rw [if_neg h3]
  by_cases h4 : q = requestLink
  · exact .inr (.inr (.inr (.inl ⟨congrArg some h4, if_pos h4⟩)))
  rw [if_neg h4]
  exact .inr (.inr (.inr (.inr ⟨by simp [h1, h2, h3, h4], rfl⟩)))

theorem dispatch_fail {env : Env} {c : Conn} {query : List UInt32} {payload : Bytes}
    (h : (dispatch env c query payload).result.2 = false) :
    (∃ e, (dispatch env c query payload).result.1 = some (.error e)) ∧
      ∀ x ∈ (dispatch env c query payload).effects, x.isKeyCall := by
  rcases dispatch_cases env c query payload with ⟨-, hd⟩ | ⟨-, hd⟩ | ⟨-, hd⟩ | ⟨-, hd⟩ | ⟨-, hd⟩ <;>
    rw [hd] at h ⊢
  · obtain ⟨⟨e, he⟩, hk⟩ := onKeyGen_fail h
    exact ⟨⟨e, by simp [he]⟩, hk⟩
  · obtain ⟨he, hk⟩ := onPresence_fail h
    exact ⟨he, by simp [hk]⟩
  · cases h
  · obtain ⟨⟨e, he⟩, hk⟩ := onLink_fail h
    exact ⟨⟨e, by simp [he]⟩, hk⟩
  · simp

/-- `Conn.onEmitterRequest`: route by the first query hash, and reply with the response,
if any, on the request's channel. -/
def onEmitterRequest (env : Env) (c : Conn) (channel : Channel) (payload : Bytes)
    (requestID : UInt16) : Traced Bool := do
  let (resp, ok) ← dispatch env c channel.query payload
  if let some resp := resp then
    emit (.sendResponse (env.channelString channel) resp requestID)
  return ok

theorem onEmitterRequest_eq (env : Env) (c : Conn) (channel : Channel) (payload : Bytes)
    (requestID : UInt16) :
    onEmitterRequest env c channel payload requestID =
      ⟨(dispatch env c channel.query payload).result.2,
        (dispatch env c channel.query payload).effects ++
          match (dispatch env c channel.query payload).result.1 with
          | some resp => [.sendResponse (env.channelString channel) resp requestID]
          | none => []⟩ := by
  unfold onEmitterRequest
  obtain ⟨⟨_ | resp, ok⟩, es⟩ := dispatch env c channel.query payload <;> rfl

end Emitter
