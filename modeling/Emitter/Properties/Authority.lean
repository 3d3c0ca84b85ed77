import Emitter.Properties.Publish
import Emitter.Properties.Presence

/-!
# Tenant isolation: what a connection observes is inside an authorized contract

A connection observes the broker through the subscription changes made for it, the store
queries whose messages are replayed to it, and the presence status replies it receives.
Each is made only after a key check, and the SSID it concerns is built from the contract of
the key that passed. There are two checks (`Check`): the authorizer's, for reading a
channel (`ReadAuthorized`), which `onSubscribe`, `onUnsubscribe` and the auto-subscribe of
`onLink` ask for; and the checks `onPresence` makes inline of the key of the presence
request in its payload (`PresenceAuthorized`).

`ObservedWithin env chk es` says what the calls `es` of one handler call may let the
connection observe after the check `chk`: subscription changes to SSIDs that `chk` allows;
store queries, after the read check only, for the SSID that the same call subscribed to
under a key that may also load; replays of exactly what those queries returned; and status
replies for a presence-authorized SSID. It is closed under concatenation
(`ObservedWithin.append`), so each handler's lemma is assembled from the blocks of its
inversion lemma, and `observations_within_contract` lifts it to every step of every run,
with the check of the step's packet (`Packet.check`).

The same accounting shows the gap behind the spec's rule that an `Extend` key "may not
itself be used for subscribe": `onSubscribe` and `onPublish` refuse such a key, but the
auto-subscribe of `onLink` does not (`link_subscribes_with_extend_key`).
-/

namespace Emitter

/-! ### Checks -/

/-- `ssid` and `path` are those of a channel the authorizer let a key read:
`NewSsid(k.Contract(), ch.Query)` and `ch.Channel`. -/
def ReadAuthorized (env : Env) (ssid : Ssid) (path : Bytes) : Prop :=
  ∃ channel contract key, env.authorize channel env.flags.allowRead = some (contract, key) ∧
    ssid = newSsid key.contract channel.query ∧ path = channel.channel

/-- `ssid` is `NewSsid(k.Contract(), ch.Query)` for the presence request in `payload`: `k` is
what `DecryptKey` gives for the request's key, has `AllowPresence` and has not expired, its
contract is found and validates it, and `ch` is the request's channel. As in the source, `k`
need not be a master key, although the comment above the check says it should be one. -/
def PresenceAuthorized (env : Env) (payload : Bytes) (ssid : Ssid) : Prop :=
  ∃ msg key contract, env.decodePresence payload { status := true } = some msg ∧
    env.decryptKey msg.key = some key ∧ key.hasPermission env.flags.allowPresence ∧
    key.isExpired = false ∧ env.contractsGet key.contract = some contract ∧
    env.validate contract key ∧
    ssid = newSsid key.contract
      (env.parseChannel (Bytes.ofString "emitter/" ++ withTrailingSlash msg.channel)).query

/-- The check a call's observations have passed: the authorizer's, for reading a channel,
or the checks `onPresence` makes of the presence request in `payload`. -/
inductive Check
  | read
  | presence (payload : Bytes)
  deriving DecidableEq

/-- The subscription changes a check allows: to a read-authorized SSID and path, or to the
presence SSID of a presence-authorized SSID, with no path. -/
def Check.allows (env : Env) : Check → Ssid → Bytes → Prop
  | .read, ssid, path => ReadAuthorized env ssid path
  | .presence payload, ssid, path =>
    path = [] ∧ ∃ s, PresenceAuthorized env payload s ∧ ssid = env.newSsidForPresence s

/-- The status replies a check allows: none after the read check; after the presence check,
the list of who is on a presence-authorized SSID. -/
def Check.reports (env : Env) : Check → PresenceResponse → Prop
  | .read, _ => False
  | .presence payload, r => ∃ s, PresenceAuthorized env payload s ∧ r.who = getAllPresence env s

/-- The check of a request routed by `query`: `onPresence`'s, of the payload, for a presence
request, and the authorizer's for any other. -/
def Check.ofQuery (query : List UInt32) (payload : Bytes) : Check :=
  if query.head? = some requestPresence then .presence payload else .read

/-- The check of a step's packet: that of the request a PUBLISH routes, and the
authorizer's for every other packet. -/
def Packet.check (env : Env) (c : Conn) : Packet → Check
  | .publish packet =>
    Check.ofQuery (env.parseChannel (c.resolveTopic packet.topic)).query packet.payload
  | _ => .read

/-! ### What one call may observe -/

/-- **What the calls `es` of one handler call may let the connection observe** after the
check `chk`: subscription changes that `chk` allows; store queries, after the read check
only, for the SSID of a channel the authorizer let a key read, when that key may also load
and the same call subscribed to that SSID and channel; replays of messages those queries
returned; and status replies that `chk` allows. -/
structure ObservedWithin (env : Env) (chk : Check) (es : List Effect) : Prop where
  subscriptions : ∀ ssid path, .subscribe ssid path ∈ es ∨ .unsubscribe ssid path ∈ es →
    chk.allows env ssid path
  queries : ∀ ssid t0 t1 limit, .query ssid t0 t1 limit ∈ es → chk = .read ∧
    ∃ channel contract key, env.authorize channel env.flags.allowRead = some (contract, key) ∧
      key.hasPermission env.flags.allowLoad ∧ ssid = newSsid key.contract channel.query ∧
      .subscribe ssid channel.channel ∈ es
  replays : ∀ msg, .send msg ∈ es → ∃ ssid t0 t1 limit msgs, .query ssid t0 t1 limit ∈ es ∧
    env.query ssid t0 t1 limit = .ok msgs ∧ msg ∈ msgs
  statuses : ∀ topic r requestID, .sendResponse topic (.presence r) requestID ∈ es →
    chk.reports env r

/-- The calls a connection observes: subscription changes, store queries, replays and
replies. -/
def Effect.isObserved : Effect → Bool
  | .subscribe .. | .unsubscribe .. | .query .. | .send _ | .sendResponse .. => true
  | _ => false

theorem Effect.isObserved_of_isKeyCall {e : Effect} (h : e.isKeyCall) : e.isObserved = false := by
  cases e <;> simp_all [Effect.isKeyCall, Effect.isObserved]

namespace ObservedWithin

variable {env : Env} {chk : Check}

/-- Calls the connection does not observe are within any check. -/
theorem of_unobserved {es : List Effect} (h : ∀ e ∈ es, e.isObserved = false) :
    ObservedWithin env chk es where
  subscriptions _ _ hm := by rcases hm with hm | hm <;> simpa [Effect.isObserved] using h _ hm
  queries _ _ _ _ hm := by simpa [Effect.isObserved] using h _ hm
  replays _ hm := by simpa [Effect.isObserved] using h _ hm
  statuses _ _ _ hm := by simpa [Effect.isObserved] using h _ hm

theorem append {es es' : List Effect} (h : ObservedWithin env chk es)
    (h' : ObservedWithin env chk es') : ObservedWithin env chk (es ++ es') where
  subscriptions ssid path hm := by
    rw [List.mem_append, List.mem_append, or_or_or_comm] at hm
    exact hm.elim (h.subscriptions _ _) (h'.subscriptions _ _)
  queries ssid t0 t1 limit hm := by
    rcases List.mem_append.mp hm with hm | hm
    · obtain ⟨hc, channel, contract, key, ha, hl, hs, hsub⟩ := h.queries _ _ _ _ hm
      exact ⟨hc, channel, contract, key, ha, hl, hs, List.mem_append_left _ hsub⟩
    · obtain ⟨hc, channel, contract, key, ha, hl, hs, hsub⟩ := h'.queries _ _ _ _ hm
      exact ⟨hc, channel, contract, key, ha, hl, hs, List.mem_append_right _ hsub⟩
  replays msg hm := by
    rcases List.mem_append.mp hm with hm | hm
    · obtain ⟨ssid, t0, t1, limit, msgs, hq, hr⟩ := h.replays _ hm
      exact ⟨ssid, t0, t1, limit, msgs, List.mem_append_left _ hq, hr⟩
    · obtain ⟨ssid, t0, t1, limit, msgs, hq, hr⟩ := h'.replays _ hm
      exact ⟨ssid, t0, t1, limit, msgs, List.mem_append_right _ hq, hr⟩
  statuses topic r requestID hm := by
    rcases List.mem_append.mp hm with hm | hm
    exacts [h.statuses _ _ _ hm, h'.statuses _ _ _ hm]

theorem cons {e : Effect} {es : List Effect} (he : e.isObserved = false)
    (h : ObservedWithin env chk es) : ObservedWithin env chk (e :: es) :=
  (of_unobserved (by simpa using he) : ObservedWithin env chk [e]).append h

theorem subscribe {ssid : Ssid} {path : Bytes} {es : List Effect}
    (h : chk.allows env ssid path) (hes : ObservedWithin env chk es) :
    ObservedWithin env chk (.subscribe ssid path :: es) :=
  (show ObservedWithin env chk [.subscribe ssid path] from
    { subscriptions := fun _ _ hm => by
        simp only [List.mem_singleton, Effect.subscribe.injEq, reduceCtorEq, or_false] at hm
        exact hm.1 ▸ hm.2 ▸ h
      queries := by simp
      replays := by simp
      statuses := by simp }).append hes

theorem unsubscribe {ssid : Ssid} {path : Bytes} {es : List Effect}
    (h : chk.allows env ssid path) (hes : ObservedWithin env chk es) :
    ObservedWithin env chk (.unsubscribe ssid path :: es) :=
  (show ObservedWithin env chk [.unsubscribe ssid path] from
    { subscriptions := fun _ _ hm => by
        simp only [List.mem_singleton, Effect.unsubscribe.injEq, reduceCtorEq, false_or] at hm
        exact hm.1 ▸ hm.2 ▸ h
      queries := by simp
      replays := by simp
      statuses := by simp }).append hes

/-- A reply, which is a status reply only when the check allows it. -/
theorem reply {topic : Bytes} {resp : Response} {requestID : UInt16}
    (h : ∀ r, resp = .presence r → chk.reports env r) :
    ObservedWithin env chk [.sendResponse topic resp requestID] where
  subscriptions := by simp
  queries := by simp
  replays := by simp
  statuses _ r _ hm := by
    simp only [List.mem_singleton, Effect.sendResponse.injEq] at hm
    exact h r hm.2.1.symm

/-- A subscription to a channel the authorizer let `key` read, then, as `key` may load, the
query for its SSID and the replay of what the store returned, if anything. -/
theorem replay {channel : Channel} {contract : Contract} {key : Key} {t0 t1 : Time}
    {limit : Int} {msgs : List Message}
    (ha : env.authorize channel env.flags.allowRead = some (contract, key))
    (hl : key.hasPermission env.flags.allowLoad)
    (hq : msgs = [] ∨ env.query (newSsid key.contract channel.query) t0 t1 limit = .ok msgs) :
    ObservedWithin env .read (.subscribe (newSsid key.contract channel.query) channel.channel ::
      .query (newSsid key.contract channel.query) t0 t1 limit :: msgs.map .send) where
  subscriptions _ _ hm := by
    simp only [List.mem_cons, List.mem_map, Effect.subscribe.injEq, reduceCtorEq, false_or,
      and_false, exists_false, or_false] at hm
    obtain ⟨rfl, rfl⟩ := hm
    exact ⟨channel, contract, key, ha, rfl, rfl⟩
  queries _ _ _ _ hm := by
    simp only [List.mem_cons, List.mem_map, Effect.query.injEq, reduceCtorEq, false_or,
      and_false, exists_false, or_false] at hm
    obtain ⟨rfl, rfl, rfl, rfl⟩ := hm
    exact ⟨rfl, channel, contract, key, ha, hl, rfl, List.mem_cons_self _ _⟩
  replays msg hm := by
    simp only [List.mem_cons, List.mem_map, Effect.send.injEq, reduceCtorEq, false_or,
      exists_eq_right] at hm
    rcases hq with rfl | hq
    · cases hm
    · exact ⟨_, t0, t1, limit, msgs, List.mem_cons_of_mem _ (List.mem_cons_self _ _), hq, hm⟩
  statuses := by simp

end ObservedWithin

/-! ### The handlers -/

theorem onSubscribe_observed (env : Env) (t : Bytes) :
    ObservedWithin env .read (onSubscribe env t).effects := by
  rcases onSubscribe_cases env t rfl with ⟨-, h⟩ | ⟨-, -, h⟩ | ⟨contract, key, -, ha, hs⟩
  · rw [h]; exact .of_unobserved (by simp)
  · rw [h]; exact .of_unobserved (by simp [Effect.isObserved])
  rcases hs with ⟨-, h⟩ | ⟨-, -, h⟩ | ⟨-, hl, _, -, h⟩ | ⟨-, hl, msgs, hq, h⟩ <;> rw [h]
  · exact .of_unobserved (by simp [Effect.isObserved])
  · exact .cons rfl (.subscribe ⟨_, _, _, ha, rfl, rfl⟩
      (.of_unobserved (by simp [Effect.isObserved])))
  · exact .cons rfl (.replay ha hl (.inl rfl))
  · exact .append (.cons rfl (.replay ha hl (.inr hq)))
      (.of_unobserved (by simp [Effect.isObserved]))

theorem onUnsubscribe_observed (env : Env) (t : Bytes) :
    ObservedWithin env .read (onUnsubscribe env t).effects := by
  rcases onUnsubscribe_cases env t rfl with ⟨-, h⟩ | ⟨-, -, h⟩ | ⟨contract, key, -, ha, h⟩ <;>
    rw [h]
  · exact .of_unobserved (by simp)
  · exact .of_unobserved (by simp [Effect.isObserved])
  · exact .cons rfl (.unsubscribe ⟨_, _, _, ha, rfl, rfl⟩
      (.of_unobserved (by simp [Effect.isObserved])))

theorem onLink_observed (env : Env) (c : Conn) (payload : Bytes) :
    ObservedWithin env .read (onLink env c payload).effects := by
  rcases onLink_cases env c payload with ⟨-, hk⟩ | ⟨request, channel, hs⟩
  · exact .of_unobserved fun e he => Effect.isObserved_of_isKeyCall (hk e he)
  rw [hs.eq]
  refine (ObservedWithin.of_unobserved fun e he =>
    Effect.isObserved_of_isKeyCall (linkChannel_isKeyCall env c request e he)).append
    (.cons rfl (.cons rfl ?_))
  split
  · exact .subscribe ⟨_, _, _, by assumption, rfl, rfl⟩ (.of_unobserved (by simp))
  · exact .of_unobserved (by simp)

theorem onKeyGen_unobserved (env : Env) (c : Conn) (payload : Bytes) :
    ∀ e ∈ (onKeyGen env c payload).effects, e.isObserved = false := by
  rcases onKeyGen_cases env c payload with ⟨-, hk⟩ |
    ⟨_, _, _, _, _, ⟨-, _, -, h⟩ | ⟨-, -, _, -, h⟩⟩
  · exact fun e he => Effect.isObserved_of_isKeyCall (hk e he)
  all_goals simp [h, Effect.isObserved]

theorem onPresence_observed (env : Env) (payload : Bytes) :
    ObservedWithin env (.presence payload) (onPresence env payload).effects ∧
    ∀ r, (onPresence env payload).result.1 = some (.presence r) →
      (Check.presence payload).reports env r := by
  rcases onPresence_cases env payload with ⟨⟨e, he⟩, h⟩ | ⟨msg, key, contract, channel, hs⟩
  · rw [h, he]
    exact ⟨.of_unobserved (by simp), by simp⟩
  have hauth : PresenceAuthorized env payload (newSsid key.contract channel.query) :=
    ⟨msg, key, contract, hs.decoded, hs.decrypted, hs.permitted, hs.unexpired, hs.found,
      hs.validated, by rw [hs.parsed]⟩
  have hallow : (Check.presence payload).allows env
      (env.newSsidForPresence (newSsid key.contract channel.query)) [] := ⟨rfl, _, hauth, rfl⟩
  rw [hs.eq]
  refine ⟨?_, fun r hr => ⟨_, hauth, ?_⟩⟩
  · rcases msg.changes with _ | _ | _
    · exact .of_unobserved (by simp)
    · exact .unsubscribe hallow (.of_unobserved (by simp))
    · exact .subscribe hallow (.of_unobserved (by simp))
  · split at hr <;> simp only [Option.some.injEq, Response.presence.injEq, reduceCtorEq] at hr
    exact hr ▸ rfl

/-- The router's calls are within the check of the routed request, and only a presence
request answers with a status. -/
theorem dispatch_observed (env : Env) (c : Conn) (query : List UInt32) (payload : Bytes) :
    ObservedWithin env (Check.ofQuery query payload) (dispatch env c query payload).effects ∧
    ∀ r, (dispatch env c query payload).result.1 = some (.presence r) →
      (Check.ofQuery query payload).reports env r := by
  rcases dispatch_cases env c query payload with ⟨-, h⟩ | ⟨hq, h⟩ | ⟨-, h⟩ | ⟨hq, h⟩ | ⟨-, h⟩ <;>
    rw [h]
  · refine ⟨.of_unobserved (onKeyGen_unobserved env c payload), fun r hr => ?_⟩
    rcases onKeyGen_cases env c payload with ⟨⟨e, he⟩, -⟩ |
      ⟨_, _, _, _, _, ⟨-, _, -, h⟩ | ⟨-, -, _, -, h⟩⟩ <;> simp [*] at hr
  · rw [Check.ofQuery, if_pos hq]
    exact onPresence_observed env payload
  · exact ⟨.of_unobserved (by simp), by simp [onMe_eq]⟩
  · have hread : Check.ofQuery query payload = .read := by
      simp [Check.ofQuery, hq, requestLink, requestPresence]
    rw [hread]
    refine ⟨onLink_observed env c payload, fun r hr => ?_⟩
    rcases onLink_cases env c payload with ⟨⟨e, he⟩, -⟩ | ⟨_, _, hs⟩
    · simp [he] at hr
    · simp [hs.eq] at hr
  · exact ⟨.of_unobserved (by simp), by simp⟩

theorem onEmitterRequest_observed (env : Env) (c : Conn) (channel : Channel) (payload : Bytes)
    (requestID : UInt16) :
    ObservedWithin env (Check.ofQuery channel.query payload)
      (onEmitterRequest env c channel payload requestID).effects := by
  obtain ⟨hd, hr⟩ := dispatch_observed env c channel.query payload
  rw [onEmitterRequest_eq]
  refine hd.append ?_
  split
  · rename_i resp hresp
    exact .reply fun r h => hr r (hresp.trans (congrArg some h))
  · exact .of_unobserved (by simp)

theorem onPublish_observed (env : Env) (c : Conn) (packet : Publish) :
    ObservedWithin env ((Packet.publish packet).check env c) (onPublish env c packet).effects := by
  rcases onPublish_cases env c packet rfl with ⟨-, h⟩ | ⟨-, -, h⟩ | ⟨-, -, h⟩ | ⟨-, -, -, h⟩ |
    ⟨contract, key, -, -, -, ⟨-, h⟩ | ⟨-, h⟩⟩ <;> rw [h]
  · exact .of_unobserved (by simp)
  · exact .of_unobserved (by simp)
  · exact onEmitterRequest_observed env c _ packet.payload packet.messageID
  · exact .of_unobserved (by simp [Effect.isObserved])
  · exact .of_unobserved (by simp [Effect.isObserved])
  · refine .of_unobserved fun e he => ?_
    simp only [List.mem_cons, List.mem_append, List.mem_ite_nil_right, List.mem_singleton,
      List.not_mem_nil, or_false] at he
    rcases he with rfl | ⟨-, rfl⟩ | rfl | rfl | rfl | rfl <;> rfl

/-- **What a step may let the connection observe** is within the check of its packet. -/
theorem handle_observed (env : Env) (c : Conn) (p : Packet) :
    ObservedWithin env (p.check env c) (c.handle env p) := by
  cases p with
  | connect => exact .of_unobserved (by simp [Conn.handle])
  | subscribe t => exact onSubscribe_observed env t
  | unsubscribe t => exact onUnsubscribe_observed env t
  | publish packet => exact onPublish_observed env c packet

/-! ### Every run -/

/-- **Tenant isolation.** Every regular subscription, through `onSubscribe` or the
auto-subscribe of `onLink`, is to `NewSsid(k.Contract(), ch.Query)` and `ch.Channel` for a
channel `ch` the authorizer let `k` read. The store is queried only by `onSubscribe`, for
the SSID it has just subscribed to, under a key the authorizer let read the channel and
that may load, and only what the query returned is replayed. Every presence subscription
change, and every status reply, is for `NewSsid(k.Contract(), q)` where `k` is what the
request's key decrypts to, has `AllowPresence`, has not expired, and its contract is found
and validates it. Over every run, with any collaborators at each step, the connection's
calls are those of its steps in order, and each step's are so, with the check of its
packet. -/
theorem observations_within_contract :
    (∀ env t, ObservedWithin env .read (onSubscribe env t).effects) ∧
    (∀ env c payload, ObservedWithin env .read (onLink env c payload).effects) ∧
    (∀ env payload, ObservedWithin env (.presence payload) (onPresence env payload).effects ∧
      ∀ r, (onPresence env payload).result.1 = some (.presence r) →
        (Check.presence payload).reports env r) ∧
    ∀ (c : Conn) (steps : List (Env × Packet)),
      c.trace steps = (c.history steps).flatMap (fun s => (s.2.1.handle s.1 s.2.2).map (s.1, ·)) ∧
      ∀ s ∈ c.history steps, ObservedWithin s.1 (s.2.2.check s.1 s.2.1) (s.2.1.handle s.1 s.2.2) :=
  ⟨onSubscribe_observed, onLink_observed, onPresence_observed,
    fun c steps => ⟨Conn.trace_eq c steps, fun s _ => handle_observed s.1 s.2.1 s.2.2⟩⟩

/-- The status request `S` of `presenceEnv`, published on `emitter/presence/` by a fresh
connection: the reply lists `alice`, which the presence check of `S` allows, and the step
is checked as a presence request. -/
theorem observations_within_contract_status :
    (onPresence presenceEnv (Bytes.ofString "S")).result.1 = some (.presence
      ⟨0, .status, Bytes.ofString "a/", [⟨Bytes.ofString "a", Bytes.ofString "alice"⟩]⟩) ∧
    (Check.presence (Bytes.ofString "S")).reports presenceEnv
      ⟨0, .status, Bytes.ofString "a/", [⟨Bytes.ofString "a", Bytes.ofString "alice"⟩]⟩ ∧
    (Packet.publish ⟨Bytes.ofString "emitter/presence/", Bytes.ofString "S", 1, false⟩).check
      presenceEnv (Conn.fresh []) = .presence (Bytes.ofString "S") ∧
    ObservedWithin presenceEnv (.presence (Bytes.ofString "S")) ((Conn.fresh []).handle presenceEnv
      (.publish ⟨Bytes.ofString "emitter/presence/", Bytes.ofString "S", 1, false⟩)) := by
  have h : (onPresence presenceEnv (Bytes.ofString "S")).result.1 = some (.presence
      ⟨0, .status, Bytes.ofString "a/", [⟨Bytes.ofString "a", Bytes.ofString "alice"⟩]⟩) := by
    decide
  have hc : (Packet.publish ⟨Bytes.ofString "emitter/presence/", Bytes.ofString "S", 1,
      false⟩).check presenceEnv (Conn.fresh []) = .presence (Bytes.ofString "S") := by decide
  refine ⟨h, (observations_within_contract.2.2.1 _ _).2 _ h, hc, hc ▸ ?_⟩
  exact (observations_within_contract.2.2.2 (Conn.fresh [])
    [(presenceEnv, .publish ⟨Bytes.ofString "emitter/presence/", Bytes.ofString "S", 1, false⟩)]).2
    _ (List.mem_cons_self _ _)

/-! ### `Extend` keys -/

/-- **`onSubscribe` and `onPublish` refuse an `Extend` key.** Every subscription that
`onSubscribe` makes is under a key without `Extend` that the authorizer let read the
topic's channel; every message that `onPublish` fans out is under a key without `Extend`
that the authorizer let write the resolved topic's channel. -/
theorem extend_keys_refused :
    (∀ env t ssid path, .subscribe ssid path ∈ (onSubscribe env t).effects →
      ∃ contract key,
        env.authorize (env.parseChannel t) env.flags.allowRead = some (contract, key) ∧
        key.hasPermission env.flags.allowExtend = false ∧
        ssid = newSsid key.contract (env.parseChannel t).query ∧
        path = (env.parseChannel t).channel) ∧
    (∀ env c packet msg exclude, .publish msg exclude ∈ (onPublish env c packet).effects →
      ∃ contract key, env.authorize (env.parseChannel (c.resolveTopic packet.topic))
          env.flags.allowWrite = some (contract, key) ∧
        key.hasPermission env.flags.allowExtend = false ∧
        msg = publishMessage env (env.parseChannel (c.resolveTopic packet.topic)) key packet) := by
  refine ⟨fun env t ssid path hmem => ?_, fun env c packet msg exclude hmem => ?_⟩
  · rcases onSubscribe_cases env t rfl with ⟨-, h⟩ | ⟨-, -, h⟩ | ⟨contract, key, -, ha, hs⟩
    · simp [h] at hmem
    · simp [h] at hmem
    rcases hs with ⟨-, h⟩ | ⟨hx, -, h⟩ | ⟨hx, -, _, -, h⟩ | ⟨hx, -, _, -, h⟩ <;> simp [h] at hmem
    all_goals exact ⟨contract, key, ha, hx, hmem⟩
  · rcases onPublish_cases env c packet rfl with ⟨-, h⟩ | ⟨-, -, h⟩ | ⟨-, -, h⟩ | ⟨-, -, -, h⟩ |
      ⟨contract, key, -, -, ha, ⟨-, h⟩ | ⟨hx, h⟩⟩
    · simp [h] at hmem
    · simp [h] at hmem
    · rw [h] at hmem
      rcases onEmitterRequest_calls _ _ _ _ _ _ hmem with he | ⟨_, he⟩
      · exact he.elim
      · cases he
    · simp [h] at hmem
    · simp [h] at hmem
    · rw [h] at hmem
      simp at hmem
      exact ⟨contract, key, ha, hx, hmem.1⟩

/-- `wrappingTtlEnv` lets a key without `Extend` read and write `k/a/`: a SUBSCRIBE there
subscribes, and the retained publish there is fanned out. -/
theorem extend_keys_refused_writable :
    (.subscribe [1, 1] (Bytes.ofString "a/") ∈ (onSubscribe wrappingTtlEnv []).effects ∧
      ∃ contract key, wrappingTtlEnv.authorize (wrappingTtlEnv.parseChannel [])
          wrappingTtlEnv.flags.allowRead = some (contract, key) ∧
        key.hasPermission wrappingTtlEnv.flags.allowExtend = false ∧
        [1, 1] = newSsid key.contract (wrappingTtlEnv.parseChannel []).query ∧
        Bytes.ofString "a/" = (wrappingTtlEnv.parseChannel []).channel) ∧
    (.publish ⟨[1, 1], Bytes.ofString "a/", Bytes.ofString "x", 0⟩ [] ∈
        (onPublish wrappingTtlEnv (Conn.fresh []) retainedPublish).effects ∧
      ∃ contract key, wrappingTtlEnv.authorize
          (wrappingTtlEnv.parseChannel ((Conn.fresh []).resolveTopic retainedPublish.topic))
          wrappingTtlEnv.flags.allowWrite = some (contract, key) ∧
        key.hasPermission wrappingTtlEnv.flags.allowExtend = false ∧
        ⟨[1, 1], Bytes.ofString "a/", Bytes.ofString "x", 0⟩ = publishMessage wrappingTtlEnv
          (wrappingTtlEnv.parseChannel ((Conn.fresh []).resolveTopic retainedPublish.topic)) key
          retainedPublish) := by
  have hs : .subscribe [1, 1] (Bytes.ofString "a/") ∈ (onSubscribe wrappingTtlEnv []).effects := by
    decide
  have hp : .publish ⟨[1, 1], Bytes.ofString "a/", Bytes.ofString "x", 0⟩ [] ∈
      (onPublish wrappingTtlEnv (Conn.fresh []) retainedPublish).effects := by
    decide
  exact ⟨⟨hs, extend_keys_refused.1 _ _ _ _ hs⟩, ⟨hp, extend_keys_refused.2 _ _ _ _ _ hp⟩⟩

/-! ### An `Extend` key subscribed through a link -/

/-- Modelled from the spec (§4.2), `Service.authorize` being absent: decrypt the channel's
key, and refuse if that fails, if the key has expired or lacks a required bit, or if its
contract is unknown or does not validate it. -/
def authorizeSpec (decryptKey : Bytes → Option Key) (contractsGet : UInt32 → Option Contract)
    (validate : Contract → Key → Bool) (channel : Channel) (required : UInt8) :
    Option (Contract × Key) := do
  let key ← decryptKey channel.key
  if key.isExpired || !key.hasPermission required then none
  let contract ← contractsGet key.contract
  if !validate contract key then none
  return (contract, key)

/-- A key with `Read` and `Extend`, as keygen mints for the type `re`. -/
def readExtendKey : Key := ⟨7, 2 ||| 64, false, false⟩

/-- The channel `a/b/` under the key `rk`, which decrypts to `readExtendKey`. -/
def readExtendChannel : Channel := ⟨Bytes.ofString "rk", Bytes.ofString "a/b/", [11, 12], [], .static⟩

/-- The link request: name `a1`, key `rk`, channel `a/b/`, auto-subscribe, not private. -/
def extendLinkRequest : LinkRequest :=
  { name := Bytes.ofString "a1", key := Bytes.ofString "rk", channel := Bytes.ofString "a/b/",
    subscribe := true }

/-- Collaborators for the link request `L` on `emitter/link/`, where `rk/a/b/` parses to
`readExtendChannel`: the authorizer is the spec's, over a key provider that decrypts `rk`
to `readExtendKey`. -/
def extendLinkEnv : Env :=
  { Env.refusing with
    parseChannel := fun t => if t = Bytes.ofString "emitter/link/" then
      ⟨Bytes.ofString "emitter", Bytes.ofString "link/", [requestLink], [], .static⟩
      else if t = Bytes.ofString "rk/a/b/" then readExtendChannel
      else ⟨[], [], [], [], .invalid⟩
    decodeLink := fun p _ => if p = Bytes.ofString "L" then some extendLinkRequest else none
    makeChannel := fun k ch => if k = Bytes.ofString "rk" ∧ ch = Bytes.ofString "a/b/" then
      some readExtendChannel else none
    decryptKey := fun k => if k = Bytes.ofString "rk" then some readExtendKey else none
    contractsGet := fun id => some ⟨id⟩
    validate := fun _ _ => true
    authorize := authorizeSpec (fun k => if k = Bytes.ofString "rk" then some readExtendKey else none)
      (fun id => some ⟨id⟩) (fun _ _ => true) }

/-- **`onLink` subscribes with an `Extend` key.** One PUBLISH of the link request on
`emitter/link/` subscribes the connection to `a/b/` on the strength of a key that has
`Extend`, which `onSubscribe` refuses for the same channel with `UnauthorizedExt`. -/
theorem link_subscribes_with_extend_key :
    extendLinkEnv.authorize readExtendChannel extendLinkEnv.flags.allowRead =
        some (⟨7⟩, readExtendKey) ∧
      readExtendKey.hasPermission extendLinkEnv.flags.allowExtend ∧
      .subscribe (newSsid readExtendKey.contract readExtendChannel.query)
          readExtendChannel.channel ∈
        ((⟨Bytes.ofString "c1", [], ∅⟩ : Conn).trace
          [(extendLinkEnv, .publish ⟨Bytes.ofString "emitter/link/", Bytes.ofString "L", 1, false⟩)]).map
          Prod.snd ∧
      (onSubscribe extendLinkEnv (Bytes.ofString "rk/a/b/")).result = some .unauthorizedExt := by
  decide

end Emitter
