import Emitter.Broker.Rpc

/-!
# Presence across a cluster

A presence status lists who is subscribed to an SSID: `getAllPresence` asks the local trie
(`lookupPresence`) and then every peer, through a survey that each peer answers with
`OnSurvey` from its own trie. Both loops of the source keep an accumulator: the local one
skips subscribers that are not client connections, and the cluster one drops answers that
do not decode (`lookupPresence_eq`, `getClusterPresence_eq`).

A status reply carries exactly that list for the request's SSID (`onPresence_who`), and a
peer answers a `presence` query whose SSID decodes with the encoding of its local presence,
and every other query with nothing (`onSurvey_presence`, `onSurvey_other`).

The survey and the binary codec are outside `handlers.go`. What the result needs of them is
stated once: `SurveyAnswers` (the survey returns, in order, the answers of the peers that
answered) and `PresenceRoundTrips` (each peer decodes this node's SSID, and this node
decodes each peer's answer). Under both, a presence status lists this node's clients and
then each peer's, in the order of the answers (`getAllPresence_cluster`).
-/

namespace Emitter

/-! ### The two loops -/

/-- The presence entry of a subscriber: a client connection's id and username; anything
else has none. -/
def Subscriber.presenceInfo : Subscriber → Option PresenceInfo
  | .conn c => some { id := c.id, username := c.username }
  | .other _ => none

/-- **The local loop**: the client connections among the trie's subscribers, in order. -/
theorem lookupPresence_eq (env : Env) (ssid : Ssid) :
    lookupPresence env ssid = (env.lookup ssid).filterMap Subscriber.presenceInfo := by
  have h : ∀ (l : List Subscriber) (acc : List PresenceInfo),
      l.foldl (fun resp subscriber => match subscriber with
        | .conn conn => resp ++ [{ id := conn.id, username := conn.username }]
        | .other _ => resp) acc = acc ++ l.filterMap Subscriber.presenceInfo := by
    intro l
    induction l with
    | nil => simp
    | cons s l ih => intro acc; cases s <;> simp [ih, Subscriber.presenceInfo]
  exact h _ []

/-- **The cluster loop**: the lists of the survey's answers that decode, concatenated in
the order the answers were gathered; an answer that does not decode adds nothing. -/
theorem getClusterPresence_eq (env : Env) (ssid : Ssid) :
    getClusterPresence env ssid =
      match env.marshalSsid ssid with
      | none => []
      | some req =>
        match env.survey presenceQuery req with
        | none => []
        | some replies => (replies.filterMap env.unmarshalPresence).flatten := by
  have h : ∀ (replies : List Bytes) (acc : List PresenceInfo),
      replies.foldl (fun who resp => match env.unmarshalPresence resp with
        | some info => who ++ info
        | none => who) acc = acc ++ (replies.filterMap env.unmarshalPresence).flatten := by
    intro replies
    induction replies with
    | nil => simp
    | cons r rs ih => intro acc; cases hr : env.unmarshalPresence r <;> simp [ih, hr]
  unfold getClusterPresence
  rcases env.marshalSsid ssid with _ | req
  · rfl
  dsimp only
  rcases env.survey presenceQuery req with _ | replies
  · rfl
  exact (h replies []).trans (List.nil_append _)

/-- **A presence status**: the local presence, then the cluster's. -/
theorem getAllPresence_eq (env : Env) (ssid : Ssid) :
    getAllPresence env ssid = lookupPresence env ssid ++
      match env.marshalSsid ssid with
      | none => []
      | some req =>
        match env.survey presenceQuery req with
        | none => []
        | some replies => (replies.filterMap env.unmarshalPresence).flatten := by
  rw [getAllPresence, getLocalPresence, getClusterPresence_eq]

/-- The list a presence status reply carries is the presence of the request's SSID. -/
theorem onPresence_who {env : Env} {payload : Bytes} {r : PresenceResponse}
    (h : (onPresence env payload).result.1 = some (.presence r)) :
    ∃ msg key channel, env.decodePresence payload { status := true } = some msg ∧
      env.decryptKey msg.key = some key ∧
      env.parseChannel (Bytes.ofString "emitter/" ++ withTrailingSlash msg.channel) = channel ∧
      r.who = getAllPresence env (newSsid key.contract channel.query) := by
  rcases onPresence_cases env payload with ⟨⟨e, he⟩, -⟩ |
    ⟨msg, key, contract, channel, h1, h2, -, -, -, -, h7, -, hp⟩
  · simp [he] at h
  · refine ⟨msg, key, channel, h1, h2, h7, ?_⟩
    rw [hp] at h
    split at h <;> simp only [Option.some.injEq, Response.presence.injEq, reduceCtorEq] at h
    exact h ▸ rfl

/-! ### The survey responder -/

/-- **`OnSurvey` on a `presence` query** whose payload decodes to an SSID: the encoding of
that SSID's local presence, and whether it encoded. -/
theorem onSurvey_presence {env : Env} {payload : Bytes} {ssid : Ssid}
    (h : env.unmarshalSsid payload = some ssid) :
    onSurvey env presenceQuery payload =
      match env.marshalPresence (lookupPresence env ssid) with
      | some b => (some b, true)
      | none => (none, false) := by
  cases hm : env.marshalPresence (lookupPresence env ssid) <;> simp [onSurvey, h, hm]

/-- `OnSurvey` answers any other query with nothing. -/
theorem onSurvey_other {env : Env} {queryType payload : Bytes}
    (h : queryType ≠ presenceQuery ∨ env.unmarshalSsid payload = none) :
    onSurvey env queryType payload = (none, false) := by
  rcases h with h | h <;> simp [onSurvey, h]

/-! ### The status reply -/

theorem presence_who_is_local_then_decoded_replies :
    (∀ env payload r, (onPresence env payload).result.1 = some (.presence r) →
      ∃ msg key channel, env.decodePresence payload { status := true } = some msg ∧
        env.decryptKey msg.key = some key ∧
        env.parseChannel (Bytes.ofString "emitter/" ++ withTrailingSlash msg.channel) = channel ∧
        r.who = getAllPresence env (newSsid key.contract channel.query)) ∧
    (∀ env ssid, getAllPresence env ssid = lookupPresence env ssid ++
      match env.marshalSsid ssid with
      | none => []
      | some req =>
        match env.survey presenceQuery req with
        | none => []
        | some replies => (replies.filterMap env.unmarshalPresence).flatten) ∧
    (∀ env ssid, lookupPresence env ssid = (env.lookup ssid).filterMap Subscriber.presenceInfo) ∧
    (∀ env payload ssid, env.unmarshalSsid payload = some ssid →
      onSurvey env presenceQuery payload =
        match env.marshalPresence (lookupPresence env ssid) with
        | some b => (some b, true)
        | none => (none, false)) ∧
    (∀ env queryType payload, (queryType ≠ presenceQuery ∨ env.unmarshalSsid payload = none) →
      onSurvey env queryType payload = (none, false)) :=
  ⟨fun _ _ _ => onPresence_who, getAllPresence_eq, lookupPresence_eq,
    fun _ _ _ => onSurvey_presence, fun _ _ _ => onSurvey_other⟩

/-- The channel of a presence request, `emitter/presence/`. -/
def presenceChannel : Channel :=
  ⟨Bytes.ofString "emitter", Bytes.ofString "presence/", [requestPresence], [], .static⟩

/-- A presence key `pk` of contract 1 with `AllowPresence`, and three requests on the
channel `a`: `S` asks for the status, `J` joins without asking for it, and `L` leaves
without asking for it. The trie holds one client, `a` (`alice`); a peer's survey query
decodes to the SSID `[1, 1]`, and the presence of it encodes as `P`. -/
def presenceEnv : Env :=
  { Env.refusing with
    parseChannel := fun t =>
      if t = Bytes.ofString "emitter/a/" then
        ⟨Bytes.ofString "emitter", Bytes.ofString "a/", [1], [], .static⟩
      else if t = Bytes.ofString "emitter/presence/" then presenceChannel
      else ⟨[], [], [], [], .invalid⟩
    decryptKey := fun k => if k = Bytes.ofString "pk" then some ⟨1, 32, false, false⟩ else none
    contractsGet := fun id => some ⟨id⟩
    validate := fun _ _ => true
    lookup := fun _ => [.conn ⟨Bytes.ofString "a", Bytes.ofString "alice", ∅⟩]
    unmarshalSsid := fun _ => some [1, 1]
    marshalPresence := fun _ => some (Bytes.ofString "P")
    decodePresence := fun p _ =>
      if p = Bytes.ofString "S" then some ⟨Bytes.ofString "pk", Bytes.ofString "a", true, none⟩
      else if p = Bytes.ofString "J" then
        some ⟨Bytes.ofString "pk", Bytes.ofString "a", false, some true⟩
      else if p = Bytes.ofString "L" then
        some ⟨Bytes.ofString "pk", Bytes.ofString "a", false, some false⟩
      else none }

theorem presence_who_is_local_then_decoded_replies_alice :
    (onPresence presenceEnv (Bytes.ofString "S")).result.1 = some (.presence
      ⟨0, .status, Bytes.ofString "a/", [⟨Bytes.ofString "a", Bytes.ofString "alice"⟩]⟩) ∧
    (∃ msg key channel,
      presenceEnv.decodePresence (Bytes.ofString "S") { status := true } = some msg ∧
      presenceEnv.decryptKey msg.key = some key ∧
      presenceEnv.parseChannel (Bytes.ofString "emitter/" ++ withTrailingSlash msg.channel) =
        channel ∧
      [⟨Bytes.ofString "a", Bytes.ofString "alice"⟩] =
        getAllPresence presenceEnv (newSsid key.contract channel.query)) ∧
    onSurvey presenceEnv presenceQuery [] = (some (Bytes.ofString "P"), true) ∧
    onSurvey presenceEnv (Bytes.ofString "who") [] = (none, false) := by
  have h : (onPresence presenceEnv (Bytes.ofString "S")).result.1 = some (.presence
      ⟨0, .status, Bytes.ofString "a/", [⟨Bytes.ofString "a", Bytes.ofString "alice"⟩]⟩) := by
    decide
  exact ⟨h, presence_who_is_local_then_decoded_replies.1 _ _ _ h,
    presence_who_is_local_then_decoded_replies.2.2.2.1 presenceEnv [] [1, 1] rfl,
    presence_who_is_local_then_decoded_replies.2.2.2.2 presenceEnv _ [] (.inl (by decide))⟩

/-! ### The cluster -/

/-- The survey of `req` returns, in order, the answers of the peers whose `OnSurvey`
answered it. -/
def SurveyAnswers (env : Env) (peers : List Env) (req : Bytes) : Prop :=
  env.survey presenceQuery req =
    some (peers.filterMap fun peer => (onSurvey peer presenceQuery req).1)

/-- Every peer decodes `req` to `ssid` and encodes its presence for `ssid` into an answer
that this node decodes back. -/
def PresenceRoundTrips (env : Env) (peers : List Env) (ssid : Ssid) (req : Bytes) : Prop :=
  ∀ peer ∈ peers, peer.unmarshalSsid req = some ssid ∧
    ∃ b, peer.marshalPresence (lookupPresence peer ssid) = some b ∧
      env.unmarshalPresence b = some (lookupPresence peer ssid)

/-- A peer that decodes the SSID and encodes its presence answers the survey with it. -/
theorem onSurvey_eq {peer : Env} {req b : Bytes} {ssid : Ssid}
    (h1 : peer.unmarshalSsid req = some ssid)
    (h2 : peer.marshalPresence (lookupPresence peer ssid) = some b) :
    onSurvey peer presenceQuery req = (some b, true) := by
  rw [onSurvey_presence h1, h2]

theorem flatten_survey_answers {env : Env} {peers : List Env} {ssid : Ssid} {req : Bytes}
    (h : PresenceRoundTrips env peers ssid req) :
    ((peers.filterMap fun peer => (onSurvey peer presenceQuery req).1).filterMap
        env.unmarshalPresence).flatten =
      peers.flatMap fun peer => lookupPresence peer ssid := by
  induction peers with
  | nil => rfl
  | cons peer peers ih =>
    obtain ⟨h1, b, h2, h3⟩ := h peer (List.mem_cons_self ..)
    rw [List.filterMap_cons, onSurvey_eq h1 h2]
    simp [h3, ih fun p hp => h p (List.mem_cons_of_mem _ hp)]

/-- **Presence across a cluster.** When the survey brings back the peers' answers and the
codec round-trips, a presence status lists this node's client connections subscribed to
the SSID, then each peer's, in the order of the answers. -/
theorem getAllPresence_cluster {env : Env} {peers : List Env} {ssid : Ssid} {req : Bytes}
    (hreq : env.marshalSsid ssid = some req) (hsurvey : SurveyAnswers env peers req)
    (hpeers : PresenceRoundTrips env peers ssid req) :
    getAllPresence env ssid = (env.lookup ssid).filterMap Subscriber.presenceInfo ++
      peers.flatMap fun peer => (peer.lookup ssid).filterMap Subscriber.presenceInfo := by
  rw [getAllPresence, getLocalPresence, getClusterPresence_eq, hreq]
  simp only [SurveyAnswers] at hsurvey
  simp only [hsurvey, flatten_survey_answers hpeers, lookupPresence_eq]

/-- A peer with one client, `p` (`bob`), and one cluster peer on the trie of `[1]`; it
decodes any SSID to `[1]` and encodes its presence as `P`. -/
def presencePeer : Env :=
  { Env.refusing with
    lookup := fun _ => [.conn ⟨Bytes.ofString "p", Bytes.ofString "bob", ∅⟩,
      .other (Bytes.ofString "n2")]
    unmarshalSsid := fun _ => some [1]
    marshalPresence := fun _ => some (Bytes.ofString "P") }

/-- A node with one client, `a` (`alice`), whose survey brings back `P`, which it decodes
to the peer's client. -/
def presenceNode : Env :=
  { Env.refusing with
    lookup := fun _ => [.conn ⟨Bytes.ofString "a", Bytes.ofString "alice", ∅⟩]
    marshalSsid := fun _ => some (Bytes.ofString "S")
    survey := fun _ _ => some [Bytes.ofString "P"]
    unmarshalPresence := fun b => if b = Bytes.ofString "P" then
      some [⟨Bytes.ofString "p", Bytes.ofString "bob"⟩] else none }

theorem getAllPresence_cluster_twoNodes :
    getAllPresence presenceNode [1] =
      [⟨Bytes.ofString "a", Bytes.ofString "alice"⟩, ⟨Bytes.ofString "p", Bytes.ofString "bob"⟩] :=
  (@getAllPresence_cluster presenceNode [presencePeer] [1] (Bytes.ofString "S") rfl
    (by unfold SurveyAnswers; decide)
    (fun peer hp => by
      obtain rfl := List.mem_singleton.mp hp
      exact ⟨rfl, _, rfl, by decide⟩)).trans (by decide)

end Emitter
