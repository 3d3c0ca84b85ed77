import Emitter.Broker.Machine

/-!
# The link map

A connection's links are written in one place, `c.links[request.Name] = channel.String()`
in `onLink`, after every check of the request has passed, so each write is that of an
`onLink` call that returns `ok = true`, and every name written is a shortcut, one or two
alphanumeric bytes. `onPublish` resolves every topic of at most two bytes through the
map, so every link can be published to by its name; and `onMe` rebuilds the map with each
channel shown without its key.

`Packet.linkCall` says which packets reach `onLink`: a PUBLISH whose resolved topic parses
to a static channel keyed `emitter` whose first query hash is `link`.
`handle_linkWrites` shows these are the only writes, and `Conn.links_runState` that the
connection's map is the writes of its run, in order. From one step, `link_round_trip`
follows a successful link to its two uses: a publish on the name, and `me`. Over a whole
run the map reads as last writer wins (`lookup_writeAll`, with `lastWrite` the abstract
read), so a name resolves to the channel of its last link, or to the empty topic
(`last_link_wins`).

A private link is minted by the key provider for this connection alone: `ExtendKey` with
the connection's id, `AllowAll` and no expiry; its error is returned as is, and the link
is written only to the channel it returned (`private_link_bound_to_connection`).
-/

namespace Emitter

/-- The payload of the `onLink` call that handling a packet makes, if it makes one. -/
def Packet.linkCall (env : Env) (c : Conn) : Packet → Option Bytes
  | .publish packet =>
    let channel := env.parseChannel (c.resolveTopic packet.topic)
    if channel.channelType = .static ∧ channel.key = Bytes.ofString "emitter" ∧
      channel.query.head? = some requestLink then some packet.payload else none
  | _ => none

/-! ### Who writes links -/

theorem onLink_linkWrites_of_fail {env : Env} {c : Conn} {payload : Bytes}
    (h : (onLink env c payload).result.2 = false) :
    (onLink env c payload).effects.filterMap Effect.linkWrite = [] := by
  refine List.filterMap_eq_nil_iff.mpr fun e he => ?_
  have := (onLink_fail h).2 e he
  cases e <;> simp_all [Effect.isKeyCall, Effect.linkWrite]

theorem onLink_linkWrites_of_ok {env : Env} {c : Conn} {payload : Bytes}
    (h : (onLink env c payload).result.2 = true) :
    ∃ request channel, env.decodeLink payload {} = some request ∧ shortcut request.name ∧
      (linkChannel env c request).result = .ok (some channel) ∧
      (onLink env c payload).effects.filterMap Effect.linkWrite =
        [(request.name, env.channelString channel)] := by
  obtain ⟨request, channel, h1, h2, h3, -, h⟩ := onLink_ok h
  refine ⟨request, channel, h1, h2, h3, ?_⟩
  have hl : (linkChannel env c request).effects.filterMap Effect.linkWrite = [] := by
    rw [linkChannel_eq]
    split <;> simp [Effect.linkWrite]
  rw [h]
  simp only [List.filterMap_append, hl, List.filterMap_cons, Effect.linkWrite, List.nil_append]
  split <;> simp [Effect.linkWrite]

theorem onKeyGen_linkWrites (env : Env) (c : Conn) (payload : Bytes) :
    (onKeyGen env c payload).effects.filterMap Effect.linkWrite = [] := by
  cases hok : (onKeyGen env c payload).result.2
  · refine List.filterMap_eq_nil_iff.mpr fun e he => ?_
    have := (onKeyGen_fail hok).2 e he
    cases e <;> simp_all [Effect.isKeyCall, Effect.linkWrite]
  · obtain ⟨_, _, -, -, -, ⟨-, _, -, h⟩ | ⟨-, -, _, -, h⟩⟩ := onKeyGen_ok hok <;>
      simp [h, Effect.linkWrite]

theorem onPresence_linkWrites (env : Env) (payload : Bytes) :
    (onPresence env payload).effects.filterMap Effect.linkWrite = [] := by
  cases hok : (onPresence env payload).result.2
  · simp [(onPresence_fail hok).2]
  · obtain ⟨msg, _, _, _, -, -, -, -, -, -, -, -, h⟩ := onPresence_ok hok
    rw [h]
    rcases msg.changes with _ | _ | _ <;> simp [Effect.linkWrite]

theorem dispatch_linkWrites (env : Env) (c : Conn) (query : List UInt32) (payload : Bytes) :
    (dispatch env c query payload).effects.filterMap Effect.linkWrite =
      if query.head? = some requestLink then
        (onLink env c payload).effects.filterMap Effect.linkWrite
      else [] := by
  rcases dispatch_cases env c query payload with ⟨hq, h⟩ | ⟨hq, h⟩ | ⟨hq, h⟩ | ⟨hq, h⟩ | ⟨hq, h⟩ <;>
    rw [h]
  · simp [hq, onKeyGen_linkWrites, requestKeygen, requestLink]
  · simp [hq, onPresence_linkWrites, requestPresence, requestLink]
  · simp [hq, requestMe, requestLink]
  · simp [hq]
  · rcases hh : query.head? with _ | q
    · simp
    · simp [(hq q hh).2.2.2]

/-- **Only `onLink` writes links**: handling a packet writes exactly the links of the
`onLink` call it makes. -/
theorem handle_linkWrites (env : Env) (c : Conn) (p : Packet) :
    (c.handle env p).filterMap Effect.linkWrite =
      match p.linkCall env c with
      | some payload => (onLink env c payload).effects.filterMap Effect.linkWrite
      | none => [] := by
  cases p with
  | connect => rfl
  | subscribe t =>
    rcases onSubscribe_cases env t rfl with ⟨-, h⟩ | ⟨-, -, h⟩ | ⟨_, _, -, -, ⟨-, h⟩ | ⟨-, -, h⟩ |
      ⟨-, -, _, -, h⟩ | ⟨-, -, _, -, h⟩⟩ <;>
      simp [Conn.handle, Packet.linkCall, h, Effect.linkWrite, List.filterMap_map, Function.comp_def]
  | unsubscribe t =>
    rcases onUnsubscribe_cases env t rfl with ⟨-, h⟩ | ⟨-, -, h⟩ | ⟨_, _, -, -, h⟩ <;>
      simp [Conn.handle, Packet.linkCall, h, Effect.linkWrite]
  | publish packet =>
    simp only [Conn.handle, Packet.linkCall]
    rcases onPublish_cases env c packet rfl with ⟨h1, h⟩ | ⟨-, h2, h⟩ | ⟨h2, h3, h⟩ |
      ⟨-, h3, -, h⟩ | ⟨_, _, -, h3, -, ⟨-, h⟩ | ⟨-, h⟩⟩
    · simp [h, h1]
    · simp [h, h2]
    · rw [h, onEmitterRequest_eq]
      simp only [List.filterMap_append, dispatch_linkWrites, h2, h3, true_and]
      split <;> split <;> simp [Effect.linkWrite]
    · simp [h, h3, Effect.linkWrite]
    · simp [h, h3, Effect.linkWrite]
    · rw [h]
      split <;> simp [h3, Effect.linkWrite]

/-! ### The map over a run -/

/-- The `onLink` calls of a run, in order, each with the collaborators and the connection
it runs with. -/
def Conn.linkCalls (c : Conn) : List (Env × Packet) → List (Env × Conn × Bytes)
  | [] => []
  | (env, p) :: rest =>
    ((p.linkCall env c).map fun payload => (env, c, payload)).toList ++
      (c.step env p).linkCalls rest

theorem Links.writeAll_append (links : Links) (a b : List (Bytes × Bytes)) :
    links.writeAll (a ++ b) = (links.writeAll a).writeAll b :=
  List.foldl_append ..

/-- **The map is the writes of the run's `onLink` calls**, in call order, over the map the
run starts from. -/
theorem Conn.links_runState (c : Conn) (steps : List (Env × Packet)) :
    (c.runState steps).links = c.links.writeAll ((c.linkCalls steps).flatMap fun x =>
      (onLink x.1 x.2.1 x.2.2).effects.filterMap Effect.linkWrite) := by
  induction steps generalizing c with
  | nil => rfl
  | cons s steps ih =>
    obtain ⟨env, p⟩ := s
    show ((c.step env p).runState steps).links = _
    rw [ih, Conn.links_step, handle_linkWrites, Conn.linkCalls, List.flatMap_append,
      Links.writeAll_append]
    cases p.linkCall env c <;> simp

/-- The links a run writes, in order: those of its `onLink` calls. -/
def Conn.linkWrites (c : Conn) (steps : List (Env × Packet)) : List (Bytes × Bytes) :=
  (c.linkCalls steps).flatMap fun x => (onLink x.1 x.2.1 x.2.2).effects.filterMap Effect.linkWrite

/-- A map read after writes, last writer wins: the value of the last write of `n`. -/
def lastWrite (writes : List (Bytes × Bytes)) (n : Bytes) : Option Bytes :=
  (writes.reverse.find? (·.1 == n)).map Prod.snd

/-- Reading the map after writes gives the last write of the name, else the old entry. -/
theorem lookup_writeAll (links : Links) (writes : List (Bytes × Bytes)) (n : Bytes) :
    (links.writeAll writes).lookup n = (lastWrite writes n).or (links.lookup n) := by
  induction writes using List.reverseRecOn with
  | nil => rfl
  | append_singleton ws w ih =>
    rw [Links.writeAll_append]
    by_cases h : w.1 = n
    · subst h
      simp [Links.writeAll, lastWrite, AList.lookup_insert]
    · simp [Links.writeAll, lastWrite, AList.lookup_insert_ne (Ne.symm h), h] at ih ⊢
      exact ih

/-! ### Every name is a shortcut -/

/-- Every name of the connection's links is a shortcut. -/
def Conn.ShortcutNames (c : Conn) : Prop :=
  ∀ n ∈ c.links, shortcut n

theorem mem_writeAll {links : Links} {writes : List (Bytes × Bytes)} {n : Bytes}
    (h : n ∈ links.writeAll writes) : n ∈ links ∨ ∃ w ∈ writes, w.1 = n := by
  induction writes generalizing links with
  | nil => exact .inl h
  | cons w writes ih =>
    rcases ih h with h | ⟨w', hw', rfl⟩
    · rcases (AList.mem_insert _).mp h with rfl | h
      · exact .inr ⟨w, List.mem_cons_self .., rfl⟩
      · exact .inl h
    · exact .inr ⟨w', List.mem_cons_of_mem _ hw', rfl⟩

theorem onLink_linkWrites_shortcut (env : Env) (c : Conn) (payload : Bytes) :
    ∀ w ∈ (onLink env c payload).effects.filterMap Effect.linkWrite, shortcut w.1 := by
  cases hok : (onLink env c payload).result.2
  · simp [onLink_linkWrites_of_fail hok]
  · obtain ⟨request, channel, -, hn, -, h⟩ := onLink_linkWrites_of_ok hok
    simp [h, hn]

theorem Conn.shortcutNames_step {env : Env} {c : Conn} {p : Packet} (hc : c.ShortcutNames) :
    (c.step env p).ShortcutNames := by
  intro n hn
  rw [Conn.links_step] at hn
  rcases mem_writeAll hn with hn | ⟨w, hw, rfl⟩
  · exact hc n hn
  rw [handle_linkWrites] at hw
  split at hw
  · exact onLink_linkWrites_shortcut env c _ w hw
  · cases hw

theorem Conn.shortcutNames_runState (id : Bytes) (steps : List (Env × Packet)) :
    ((Conn.fresh id).runState steps).ShortcutNames :=
  Conn.runState_invariant (fun _ _ _ => Conn.shortcutNames_step) (by simp [Conn.ShortcutNames, Conn.fresh]) steps

theorem shortcut_length {n : Bytes} (h : shortcut n) : n.length = 1 ∨ n.length = 2 := by
  simp only [shortcut, Bool.and_eq_true, Bool.or_eq_true, beq_iff_eq] at h
  exact h.1

/-- A name of the map at most two bytes long resolves to its channel. -/
theorem Conn.resolveTopic_of_lookup {c : Conn} {n v : Bytes} (h : c.links.lookup n = some v)
    (hn : n.length ≤ 2) : c.resolveTopic n = v := by
  simp [Conn.resolveTopic, hn, h]

/-! ### What `onMe` reports -/

theorem lookup_foldl_insert (f : Bytes → Bytes) {l : List (Sigma fun _ : Bytes => Bytes)}
    (hl : l.NodupKeys) (m : Links) (n : Bytes) :
    (l.foldl (fun r a => r.insert a.1 (f a.2)) m).lookup n =
      if n ∈ l.keys then (l.dlookup n).map f else m.lookup n := by
  induction l generalizing m with
  | nil => rfl
  | cons a l ih =>
    obtain ⟨k, v⟩ := a
    rw [List.nodupKeys_cons] at hl
    rw [List.foldl_cons, ih hl.2]
    by_cases hn : n = k
    · subst hn
      simp [hl.1, AList.lookup_insert, List.dlookup_cons_eq]
    · simp [hn, List.dlookup_cons_ne l ⟨k, v⟩ hn, AList.lookup_insert_ne hn]

/-- **`onMe` reports the map**: each name of the connection's links, with its channel
shown without its key. -/
theorem onMe_lookup (env : Env) (c : Conn) :
    ∃ links, (onMe env c).result.1 = .me ⟨c.id, links⟩ ∧
      ∀ n, links.lookup n = (c.links.lookup n).map fun v => env.safeString (env.parseChannel v) := by
  refine ⟨_, by rw [onMe_eq], fun n => ?_⟩
  simp only [AList.foldl]
  rw [lookup_foldl_insert (fun v => env.safeString (env.parseChannel v)) c.links.nodupKeys]
  split_ifs with hn
  · rfl
  · simp [AList.lookup, List.dlookup_eq_none.mpr hn]

/-! ### The map's contract -/

theorem links_written_only_by_onLink :
    (∀ (id : Bytes) (steps : List (Env × Packet)),
      ((Conn.fresh id).runState steps).links = (∅ : Links).writeAll
        (((Conn.fresh id).linkCalls steps).flatMap fun x =>
          (onLink x.1 x.2.1 x.2.2).effects.filterMap Effect.linkWrite)) ∧
    (∀ env c payload, (onLink env c payload).result.2 = false →
      (onLink env c payload).effects.filterMap Effect.linkWrite = []) ∧
    (∀ env c payload, (onLink env c payload).result.2 = true → ∃ request channel,
      env.decodeLink payload {} = some request ∧ shortcut request.name ∧
      (linkChannel env c request).result = .ok (some channel) ∧
      (onLink env c payload).effects.filterMap Effect.linkWrite =
        [(request.name, env.channelString channel)]) ∧
    (∀ (id : Bytes) (steps : List (Env × Packet)), ∀ n ∈ ((Conn.fresh id).runState steps).links,
      shortcut n ∧ (n.length = 1 ∨ n.length = 2)) ∧
    (∀ (id : Bytes) (steps : List (Env × Packet)) (n v : Bytes),
      ((Conn.fresh id).runState steps).links.lookup n = some v →
      ((Conn.fresh id).runState steps).resolveTopic n = v) ∧
    (∀ env c, ∃ links, (onMe env c).result.1 = .me ⟨c.id, links⟩ ∧
      ∀ n, links.lookup n = (c.links.lookup n).map fun v => env.safeString (env.parseChannel v)) := by
  refine ⟨fun id => Conn.links_runState _, fun _ _ _ => onLink_linkWrites_of_fail,
    fun _ _ _ => onLink_linkWrites_of_ok, fun id steps n hn => ?_, fun id steps n v h => ?_,
    onMe_lookup⟩
  · have hs := Conn.shortcutNames_runState id steps n hn
    exact ⟨hs, shortcut_length hs⟩
  · have hs := Conn.shortcutNames_runState id steps n (AList.lookup_isSome.mp (by simp [h]))
    exact Conn.resolveTopic_of_lookup h (by rcases shortcut_length hs with h | h <;> omega)

/-! ### Link, then use it -/

/-- **A link is usable at once**: after a PUBLISH whose link request succeeds, a publish on
the link's name resolves to the linked channel's string, and `me`, with any collaborators,
reports the name with that string's safe form. -/
theorem link_round_trip (env : Env) (c : Conn) (packet : Publish) (payload : Bytes)
    (hcall : (Packet.publish packet).linkCall env c = some payload)
    (hok : (onLink env c payload).result.2 = true) :
    ∃ request channel, env.decodeLink payload {} = some request ∧
      (onLink env c payload).result.1 = .link ⟨200, request.name, env.safeString channel⟩ ∧
      (c.step env (.publish packet)).resolveTopic request.name = env.channelString channel ∧
      ∀ env', ∃ links, (onMe env' (c.step env (.publish packet))).result.1 = .me ⟨c.id, links⟩ ∧
        links.lookup request.name =
          some (env'.safeString (env'.parseChannel (env.channelString channel))) := by
  obtain ⟨request, channel, h1, hs, h3, -, heq⟩ := onLink_ok hok
  obtain ⟨request', channel', h1', -, h3', hw⟩ := onLink_linkWrites_of_ok hok
  obtain rfl : request' = request := Option.some.inj (h1'.symm.trans h1)
  obtain rfl : channel' = channel := by
    rw [h3] at h3'
    cases h3'
    rfl
  have hlinks : (c.step env (.publish packet)).links =
      c.links.insert request'.name (env.channelString channel') := by
    rw [Conn.links_step, handle_linkWrites, hcall]
    simp [hw, Links.writeAll]
  have hlookup : (c.step env (.publish packet)).links.lookup request'.name =
      some (env.channelString channel') := by
    rw [hlinks, AList.lookup_insert]
  refine ⟨request', channel', h1, by rw [heq], Conn.resolveTopic_of_lookup hlookup ?_,
    fun env' => ?_⟩
  · rcases shortcut_length hs with h | h <;> omega
  · obtain ⟨links, hme, hl⟩ := onMe_lookup env' (c.step env (.publish packet))
    exact ⟨links, by rw [hme, Conn.id_step], by rw [hl, hlookup]; rfl⟩

/-- The link request: the name `a1` for the channel `a/b/` of the key `k`. -/
def a1LinkRequest : LinkRequest :=
  { name := Bytes.ofString "a1", key := Bytes.ofString "k", channel := Bytes.ofString "a/b/" }

/-- Collaborators under which every payload on `emitter/link/` decodes to `a1LinkRequest`
and every key and channel make a static channel. -/
def linkEnv : Env :=
  { Env.refusing with
    parseChannel := fun t => if t = Bytes.ofString "emitter/link/" then
      ⟨Bytes.ofString "emitter", Bytes.ofString "link/", [requestLink], [], .static⟩
      else ⟨[], [], [], [], .invalid⟩
    decodeLink := fun _ _ => some a1LinkRequest
    makeChannel := fun k ch => some ⟨k, ch, [1], [], .static⟩ }

theorem link_round_trip_a1 :
    ∃ request channel, linkEnv.decodeLink (Bytes.ofString "L") {} = some request ∧
      (onLink linkEnv (Conn.fresh []) (Bytes.ofString "L")).result.1 =
        .link ⟨200, request.name, linkEnv.safeString channel⟩ ∧
      ((Conn.fresh []).step linkEnv
          (.publish ⟨Bytes.ofString "emitter/link/", Bytes.ofString "L", 1, false⟩)).resolveTopic
        request.name = linkEnv.channelString channel ∧
      ∀ env', ∃ links, (onMe env' ((Conn.fresh []).step linkEnv
          (.publish ⟨Bytes.ofString "emitter/link/", Bytes.ofString "L", 1, false⟩))).result.1 =
          .me ⟨(Conn.fresh []).id, links⟩ ∧
        links.lookup request.name =
          some (env'.safeString (env'.parseChannel (linkEnv.channelString channel))) :=
  link_round_trip linkEnv (Conn.fresh []) ⟨Bytes.ofString "emitter/link/", Bytes.ofString "L", 1, false⟩
    (Bytes.ofString "L") (by decide) (by decide)

/-! ### The map after a run -/

/-- **The last link wins.** After any run, a name's link is the last one the run's `onLink`
calls wrote for it, else the one the connection had: a publish on the name, if at most two
bytes long, goes to that channel, or to the empty topic when there is none; and `me`
reports the name with that channel without its key. -/
theorem last_link_wins (c : Conn) (steps : List (Env × Packet)) (n : Bytes) :
    (c.runState steps).links.lookup n =
      (lastWrite (c.linkWrites steps) n).or (c.links.lookup n) ∧
    (n.length ≤ 2 → (c.runState steps).resolveTopic n =
      ((lastWrite (c.linkWrites steps) n).or (c.links.lookup n)).getD []) ∧
    ∀ env, ∃ links, (onMe env (c.runState steps)).result.1 = .me ⟨c.id, links⟩ ∧
      links.lookup n = ((lastWrite (c.linkWrites steps) n).or (c.links.lookup n)).map
        fun v => env.safeString (env.parseChannel v) := by
  have hl : (c.runState steps).links.lookup n =
      (lastWrite (c.linkWrites steps) n).or (c.links.lookup n) := by
    rw [Conn.links_runState, lookup_writeAll]
    rfl
  refine ⟨hl, fun hn => by simp [Conn.resolveTopic, hn, hl], fun env => ?_⟩
  obtain ⟨links, hme, hlk⟩ := onMe_lookup env (c.runState steps)
  exact ⟨links, by rw [hme, Conn.id_runState], by rw [hlk, hl]⟩

/-! ### Private links -/

/-- **A private link is this connection's.** For a private link request with a shortcut
name, the one call to the key provider extends the request's key to this connection, with
`AllowAll` and no expiry; its error is returned as is, with nothing else done; and a link is
written only to the channel it returned, never to the channel of the request's own key. -/
theorem private_link_bound_to_connection {env : Env} {c : Conn} {payload : Bytes}
    {request : LinkRequest} (hreq : env.decodeLink payload {} = some request)
    (hname : shortcut request.name) (hpriv : request.private = true) :
    (onLink env c payload).effects.filter Effect.isKeyCall =
      [.extendKey request.key request.channel c.id env.flags.allowAll 0] ∧
    (∀ err, env.extendKey request.key request.channel c.id env.flags.allowAll 0 = .error err →
      onLink env c payload = ⟨(.error err, false),
        [.extendKey request.key request.channel c.id env.flags.allowAll 0]⟩) ∧
    ∀ w ∈ (onLink env c payload).effects.filterMap Effect.linkWrite, ∃ channel,
      env.extendKey request.key request.channel c.id env.flags.allowAll 0 = .ok channel ∧
      w = (request.name, env.channelString channel) := by
  have hl : linkChannel env c request = ⟨(env.extendKey request.key request.channel c.id
      env.flags.allowAll 0).map some,
      [.extendKey request.key request.channel c.id env.flags.allowAll 0]⟩ := by
    rw [linkChannel_eq, if_pos hpriv]
  rcases hx : env.extendKey request.key request.channel c.id env.flags.allowAll 0 with
    err | channel
  · have h : onLink env c payload = ⟨(.error err, false),
        [.extendKey request.key request.channel c.id env.flags.allowAll 0]⟩ := by
      simp [onLink, hreq, hname, hl, hx, Except.map]
    refine ⟨by simp [h, Effect.isKeyCall], fun _ he => by cases he; exact h, ?_⟩
    simp [h, Effect.linkWrite]
  by_cases h3 : channel.channelType = .invalid
  · have h : onLink env c payload = ⟨(.error .badRequest, false),
        [.extendKey request.key request.channel c.id env.flags.allowAll 0]⟩ := by
      simp [onLink, hreq, hname, hl, hx, Except.map, h3]
    exact ⟨by simp [h, Effect.isKeyCall], fun _ he => (by cases he), by simp [h, Effect.linkWrite]⟩
  rcases onLink_cases env c payload with ⟨⟨e, he⟩, -⟩ | ⟨request', channel', h1, -, h2, -, heq⟩
  · simp [onLink, hreq, hname, hl, hx, Except.map, h3] at he
    split at he
    · split at he <;> simp at he
    · simp at he
  obtain rfl : request' = request := Option.some.inj (h1.symm.trans hreq)
  obtain rfl : channel' = channel := by
    rw [hl, hx] at h2
    cases h2
    rfl
  refine ⟨?_, fun _ he => (by cases he), fun w hw => ⟨channel', rfl, ?_⟩⟩
  · rw [heq, hl]
    split <;> simp [Effect.isKeyCall]
  · rw [heq, hl] at hw
    split at hw <;> simpa [Effect.linkWrite] using hw

/-- The private form of `a1LinkRequest`. -/
def privateA1Request : LinkRequest :=
  { a1LinkRequest with «private» := true }

/-- Collaborators under which every link payload decodes to `privateA1Request` and the key
provider extends any key to a static channel. -/
def privateLinkEnv : Env :=
  { Env.refusing with
    decodeLink := fun _ _ => some privateA1Request
    extendKey := fun k ch _ _ _ => .ok ⟨k, ch, [1], [], .static⟩ }

theorem private_link_bound_to_connection_a1 :
    (onLink privateLinkEnv (Conn.fresh (Bytes.ofString "c")) []).effects.filter Effect.isKeyCall =
      [.extendKey privateA1Request.key privateA1Request.channel (Bytes.ofString "c")
        privateLinkEnv.flags.allowAll 0] ∧
    (∀ err, privateLinkEnv.extendKey privateA1Request.key privateA1Request.channel
        (Bytes.ofString "c") privateLinkEnv.flags.allowAll 0 = .error err →
      onLink privateLinkEnv (Conn.fresh (Bytes.ofString "c")) [] = ⟨(.error err, false),
        [.extendKey privateA1Request.key privateA1Request.channel (Bytes.ofString "c")
          privateLinkEnv.flags.allowAll 0]⟩) ∧
    ∀ w ∈ (onLink privateLinkEnv (Conn.fresh (Bytes.ofString "c")) []).effects.filterMap
        Effect.linkWrite, ∃ channel,
      privateLinkEnv.extendKey privateA1Request.key privateA1Request.channel (Bytes.ofString "c")
        privateLinkEnv.flags.allowAll 0 = .ok channel ∧
      w = (privateA1Request.name, privateLinkEnv.channelString channel) :=
  @private_link_bound_to_connection privateLinkEnv (Conn.fresh (Bytes.ofString "c")) []
    privateA1Request rfl (by decide) rfl

end Emitter
