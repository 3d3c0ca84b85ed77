import Emitter.Broker.Machine
import Emitter.Properties.Presence

/-!
# Subscribe, then unsubscribe

`onSubscribe` and `onUnsubscribe` derive the SSID and the channel path of a topic each on
its own, from the same parse and the same authorization. Whenever `onSubscribe` reached
`c.Subscribe(ssid, ch)` (it then returned `nil` or `ServerError`), the same topic
unsubscribes exactly that pair (`onUnsubscribe_of_subscribe`); likewise a presence request
with `changes = false` removes the presence SSID that one with `changes = true` on the same
key and channel added (`onPresence_unsubscribe_of_subscribe`).

The connection's subscription state is not in `handlers.go`. It is a parameter here: any
state with updates `sub` and `unsub`, applied by `applySubscriptions` to the calls a
handler made. When `unsub` undoes `sub`, subscribing and then unsubscribing a topic leaves
the state as it was.
-/

namespace Emitter

/-! ### The same pair, both ways -/

/-- **`onUnsubscribe` undoes what `onSubscribe` subscribed**: it succeeds and unsubscribes
the same SSID and channel path. -/
theorem onUnsubscribe_of_subscribe {env : Env} {t : Bytes} {ssid : Ssid} {ch : Bytes}
    (h : .subscribe ssid ch ∈ (onSubscribe env t).effects) :
    ∃ contract, onUnsubscribe env t = ⟨none, [.authorize (env.parseChannel t) env.flags.allowRead,
      .unsubscribe ssid ch, .track contract]⟩ := by
  rcases onSubscribe_cases env t rfl with ⟨-, h'⟩ | ⟨-, -, h'⟩ | ⟨contract, key, hv, ha, hs⟩
  · simp [h'] at h
  · simp [h'] at h
  have hpair : ssid = newSsid key.contract (env.parseChannel t).query ∧
      ch = (env.parseChannel t).channel := by
    rcases hs with ⟨-, h'⟩ | ⟨-, -, h'⟩ | ⟨-, -, _, -, h'⟩ | ⟨-, -, _, -, h'⟩ <;>
      simp [h'] at h <;> exact h
  obtain ⟨rfl, rfl⟩ := hpair
  exact ⟨contract, by simp [onUnsubscribe, hv, ha]⟩

/-- **A presence unsubscription undoes a presence subscription** on the same key and
channel: it succeeds and removes the SSID the other added. -/
theorem onPresence_unsubscribe_of_subscribe {env : Env} {p q : Bytes}
    {msg msg' : PresenceRequest} {ssid : Ssid} {ch : Bytes}
    (hp : env.decodePresence p { status := true } = some msg)
    (hq : env.decodePresence q { status := true } = some msg')
    (hkey : msg'.key = msg.key) (hchannel : msg'.channel = msg.channel)
    (hchanges : msg'.changes = some false)
    (h : .subscribe ssid ch ∈ (onPresence env p).effects) :
    (onPresence env q).result.2 = true ∧ (onPresence env q).effects = [.unsubscribe ssid ch] := by
  have hok : (onPresence env p).result.2 = true := by
    by_contra hf
    simp [(onPresence_fail (Bool.eq_false_iff.mpr hf)).2] at h
  obtain ⟨m, key, contract, channel, hm, h2, h3, h4, h5, h6, h7, h8, he⟩ := onPresence_ok hok
  obtain rfl : m = msg := Option.some.inj (hm.symm.trans hp)
  have hpair : ssid = env.newSsidForPresence (newSsid key.contract channel.query) ∧ ch = [] := by
    rw [he] at h
    rcases hc : m.changes with _ | _ | _ <;> simp [hc] at h
    exact h
  obtain ⟨rfl, rfl⟩ := hpair
  subst h7
  cases hs : msg'.status <;>
    simp [onPresence, hq, hkey, hchannel, hchanges, hs, h2, h3, h4, h5, h6, h8]

/-! ### The subscription state -/

section Subscriptions

variable {σ : Type} (sub unsub : Ssid → Bytes → σ → σ)

/-- The subscription state after one call: `Subscribe` and `Unsubscribe` update it, and
every other call leaves it. -/
def Effect.updateSubscriptions (s : σ) : Effect → σ
  | .subscribe ssid ch => sub ssid ch s
  | .unsubscribe ssid ch => unsub ssid ch s
  | _ => s

/-- The subscription state after a handler's calls, in order. -/
def applySubscriptions (s : σ) (effects : List Effect) : σ :=
  effects.foldl (Effect.updateSubscriptions sub unsub) s

theorem applySubscriptions_onSubscribe {env : Env} {t : Bytes} {ssid : Ssid} {ch : Bytes}
    (h : .subscribe ssid ch ∈ (onSubscribe env t).effects) (s : σ) :
    applySubscriptions sub unsub s (onSubscribe env t).effects = sub ssid ch s := by
  rcases onSubscribe_cases env t rfl with ⟨-, h'⟩ | ⟨-, -, h'⟩ | ⟨_, _, -, -, ⟨-, h'⟩ | ⟨-, -, h'⟩ |
    ⟨-, -, _, -, h'⟩ | ⟨-, -, _, -, h'⟩⟩ <;> rw [h'] at h ⊢ <;> simp at h
  all_goals
    obtain ⟨rfl, rfl⟩ := h
    simp [applySubscriptions, Effect.updateSubscriptions, List.foldl_map, List.foldl_fixed]

theorem applySubscriptions_append (s : σ) (a b : List Effect) :
    applySubscriptions sub unsub s (a ++ b) =
      applySubscriptions sub unsub (applySubscriptions sub unsub s a) b :=
  List.foldl_append ..

end Subscriptions

/-! ### The round trip -/

theorem unsubscribe_undoes_subscribe :
    (∀ env t ssid ch, .subscribe ssid ch ∈ (onSubscribe env t).effects →
      ∃ contract, onUnsubscribe env t = ⟨none,
        [.authorize (env.parseChannel t) env.flags.allowRead, .unsubscribe ssid ch,
          .track contract]⟩) ∧
    (∀ env p q msg msg' ssid ch, env.decodePresence p { status := true } = some msg →
      env.decodePresence q { status := true } = some msg' →
      msg'.key = msg.key → msg'.channel = msg.channel → msg'.changes = some false →
      .subscribe ssid ch ∈ (onPresence env p).effects →
      (onPresence env q).result.2 = true ∧ (onPresence env q).effects = [.unsubscribe ssid ch]) ∧
    (∀ {σ : Type} (sub unsub : Ssid → Bytes → σ → σ),
      (∀ ssid ch s, unsub ssid ch (sub ssid ch s) = s) →
      ∀ env t s ssid ch, .subscribe ssid ch ∈ (onSubscribe env t).effects →
      applySubscriptions sub unsub s
        ((onSubscribe env t).effects ++ (onUnsubscribe env t).effects) = s) := by
  refine ⟨fun _ _ _ _ => onUnsubscribe_of_subscribe,
    fun _ _ _ _ _ _ _ => onPresence_unsubscribe_of_subscribe, fun sub unsub hinv env t s _ _ h => ?_⟩
  obtain ⟨contract, hu⟩ := onUnsubscribe_of_subscribe h
  rw [applySubscriptions_append, applySubscriptions_onSubscribe sub unsub h, hu]
  simp [applySubscriptions, Effect.updateSubscriptions, hinv]

/-- A topic that parses to a static channel under a read-only key. -/
def readOnlyEnv : Env :=
  { Env.refusing with
    parseChannel := fun _ => ⟨Bytes.ofString "k", Bytes.ofString "a/", [1], [], .static⟩
    authorize := fun _ _ => some (⟨1⟩, ⟨1, 2, false, false⟩) }

/-- The subscription state as the list of `(ssid, path)` pairs subscribed to: a topic of
`readOnlyEnv` subscribed and then unsubscribed leaves it empty; and in `presenceEnv` the
leave request `L` removes the presence SSID that the join request `J` added. -/
theorem unsubscribe_undoes_subscribe_pairs :
    (∃ contract, onUnsubscribe readOnlyEnv [] = ⟨none,
      [.authorize (readOnlyEnv.parseChannel []) readOnlyEnv.flags.allowRead,
        .unsubscribe [1, 1] (Bytes.ofString "a/"), .track contract]⟩) ∧
    ((onPresence presenceEnv (Bytes.ofString "L")).result.2 = true ∧
      (onPresence presenceEnv (Bytes.ofString "L")).effects = [.unsubscribe [0, 1, 1] []]) ∧
    applySubscriptions (fun ssid ch s => (ssid, ch) :: s) (fun ssid ch s => s.erase (ssid, ch)) []
      ((onSubscribe readOnlyEnv []).effects ++ (onUnsubscribe readOnlyEnv []).effects) = [] :=
  ⟨unsubscribe_undoes_subscribe.1 readOnlyEnv [] [1, 1] (Bytes.ofString "a/") (by decide),
    unsubscribe_undoes_subscribe.2.1 presenceEnv (Bytes.ofString "J") (Bytes.ofString "L")
      ⟨Bytes.ofString "pk", Bytes.ofString "a", false, some true⟩
      ⟨Bytes.ofString "pk", Bytes.ofString "a", false, some false⟩ [0, 1, 1] []
      (by decide) (by decide) rfl rfl rfl (by decide),
    unsubscribe_undoes_subscribe.2.2 _ _ (fun _ _ _ => List.erase_cons_head _ _) readOnlyEnv [] []
      [1, 1] (Bytes.ofString "a/") (by decide)⟩

end Emitter
