import Emitter.Broker.Machine

/-!
# Errors come before every change of state

Every handler checks everything it can fail on before its first call that changes the
connection's subscriptions, the store, the fan-out or the contract stats
(`Effect.mutates`). So an error result comes with no such call, with one exception the spec
documents: `onSubscribe` subscribes before it asks the store for the messages to replay,
and a failed query is reported as `ServerError` with the subscription in place and no stats
recorded.
-/

namespace Emitter

theorem Effect.mutates_of_isKeyCall {e : Effect} (h : e.isKeyCall) : e.mutates = false := by
  cases e <;> simp_all [Effect.isKeyCall, Effect.mutates]

/-- **Errors leave the state untouched.** An error of `onSubscribe` other than
`ServerError`, any error of `onUnsubscribe` or `onPublish`, and `ok = false` from `onLink`,
`onPresence` or `onKeyGen` come with no call that changes subscriptions, the store, the
fan-out or the stats; `onSubscribe`'s `ServerError` comes with exactly one such call, the
subscription. -/
theorem errors_leave_state_untouched :
    (∀ env t e, (onSubscribe env t).result = some e → e ≠ .serverError →
      ∀ x ∈ (onSubscribe env t).effects, x.mutates = false) ∧
    (∀ env t, (onSubscribe env t).result = some .serverError →
      ∃ ssid path, (onSubscribe env t).effects.filter Effect.mutates = [.subscribe ssid path]) ∧
    (∀ env t e, (onUnsubscribe env t).result = some e →
      ∀ x ∈ (onUnsubscribe env t).effects, x.mutates = false) ∧
    (∀ env c packet e, (onPublish env c packet).result = some e →
      ∀ x ∈ (onPublish env c packet).effects, x.mutates = false) ∧
    (∀ env c payload, (onLink env c payload).result.2 = false →
      ∀ x ∈ (onLink env c payload).effects, x.mutates = false) ∧
    (∀ env payload, (onPresence env payload).result.2 = false →
      ∀ x ∈ (onPresence env payload).effects, x.mutates = false) ∧
    (∀ env c payload, (onKeyGen env c payload).result.2 = false →
      ∀ x ∈ (onKeyGen env c payload).effects, x.mutates = false) := by
  refine ⟨fun env t e he hs => ?_, fun env t he => ?_, fun env t e he => ?_,
    fun env c packet e he => ?_, fun env c payload h x hx => ?_, fun env payload h => ?_,
    fun env c payload h x hx => ?_⟩
  · rcases onSubscribe_cases env t rfl with ⟨-, h⟩ | ⟨-, -, h⟩ | ⟨_, _, -, -, ⟨-, h⟩ | ⟨-, -, h⟩ |
      ⟨-, -, _, -, h⟩ | ⟨-, -, _, -, h⟩⟩ <;> simp_all [Effect.mutates]
  · rcases onSubscribe_cases env t rfl with ⟨-, h⟩ | ⟨-, -, h⟩ | ⟨_, _, -, -, ⟨-, h⟩ | ⟨-, -, h⟩ |
      ⟨-, -, _, -, h⟩ | ⟨-, -, _, -, h⟩⟩ <;> simp_all [Effect.mutates]
  · rcases onUnsubscribe_cases env t rfl with ⟨-, h⟩ | ⟨-, -, h⟩ | ⟨_, _, -, -, h⟩ <;>
      simp_all [Effect.mutates]
  · rcases onPublish_cases env c packet rfl with ⟨-, h⟩ | ⟨-, -, h⟩ | ⟨-, -, h⟩ | ⟨-, -, -, h⟩ |
      ⟨_, _, -, -, -, ⟨-, h⟩ | ⟨-, h⟩⟩ <;> simp_all [Effect.mutates]
  · exact Effect.mutates_of_isKeyCall ((onLink_fail h).2 x hx)
  · simp [(onPresence_fail h).2]
  · exact Effect.mutates_of_isKeyCall ((onKeyGen_fail h).2 x hx)

/-- A static channel `k/a/` that the authorizer lets a key with `Read` and `Load` read and
lets nobody write; the store fails every query. -/
def storeDownEnv : Env :=
  { Env.refusing with
    parseChannel := fun _ => ⟨Bytes.ofString "k", Bytes.ofString "a/", [1], [], .static⟩
    authorize := fun _ p => if p = 2 then some (⟨1⟩, ⟨1, 2 ||| 16, false, false⟩) else none
    query := fun _ _ _ _ => .error .serverError }

/-- A SUBSCRIBE with the store down fails after subscribing; a refused publish has only its
authorization call; and with nothing parsed or decoded every handler fails. -/
theorem errors_leave_state_untouched_storeDown :
    ((onSubscribe Env.refusing []).result = some .badRequest ∧
      ∀ x ∈ (onSubscribe Env.refusing []).effects, x.mutates = false) ∧
    ((onSubscribe storeDownEnv []).result = some .serverError ∧
      ∃ ssid path, (onSubscribe storeDownEnv []).effects.filter Effect.mutates =
        [.subscribe ssid path]) ∧
    ((onUnsubscribe Env.refusing []).result = some .badRequest ∧
      ∀ x ∈ (onUnsubscribe Env.refusing []).effects, x.mutates = false) ∧
    ((onPublish storeDownEnv (Conn.fresh []) ⟨Bytes.ofString "k/a/", [], 0, false⟩).result =
        some .unauthorized ∧
      ∀ x ∈ (onPublish storeDownEnv (Conn.fresh []) ⟨Bytes.ofString "k/a/", [], 0, false⟩).effects,
        x.mutates = false) ∧
    ((onLink Env.refusing (Conn.fresh []) []).result.2 = false ∧
      ∀ x ∈ (onLink Env.refusing (Conn.fresh []) []).effects, x.mutates = false) ∧
    ((onPresence Env.refusing []).result.2 = false ∧
      ∀ x ∈ (onPresence Env.refusing []).effects, x.mutates = false) ∧
    ((onKeyGen Env.refusing (Conn.fresh []) []).result.2 = false ∧
      ∀ x ∈ (onKeyGen Env.refusing (Conn.fresh []) []).effects, x.mutates = false) := by
  have h1 : (onSubscribe Env.refusing []).result = some .badRequest := by decide
  have h2 : (onSubscribe storeDownEnv []).result = some .serverError := by decide
  have h3 : (onUnsubscribe Env.refusing []).result = some .badRequest := by decide
  have h4 : (onPublish storeDownEnv (Conn.fresh []) ⟨Bytes.ofString "k/a/", [], 0, false⟩).result =
      some .unauthorized := by decide
  have h5 : (onLink Env.refusing (Conn.fresh []) []).result.2 = false := by decide
  have h6 : (onPresence Env.refusing []).result.2 = false := by decide
  have h7 : (onKeyGen Env.refusing (Conn.fresh []) []).result.2 = false := by decide
  exact ⟨⟨h1, errors_leave_state_untouched.1 _ _ _ h1 (by decide)⟩,
    ⟨h2, errors_leave_state_untouched.2.1 _ _ h2⟩, ⟨h3, errors_leave_state_untouched.2.2.1 _ _ _ h3⟩,
    ⟨h4, errors_leave_state_untouched.2.2.2.1 _ _ _ _ h4⟩,
    ⟨h5, errors_leave_state_untouched.2.2.2.2.1 _ _ _ h5⟩,
    ⟨h6, errors_leave_state_untouched.2.2.2.2.2.1 _ _ h6⟩,
    ⟨h7, errors_leave_state_untouched.2.2.2.2.2.2 _ _ _ h7⟩⟩

end Emitter
