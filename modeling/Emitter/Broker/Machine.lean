import Emitter.Broker.Handlers

/-!
# A connection as a state machine

The connection's reader hands each MQTT packet to its handler, one at a time. A step
handles one packet and applies the handler's effects to the connection; a run is a list
of packets, each with the collaborators' behaviour at the time it is handled, so that a
statement about every run holds however the authorizer, the store or the key provider
change between packets.

A run is observed in two ways: the connection it ends in (`Conn.runState`), and its trace,
every effect of every step paired with the collaborators of that step (`Conn.trace`).
Two principles are proved once here: what every step preserves, every run preserves
(`Conn.runState_invariant`); and the trace is read step by step, each step of the run's
history (`Conn.history`) with the connection it is handled on, so that the trace is the
steps' effects in order (`Conn.trace_eq`) and what a projection of it shows is what each
step's effects show (`Conn.trace_filterMap`).
-/

namespace Emitter

/-- An MQTT packet handed to a handler. -/
inductive Packet
  | connect (username : Bytes)
  | subscribe (topic : Bytes)
  | unsubscribe (topic : Bytes)
  | publish (packet : Publish)

/-- A new connection: its id, and no username or links yet. -/
def Conn.fresh (id : Bytes) : Conn :=
  ⟨id, [], ∅⟩

/-- The effects of handling one packet on the connection. -/
def Conn.handle (env : Env) (c : Conn) : Packet → List Effect
  | .connect _ => []
  | .subscribe topic => (onSubscribe env topic).effects
  | .unsubscribe topic => (onUnsubscribe env topic).effects
  | .publish packet => (onPublish env c packet).effects

/-- One step: CONNECT records the username; any other packet is handled and its effects
applied to the connection. -/
def Conn.step (env : Env) (c : Conn) : Packet → Conn
  | .connect username => (onConnect c username).1
  | p => (c.handle env p).foldl Conn.apply c

/-- The connection after a run. -/
def Conn.runState (c : Conn) (steps : List (Env × Packet)) : Conn :=
  steps.foldl (fun c s => c.step s.1 s.2) c

/-- The effects of a run, each with the collaborators of its step. -/
def Conn.trace (c : Conn) : List (Env × Packet) → List (Env × Effect)
  | [] => []
  | (env, p) :: rest => (c.handle env p).map (env, ·) ++ (c.step env p).trace rest

/-- Each step of a run with the connection it is handled on. -/
def Conn.history (c : Conn) : List (Env × Packet) → List (Env × Conn × Packet)
  | [] => []
  | (env, p) :: rest => (env, c, p) :: (c.step env p).history rest

/-- A run's trace, step by step: the effects of each step of its history, each with the
collaborators of that step. -/
theorem Conn.trace_eq (c : Conn) (steps : List (Env × Packet)) :
    c.trace steps = (c.history steps).flatMap fun s => (s.2.1.handle s.1 s.2.2).map (s.1, ·) := by
  induction steps generalizing c with
  | nil => rfl
  | cons s steps ih =>
    obtain ⟨env, p⟩ := s
    rw [Conn.trace, Conn.history, List.flatMap_cons, ih]

/-- What a run's trace shows through a projection of its effects is what each step of its
history shows, in order. -/
theorem Conn.trace_filterMap {β : Type} (f : Effect → Option β) (c : Conn)
    (steps : List (Env × Packet)) :
    (c.trace steps).filterMap (fun x => f x.2) =
      (c.history steps).flatMap fun s => (s.2.1.handle s.1 s.2.2).filterMap f := by
  rw [Conn.trace_eq, List.filterMap_flatMap]
  congr 1
  funext s
  rw [List.filterMap_map]
  rfl

/-- A step writes the links of its effects and keeps the id. -/
theorem Conn.step_eq (env : Env) (c : Conn) (p : Packet) :
    c.step env p = match p with
      | .connect username => { c with username }
      | p => { c with links := c.links.writeAll ((c.handle env p).filterMap Effect.linkWrite) } := by
  cases p <;> simp [Conn.step, onConnect, Conn.foldl_apply]

@[simp] theorem Conn.id_step (env : Env) (c : Conn) (p : Packet) : (c.step env p).id = c.id := by
  rw [Conn.step_eq]; split <;> rfl

theorem Conn.links_step (env : Env) (c : Conn) (p : Packet) :
    (c.step env p).links = c.links.writeAll ((c.handle env p).filterMap Effect.linkWrite) := by
  rw [Conn.step_eq]; cases p <;> rfl

/-- **What every step preserves, every run preserves.** -/
theorem Conn.runState_invariant {I : Conn → Prop}
    (h : ∀ (env : Env) (c : Conn) (p : Packet), I c → I (c.step env p)) {c : Conn} (hc : I c) (steps : List (Env × Packet)) :
    I (c.runState steps) := by
  induction steps generalizing c with
  | nil => exact hc
  | cons s steps ih => exact ih (h s.1 c s.2 hc)

@[simp] theorem Conn.id_runState (c : Conn) (steps : List (Env × Packet)) :
    (c.runState steps).id = c.id :=
  @Conn.runState_invariant (fun c' => c'.id = c.id)
    (fun env c' p h => (Conn.id_step env c' p).trans h) c rfl steps

end Emitter
