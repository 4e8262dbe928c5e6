import FuelGauge.Bus.Program

/-!
Programs that keep a state and may fail. A failure ends the action where it
happens; the state reached until then survives it.
-/

namespace FuelGauge

def Action (σ α : Type) : Type := σ → Program (Except Error α × σ)

namespace Action

variable {σ τ α γ δ : Type}

protected def pure (value : α) : Action σ α := fun state => .done (.ok value, state)

protected def bind (action : Action σ α) (rest : α → Action σ γ) : Action σ γ := fun state =>
  (action state).bind fun
    | (.ok value, state) => rest value state
    | (.error error, state) => .done (.error error, state)

instance : Monad (Action σ) where
  pure := Action.pure
  bind := Action.bind

theorem map_id (action : Action σ α) : id <$> action = action := by
  funext state
  change (action state).bind _ = action state
  conv => rhs; rw [← Program.bind_done (action state)]
  congr 1
  funext ended
  rcases ended with ⟨_ | _, _⟩ <;> rfl

theorem bind_bind (action : Action σ α) (first : α → Action σ γ) (second : γ → Action σ δ) :
    (action >>= first) >>= second = action >>= fun value => first value >>= second := by
  funext state
  change Program.bind (Program.bind _ _) _ = Program.bind _ _
  rw [Program.bind_assoc]
  congr 1
  funext ended
  rcases ended with ⟨_ | _, _⟩ <;> rfl

instance : LawfulMonad (Action σ) := .mk' _ map_id (fun _ _ => rfl) bind_bind

def get : Action σ σ := fun state => .done (.ok state, state)

def modify (change : σ → σ) : Action σ Unit := fun state => .done (.ok (), change state)

def fail (error : Error) : Action σ α := fun state => .done (.error error, state)

def ofResult (result : Except Error α) : Action σ α := fun state => .done (result, state)

/-- On a failure, goes on with what is done about it. -/
def recover (action : Action σ α) (handle : Error → Action σ α) : Action σ α := fun state =>
  (action state).bind fun
    | (.ok value, state) => .done (.ok value, state)
    | (.error error, state) => handle error state

/-- Runs an action on a state of its own. It cannot fail: result and final
state of the inner action are its value. -/
def within (inner : Action τ α) (state : τ) : Action σ (Except Error α × τ) := fun outer =>
  (inner state).bind fun ended => .done (.ok ended, outer)

def write (register value : UInt8) : Action σ Unit := fun state =>
  .write register value fun accepted => .done (if accepted then .ok () else .error .bus, state)

def read (register : UInt8) (length : Nat) : Action σ (Vector UInt8 length) := fun state =>
  .read register length fun
    | some bytes => .done (.ok bytes, state)
    | none => .done (.error .bus, state)

def delay (nanoseconds : Nat) : Action σ Unit := fun state =>
  .delay nanoseconds (.done (.ok (), state))

def log (record : Log.Record) : Action σ Unit := fun state =>
  .log record (.done (.ok (), state))

structure Outcome (β σ α : Type) where
  result : Except Error α
  state : σ
  bus : β
  events : List Event

namespace Outcome

variable {β : Type}

def after (events : List Event) (outcome : Outcome β σ α) : Outcome β σ α :=
  { outcome with events := events ++ outcome.events }

end Outcome

variable {β : Type} [Bus β]

def run (action : Action σ α) (address : UInt8) (state : σ) (bus : β) : Outcome β σ α :=
  let execution := (action state).run address bus
  ⟨execution.value.1, execution.value.2, execution.bus, execution.events⟩

variable (address : UInt8) (state : σ) (bus : β)

theorem run_pure (value : α) :
    (pure value : Action σ α).run address state bus = ⟨.ok value, state, bus, []⟩ := rfl

theorem run_get : (get : Action σ σ).run address state bus = ⟨.ok state, state, bus, []⟩ := rfl

theorem run_modify (change : σ → σ) :
    (modify change).run address state bus = ⟨.ok (), change state, bus, []⟩ := rfl

theorem run_fail (error : Error) :
    (fail error : Action σ α).run address state bus = ⟨.error error, state, bus, []⟩ := rfl

theorem run_ofResult (result : Except Error α) :
    (ofResult result : Action σ α).run address state bus = ⟨result, state, bus, []⟩ := rfl

theorem run_log (record : Log.Record) :
    (log record : Action σ Unit).run address state bus =
      ⟨.ok (), state, bus, [.log record]⟩ := rfl

theorem run_delay (nanoseconds : Nat) :
    (delay nanoseconds : Action σ Unit).run address state bus =
      ⟨.ok (), state, bus, [.delay nanoseconds]⟩ := rfl

theorem run_write (register value : UInt8) :
    (write register value : Action σ Unit).run address state bus =
      let answer := Bus.write bus address register value
      ⟨if answer.1 then .ok () else .error .bus, state, answer.2,
        [.write address register value answer.1]⟩ := rfl

theorem run_read (register : UInt8) (length : Nat) :
    (read register length : Action σ (Vector UInt8 length)).run address state bus =
      let answer := Bus.read bus address register length
      ⟨answer.1.elim (.error .bus) .ok, state, answer.2,
        [.read address register length (answer.1.map Vector.toList)]⟩ := by
  simp only [run, read, Program.run]
  cases (Bus.read bus address register length).1 <;> rfl

theorem run_bind (action : Action σ α) (rest : α → Action σ γ) :
    (action >>= rest).run address state bus =
      let first := action.run address state bus
      match first.result with
      | .ok value => ((rest value).run address first.state first.bus).after first.events
      | .error error => ⟨.error error, first.state, first.bus, first.events⟩ := by
  change (Action.bind action rest).run address state bus = _
  simp only [run, Action.bind, Program.run_bind]
  rcases (Program.run address (action state) bus).value with ⟨_ | _, _⟩
  · simp [Program.run, Program.Execution.after]
  · rfl

theorem run_recover (action : Action σ α) (handle : Error → Action σ α) :
    (action.recover handle).run address state bus =
      let first := action.run address state bus
      match first.result with
      | .ok value => ⟨.ok value, first.state, first.bus, first.events⟩
      | .error error => ((handle error).run address first.state first.bus).after first.events := by
  simp only [run, recover, Program.run_bind]
  rcases (Program.run address (action state) bus).value with ⟨_ | _, _⟩
  · rfl
  · simp [Program.run, Program.Execution.after]

theorem run_within (inner : Action τ α) (initial : τ) :
    (within inner initial : Action σ (Except Error α × τ)).run address state bus =
      let ended := inner.run address initial bus
      ⟨.ok (ended.result, ended.state), state, ended.bus, ended.events⟩ := by
  simp only [run, within, Program.run_bind]
  simp [Program.run, Program.Execution.after]

end Action
end FuelGauge
