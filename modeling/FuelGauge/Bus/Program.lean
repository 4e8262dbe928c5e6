import FuelGauge.Bus

/-!
Straight-line use of a bus: a program is a tree of accesses, each followed by
what is done with its outcome. Running a program against a bus yields its
value, the bus afterwards and the events in order.
-/

namespace FuelGauge

inductive Program (α : Type) where
  | done (value : α)
  | write (register value : UInt8) (next : Bool → Program α)
  | read (register : UInt8) (length : Nat) (next : Option (Vector UInt8 length) → Program α)
  | delay (nanoseconds : Nat) (next : Program α)
  | log (record : Log.Record) (next : Program α)

namespace Program

variable {α γ δ : Type}

def bind (program : Program α) (rest : α → Program γ) : Program γ :=
  match program with
  | .done value => rest value
  | .write register value next => .write register value fun accepted => (next accepted).bind rest
  | .read register length next => .read register length fun answer => (next answer).bind rest
  | .delay nanoseconds next => .delay nanoseconds (next.bind rest)
  | .log record next => .log record (next.bind rest)

theorem bind_done (program : Program α) : program.bind .done = program := by
  induction program with
  | done value => rfl
  | write register value next ih => simp only [bind, ih]
  | read register length next ih => simp only [bind, ih]
  | delay nanoseconds next ih => simp only [bind, ih]
  | log record next ih => simp only [bind, ih]

theorem bind_assoc (program : Program α) (first : α → Program γ) (second : γ → Program δ) :
    (program.bind first).bind second = program.bind fun value => (first value).bind second := by
  induction program with
  | done value => rfl
  | write register value next ih => simp only [bind, ih]
  | read register length next ih => simp only [bind, ih]
  | delay nanoseconds next ih => simp only [bind, ih]
  | log record next ih => simp only [bind, ih]

structure Execution (β α : Type) where
  value : α
  bus : β
  events : List Event

namespace Execution

variable {β : Type}

/-- The same execution with events put before it. -/
def after (events : List Event) (execution : Execution β α) : Execution β α :=
  { execution with events := events ++ execution.events }

theorem after_after (first second : List Event) (execution : Execution β α) :
    (execution.after second).after first = execution.after (first ++ second) := by
  simp [after, List.append_assoc]

end Execution

variable {β : Type} [Bus β]

def run (address : UInt8) : Program α → β → Execution β α
  | .done value, bus => ⟨value, bus, []⟩
  | .write register value next, bus =>
      let (accepted, bus) := Bus.write bus address register value
      ((next accepted).run address bus).after [.write address register value accepted]
  | .read register length next, bus =>
      let (answer, bus) := Bus.read bus address register length
      ((next answer).run address bus).after
        [.read address register length (answer.map Vector.toList)]
  | .delay nanoseconds next, bus => (next.run address bus).after [.delay nanoseconds]
  | .log record next, bus => (next.run address bus).after [.log record]

theorem run_bind (address : UInt8) (program : Program α) (rest : α → Program γ) (bus : β) :
    (program.bind rest).run address bus =
      ((rest (program.run address bus).value).run address (program.run address bus).bus).after
        (program.run address bus).events := by
  induction program generalizing bus with
  | done value => rfl
  | write register value next ih =>
    simp only [bind, run, ih, Execution.after_after]
    rfl
  | read register length next ih =>
    simp only [bind, run, ih, Execution.after_after]
    rfl
  | delay nanoseconds next ih =>
    simp only [bind, run, ih, Execution.after_after]
    rfl
  | log record next ih =>
    simp only [bind, run, ih, Execution.after_after]
    rfl

end Program
end FuelGauge
