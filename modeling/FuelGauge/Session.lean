import FuelGauge.Gauge.Command

/-!
A session with one gauge on one bus: commands in the order in which they are
given, and in between changes of the bus that the gauge knows nothing of.
-/

namespace FuelGauge

open Calibration (Attempt Phase)

structure Session (β : Type) where
  gauge : Gauge
  bus : β
  deriving DecidableEq, Repr

namespace Session

inductive Request (κ : Type) where
  | command (command : Gauge.Command)
  | adjust (change : κ)
  deriving DecidableEq, Repr

/-- The outcome of a request, and how calibration stands after it. -/
structure Reply where
  result : Except Error Gauge.Answer
  attempt : Attempt
  phase : Phase
  events : List Event

variable {β κ : Type} [Bus β]

def perform {α : Type} (session : Session β) (action : Action Gauge α) :
    Action.Outcome β Gauge α :=
  action.run session.gauge.address session.gauge session.bus

def reply (gauge : Gauge) (result : Except Error Gauge.Answer) (events : List Event) : Reply :=
  ⟨result, gauge.attempt, gauge.phase, events⟩

def step [Adjustable β κ] (session : Session β) : Request κ → Reply × Session β
  | .command command =>
      let outcome := session.perform command.action
      (reply outcome.state outcome.result outcome.events, ⟨outcome.state, outcome.bus⟩)
  | .adjust change =>
      let adjusted := Adjustable.adjust session.bus change
      (reply session.gauge (.ok .done) [], { session with bus := adjusted })

def run [Adjustable β κ] (session : Session β) : List (Request κ) → List Reply × Session β
  | [] => ([], session)
  | request :: rest =>
      let (reply, session) := session.step request
      let (replies, session) := session.run rest
      (reply :: replies, session)

theorem run_append [Adjustable β κ] (session : Session β) (first second : List (Request κ)) :
    session.run (first ++ second) =
      ((session.run first).1 ++ ((session.run first).2.run second).1,
        ((session.run first).2.run second).2) := by
  induction first generalizing session with
  | nil => rfl
  | cons request rest ih => simp only [List.cons_append, run, ih]

theorem length_run [Adjustable β κ] (session : Session β) (requests : List (Request κ)) :
    (session.run requests).1.length = requests.length := by
  induction requests generalizing session with
  | nil => rfl
  | cons request rest ih => simp only [run, List.length_cons, ih]

end Session
end FuelGauge
