/-!
Whether a calibration has been attempted. The first run decides; later runs
leave the answer as it is, so a failed run is never taken for pending again.
-/

namespace FuelGauge.Calibration

inductive Attempt where
  | notStarted
  | failed
  | succeeded
  deriving DecidableEq, Repr

namespace Attempt

def name : Attempt → String
  | .notStarted => "NotStarted"
  | .failed => "Attempted"
  | .succeeded => "Done"

def all : List Attempt := [.notStarted, .failed, .succeeded]

def isPending : Attempt → Bool
  | .notStarted => true
  | _ => false

def record (attempt : Attempt) (success : Bool) : Attempt :=
  match attempt with
  | .notStarted => if success then .succeeded else .failed
  | other => other

theorem mem_all (attempt : Attempt) : attempt ∈ all := by cases attempt <;> decide

theorem isPending_iff {attempt : Attempt} : attempt.isPending = true ↔ attempt = .notStarted := by
  cases attempt <;> simp [isPending]

theorem isPending_record (attempt : Attempt) (success : Bool) :
    (attempt.record success).isPending = false := by
  cases attempt <;> cases success <;> rfl

theorem record_of_not_pending {attempt : Attempt} (settled : attempt.isPending = false)
    (success : Bool) : attempt.record success = attempt := by
  cases attempt
  · contradiction
  · rfl
  · rfl

end Attempt
end FuelGauge.Calibration
