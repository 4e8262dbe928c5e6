import FuelGauge.Flash.Field

/-!
The phases of a calibration run, in the order in which they are entered. A run
that fails stays in the phase that failed.
-/

namespace FuelGauge.Calibration

open Flash (Field)

inductive Phase where
  | idle
  | unsealing
  | unsealed
  | selectingSubclass (field : Field)
  | writingField (field : Field)
  | recomputingChecksum (field : Field)
  | committingChecksum (field : Field)
  | resetting
  | sealing
  | isSealed
  deriving DecidableEq, Repr

namespace Phase

def name : Phase → String
  | .idle => "Idle"
  | .unsealing => "Unsealing"
  | .unsealed => "Unsealed"
  | .selectingSubclass field => "SelectingSubclass(" ++ field.name ++ ")"
  | .writingField field => "WritingField(" ++ field.name ++ ")"
  | .recomputingChecksum field => "RecomputingChecksum(" ++ field.name ++ ")"
  | .committingChecksum field => "CommittingChecksum(" ++ field.name ++ ")"
  | .resetting => "Resetting"
  | .sealing => "Sealing"
  | .isSealed => "Sealed"

def ofField (field : Field) : List Phase :=
  [.selectingSubclass field, .writingField field, .recomputingChecksum field,
    .committingChecksum field]

/-- The phases of a run that succeeds. -/
def inOrder : List Phase :=
  [.idle, .unsealing, .unsealed] ++ Field.inOrder.flatMap ofField ++
    [.resetting, .sealing, .isSealed]

theorem mem_inOrder (phase : Phase) : phase ∈ inOrder := by
  cases phase with
  | selectingSubclass field => cases field <;> decide
  | writingField field => cases field <;> decide
  | recomputingChecksum field => cases field <;> decide
  | committingChecksum field => cases field <;> decide
  | _ => decide

theorem inOrder_nodup : inOrder.Nodup := by decide

end Phase
end FuelGauge.Calibration
