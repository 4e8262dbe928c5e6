import FuelGauge.Calibration.Instruction

/-!
What a calibration does, as a list of instructions. The gauge is unsealed, each
field is written through the window and committed by the checksum of the window
as the gauge shows it afterwards, and a soft reset reloads data flash.
-/

namespace FuelGauge.Calibration

open Flash (Field)

/-- The window is read from its first register whichever block is selected. -/
def fieldScript (config : Config) (field : Field) : List Instruction :=
  let (high, low) := Word.bigEndian (config.value field)
  [.enter (.selectingSubclass field),
    .write Register.dataClass field.subclass,
    .write Register.dataBlock field.block,
    .enter (.writingField field),
    .write field.address high,
    .write (field.address + 1) low,
    .enter (.recomputingChecksum field),
    .readWindow,
    .delay settleTime,
    .enter (.committingChecksum field),
    .commit] ++
  if config.verifyChecksum then [.delay settleTime, .verify field] else []

def unsealScript : List Instruction := [
  .enter .unsealing,
  .issue .unsealFirst,
  .issue .unsealSecond,
  .enter .unsealed,
  .write Register.blockControl 0]

def resetScript : List Instruction := [
  .enter .resetting,
  .issue .reset,
  .delay resetTime]

/-- Everything up to the final seal. -/
def openScript (config : Config) : List Instruction :=
  unsealScript ++ Field.inOrder.flatMap (fieldScript config) ++ resetScript

def sealScript : List Instruction := [
  .enter .sealing,
  .issue .seal,
  .enter .isSealed]

def entered (script : List Instruction) : List Phase :=
  script.filterMap fun
    | .enter phase => some phase
    | _ => none

theorem entered_append (first second : List Instruction) :
    entered (first ++ second) = entered first ++ entered second :=
  List.filterMap_append ..

theorem entered_fieldScript (config : Config) (field : Field) :
    entered (fieldScript config field) = Phase.ofField field := by
  unfold fieldScript
  rw [entered_append]
  split <;> rfl

theorem entered_script (config : Config) :
    Phase.idle :: entered (openScript config ++ sealScript) = Phase.inOrder := by
  simp only [openScript, Field.inOrder, List.flatMap_cons, List.flatMap_nil, entered_append,
    entered_fieldScript]
  rfl

end FuelGauge.Calibration
