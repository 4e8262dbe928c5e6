import FuelGauge.Calibration
import FuelGauge.Proofs.Flash.Checksum
import FuelGauge.Proofs.Transfers
import Mathlib.Data.List.Basic

/-!
The one sequence of accesses that a calibration follows. It is written out here
as numbers on the bus. The only thing in it that the gauge decides is what the
window shows after each field was written: the committed byte is the complement
of what was read, and is read back only where the configuration asks for it.
-/

namespace FuelGauge.Calibration

open Flash (Field Window)

def fieldAccesses (config : Config) (address : UInt8) (field : Field) (window : Window) :
    List Event := [
  .write address 0x3E field.subclass true,
  .write address 0x3F field.block true,
  .write address field.address (Word.high (config.value field)) true,
  .write address (field.address + 1) (Word.low (config.value field)) true,
  .read address 0x40 32 (some window.toList),
  .delay 5000000,
  .write address 0x60 (Flash.complement window.toList) true] ++
  if config.verifyChecksum then [
    .delay 5000000,
    .read address 0x60 1 (some [Flash.complement window.toList])]
  else []

/-! A field is written, and then its checksum is committed. -/

def writeAccesses (config : Config) (address : UInt8) (field : Field) : List Event := [
  .write address 0x3E field.subclass true,
  .write address 0x3F field.block true,
  .write address field.address (Word.high (config.value field)) true,
  .write address (field.address + 1) (Word.low (config.value field)) true]

def commitAccesses (config : Config) (address : UInt8) (window : Window) : List Event := [
  .read address 0x40 32 (some window.toList),
  .delay 5000000,
  .write address 0x60 (Flash.complement window.toList) true] ++
  if config.verifyChecksum then [
    .delay 5000000,
    .read address 0x60 1 (some [Flash.complement window.toList])]
  else []

theorem fieldAccesses_eq (config : Config) (address : UInt8) (field : Field) (window : Window) :
    fieldAccesses config address field window =
      writeAccesses config address field ++ commitAccesses config address window := rfl

theorem forall_mem_fieldAccesses {P : Event → Prop} {config : Config} {address : UInt8}
    {field : Field} {window : Window}
    (writes : ∀ event ∈ writeAccesses config address field, P event)
    (shown : P (.read address 0x40 32 (some window.toList)))
    (waiting : P (.delay 5000000))
    (committed : P (.write address 0x60 (Flash.complement window.toList) true))
    (readBack : P (.read address 0x60 1 (some [Flash.complement window.toList]))) :
    ∀ event ∈ fieldAccesses config address field window, P event := by
  rw [fieldAccesses_eq, List.forall_mem_append]
  refine ⟨writes, ?_⟩
  cases asked : config.verifyChecksum with
  | false => simp [commitAccesses, asked, shown, waiting, committed]
  | true => simp [commitAccesses, asked, shown, waiting, committed, readBack]

/-- The accesses between which the gauge may be unsealed. -/
def openAccesses (config : Config) (address : UInt8) (windows : Field → Window) : List Event :=
  (controlAccesses address 0x0414 ++ controlAccesses address 0x3672 ++
      [.write address 0x61 0x00 true]) ++
    ([.designCapacity, .terminateVoltage, .finalVoltage].flatMap fun field =>
      fieldAccesses config address field (windows field)) ++
    (controlAccesses address 0x0041 ++ [.delay 100000000])

def sealAccesses (address : UInt8) : List Event := controlAccesses address 0x0020

def referenceAccesses (config : Config) (address : UInt8) (windows : Field → Window) :
    List Event :=
  openAccesses config address windows ++ sealAccesses address

theorem forall_mem_openAccesses {P : Event → Prop} {config : Config} {address : UInt8}
    {windows : Field → Window}
    (words : ∀ word ∈ [0x0414, 0x3672, 0x0041], ∀ event ∈ controlAccesses address word, P event)
    (control : P (.write address 0x61 0x00 true))
    (fields : ∀ field, ∀ event ∈ fieldAccesses config address field (windows field), P event)
    (waiting : P (.delay 100000000)) :
    ∀ event ∈ openAccesses config address windows, P event := by
  simp only [List.forall_mem_cons, List.not_mem_nil, false_implies, implies_true, and_true] at words
  obtain ⟨first, second, reset⟩ := words
  simp only [openAccesses, List.flatMap_cons, List.flatMap_nil, List.append_nil,
    List.forall_mem_append, List.forall_mem_singleton]
  exact ⟨⟨⟨⟨first, second⟩, control⟩, fields _, fields _, fields _⟩, reset, waiting⟩

/-- The accesses of an instruction that succeeds while a checksum is remembered.
What the window shows is not known beforehand, so reading it has no entry. -/
def Instruction.accesses (address checksum : UInt8) : Instruction → List Event
  | .enter _ | .readWindow => []
  | .issue word => controlAccesses address word.code
  | .write register value => [.write address register value true]
  | .delay nanoseconds => [.delay nanoseconds]
  | .commit => [.write address 0x60 checksum true]
  | .verify _ => [.read address 0x60 1 (some [checksum])]

variable {β : Type} [Bus β] (address : UInt8) (progress : Progress) (bus : β)

theorem run_verify (field : Field) :
    (Instruction.verify field).perform.run address progress bus =
      let answer := Bus.read bus address Register.blockChecksum 1
      match answer.1 with
      | none => ⟨.error .bus, progress, answer.2, [.read address 0x60 1 none]⟩
      | some bytes =>
        let found := Transfer.onlyByte bytes
        if found = progress.checksum then
          ⟨.ok (), progress, answer.2, [.read address 0x60 1 (some [found])]⟩
        else
          ⟨.error .checksumMismatch, progress, answer.2,
            [.read address 0x60 1 (some [found]),
              .log (.checksumMismatch field progress.checksum found)]⟩ := by
  simp only [Instruction.perform, Transfer.readByte, Transfer.readBytes, Action.run_bind,
    Action.run_read]
  cases (Bus.read bus address Register.blockChecksum 1).1 with
  | none => rfl
  | some bytes =>
    have found : bytes[0] = Transfer.onlyByte bytes := rfl
    by_cases same : Transfer.onlyByte bytes = progress.checksum
    · simp [Action.run_pure, Action.run_get, Action.Outcome.after, found, same,
        Transfer.toList_single, Register.blockChecksum]
    · simp [Action.run_pure, Action.run_get, Action.run_bind, Action.run_log, Action.run_fail,
        Action.Outcome.after, found, same, Transfer.toList_single, Register.blockChecksum]

theorem verify_follows (field : Field) :
    ((Instruction.verify field).perform.run address progress bus).Follows
        [.read address 0x60 1 (some [progress.checksum])] ∧
      ((Instruction.verify field).perform.run address progress bus).state = progress := by
  simp only [run_verify]
  cases (Bus.read bus address Register.blockChecksum 1).1 with
  | none => exact ⟨.alone (.read ..), rfl⟩
  | some bytes =>
    by_cases same : Transfer.onlyByte bytes = progress.checksum
    · simp only [same, if_true, and_true]
      exact .completed ()
    · simp only [same, if_false, and_true]
      exact .alone (.mismatch address same)

theorem perform_follows (instruction : Instruction) (settled : instruction ≠ .readWindow) :
    (instruction.perform.run address progress bus).Follows
      (instruction.accesses address progress.checksum) := by
  cases instruction with
  | enter phase => exact .completed ()
  | issue word => exact Transfer.issue_follows address progress bus word
  | write register value => exact Action.follows_write register value
  | delay nanoseconds => exact Action.follows_delay nanoseconds
  | readWindow => contradiction
  | commit => exact Action.follows_write _ _
  | verify field => exact (verify_follows address progress bus field).1

theorem run_readWindow :
    Instruction.readWindow.perform.run address progress bus =
      let answer := Bus.read bus address Register.blockData Flash.blockLength
      match answer.1 with
      | none => ⟨.error .bus, progress, answer.2, [.read address 0x40 32 none]⟩
      | some window =>
        ⟨.ok (), { progress with checksum := Flash.Window.checksum window }, answer.2,
          [.read address 0x40 32 (some window.toList)]⟩ := by
  simp only [Instruction.perform, Transfer.readBytes, Flash.blockLength, Action.run_bind,
    Action.run_read, Action.run_modify]
  cases (Bus.read bus address Register.blockData 32).1 <;> rfl

end FuelGauge.Calibration
