import FuelGauge.Config
import FuelGauge.Transfer

/-!
The instructions a calibration is made of, and what each does. The only things
remembered from one to the next are the phase and the checksum of the window
that was last read: a failure leaves both as they are.
-/

namespace FuelGauge.Calibration

open Flash (Field)

inductive Instruction where
  | enter (phase : Phase)
  | issue (word : ControlWord)
  | write (register : Register) (value : UInt8)
  | delay (nanoseconds : Nat)
  /-- Reads the whole window and remembers its checksum. -/
  | readWindow
  /-- Writes the remembered checksum. -/
  | commit
  /-- Reads the committed checksum back; it must be the remembered one. -/
  | verify (field : Field)
  deriving DecidableEq, Repr

structure Progress where
  phase : Phase := .idle
  checksum : UInt8 := 0
  deriving DecidableEq, Repr

def Instruction.perform : Instruction → Action Progress Unit
  | .enter phase => do
      Action.log (.transition (← Action.get).phase phase)
      Action.modify fun progress => { progress with phase }
  | .issue word => Transfer.issue word
  | .write register value => Action.write register value
  | .delay nanoseconds => Action.delay nanoseconds
  | .readWindow => do
      let window ← Transfer.readBytes Register.blockData Flash.blockLength
      Action.modify fun progress => { progress with checksum := Flash.Window.checksum window }
  | .commit => do
      Action.write Register.blockChecksum (← Action.get).checksum
  | .verify field => do
      let found ← Transfer.readByte Register.blockChecksum
      let expected := (← Action.get).checksum
      unless found = expected do
        Action.log (.checksumMismatch field expected found)
        Action.fail .checksumMismatch

def execute : List Instruction → Action Progress Unit
  | [] => pure ()
  | instruction :: rest => do
      instruction.perform
      execute rest

theorem execute_append (first second : List Instruction) :
    execute (first ++ second) = (do execute first; execute second) := by
  induction first with
  | nil => simp only [List.nil_append, execute, pure_bind]
  | cons instruction rest ih => simp only [List.cons_append, execute, ih, bind_assoc]

end FuelGauge.Calibration
