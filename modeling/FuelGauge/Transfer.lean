import FuelGauge.Action
import FuelGauge.ControlWord

/-!
Transfers in the units of the gauge: byte registers, little-endian words, and
control words, whose two bytes are latched one after the other.
-/

namespace FuelGauge.Transfer

variable {σ : Type}

/-- A read of no bytes needs no bus. -/
def readBytes (register : Register) : (length : Nat) → Action σ (Vector UInt8 length)
  | 0 => pure #v[]
  | length + 1 => Action.read register (length + 1)

def readByte (register : Register) : Action σ UInt8 := do
  let bytes ← readBytes register 1
  pure bytes[0]

def readWord (register : Register) : Action σ UInt16 := do
  let bytes ← readBytes register 2
  pure (Word.ofBytes bytes[0] bytes[1])

/-- The gauge must settle between the bytes. A low byte that was refused is not
followed by a high byte, so no word is ever put together from two. -/
def issue (word : ControlWord) : Action σ Unit := do
  Action.write Register.controlLow word.low
  Action.delay settleTime
  Action.write Register.controlHigh word.high

def ask (word : ControlWord) : Action σ UInt16 := do
  issue word
  readWord Register.controlLow

end FuelGauge.Transfer
