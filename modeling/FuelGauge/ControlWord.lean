import FuelGauge.Word

/-!
The words written to the control register. Three are questions answered in the
same register; the others change the state of the gauge.
-/

namespace FuelGauge

inductive ControlWord where
  | controlStatus
  | deviceType
  | firmwareVersion
  | seal
  | reset
  | unsealFirst
  | unsealSecond
  deriving DecidableEq, Repr

namespace ControlWord

def code : ControlWord → UInt16
  | .controlStatus => 0x0000
  | .deviceType => 0x0001
  | .firmwareVersion => 0x0002
  | .seal => 0x0020
  | .reset => 0x0041
  | .unsealFirst => 0x0414
  | .unsealSecond => 0x3672

def low (word : ControlWord) : UInt8 := Word.low word.code

def high (word : ControlWord) : UInt8 := Word.high word.code

end ControlWord
end FuelGauge
