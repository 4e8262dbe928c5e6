import FuelGauge.Text

/-!
A physical reading, split into wholes and millionths. Both parts carry the sign
of the reading: minus one and a half is `⟨-1, -500000⟩`. Division truncates, so
the split of a number of millionths is its quotient and remainder by a million;
a quotient too large for the wholes keeps its low 32 bits.
-/

namespace FuelGauge

structure Quantity where
  whole : Int32
  millionths : Int32
  deriving DecidableEq, Repr

namespace Quantity

def ofMicro (micro : Int64) : Quantity :=
  ⟨(micro / 1000000).toInt32, (micro % 1000000).toInt32⟩

def toMicro (quantity : Quantity) : Int64 :=
  quantity.whole.toInt64 * 1000000 + quantity.millionths.toInt64

def ofMilli (milli : Int32) : Quantity :=
  ⟨milli / 1000, milli % 1000 * 1000⟩

def text (quantity : Quantity) : String :=
  Text.record "SensorValue" [
    ("val1", toString quantity.whole.toInt),
    ("val2", toString quantity.millionths.toInt)]

/-! The units of the gauge's registers. -/

/-- From millivolts to volts. -/
def ofVoltage (word : UInt16) : Quantity := ofMilli (Int32.ofNat word.toNat)

/-- From milliampere-hours to ampere-hours. -/
def ofCapacity (word : UInt16) : Quantity := ofMilli (Int32.ofNat word.toNat)

/-- From signed milliamperes to amperes. -/
def ofCurrent (word : Int16) : Quantity := ofMilli word.toInt32

/-- From tenths of a kelvin to degrees Celsius. -/
def ofTemperature (word : UInt16) : Quantity :=
  ofMicro ((Int64.ofNat word.toNat * 100 - 273150) * 1000)

def ofPercent (word : UInt16) : Quantity := ⟨Int32.ofNat word.toNat, 0⟩

end Quantity
end FuelGauge
