/-!
The status word of the gauge and the flags in it.
-/

namespace FuelGauge

structure ControlStatus where
  word : UInt16 := 0
  deriving DecidableEq, Repr

namespace ControlStatus

def flag (status : ControlStatus) (bit : Nat) : Bool := status.word.toNat.testBit bit

def fullAccessSealed (status : ControlStatus) : Bool := status.flag 14
def isSealed (status : ControlStatus) : Bool := status.flag 13
/-- A valid data flash checksum has been generated. -/
def checksumValid (status : ControlStatus) : Bool := status.flag 12
def coulombCounterCalibrating (status : ControlStatus) : Bool := status.flag 11
def boardCalibrating (status : ControlStatus) : Bool := status.flag 10
def initComplete (status : ControlStatus) : Bool := status.flag 7
def hibernate (status : ControlStatus) : Bool := status.flag 6
def sleep (status : ControlStatus) : Bool := status.flag 4

end ControlStatus
end FuelGauge
