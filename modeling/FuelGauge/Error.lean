/-!
The four ways in which an operation on the gauge fails. Any refused transfer is
a bus error; the gauge is blamed only when it answered and the answer is wrong.
-/

namespace FuelGauge

inductive Error where
  | bus
  | wrongDevice
  | checksumMismatch
  | unsupportedChannel
  deriving DecidableEq, Repr

namespace Error

def name : Error → String
  | .bus => "Bus"
  | .wrongDevice => "WrongDevice"
  | .checksumMismatch => "ChecksumMismatch"
  | .unsupportedChannel => "UnsupportedChannel"

def all : List Error := [.bus, .wrongDevice, .checksumMismatch, .unsupportedChannel]

/-- The transfer itself failed. -/
def isTransport : Error → Bool
  | .bus => true
  | _ => false

/-- The gauge answered, but not as a gauge of this kind does. -/
def isProtocol : Error → Bool
  | .wrongDevice | .checksumMismatch => true
  | _ => false

theorem mem_all (error : Error) : error ∈ all := by cases error <;> decide

end Error
end FuelGauge
