import FuelGauge.Flash.Block

/-!
The three words of data flash that a calibration programs, and where they lie.
-/

namespace FuelGauge.Flash

inductive Field where
  | designCapacity
  | terminateVoltage
  | finalVoltage
  deriving DecidableEq, Repr

namespace Field

/-- The order in which a calibration writes them. -/
def inOrder : List Field := [.designCapacity, .terminateVoltage, .finalVoltage]

def name : Field → String
  | .designCapacity => "DesignCapacity"
  | .terminateVoltage => "TerminateVoltage"
  | .finalVoltage => "FinalVoltage"

def subclass : Field → UInt8
  | .designCapacity => 0x30
  | .terminateVoltage => 0x50
  | .finalVoltage => 0x31

def offset : Field → UInt8
  | .designCapacity => 10
  | .terminateVoltage => 55
  | .finalVoltage => 14

def block (field : Field) : UInt8 := blockIndex field.offset

/-- The register of the field's high byte; its low byte is in the next one. -/
def address (field : Field) : Register := Flash.address field.offset

theorem mem_inOrder (field : Field) : field ∈ inOrder := by cases field <;> decide

end Field
end FuelGauge.Flash
