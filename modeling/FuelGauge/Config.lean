import FuelGauge.Flash.Field

/-!
What a calibration programs, and when it runs.
-/

namespace FuelGauge

inductive Mode where
  | atInit
  | onFirstFetch
  deriving DecidableEq, Repr

namespace Mode

def name : Mode → String
  | .atInit => "AtInit"
  | .onFirstFetch => "OnFirstFetch"

def all : List Mode := [.atInit, .onFirstFetch]

theorem mem_all (mode : Mode) : mode ∈ all := by cases mode <;> decide

end Mode

/-- Capacity in mAh, voltage in mV. -/
structure Config where
  designCapacity : UInt16
  terminateVoltage : UInt16
  mode : Mode := .atInit
  /-- Read every committed checksum back and compare. -/
  verifyChecksum : Bool := false
  deriving DecidableEq, Repr

namespace Config

/-- The word programmed into a field. Discharge ends at one voltage, which two
fields hold. -/
def value (config : Config) : Flash.Field → UInt16
  | .designCapacity => config.designCapacity
  | .terminateVoltage | .finalVoltage => config.terminateVoltage

def text (config : Config) : String :=
  Text.record "GaugeConfig" [
    ("design_capacity_mah", toString config.designCapacity.toNat),
    ("terminate_voltage_mv", toString config.terminateVoltage.toNat),
    ("mode", config.mode.name),
    ("verify_checksum", toString config.verifyChecksum)]

end Config
end FuelGauge
