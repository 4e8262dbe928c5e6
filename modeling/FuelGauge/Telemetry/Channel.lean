import FuelGauge.Register
import FuelGauge.Quantity

/-!
The ten readings of the gauge, each held in one two-byte register, and the
selections a caller may name: one reading or all of them.
-/

namespace FuelGauge

inductive Channel where
  | voltage
  | averageCurrent
  | standbyCurrent
  | internalTemperature
  | stateOfCharge
  | stateOfHealth
  | fullChargeCapacity
  | remainingCapacity
  | nominalAvailableCapacity
  | fullAvailableCapacity
  deriving DecidableEq, Repr

namespace Channel

def name : Channel → String
  | .voltage => "Voltage"
  | .averageCurrent => "AverageCurrent"
  | .standbyCurrent => "StandbyCurrent"
  | .internalTemperature => "InternalTemperature"
  | .stateOfCharge => "StateOfCharge"
  | .stateOfHealth => "StateOfHealth"
  | .fullChargeCapacity => "FullChargeCapacity"
  | .remainingCapacity => "RemainingCapacity"
  | .nominalAvailableCapacity => "NominalAvailableCapacity"
  | .fullAvailableCapacity => "FullAvailableCapacity"

def register : Channel → Register
  | .voltage => 0x08
  | .nominalAvailableCapacity => 0x0C
  | .fullAvailableCapacity => 0x0E
  | .remainingCapacity => 0x10
  | .fullChargeCapacity => 0x12
  | .averageCurrent => 0x14
  | .standbyCurrent => 0x18
  | .stateOfHealth => 0x1C
  | .stateOfCharge => 0x20
  | .internalTemperature => 0x28

/-- Ascending registers, the order in which all of them are fetched. -/
def inRegisterOrder : List Channel := [
  .voltage, .nominalAvailableCapacity, .fullAvailableCapacity, .remainingCapacity,
  .fullChargeCapacity, .averageCurrent, .standbyCurrent, .stateOfHealth, .stateOfCharge,
  .internalTemperature]

/-- What the channel's word says in physical units. Currents are signed. -/
def quantity : Channel → UInt16 → Quantity
  | .voltage => .ofVoltage
  | .averageCurrent | .standbyCurrent => fun word => .ofCurrent word.toInt16
  | .internalTemperature => .ofTemperature
  | .stateOfCharge | .stateOfHealth => .ofPercent
  | .fullChargeCapacity | .remainingCapacity
  | .nominalAvailableCapacity | .fullAvailableCapacity => .ofCapacity

theorem mem_inRegisterOrder (channel : Channel) : channel ∈ inRegisterOrder := by
  cases channel <;> decide

theorem register_injective {left right : Channel} (same : left.register = right.register) :
    left = right := by
  revert same
  cases left <;> cases right <;> decide

end Channel

inductive Selection where
  | all
  | one (channel : Channel)
  deriving DecidableEq, Repr

namespace Selection

def name : Selection → String
  | .all => "All"
  | .one channel => channel.name

def channels : Selection → List Channel
  | .all => Channel.inRegisterOrder
  | .one channel => [channel]

def inRegisterOrder : List Selection := .all :: Channel.inRegisterOrder.map .one

theorem mem_inRegisterOrder (selection : Selection) : selection ∈ inRegisterOrder := by
  cases selection with
  | all => exact List.mem_cons_self
  | one channel =>
    exact List.mem_cons_of_mem _ (List.mem_map_of_mem channel.mem_inRegisterOrder)

end Selection
end FuelGauge
