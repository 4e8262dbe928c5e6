import FuelGauge.Telemetry.Channel
import FuelGauge.Quantity.Fixed

/-!
The last word read from each channel's register. `word?` sees the whole cache
through one function of the channel, and determines it.
-/

namespace FuelGauge

/-- The currents are kept as the signed numbers they stand for. -/
structure Telemetry where
  voltage : Option UInt16 := none
  averageCurrent : Option Int16 := none
  standbyCurrent : Option Int16 := none
  internalTemperature : Option UInt16 := none
  stateOfCharge : Option UInt16 := none
  stateOfHealth : Option UInt16 := none
  fullChargeCapacity : Option UInt16 := none
  remainingCapacity : Option UInt16 := none
  nominalAvailableCapacity : Option UInt16 := none
  fullAvailableCapacity : Option UInt16 := none
  deriving DecidableEq, Repr

namespace Telemetry

def empty : Telemetry := {}

def store (telemetry : Telemetry) (channel : Channel) (word : UInt16) : Telemetry :=
  match channel with
  | .voltage => { telemetry with voltage := some word }
  | .averageCurrent => { telemetry with averageCurrent := some word.toInt16 }
  | .standbyCurrent => { telemetry with standbyCurrent := some word.toInt16 }
  | .internalTemperature => { telemetry with internalTemperature := some word }
  | .stateOfCharge => { telemetry with stateOfCharge := some word }
  | .stateOfHealth => { telemetry with stateOfHealth := some word }
  | .fullChargeCapacity => { telemetry with fullChargeCapacity := some word }
  | .remainingCapacity => { telemetry with remainingCapacity := some word }
  | .nominalAvailableCapacity => { telemetry with nominalAvailableCapacity := some word }
  | .fullAvailableCapacity => { telemetry with fullAvailableCapacity := some word }

def word? (telemetry : Telemetry) : Channel → Option UInt16
  | .voltage => telemetry.voltage
  | .averageCurrent => telemetry.averageCurrent.map Int16.toUInt16
  | .standbyCurrent => telemetry.standbyCurrent.map Int16.toUInt16
  | .internalTemperature => telemetry.internalTemperature
  | .stateOfCharge => telemetry.stateOfCharge
  | .stateOfHealth => telemetry.stateOfHealth
  | .fullChargeCapacity => telemetry.fullChargeCapacity
  | .remainingCapacity => telemetry.remainingCapacity
  | .nominalAvailableCapacity => telemetry.nominalAvailableCapacity
  | .fullAvailableCapacity => telemetry.fullAvailableCapacity

/-- No single quantity stands for all channels. -/
def quantity? (telemetry : Telemetry) : Selection → Option Quantity
  | .all => none
  | .one channel => (telemetry.word? channel).map channel.quantity

def fixed? (telemetry : Telemetry) (selection : Selection) :
    Option (Except Fixed.ConversionError Fixed) :=
  (telemetry.quantity? selection).map Fixed.ofQuantity

theorem word?_empty (channel : Channel) : empty.word? channel = none := by
  cases channel <;> rfl

theorem word?_store (telemetry : Telemetry) (target channel : Channel) (word : UInt16) :
    (telemetry.store target word).word? channel =
      if channel = target then some word else telemetry.word? channel := by
  cases target <;> cases channel <;> simp [store, word?]

theorem eq_of_word? {left right : Telemetry}
    (same : ∀ channel, left.word? channel = right.word? channel) : left = right := by
  have signed {first second : Option Int16}
      (agree : first.map Int16.toUInt16 = second.map Int16.toUInt16) : first = second :=
    Option.map_injective (fun _ _ equal => congrArg Int16.ofUInt16 equal) agree
  cases left
  cases right
  simp only [mk.injEq]
  exact ⟨same .voltage, signed (same .averageCurrent), signed (same .standbyCurrent),
    same .internalTemperature, same .stateOfCharge, same .stateOfHealth,
    same .fullChargeCapacity, same .remainingCapacity, same .nominalAvailableCapacity,
    same .fullAvailableCapacity⟩

end Telemetry
end FuelGauge
