import FuelGauge.Telemetry.Channel
import FuelGauge.Proofs.Quantity.Micro

/-!
What the word of a channel stands for, as an exact number of millionths of the channel's
unit. The quantity made of a word is that number in normal form, and no operation on the
way to it leaves the 32 or 64 bits that it is made with.
-/

namespace FuelGauge

namespace Quantity

/-- Each operation of the split has the value that it has among all integers. -/
structure MilliExact (milli : Int32) : Prop where
  quotient : (milli / 1000).toInt = milli.toInt.tdiv 1000
  remainder : (milli % 1000).toInt = milli.toInt.tmod 1000
  product : (milli % 1000 * 1000).toInt = milli.toInt.tmod 1000 * 1000

theorem milliExact (milli : Int32) : MilliExact milli := by
  have lower := milli.le_toInt
  have upper := milli.toInt_lt
  have thousand : (1000 : Int32).toInt = 1000 := rfl
  have size := Int.natAbs_tdiv_le_natAbs milli.toInt 1000
  obtain ⟨_, small, _, _⟩ := truncates_tdiv milli.toInt 1000 (by decide)
  have remainder : (milli % 1000).toInt = milli.toInt.tmod 1000 := by
    rw [Int32.toInt_mod, thousand]
  refine ⟨?_, remainder, ?_⟩
  · rw [Int32.toInt_div, thousand]
    exact Int.bmod_eq_of_le (by omega) (by omega)
  · rw [Int32.toInt_mul, remainder, thousand]
    exact Int.bmod_eq_of_le (by omega) (by omega)

theorem ofMilli_denotes (milli : Int32) : (ofMilli milli).Denotes (milli.toInt * 1000) := by
  obtain ⟨quotient, _, product⟩ := milliExact milli
  obtain ⟨sum, small, nonneg, nonpos⟩ :=
    truncates_tdiv milli.toInt 1000 (by decide)
  constructor
  · rw [Normal, Opposed, ofMilli, quotient, product]
    omega
  · rw [toInt_toMicro, ofMilli, quotient, product]
    omega

structure TemperatureExact (word : UInt16) : Prop where
  kelvin : (Int64.ofNat word.toNat * 100).toInt = word.toNat * 100
  celsius : (Int64.ofNat word.toNat * 100 - 273150).toInt = word.toNat * 100 - 273150
  micro : ((Int64.ofNat word.toNat * 100 - 273150) * 1000).toInt =
    (word.toNat * 100 - 273150) * 1000

theorem temperatureExact (word : UInt16) : TemperatureExact word := by
  have bound := word.toNat_lt
  have size : Int64.size = 2 ^ 64 := rfl
  have hundred : (100 : Int64).toInt = 100 := rfl
  have freezing : (273150 : Int64).toInt = 273150 := rfl
  have thousand : (1000 : Int64).toInt = 1000 := rfl
  have kelvin : (Int64.ofNat word.toNat * 100).toInt = word.toNat * 100 := by
    have held : (Int64.ofNat word.toNat).toInt = word.toNat := by
      rw [Int64.toInt_ofNat', size]
      exact Int.bmod_eq_of_le (by omega) (by omega)
    rw [Int64.toInt_mul, held, hundred]
    exact Int.bmod_eq_of_le (by omega) (by omega)
  have celsius : (Int64.ofNat word.toNat * 100 - 273150).toInt = word.toNat * 100 - 273150 := by
    rw [Int64.toInt_sub, kelvin, freezing]
    exact Int.bmod_eq_of_le (by omega) (by omega)
  refine ⟨kelvin, celsius, ?_⟩
  rw [Int64.toInt_mul, celsius, thousand]
  exact Int.bmod_eq_of_le (by omega) (by omega)

theorem ofTemperature_denotes (word : UInt16) :
    (ofTemperature word).Denotes (word.toNat * 100000 - 273150000) := by
  have bound := word.toNat_lt
  have exact := (temperatureExact word).micro
  have kept := (toMicro_ofMicro_iff ((Int64.ofNat word.toNat * 100 - 273150) * 1000)).mpr
    (by rw [exact]; omega)
  have value : ((word.toNat : Int) * 100 - 273150) * 1000 = word.toNat * 100000 - 273150000 := by
    omega
  rw [← value, ← exact]
  exact denotes_ofMicro kept

theorem toInt_ofWord (word : UInt16) : (Int32.ofNat word.toNat).toInt = word.toNat := by
  have bound := word.toNat_lt
  have size : Int32.size = 2 ^ 32 := rfl
  rw [Int32.toInt_ofNat', size]
  exact Int.bmod_eq_of_le (by omega) (by omega)

theorem ofPercent_denotes (word : UInt16) :
    (ofPercent word).Denotes (word.toNat * 1000000) := by
  have whole := toInt_ofWord word
  have none : (0 : Int32).toInt = 0 := rfl
  constructor
  · rw [Normal, Opposed, ofPercent, whole, none]
    omega
  · rw [toInt_toMicro, ofPercent, whole, none, Int.add_zero]

end Quantity

namespace Channel

/-- What a word of the channel stands for, in millionths of a volt, an ampere, an
ampere-hour, a degree Celsius or a percent. -/
def micro (channel : Channel) (word : UInt16) : Int :=
  match channel with
  | .voltage => word.toNat * 1000
  | .averageCurrent | .standbyCurrent => word.toInt16.toInt * 1000
  | .internalTemperature => word.toNat * 100000 - 273150000
  | .stateOfCharge | .stateOfHealth => word.toNat * 1000000
  | .fullChargeCapacity | .remainingCapacity
  | .nominalAvailableCapacity | .fullAvailableCapacity => word.toNat * 1000

def Exact (channel : Channel) (word : UInt16) : Prop :=
  match channel with
  | .averageCurrent | .standbyCurrent =>
      word.toInt16.toInt32.toInt = word.toInt16.toInt ∧
        Quantity.MilliExact word.toInt16.toInt32
  | .internalTemperature => Quantity.TemperatureExact word
  | .stateOfCharge | .stateOfHealth => (Int32.ofNat word.toNat).toInt = word.toNat
  | .voltage | .fullChargeCapacity | .remainingCapacity
  | .nominalAvailableCapacity | .fullAvailableCapacity =>
      (Int32.ofNat word.toNat).toInt = word.toNat ∧
        Quantity.MilliExact (Int32.ofNat word.toNat)

theorem exact (channel : Channel) (word : UInt16) : channel.Exact word := by
  cases channel with
  | averageCurrent | standbyCurrent =>
    exact ⟨word.toInt16.toInt_toInt32, Quantity.milliExact _⟩
  | internalTemperature => exact Quantity.temperatureExact word
  | stateOfCharge | stateOfHealth => exact Quantity.toInt_ofWord word
  | voltage | fullChargeCapacity | remainingCapacity
  | nominalAvailableCapacity | fullAvailableCapacity =>
    exact ⟨Quantity.toInt_ofWord word, Quantity.milliExact _⟩

theorem quantity_denotes (channel : Channel) (word : UInt16) :
    (channel.quantity word).Denotes (channel.micro word) := by
  cases channel with
  | averageCurrent | standbyCurrent =>
    have split := Quantity.ofMilli_denotes word.toInt16.toInt32
    rw [word.toInt16.toInt_toInt32] at split
    exact split
  | internalTemperature => exact Quantity.ofTemperature_denotes word
  | stateOfCharge | stateOfHealth => exact Quantity.ofPercent_denotes word
  | voltage | fullChargeCapacity | remainingCapacity
  | nominalAvailableCapacity | fullAvailableCapacity =>
    have split := Quantity.ofMilli_denotes (Int32.ofNat word.toNat)
    rw [Quantity.toInt_ofWord] at split
    exact split

theorem micro_inj (channel : Channel) {word other : UInt16} :
    channel.micro word = channel.micro other ↔ word = other := by
  constructor
  · intro same
    cases channel with
    | averageCurrent | standbyCurrent =>
      rw [micro, micro] at same
      have signed : word.toInt16 = other.toInt16 := Int16.toInt_inj.mp (by omega)
      exact congrArg Int16.toUInt16 signed
    | _ =>
      rw [micro, micro] at same
      exact UInt16.toNat_inj.mp (by omega)
  · rintro rfl
    rfl

theorem quantity_inj (channel : Channel) {word other : UInt16} :
    channel.quantity word = channel.quantity other ↔ word = other := by
  constructor
  · intro same
    rw [← channel.micro_inj, ← (channel.quantity_denotes word).micro, same,
      (channel.quantity_denotes other).micro]
  · rintro rfl
    rfl

theorem micro_bounds (channel : Channel) (word : UInt16) :
    (channel.micro word).natAbs ≤ 65535 * 1000000 := by
  have bound := word.toNat_lt
  have least := word.toInt16.le_toInt
  have greatest := word.toInt16.toInt_lt
  cases channel with
  | _ =>
    rw [micro]
    omega

end Channel
end FuelGauge
