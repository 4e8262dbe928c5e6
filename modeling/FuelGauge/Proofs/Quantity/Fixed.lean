import FuelGauge.Telemetry
import FuelGauge.Proofs.Quantity.Units
import Mathlib.Algebra.Order.Round
import Mathlib.Data.Rat.Floor
import Mathlib.Tactic.FieldSimp
import Mathlib.Tactic.Linarith
import Mathlib.Tactic.NormNum

/-!
How close a fixed-point number is to the quantity it was made of. Only the millionths
are rounded, by less than one unit, which is far less than one millionth: so quantities
keep their order, and the millionths can be told from the fixed-point number. What a
channel reads is always small enough to be converted.
-/

namespace FuelGauge

def Quantity.toRat (quantity : Quantity) : ℚ := quantity.toMicro.toInt / 1000000

namespace Fixed

def toRat (fixed : Fixed) : ℚ := fixed.bits.toInt / 2 ^ 32

/-! The arithmetic of fixed-point numbers. Quotients are truncated, and a result that
64 bits do not hold is refused. -/

def checked (bits : Int) : Except ConversionError Fixed :=
  if InRange bits then .ok ⟨Int64.ofInt bits⟩ else .error .overflow

def ofWhole (number : Int32) : Fixed := ⟨Int64.ofInt (number.toInt * one)⟩

def add (left right : Fixed) : Except ConversionError Fixed :=
  checked (left.bits.toInt + right.bits.toInt)

def div (left right : Fixed) : Except ConversionError Fixed :=
  checked ((left.bits.toInt * one).tdiv right.bits.toInt)

theorem inRange_iff (bits : Int) : InRange bits ↔ -2 ^ 63 ≤ bits ∧ bits < 2 ^ 63 := by
  have least : Int64.minValue.toInt = -2 ^ 63 := rfl
  have greatest : Int64.maxValue.toInt = 2 ^ 63 - 1 := rfl
  rw [InRange, least, greatest]
  omega

theorem toInt_ofInt_of_inRange {bits : Int} (fits : InRange bits) :
    (Int64.ofInt bits).toInt = bits := by
  have size : Int64.size = 2 ^ 64 := rfl
  rw [inRange_iff] at fits
  rw [Int64.toInt_ofInt, size]
  exact Int.bmod_eq_of_le (by omega) (by omega)

theorem checked_eq_ok_iff {bits : Int} {fixed : Fixed} :
    checked bits = .ok fixed ↔ fixed.bits.toInt = bits := by
  unfold checked
  constructor
  · intro made
    split at made
    next fits =>
      rw [← Except.ok.inj made]
      exact toInt_ofInt_of_inRange fits
    · cases made
  · rintro rfl
    have fits : InRange fixed.bits.toInt :=
      (inRange_iff _).mpr ⟨fixed.bits.le_toInt, fixed.bits.toInt_lt⟩
    rw [if_pos fits, Int64.ofInt_toInt]

theorem toInt_ofWhole (number : Int32) : (ofWhole number).bits.toInt = number.toInt * one := by
  have lower := number.le_toInt
  have upper := number.toInt_lt
  apply toInt_ofInt_of_inRange
  rw [inRange_iff, one]
  omega

theorem fraction_truncates (quantity : Quantity) :
    Truncates 1000000 (quantity.millionths.toInt * one)
      ((quantity.millionths.toInt * one).tdiv 1000000)
      ((quantity.millionths.toInt * one).tmod 1000000) :=
  truncates_tdiv _ _ (by decide)

/-- The millionths are divided first. That quotient always fits, whatever becomes of the
sum. -/
theorem ofQuantity_eq (quantity : Quantity) :
    ofQuantity quantity = (do
      let fraction ← div (ofWhole quantity.millionths) (ofWhole 1000000)
      add (ofWhole quantity.whole) fraction) := by
  have million : (1000000 : Int32).toInt = 1000000 := rfl
  have lower := quantity.millionths.le_toInt
  have upper := quantity.millionths.toInt_lt
  have quotient : (quantity.millionths.toInt * one * one).tdiv (1000000 * one) =
      (quantity.millionths.toInt * one).tdiv 1000000 :=
    Int.mul_tdiv_mul_of_pos_left _ _ (by decide)
  obtain ⟨sum, small, _, _⟩ := fraction_truncates quantity
  have fits : InRange ((quantity.millionths.toInt * one).tdiv 1000000) := by
    rw [one] at sum small ⊢
    rw [inRange_iff]
    omega
  have fraction : div (ofWhole quantity.millionths) (ofWhole 1000000) =
      .ok ⟨Int64.ofInt ((quantity.millionths.toInt * one).tdiv 1000000)⟩ := by
    rw [div, toInt_ofWhole, toInt_ofWhole, million, quotient, checked, if_pos fits]
  -- What is left is the sum, which is the only step that can be refused.
  rw [fraction]
  change checked (units quantity) = add _ _
  rw [add, toInt_ofWhole, toInt_ofInt_of_inRange fits, units]

/-! The conversion against the exact number. -/

theorem bits_ofQuantity {quantity : Quantity} {fixed : Fixed}
    (converted : ofQuantity quantity = .ok fixed) : fixed.bits.toInt = units quantity :=
  checked_eq_ok_iff.mp converted

theorem units_mul (quantity : Quantity) :
    units quantity * 1000000 + (quantity.millionths.toInt * one).tmod 1000000 =
      quantity.toMicro.toInt * one := by
  have sum := (fraction_truncates quantity).sum
  rw [units, quantity.toInt_toMicro]
  rw [one] at sum ⊢
  omega

/-- In units of which there are `2 ^ 32 * 1000000` to one. -/
theorem units_error (quantity : Quantity) :
    (units quantity * 1000000 - quantity.toMicro.toInt * 2 ^ 32).natAbs < 1000000 := by
  have lost := units_mul quantity
  have small := (fraction_truncates quantity).small
  rw [one] at lost small
  omega

theorem units_of_together {quantity : Quantity} (together : ¬ quantity.Opposed) :
    units quantity = (quantity.toMicro.toInt * one).tdiv 1000000 := by
  have lost := units_mul quantity
  have sum := quantity.toInt_toMicro
  obtain ⟨_, small, nonneg, nonpos⟩ := fraction_truncates quantity
  rw [Quantity.Opposed] at together
  rw [one] at lost small nonneg nonpos ⊢
  have split : Truncates 1000000 (quantity.toMicro.toInt * 4294967296) (units quantity)
      ((quantity.millionths.toInt * 4294967296).tmod 1000000) :=
    ⟨by omega, small, by omega, by omega⟩
  exact ((truncates_iff (by decide)).mp split).1.symm

section

variable {quantity : Quantity} {fixed : Fixed} (converted : ofQuantity quantity = .ok fixed)
include converted

theorem bits_error :
    (fixed.bits.toInt * 1000000 - quantity.toMicro.toInt * 2 ^ 32).natAbs < 1000000 := by
  rw [bits_ofQuantity converted]
  exact units_error quantity

theorem abs_bits_error :
    |(fixed.bits.toInt * 1000000 - quantity.toMicro.toInt * 2 ^ 32 : ℚ)| < 1000000 := by
  have small := bits_error converted
  rw [← Int.ofNat_lt, Int.natCast_natAbs] at small
  exact_mod_cast small

theorem abs_toRat_sub_lt : |fixed.toRat - quantity.toRat| < 1 / 2 ^ 32 := by
  have small := abs_bits_error converted
  have difference : fixed.toRat - quantity.toRat =
      (fixed.bits.toInt * 1000000 - quantity.toMicro.toInt * 2 ^ 32 : ℚ) /
        (2 ^ 32 * 1000000) := by
    rw [toRat, Quantity.toRat]
    field_simp
  have positive : (0 : ℚ) < 2 ^ 32 * 1000000 := by norm_num
  have unit : (1 / 2 ^ 32 * (2 ^ 32 * 1000000) : ℚ) = 1000000 := by norm_num
  rw [difference, abs_div, abs_of_pos positive, div_lt_iff₀ positive, unit]
  exact small

theorem round_bits :
    round (fixed.bits.toInt * 1000000 / 2 ^ 32 : ℚ) = quantity.toMicro.toInt := by
  have small := abs_lt.mp (abs_bits_error converted)
  rw [round_eq_iff, Set.mem_Ico, le_div_iff₀ (by norm_num), div_lt_iff₀ (by norm_num)]
  constructor <;> linarith

end

section

variable {left right : Quantity} {low high : Fixed} (first : ofQuantity left = .ok low)
  (second : ofQuantity right = .ok high)
include first second

theorem bits_lt (less : left.toMicro < right.toMicro) : low.bits < high.bits := by
  have lowError := bits_error first
  have highError := bits_error second
  rw [Int64.lt_iff_toInt_lt] at less ⊢
  omega

theorem bits_near (same : left.toMicro = right.toMicro) :
    (low.bits.toInt - high.bits.toInt).natAbs ≤ 1 := by
  have lowError := bits_error first
  have highError := bits_error second
  rw [same] at lowError
  omega

end

/-- The largest word of the largest unit is far from what 64 bits hold. -/
theorem exists_ofQuantity {quantity : Quantity} {micro : Int} (denotes : quantity.Denotes micro)
    (small : micro.natAbs ≤ 65535 * 1000000) : ∃ fixed, ofQuantity quantity = .ok fixed := by
  have fits : InRange (units quantity) := by
    have near := units_error quantity
    rw [denotes.micro] at near
    rw [inRange_iff]
    omega
  exact ⟨_, if_pos fits⟩

theorem denotes_of_quantity? {telemetry : Telemetry} {selection : Selection}
    {quantity : Quantity} (held : telemetry.quantity? selection = some quantity) :
    ∃ (channel : Channel) (word : UInt16), quantity.Denotes (channel.micro word) := by
  cases selection with
  | all => cases held
  | one channel =>
    obtain ⟨word, _, same⟩ := Option.map_eq_some_iff.mp held
    exact ⟨channel, word, same ▸ channel.quantity_denotes word⟩

/-- Every quantity, every two that can be converted, and whatever was read. -/
theorem fixed_conversion :
    (∀ quantity : Quantity,
      let exact := quantity.whole.toInt * 2 ^ 32 +
        (quantity.millionths.toInt * 2 ^ 32).tdiv 1000000
      ofQuantity quantity = (do
        let fraction ← div (ofWhole quantity.millionths) (ofWhole 1000000)
        add (ofWhole quantity.whole) fraction) ∧
      (ofQuantity quantity = .error .overflow ↔ exact < -2 ^ 63 ∨ 2 ^ 63 ≤ exact) ∧
      ∀ fixed, ofQuantity quantity = .ok fixed →
        |fixed.toRat - quantity.toRat| < 1 / 2 ^ 32 ∧
        (¬ quantity.Opposed →
          fixed.bits.toInt = (quantity.toMicro.toInt * 2 ^ 32).tdiv 1000000)) ∧
    (∀ (left right : Quantity) (low high : Fixed),
      ofQuantity left = .ok low → ofQuantity right = .ok high →
        (left.toMicro < right.toMicro → low.bits < high.bits) ∧
        (left.toMicro = right.toMicro → (low.bits.toInt - high.bits.toInt).natAbs ≤ 1)) ∧
    ∀ (telemetry : Telemetry) (selection : Selection),
      match telemetry.quantity? selection with
      | none => telemetry.fixed? selection = none
      | some quantity => ∃ fixed, telemetry.fixed? selection = some (.ok fixed) ∧
          round (fixed.bits.toInt * 1000000 / 2 ^ 32 : ℚ) = quantity.toMicro.toInt := by
  refine ⟨fun quantity => ?_, fun left right low high first second => ?_,
    fun telemetry selection => ?_⟩
  · refine ⟨ofQuantity_eq quantity, ?_, fun fixed converted => ?_⟩
    · have exact : units quantity = quantity.whole.toInt * 2 ^ 32 +
          (quantity.millionths.toInt * 2 ^ 32).tdiv 1000000 := rfl
      rw [ofQuantity_eq_error_iff, inRange_iff, exact]
      omega
    · refine ⟨abs_toRat_sub_lt converted, fun together => ?_⟩
      rw [bits_ofQuantity converted]
      exact units_of_together together
  · exact ⟨bits_lt first second, bits_near first second⟩
  · rw [Telemetry.fixed?]
    cases held : telemetry.quantity? selection with
    | none => rfl
    | some quantity =>
      obtain ⟨channel, word, denotes⟩ := denotes_of_quantity? held
      obtain ⟨fixed, converted⟩ := exists_ofQuantity denotes (channel.micro_bounds word)
      exact ⟨fixed, congrArg some converted, round_bits converted⟩

/-- One number in two forms, a unit apart, and the least wholes with a fraction further
below. -/
theorem fixed_conversion_opposed :
    let opposed : Quantity := ⟨1, -1⟩
    let normal : Quantity := ⟨0, 999999⟩
    opposed.toMicro = normal.toMicro ∧
    ofQuantity opposed = .ok ⟨4294963002⟩ ∧ ofQuantity normal = .ok ⟨4294963001⟩ ∧
    ((4294963002 : Int64).toInt - (4294963001 : Int64).toInt).natAbs ≤ 1 ∧
    (4294963001 : Int64).toInt = (normal.toMicro.toInt * 2 ^ 32).tdiv 1000000 ∧
    ofQuantity ⟨-2147483648, -1⟩ = .error .overflow := by
  intro opposed normal
  obtain ⟨each, pairs, _⟩ := fixed_conversion
  have same : opposed.toMicro = normal.toMicro := by decide
  have first : ofQuantity opposed = .ok ⟨4294963002⟩ := by decide
  have second : ofQuantity normal = .ok ⟨4294963001⟩ := by decide
  have together : ¬ normal.Opposed := by decide
  exact ⟨same, first, second, (pairs opposed normal _ _ first second).2 same,
    ((each normal).2.2 _ second).2 together,
    (each ⟨-2147483648, -1⟩).2.1.mpr (Or.inl (by decide))⟩

end Fixed
end FuelGauge
