import FuelGauge.Quantity
import Mathlib.Algebra.Order.Ring.Int

/-!
A number of millionths, split into wholes and millionths and put together again. Nothing
is lost as long as the wholes fit into 32 bits. The parts of a split are never on
different sides of zero, and among quantities of this form the order of the numbers is
that of the parts, the wholes first.
-/

namespace FuelGauge

/-- Division that rounds toward zero leaves a remainder on the number's side of it. -/
structure Truncates (unit number quotient remainder : Int) : Prop where
  sum : remainder + unit * quotient = number
  small : remainder.natAbs < unit.natAbs
  nonneg : 0 ≤ number → 0 ≤ remainder
  nonpos : number ≤ 0 → remainder ≤ 0

theorem truncates_iff {unit number quotient remainder : Int} (positive : 0 < unit) :
    Truncates unit number quotient remainder ↔
      number.tdiv unit = quotient ∧ number.tmod unit = remainder := by
  constructor
  · rintro ⟨sum, small, nonneg, nonpos⟩
    rcases Int.le_total 0 number with above | below
    · have sign := nonneg above
      exact (Int.tdiv_tmod_unique above (Int.ne_of_gt positive)).mpr ⟨sum, sign, by omega⟩
    · have sign := nonpos below
      exact (Int.tdiv_tmod_unique' below (Int.ne_of_gt positive)).mpr ⟨sum, by omega, sign⟩
  · rintro ⟨rfl, rfl⟩
    have upper := number.tmod_lt_of_pos positive
    have lower := number.lt_tmod_of_pos positive
    refine ⟨number.tmod_add_mul_tdiv unit, by omega, number.tmod_nonneg unit, ?_⟩
    -- The remainder of a number below zero is the opposite of one above it.
    intro below
    have mirrored := Int.tmod_nonneg unit (Int.neg_nonneg_of_nonpos below)
    rw [Int.neg_tmod] at mirrored
    omega

theorem truncates_tdiv (number unit : Int) (positive : 0 < unit) :
    Truncates unit number (number.tdiv unit) (number.tmod unit) :=
  (truncates_iff positive).mpr ⟨rfl, rfl⟩

namespace Quantity

theorem toInt_wholeMicro (whole : Int32) :
    (whole.toInt64 * 1000000).toInt = whole.toInt * 1000000 := by
  have lower := whole.le_toInt
  have upper := whole.toInt_lt
  have million : (1000000 : Int64).toInt = 1000000 := rfl
  rw [Int64.toInt_mul, Int32.toInt_toInt64, million]
  exact Int.bmod_eq_of_le (by omega) (by omega)

theorem toInt_toMicro (quantity : Quantity) :
    quantity.toMicro.toInt = quantity.whole.toInt * 1000000 + quantity.millionths.toInt := by
  have lower := quantity.whole.le_toInt
  have upper := quantity.whole.toInt_lt
  have least := quantity.millionths.le_toInt
  have greatest := quantity.millionths.toInt_lt
  rw [toMicro, Int64.toInt_add, toInt_wholeMicro, Int32.toInt_toInt64]
  exact Int.bmod_eq_of_le (by omega) (by omega)

theorem whole_ofMicro (micro : Int64) :
    (ofMicro micro).whole.toInt = (micro.toInt.tdiv 1000000).bmod (2 ^ 32) := by
  have million : (1000000 : Int64).toInt = 1000000 := rfl
  rw [ofMicro, Int64.toInt_toInt32, Int64.toInt_div, million]
  exact Int.bmod_bmod_of_dvd (by decide)

theorem millionths_ofMicro (micro : Int64) :
    (ofMicro micro).millionths.toInt = micro.toInt.tmod 1000000 := by
  have million : (1000000 : Int64).toInt = 1000000 := rfl
  have small := (truncates_tdiv micro.toInt 1000000 (by decide)).small
  rw [ofMicro, Int64.toInt_toInt32, Int64.toInt_mod, million]
  exact Int.bmod_eq_of_le (by omega) (by omega)

def Opposed (quantity : Quantity) : Prop :=
  (0 < quantity.whole.toInt ∧ quantity.millionths.toInt < 0) ∨
    (quantity.whole.toInt < 0 ∧ 0 < quantity.millionths.toInt)

instance (quantity : Quantity) : Decidable quantity.Opposed :=
  inferInstanceAs (Decidable ((_ ∧ _) ∨ (_ ∧ _)))

/-- The form in which a split leaves a quantity. -/
def Normal (quantity : Quantity) : Prop :=
  quantity.millionths.toInt.natAbs < 1000000 ∧ ¬ quantity.Opposed

instance (quantity : Quantity) : Decidable quantity.Normal :=
  inferInstanceAs (Decidable (_ ∧ _))

theorem normal_iff_truncates (quantity : Quantity) :
    quantity.Normal ↔ Truncates 1000000 quantity.toMicro.toInt quantity.whole.toInt
      quantity.millionths.toInt := by
  have sum := quantity.toInt_toMicro
  constructor
  · rintro ⟨small, together⟩
    rw [Opposed] at together
    exact ⟨by omega, small, by omega, by omega⟩
  · rintro ⟨_, small, nonneg, nonpos⟩
    refine ⟨small, ?_⟩
    rw [Opposed]
    omega

theorem eq_of_toInt {left right : Quantity} (wholes : left.whole.toInt = right.whole.toInt)
    (millionths : left.millionths.toInt = right.millionths.toInt) : left = right := by
  cases left
  cases right
  rw [mk.injEq]
  exact ⟨Int32.toInt_inj.mp wholes, Int32.toInt_inj.mp millionths⟩

theorem ofMicro_toMicro_iff (quantity : Quantity) :
    ofMicro quantity.toMicro = quantity ↔ quantity.Normal := by
  rw [normal_iff_truncates]
  have lower := quantity.whole.le_toInt
  have upper := quantity.whole.toInt_lt
  constructor
  · intro same
    have split := truncates_tdiv quantity.toMicro.toInt 1000000 (by decide)
    have remainder : quantity.millionths.toInt = quantity.toMicro.toInt.tmod 1000000 := by
      rw [← millionths_ofMicro, same]
    -- The remainder is known not to have been cut, and the wholes are what it leaves.
    have quotient : quantity.whole.toInt = quantity.toMicro.toInt.tdiv 1000000 := by
      have sum := split.sum
      rw [quantity.toInt_toMicro] at sum remainder ⊢
      omega
    rw [remainder, quotient]
    exact split
  · intro split
    obtain ⟨quotient, remainder⟩ := (truncates_iff (by decide)).mp split
    apply eq_of_toInt
    · rw [whole_ofMicro, quotient]
      exact Int.bmod_eq_of_le (by omega) (by omega)
    · rw [millionths_ofMicro, remainder]

structure Denotes (quantity : Quantity) (micro : Int) : Prop where
  normal : quantity.Normal
  micro : quantity.toMicro.toInt = micro

theorem denotes_ofMicro {micro : Int64} (kept : (ofMicro micro).toMicro = micro) :
    (ofMicro micro).Denotes micro.toInt := by
  refine ⟨?_, congrArg Int64.toInt kept⟩
  rw [← ofMicro_toMicro_iff, kept]

theorem sign_parts (number unit : Int) (positive : 0 < unit) :
    (number.tdiv unit = 0 ∨ (number.tdiv unit).sign = number.sign) ∧
      (number.tmod unit = 0 ∨ (number.tmod unit).sign = number.sign) := by
  have quotient := Int.sign_tdiv number unit
  have remainder := Int.sign_tmod number unit
  rw [Int.sign_eq_one_of_pos positive, Int.mul_one] at quotient
  constructor
  · split at quotient
    · exact Or.inl (Int.sign_eq_zero_iff_zero.mp quotient)
    · exact Or.inr quotient
  · split at remainder
    · exact Or.inl (Int.sign_eq_zero_iff_zero.mp remainder)
    · exact Or.inr remainder

theorem toInt_toMicro_ofMicro (micro : Int64) :
    (ofMicro micro).toMicro.toInt =
      (micro.toInt.tdiv 1000000).bmod (2 ^ 32) * 1000000 + micro.toInt.tmod 1000000 := by
  rw [toInt_toMicro, whole_ofMicro, millionths_ofMicro]

theorem dvd_sub_toMicro_ofMicro (micro : Int64) :
    2 ^ 32 * 1000000 ∣ micro.toInt - (ofMicro micro).toMicro.toInt := by
  have parts := micro.toInt.tmod_add_mul_tdiv 1000000
  obtain ⟨count, lost⟩ : ((2 ^ 32 : Nat) : Int) ∣
      micro.toInt.tdiv 1000000 - (micro.toInt.tdiv 1000000).bmod (2 ^ 32) :=
    Int.dvd_self_sub_bmod
  rw [toInt_toMicro_ofMicro]
  exact ⟨count, by omega⟩

theorem toMicro_ofMicro_iff (micro : Int64) :
    (ofMicro micro).toMicro = micro ↔
      -(2 ^ 31 + 1) * 1000000 < micro.toInt ∧ micro.toInt < 2 ^ 31 * 1000000 := by
  have split := truncates_tdiv micro.toInt 1000000 (by decide)
  obtain ⟨sum, small, nonneg, nonpos⟩ := split
  rw [← Int64.toInt_inj, toInt_toMicro_ofMicro]
  constructor
  · intro same
    have lower := Int.le_bmod (x := micro.toInt.tdiv 1000000) (m := 2 ^ 32) (by decide)
    have upper := Int.bmod_lt (x := micro.toInt.tdiv 1000000) (m := 2 ^ 32) (by decide)
    omega
  · rintro ⟨lower, upper⟩
    rw [Int.bmod_eq_of_le (by omega) (by omega)]
    omega

def Precedes (left right : Quantity) : Prop :=
  left.whole < right.whole ∨ left.whole = right.whole ∧ left.millionths < right.millionths

section

variable {left right : Quantity} (leftNormal : left.Normal) (rightNormal : right.Normal)
include leftNormal rightNormal

theorem toMicro_inj : left.toMicro = right.toMicro ↔ left = right := by
  constructor
  · intro same
    rw [← (ofMicro_toMicro_iff left).mpr leftNormal, same,
      (ofMicro_toMicro_iff right).mpr rightNormal]
  · rintro rfl
    rfl

theorem toMicro_lt_iff : left.toMicro < right.toMicro ↔ left.Precedes right := by
  obtain ⟨leftSmall, leftTogether⟩ := leftNormal
  obtain ⟨rightSmall, rightTogether⟩ := rightNormal
  rw [Opposed] at leftTogether rightTogether
  rw [Precedes, Int64.lt_iff_toInt_lt, Int32.lt_iff_toInt_lt, Int32.lt_iff_toInt_lt,
    ← Int32.toInt_inj, toInt_toMicro, toInt_toMicro]
  omega

end

/-- Every number of millionths, every quantity, and every two quantities in normal form. -/
theorem micro_round_trip :
    (∀ micro : Int64,
      let quantity := ofMicro micro
      quantity.millionths.toInt.natAbs < 1000000 ∧
      (quantity.millionths.toInt = 0 ∨ quantity.millionths.toInt.sign = micro.toInt.sign) ∧
      2 ^ 32 * 1000000 ∣ micro.toInt - quantity.toMicro.toInt ∧
      (quantity.toMicro = micro ↔
        -(2 ^ 31 + 1) * 1000000 < micro.toInt ∧ micro.toInt < 2 ^ 31 * 1000000) ∧
      (quantity.toMicro = micro →
        quantity.whole.toInt = micro.toInt.tdiv 1000000 ∧
        (quantity.whole.toInt = 0 ∨ quantity.whole.toInt.sign = micro.toInt.sign))) ∧
    (∀ quantity : Quantity,
      (quantity.whole.toInt64 * 1000000).toInt = quantity.whole.toInt * 1000000 ∧
      quantity.toMicro.toInt = quantity.whole.toInt * 1000000 + quantity.millionths.toInt ∧
      (ofMicro quantity.toMicro = quantity ↔ quantity.Normal)) ∧
    (∀ left right : Quantity, left.Normal → right.Normal →
      (left.toMicro = right.toMicro ↔ left = right) ∧
      (left.toMicro < right.toMicro ↔ left.Precedes right)) := by
  refine ⟨fun micro => ?_, fun quantity => ?_, fun left right leftNormal rightNormal => ?_⟩
  · have split := truncates_tdiv micro.toInt 1000000 (by decide)
    obtain ⟨quotientSign, remainderSign⟩ := sign_parts micro.toInt 1000000 (by decide)
    refine ⟨?_, ?_, dvd_sub_toMicro_ofMicro micro, toMicro_ofMicro_iff micro, ?_⟩
    · rw [millionths_ofMicro]
      exact split.small
    · rw [millionths_ofMicro]
      exact remainderSign
    · intro same
      have sum := split.sum
      have whole : (ofMicro micro).whole.toInt = micro.toInt.tdiv 1000000 := by
        have kept := toInt_toMicro_ofMicro micro
        rw [same, ← whole_ofMicro] at kept
        omega
      rw [whole]
      exact ⟨rfl, quotientSign⟩
  · exact ⟨toInt_wholeMicro quantity.whole, quantity.toInt_toMicro, quantity.ofMicro_toMicro_iff⟩
  · exact ⟨toMicro_inj leftNormal rightNormal, toMicro_lt_iff leftNormal rightNormal⟩

/-- The least number that is kept, the next one below it, and two quantities that are less
than a whole apart. -/
theorem micro_round_trip_at_limit :
    let least : Int64 := -2147483648999999
    let upper : Quantity := ⟨0, -1⟩
    let lower : Quantity := ⟨-1, 0⟩
    (ofMicro least).toMicro = least ∧ (ofMicro least).whole = -2147483648 ∧
    (ofMicro (least - 1)).toMicro ≠ least - 1 ∧
    lower.Normal ∧ upper.Normal ∧ lower.toMicro < upper.toMicro := by
  intro least upper lower
  obtain ⟨numbers, _, ordered⟩ := micro_round_trip
  obtain ⟨_, _, _, kept, parts⟩ := numbers least
  obtain ⟨_, _, _, keptBelow, _⟩ := numbers (least - 1)
  have same : (ofMicro least).toMicro = least := kept.mpr (by decide)
  have whole : (ofMicro least).whole.toInt = -2147483648 := (parts same).1.trans (by decide)
  have lowerNormal : lower.Normal := by decide
  have upperNormal : upper.Normal := by decide
  have wholesFirst : lower.Precedes upper := Or.inl (by decide)
  exact ⟨same, Int32.toInt_inj.mp whole, fun below => absurd (keptBelow.mp below) (by decide),
    lowerNormal, upperNormal, (ordered lower upper lowerNormal upperNormal).2.mpr wholesFirst⟩

end Quantity
end FuelGauge
