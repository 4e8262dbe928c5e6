import FuelGauge.Quantity

/-!
Quantities as fixed-point numbers with 32 integer and 32 fraction bits, held as
a signed 64-bit count of units of `2 ^ -32`. The millionths are divided with
truncation; a sum outside the 64-bit range is refused, not wrapped.
-/

namespace FuelGauge

structure Fixed where
  bits : Int64
  deriving DecidableEq, Repr

namespace Fixed

inductive ConversionError where
  | overflow
  deriving DecidableEq, Repr

def ConversionError.message : ConversionError → String
  | .overflow => "overflow"

def InRange (bits : Int) : Prop :=
  Int64.minValue.toInt ≤ bits ∧ bits ≤ Int64.maxValue.toInt

instance : DecidablePred InRange := fun bits => by unfold InRange; infer_instance

def one : Int := 4294967296

/-- The exact number of fixed-point units, before it is squeezed into 64 bits. -/
def units (quantity : Quantity) : Int :=
  quantity.whole.toInt * one + (quantity.millionths.toInt * one).tdiv 1000000

def ofQuantity (quantity : Quantity) : Except ConversionError Fixed :=
  if InRange (units quantity) then .ok ⟨Int64.ofInt (units quantity)⟩
  else .error .overflow

theorem ofQuantity_eq_error_iff (quantity : Quantity) :
    ofQuantity quantity = .error .overflow ↔ ¬ InRange (units quantity) := by
  unfold ofQuantity
  split <;> simp_all

end Fixed
end FuelGauge
