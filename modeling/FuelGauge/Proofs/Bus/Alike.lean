import FuelGauge.Bus.Adjustment
import Mathlib.Data.List.Find

/-!
Simulated buses that cannot be told apart without a look at the control register.
Where no rule of a bus counts, what becomes of an access depends on the registers
alone; the two bytes of the control register, the latched low byte and the counts
may differ, and all else goes the same way on both.
-/

namespace FuelGauge

namespace Register

/-- None of the successive registers belongs to the control word. -/
def Clear (start : Register) (length : Nat) : Prop :=
  ∀ index < length, start + UInt8.ofNat index ≠ controlLow ∧
    start + UInt8.ofNat index ≠ controlHigh

instance (start : Register) (length : Nat) : Decidable (Clear start length) :=
  inferInstanceAs (Decidable (∀ index < length, _ ∧ _))

namespace Table

def SameBeyondControl (left right : Table UInt8) : Prop :=
  ∀ register, register ≠ controlLow → register ≠ controlHigh →
    left.get register = right.get register

namespace SameBeyondControl

variable {left right third : Table UInt8}

theorem refl (table : Table UInt8) : SameBeyondControl table table := fun _ _ _ => rfl

theorem symm (same : SameBeyondControl left right) : SameBeyondControl right left :=
  fun register low high => (same register low high).symm

theorem trans (first : SameBeyondControl left right) (second : SameBeyondControl right third) :
    SameBeyondControl left third :=
  fun register low high => (first register low high).trans (second register low high)

theorem set (same : SameBeyondControl left right) (target : Register) (value : UInt8) :
    SameBeyondControl (left.set target value) (right.set target value) := by
  intro register low high
  rw [get_set, get_set, same register low high]

theorem setControl (same : SameBeyondControl left right) {target : Register}
    (control : target = controlLow ∨ target = controlHigh) (value : UInt8) :
    SameBeyondControl (left.set target value) right := by
  intro register low high
  have apart : register ≠ target := by
    rcases control with rfl | rfl
    · exact low
    · exact high
  rw [get_set, if_neg apart, same register low high]

theorem setFrom (same : SameBeyondControl left right) (start : Register) (values : List UInt8) :
    SameBeyondControl (left.setFrom start values) (right.setFrom start values) := by
  induction values generalizing left right start with
  | nil => exact same
  | cons value rest ih => exact ih (same.set start value) (start + 1)

theorem slice (same : SameBeyondControl left right) {start : Register} {length : Nat}
    (clear : Clear start length) : left.slice start length = right.slice start length := by
  apply Vector.ext
  intro index bound
  rw [get_slice, get_slice]
  exact same _ (clear index bound).1 (clear index bound).2

theorem set_high (same : SameBeyondControl left right)
    (low : left.get controlLow = right.get controlLow) (value : UInt8) :
    left.set controlHigh value = right.set controlHigh value := by
  apply eq_of_get
  intro register
  rw [get_set, get_set]
  by_cases atHigh : register = controlHigh
  · rw [if_pos atHigh, if_pos atHigh]
  · rw [if_neg atHigh, if_neg atHigh]
    by_cases atLow : register = controlLow
    · rw [atLow, low]
    · exact same register atLow atHigh

end SameBeyondControl
end Table
end Register

namespace Bus

open Register.Table (SameBeyondControl)

theorem Rules.stored_of_every {rules : Rules}
    (every : ∀ override ∈ rules.overrides, override.occurrence = .every) (register : Register)
    (count otherCount : Nat) (value : UInt8) :
    rules.stored register count value = rules.stored register otherCount value := by
  have met : rules.overrides.find? (·.isMet register count) =
      rules.overrides.find? (·.isMet register otherCount) := by
    apply List.find?_congr
    intro override member
    simp [Override.isMet, Occurrence.isMet, every override member]
  rw [Rules.stored, Rules.stored, met]

/-- Every fault and every override is meant for all occurrences. -/
structure Rules.Uncounted (rules : Rules) : Prop where
  overrides : ∀ override ∈ rules.overrides, override.occurrence = .every
  failingWrites : ∀ fault ∈ rules.failingWrites, fault.occurrence = .every
  failingReads : ∀ fault ∈ rules.failingReads, fault.occurrence = .every
  failingTransactions : rules.failingTransactions = []

namespace Rules.Uncounted

variable {rules : Rules}

theorem refuses (uncounted : rules.Uncounted) {faults : List Fault}
    (every : ∀ fault ∈ faults, fault.occurrence = .every) (address : UInt8) (register : Register)
    (transaction count otherTransaction otherCount : Nat) :
    rules.refuses faults address register transaction count =
      rules.refuses faults address register otherTransaction otherCount := by
  have met : faults.any (·.isMet register count) = faults.any (·.isMet register otherCount) := by
    rw [Bool.eq_iff_iff, List.any_eq_true, List.any_eq_true]
    apply exists_congr
    intro fault
    apply and_congr_right
    intro member
    simp [Fault.isMet, Occurrence.isMet, every fault member]
  simp [Rules.refuses, uncounted.failingTransactions, met]

theorem stored (uncounted : rules.Uncounted) (register : Register) (count otherCount : Nat)
    (value : UInt8) :
    rules.stored register count value = rules.stored register otherCount value :=
  stored_of_every uncounted.overrides register count otherCount value

end Rules.Uncounted

structure Simulated.Alike (left right : Simulated) : Prop where
  rules : left.rules = right.rules
  uncounted : right.rules.Uncounted
  registers : SameBeyondControl left.registers right.registers

namespace Simulated.Alike

variable {left right third : Simulated}

theorem refl {bus : Simulated} (uncounted : bus.rules.Uncounted) : Alike bus bus :=
  ⟨rfl, uncounted, .refl _⟩

theorem symm (alike : Alike left right) : Alike right left :=
  ⟨alike.rules.symm, alike.rules ▸ alike.uncounted, alike.registers.symm⟩

theorem trans (first : Alike left right) (second : Alike right third) : Alike left third :=
  ⟨first.rules.trans second.rules, second.uncounted, first.registers.trans second.registers⟩

theorem countWrite (alike : Alike left right) (register : Register) :
    Alike (left.countWrite register) (right.countWrite register) :=
  ⟨alike.rules, alike.uncounted, alike.registers⟩

theorem countRead (alike : Alike left right) (register : Register) :
    Alike (left.countRead register) (right.countRead register) :=
  ⟨alike.rules, alike.uncounted, alike.registers⟩

theorem refusesWrite (alike : Alike left right) (address : UInt8) (register : Register) :
    left.refusesWrite address register = right.refusesWrite address register := by
  rw [Simulated.refusesWrite, Simulated.refusesWrite, alike.rules]
  exact alike.uncounted.refuses alike.uncounted.failingWrites ..

theorem refusesRead (alike : Alike left right) (address : UInt8) (register : Register) :
    left.refusesRead address register = right.refusesRead address register := by
  rw [Simulated.refusesRead, Simulated.refusesRead, alike.rules]
  exact alike.uncounted.refuses alike.uncounted.failingReads ..

theorem respond (alike : Alike left right) (high : UInt8) : Alike (left.respond high) right := by
  unfold Simulated.respond
  cases left.rules.answer? (Word.ofBytes left.pendingLow high) with
  | none => exact alike
  | some answer =>
    exact ⟨alike.rules, alike.uncounted,
      (alike.registers.setControl (Or.inl rfl) _).setControl (Or.inr rfl) _⟩

theorem loadBlock (alike : Alike left right) (index : UInt8) :
    Alike (left.loadBlock index) (right.loadBlock index) := by
  have sameClass := alike.registers Register.dataClass (by decide) (by decide)
  unfold Simulated.loadBlock
  rw [alike.rules, sameClass]
  cases right.rules.block? (right.registers.get Register.dataClass) index with
  | none => exact alike
  | some block => exact ⟨rfl, alike.uncounted, alike.registers.setFrom _ _⟩

theorem react (alike : Alike left right) (register : Register) (value : UInt8) :
    Alike (left.react register value) (right.react register value) := by
  unfold Simulated.react
  split
  · exact ⟨alike.rules, alike.uncounted, alike.registers⟩
  · split
    · exact ((alike.respond value).symm.respond value).symm
    · split
      · exact alike.loadBlock value
      · exact alike

theorem accept (alike : Alike left right) (register : Register) (value : UInt8) :
    Alike (left.accept register value) (right.accept register value) := by
  have stored : left.rules.stored register (left.writes.get register) value =
      right.rules.stored register (right.writes.get register) value := by
    rw [alike.rules]
    exact alike.uncounted.stored ..
  unfold Simulated.accept
  rw [stored]
  apply react
  exact ⟨alike.rules, alike.uncounted, alike.registers.set register _⟩

theorem write (alike : Alike left right) (address : UInt8) (register : Register) (value : UInt8) :
    (Bus.write left address register value).1 = (Bus.write right address register value).1 ∧
      Alike (Bus.write left address register value).2
        (Bus.write right address register value).2 := by
  have counted := alike.countWrite register
  simp only [Bus.write, counted.refusesWrite address register]
  split
  · exact ⟨rfl, counted⟩
  · exact ⟨rfl, counted.accept register value⟩

theorem read (alike : Alike left right) (address : UInt8) (register : Register) (length : Nat)
    (same : left.registers.slice register length = right.registers.slice register length) :
    (Bus.read left address register length).1 = (Bus.read right address register length).1 ∧
      Alike (Bus.read left address register length).2
        (Bus.read right address register length).2 := by
  have counted := alike.countRead register
  simp only [Bus.read, counted.refusesRead address register]
  split
  · exact ⟨rfl, counted⟩
  · exact ⟨congrArg some same, counted⟩

/-! What the control register shows after both of its bytes were written. -/

theorem write_low (alike : Alike left right) (address : UInt8) (value : UInt8)
    (accepted : (Bus.write right address Register.controlLow value).1 = true) :
    let afterLeft := (Bus.write left address Register.controlLow value).2
    let afterRight := (Bus.write right address Register.controlLow value).2
    afterLeft.pendingLow = afterRight.pendingLow ∧
      afterLeft.registers.get Register.controlLow =
        afterRight.registers.get Register.controlLow := by
  have counted := alike.countWrite Register.controlLow
  simp only [Bus.write, counted.refusesWrite address Register.controlLow] at accepted ⊢
  split at accepted
  · cases accepted
  next answered =>
    simp only [if_neg answered, Simulated.accept, Simulated.react, if_true,
      Register.Table.get_set, true_and]
    rw [counted.rules]
    exact counted.uncounted.stored ..

/-- The low byte being the same already, nothing is left that differs. -/
theorem write_high (alike : Alike left right) (pending : left.pendingLow = right.pendingLow)
    (low : left.registers.get Register.controlLow = right.registers.get Register.controlLow)
    (address : UInt8) (value : UInt8)
    (accepted : (Bus.write right address Register.controlHigh value).1 = true) :
    (Bus.write left address Register.controlHigh value).2.registers =
      (Bus.write right address Register.controlHigh value).2.registers := by
  have counted := alike.countWrite Register.controlHigh
  simp only [Bus.write, counted.refusesWrite address Register.controlHigh] at accepted ⊢
  split at accepted
  · cases accepted
  next answered =>
    have sameRules : (left.countWrite Register.controlHigh).rules =
        (right.countWrite Register.controlHigh).rules := alike.rules
    have stored := counted.uncounted.stored Register.controlHigh
      ((left.countWrite Register.controlHigh).writes.get Register.controlHigh)
      ((right.countWrite Register.controlHigh).writes.get Register.controlHigh) value
    have whole (byte : UInt8) :
        (left.countWrite Register.controlHigh).registers.set Register.controlHigh byte =
          (right.countWrite Register.controlHigh).registers.set Register.controlHigh byte :=
      counted.registers.set_high low byte
    have samePending : (left.countWrite Register.controlHigh).pendingLow =
        (right.countWrite Register.controlHigh).pendingLow := pending
    have high : Register.controlHigh ≠ Register.controlLow := by decide
    simp only [if_neg answered, Simulated.accept, Simulated.react, high, if_false, if_true,
      Simulated.respond, sameRules, stored, samePending, whole]
    split <;> rfl

/-! Accesses that leave the bus as it was, but for the control register and the counts. -/

theorem write_control {bus : Simulated} (uncounted : bus.rules.Uncounted) (address : UInt8)
    {register : Register}
    (control : register = Register.controlLow ∨ register = Register.controlHigh) (value : UInt8) :
    Alike (Bus.write bus address register value).2 bus := by
  have counted : Alike (bus.countWrite register) bus := ⟨rfl, uncounted, .refl _⟩
  simp only [Bus.write]
  split
  · exact counted
  · have stored (value : UInt8) := counted.registers.setControl control value
    rcases control with rfl | rfl
    · simp only [Simulated.accept, Simulated.react, if_true]
      exact ⟨rfl, uncounted, stored _⟩
    · have high : Register.controlHigh ≠ Register.controlLow := by decide
      simp only [Simulated.accept, Simulated.react, high, if_false, if_true]
      apply respond
      exact ⟨rfl, uncounted, stored _⟩

theorem read_unchanged {bus : Simulated} (uncounted : bus.rules.Uncounted) (address : UInt8)
    (register : Register) (length : Nat) :
    Alike (Bus.read bus address register length).2 bus :=
  ⟨read_rules .., uncounted, by rw [read_registers]; exact .refl _⟩

end Simulated.Alike
end Bus
end FuelGauge
