import FuelGauge.Proofs.Bus.Replay

/-!
Two simulated buses in step. They have the same rules, and the same counts where a
rule looks at them, so they refuse the same accesses; of their registers only some
need to hold the same. A register that is left out may be given different values.
-/

namespace FuelGauge

namespace Register.Table

def SameOn (shown : Register → Prop) (left right : Table UInt8) : Prop :=
  ∀ register, shown register → left.get register = right.get register

namespace SameOn

variable {shown : Register → Prop} {left right : Table UInt8}

theorem set (same : SameOn shown left right) {target : Register} {value other : UInt8}
    (known : shown target → value = other) :
    SameOn shown (left.set target value) (right.set target other) := by
  intro register isShown
  rw [get_set, get_set]
  by_cases here : register = target
  · rw [if_pos here, if_pos here, known (here ▸ isShown)]
  · rw [if_neg here, if_neg here, same register isShown]

theorem setFrom (same : SameOn shown left right) (start : Register) (values : List UInt8) :
    SameOn shown (left.setFrom start values) (right.setFrom start values) := by
  induction values generalizing left right start with
  | nil => exact same
  | cons value rest ih => exact ih (same.set fun _ => rfl) (start + 1)

theorem slice (same : SameOn shown left right) {start : Register} {length : Nat}
    (isShown : ∀ index < length, shown (start + UInt8.ofNat index)) :
    left.slice start length = right.slice start length :=
  slice_congr start fun index inside => same _ (isShown index inside)

end SameOn
end Register.Table

namespace Bus

/-- What two buses are held against each other by. The gauge acts on what is written
to some registers, and shows the checksum of the window in another one. -/
structure View where
  shown : Register → Prop
  /-- The registers that were read as often on both. -/
  counted : Register → Prop
  acting : ∀ register ∈ [Register.controlLow, Register.controlHigh, Register.dataClass,
    Register.dataBlock], shown register
  checksum : shown Register.blockChecksum →
    ∀ index < Flash.blockLength, shown (Register.blockData + UInt8.ofNat index)

/-- Numbered transactions are the only rule that looks at how many there were. -/
theorem Rules.refuses_congr (rules : Rules) (faults : List Fault) (address : UInt8)
    (register : Register) {transaction other count : Nat}
    (same : rules.failingTransactions ≠ [] → transaction = other) :
    rules.refuses faults address register transaction count =
      rules.refuses faults address register other count := by
  by_cases numbered : rules.failingTransactions = []
  · simp [Rules.refuses, numbered]
  · rw [same numbered]

structure Simulated.InStep (view : View) (rules : Rules) (left right : Simulated) : Prop where
  leftRules : left.rules = rules
  rightRules : right.rules = rules
  pendingLow : left.pendingLow = right.pendingLow
  transactions : rules.failingTransactions ≠ [] → left.transactions = right.transactions
  writes : left.writes = right.writes
  reads : ∀ register, view.counted register →
    left.reads.get register = right.reads.get register
  registers : left.registers.SameOn view.shown right.registers

namespace Simulated.InStep

variable {view : View} {rules : Rules} {left right : Simulated}

theorem refl (view : View) (bus : Simulated) : InStep view bus.rules bus bus where
  leftRules := rfl
  rightRules := rfl
  pendingLow := rfl
  transactions _ := rfl
  writes := rfl
  reads _ _ := rfl
  registers _ _ := rfl

theorem countWrite (inStep : InStep view rules left right) (register : Register) :
    InStep view rules (left.countWrite register) (right.countWrite register) where
  leftRules := inStep.leftRules
  rightRules := inStep.rightRules
  pendingLow := inStep.pendingLow
  transactions numbered := congrArg (· + 1) (inStep.transactions numbered)
  writes := by simp only [Simulated.countWrite, inStep.writes]
  reads := inStep.reads
  registers := inStep.registers

theorem countRead (inStep : InStep view rules left right) {register : Register}
    (counted : view.counted register) :
    InStep view rules (left.countRead register) (right.countRead register) where
  leftRules := inStep.leftRules
  rightRules := inStep.rightRules
  pendingLow := inStep.pendingLow
  transactions numbered := congrArg (· + 1) (inStep.transactions numbered)
  writes := inStep.writes
  reads := by
    intro other otherCounted
    simp only [Simulated.countRead, Register.Table.get_set, inStep.reads register counted,
      inStep.reads other otherCounted]
  registers := inStep.registers

theorem refusesWrite (inStep : InStep view rules left right) (address : UInt8)
    (register : Register) :
    left.refusesWrite address register = right.refusesWrite address register := by
  rw [Simulated.refusesWrite, Simulated.refusesWrite, inStep.leftRules, inStep.rightRules,
    inStep.writes]
  exact rules.refuses_congr _ _ _ inStep.transactions

theorem refusesRead (inStep : InStep view rules left right) (address : UInt8)
    {register : Register} (counted : view.counted register) :
    left.refusesRead address register = right.refusesRead address register := by
  rw [Simulated.refusesRead, Simulated.refusesRead, inStep.leftRules, inStep.rightRules,
    inStep.reads register counted]
  exact rules.refuses_congr _ _ _ inStep.transactions

theorem setRegisters (inStep : InStep view rules left right) {first second : Register.Table UInt8}
    (same : first.SameOn view.shown second) :
    InStep view rules { left with registers := first } { right with registers := second } :=
  { inStep with registers := same }

theorem respond (inStep : InStep view rules left right) (high : UInt8) :
    InStep view rules (left.respond high) (right.respond high) := by
  have same : left.rules.answer? (Word.ofBytes left.pendingLow high) =
      right.rules.answer? (Word.ofBytes right.pendingLow high) := by
    rw [inStep.leftRules, inStep.rightRules, inStep.pendingLow]
  unfold Simulated.respond
  rw [same]
  cases right.rules.answer? (Word.ofBytes right.pendingLow high) with
  | none => exact inStep
  | some answer =>
    exact inStep.setRegisters ((inStep.registers.set fun _ => rfl).set fun _ => rfl)

theorem loadBlock (inStep : InStep view rules left right) (index : UInt8) :
    InStep view rules (left.loadBlock index) (right.loadBlock index) := by
  have same : left.rules.block? (left.registers.get Register.dataClass) index =
      right.rules.block? (right.registers.get Register.dataClass) index := by
    rw [inStep.leftRules, inStep.rightRules,
      inStep.registers Register.dataClass (view.acting _ (by decide))]
  unfold Simulated.loadBlock
  rw [same]
  cases right.rules.block? (right.registers.get Register.dataClass) index with
  | none => exact inStep
  | some block => exact inStep.setRegisters (inStep.registers.setFrom _ _)

theorem react (inStep : InStep view rules left right) {register : Register}
    {value other : UInt8} (known : view.shown register → value = other) :
    InStep view rules (left.react register value) (right.react register other) := by
  unfold Simulated.react
  split
  next low =>
    have same := known (low ▸ view.acting _ (by decide))
    exact { inStep with pendingLow := same }
  · split
    next high =>
      rw [known (high ▸ view.acting _ (by decide))]
      exact inStep.respond other
    · split
      next block =>
        rw [known (block ▸ view.acting _ (by decide))]
        exact inStep.loadBlock other
      · exact inStep

theorem accept (inStep : InStep view rules left right) {register : Register}
    {value other : UInt8} (known : view.shown register → value = other) :
    InStep view rules (left.accept register value) (right.accept register other) := by
  have stored (isShown : view.shown register) :
      left.rules.stored register (left.writes.get register) value =
        right.rules.stored register (right.writes.get register) other := by
    rw [inStep.leftRules, inStep.rightRules, inStep.writes, known isShown]
  exact (inStep.setRegisters (inStep.registers.set stored)).react known

theorem write (inStep : InStep view rules left right) (address : UInt8) (register : Register)
    (value other : UInt8) (known : view.shown register → value = other) :
    (Bus.write left address register value).1 = (Bus.write right address register other).1 ∧
      InStep view rules (Bus.write left address register value).2
        (Bus.write right address register other).2 := by
  have counted := inStep.countWrite register
  simp only [Bus.write, counted.refusesWrite address register]
  split
  · exact ⟨rfl, counted⟩
  · exact ⟨rfl, counted.accept known⟩

theorem read (inStep : InStep view rules left right) (address : UInt8) {register : Register}
    (counted : view.counted register) (length : Nat) :
    let first := Bus.read left address register length
    let second := Bus.read right address register length
    first.1.isSome = second.1.isSome ∧
      ((∀ index < length, view.shown (register + UInt8.ofNat index)) → first.1 = second.1) ∧
      InStep view rules first.2 second.2 := by
  have counting := inStep.countRead counted
  simp only [Bus.read, counting.refusesRead address counted]
  split
  · exact ⟨rfl, fun _ => rfl, counting⟩
  · exact ⟨rfl, fun isShown => congrArg some (counting.registers.slice isShown), counting⟩

/-- A read that only one of the buses sees, of a register that need not be counted. -/
theorem read_left (inStep : InStep view rules left right) (address : UInt8)
    {register : Register} (uncounted : ¬ view.counted register)
    (unnumbered : rules.failingTransactions = []) (length : Nat) :
    InStep view rules (Bus.read left address register length).2 right := by
  have counting : InStep view rules (left.countRead register) right := by
    refine { inStep with transactions := fun numbered => absurd unnumbered numbered, reads := ?_ }
    intro other otherCounted
    have apart : other ≠ register := fun same => uncounted (same ▸ otherCounted)
    simp only [Simulated.countRead, Register.Table.get_set, if_neg apart]
    exact inStep.reads other otherCounted
  simp only [Bus.read]
  split
  · exact counting
  · exact counting

end Simulated.InStep
end Bus
end FuelGauge
