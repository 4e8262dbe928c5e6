import FuelGauge.Proofs.Bus.Window

/-!
What accepted writes leave in the registers, whatever was in them before. Where no
override counts, a register ends up with a value that was known beforehand, or is
left alone; doing the same once more changes nothing. The checksum of the window is
not known beforehand, and is left out.
-/

namespace FuelGauge

namespace Register.Table

/-- The values that registers are given; those without one keep theirs. -/
abbrev Overlay := Register → Option UInt8

namespace Overlay

def nothing : Overlay := fun _ => none

def single (target : Register) (value : UInt8) : Overlay :=
  fun register => if register = target then some value else none

def successive (start : Register) (values : List UInt8) : Overlay :=
  fun register => values[(register - start).toNat]?

def covering (later earlier : Overlay) : Overlay :=
  fun register => (later register).or (earlier register)

end Overlay

def Overlaid (overlay : Overlay) (before after : Table UInt8) : Prop :=
  ∀ register, register ≠ blockChecksum →
    after.get register = (overlay register).getD (before.get register)

namespace Overlaid

variable {overlay later : Overlay} {before between after : Table UInt8}

theorem refl (table : Table UInt8) : Overlaid .nothing table table := fun _ _ => rfl

theorem trans (first : Overlaid overlay before between) (second : Overlaid later between after) :
    Overlaid (later.covering overlay) before after := by
  intro register other
  rw [second register other, first register other, Overlay.covering]
  cases later register with
  | none => rw [Option.none_or, Option.getD_none]
  | some value => rfl

theorem set (table : Table UInt8) (target : Register) (value : UInt8) :
    Overlaid (.single target value) table (table.set target value) := by
  intro register _
  rw [get_set, Overlay.single]
  by_cases here : register = target
  · rw [if_pos here, if_pos here, Option.getD_some]
  · rw [if_neg here, if_neg here, Option.getD_none]

theorem setFrom (table : Table UInt8) (start : Register) {values : List UInt8}
    (fits : values.length ≤ 256) :
    Overlaid (.successive start values) table (table.setFrom start values) :=
  fun register _ => get_setFrom table start values fits register

theorem setChecksum (table : Table UInt8) (value : UInt8) :
    Overlaid .nothing table (table.set blockChecksum value) := by
  intro register other
  rw [get_set, if_neg other]
  rfl

theorem again (first : Overlaid overlay before between) (second : Overlaid overlay between after)
    {register : Register} (other : register ≠ blockChecksum) :
    after.get register = between.get register := by
  rw [second register other, first register other]
  cases overlay register with
  | none => rfl
  | some value => rfl

end Overlaid
end Register.Table

namespace Bus.Simulated

open Register.Table (Overlay Overlaid SameBeyondControl)

theorem write_accepted {bus : Simulated} {address : UInt8} {register : Register} {value : UInt8}
    (accepted : (Bus.write bus address register value).1 = true) :
    (Bus.write bus address register value).2 = (bus.countWrite register).accept register value := by
  simp only [Bus.write] at accepted ⊢
  split at accepted
  · cases accepted
  next stands => rw [if_neg stands]

theorem accept_rules (bus : Simulated) (register : Register) (value : UInt8) :
    (bus.accept register value).rules = bus.rules := react_rules ..

theorem accept_spares (bus : Simulated) {register : Register}
    (control : register = Register.controlLow ∨ register = Register.controlHigh) (value : UInt8) :
    SameBeyondControl (bus.accept register value).registers bus.registers := by
  have keeps : bus.rules.Keeps register :=
    fun low high => absurd control (not_or.mpr ⟨low, high⟩)
  have block : register ≠ Register.dataBlock := by
    rcases control with rfl | rfl <;> decide
  have poked := accept_replays (.refl bus.registers) keeps value
  rw [Rules.poke_of_ne value block] at poked
  exact poked.trans ((SameBeyondControl.refl _).setControl control value)

def answerOverlay (rules : Rules) (low high : UInt8) : Overlay :=
  (rules.answer? (Word.ofBytes low high)).elim .nothing fun answer =>
    .covering (.single Register.controlHigh (Word.high answer))
      (.single Register.controlLow (Word.low answer))

theorem respond_overlaid (bus : Simulated) (high : UInt8) :
    Overlaid (answerOverlay bus.rules bus.pendingLow high) bus.registers
      (bus.respond high).registers := by
  rw [respond, answerOverlay]
  cases bus.rules.answer? (Word.ofBytes bus.pendingLow high) with
  | none => exact .refl _
  | some answer => exact (Overlaid.set _ Register.controlLow _).trans (.set _ _ _)

def blockOverlay (rules : Rules) (subclass index : UInt8) : Overlay :=
  (rules.block? subclass index).elim .nothing fun block =>
    .successive Register.blockData block.data.toList

theorem loadBlock_overlaid (bus : Simulated) (index : UInt8) :
    Overlaid (blockOverlay bus.rules (bus.registers.get Register.dataClass) index) bus.registers
      (bus.loadBlock index).registers := by
  rw [loadBlock, blockOverlay]
  cases bus.rules.block? (bus.registers.get Register.dataClass) index with
  | none => exact .refl _
  | some block =>
    have size : block.data.toList.length ≤ 256 := by
      rw [Vector.length_toList]
      decide
    exact .setFrom _ Register.blockData size

section

variable (bus : Simulated)
  (every : ∀ override ∈ bus.rules.overrides, override.occurrence = .every)
include every

/-- What an accepted write stores is known, however many there were before it. -/
theorem accept_eq (register : Register) (value : UInt8) :
    bus.accept register value =
      { bus with registers := bus.registers.set register (bus.rules.stored register 0 value) }.react
        register value := by
  rw [accept, bus.rules.stored_of_every every register (bus.writes.get register) 0 value]

theorem accept_registers (register : Register) (high : register ≠ Register.controlHigh)
    (block : register ≠ Register.dataBlock) (value : UInt8) :
    (bus.accept register value).registers =
      bus.registers.set register (bus.rules.stored register 0 value) := by
  rw [accept_eq bus every, react, if_neg high, if_neg block]
  split
  · rfl
  · rfl

theorem accept_high_overlaid (value : UInt8) :
    Overlaid ((answerOverlay bus.rules bus.pendingLow value).covering
        (.single Register.controlHigh (bus.rules.stored Register.controlHigh 0 value)))
      bus.registers (bus.accept Register.controlHigh value).registers := by
  rw [accept_eq bus every]
  exact (Overlaid.set bus.registers Register.controlHigh _).trans (respond_overlaid _ value)

theorem accept_block_overlaid (value : UInt8) :
    Overlaid ((blockOverlay bus.rules (bus.registers.get Register.dataClass) value).covering
        (.single Register.dataBlock (bus.rules.stored Register.dataBlock 0 value)))
      bus.registers (bus.accept Register.dataBlock value).registers := by
  have loaded := loadBlock_overlaid { bus with
    registers := bus.registers.set Register.dataBlock
      (bus.rules.stored Register.dataBlock 0 value) } value
  have sameClass : (bus.registers.set Register.dataBlock
      (bus.rules.stored Register.dataBlock 0 value)).get Register.dataClass =
        bus.registers.get Register.dataClass := by
    rw [Register.Table.get_set, if_neg (by decide)]
  rw [sameClass] at loaded
  rw [accept_eq bus every]
  exact (Overlaid.set bus.registers Register.dataBlock _).trans loaded

end

end Bus.Simulated
end FuelGauge
