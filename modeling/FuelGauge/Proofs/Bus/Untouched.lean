import FuelGauge.Proofs.Bus.Window

/-!
Registers that are left alone. On its own the gauge changes the control register and the
window only, so a register beyond these that is not written to holds what it held before,
whatever rules the bus follows and whatever else is done on it.
-/

namespace FuelGauge

open Bus (Simulated)

/-- Neither part of the control register nor of the window. -/
structure Register.Inert (register : Register) : Prop where
  low : register ≠ Register.controlLow
  high : register ≠ Register.controlHigh
  outside : register.Outside

def Event.WritesTo (register : Register) : Event → Prop
  | .write _ target _ _ => target = register
  | _ => False

namespace Bus.Simulated

variable {target : Register} (inert : target.Inert)
include inert

theorem loadBlock_get (bus : Simulated) (index : UInt8) :
    (bus.loadBlock index).registers.get target = bus.registers.get target := by
  unfold loadBlock
  cases bus.rules.block? (bus.registers.get Register.dataClass) index with
  | none => rfl
  | some block =>
    have size : block.data.toList.length = Flash.blockLength := block.data.length_toList
    have beyond := List.getElem?_eq_none (size.trans_le inert.outside.beyond)
    simp only
    rw [Register.Table.get_setFrom _ _ _ (size.trans_le (by decide)), beyond, Option.getD_none]

theorem react_get (bus : Simulated) (register : Register) (value : UInt8) :
    (bus.react register value).registers.get target = bus.registers.get target := by
  unfold react
  split
  · rfl
  · split
    · exact respond_same bus value target inert.low inert.high
    · split
      · exact loadBlock_get inert bus value
      · rfl

theorem write_get {register : Register} (apart : target ≠ register) (bus : Simulated)
    (address value : UInt8) :
    (Bus.write bus address register value).2.registers.get target =
      bus.registers.get target := by
  simp only [Bus.write]
  split
  · rfl
  · rw [accept, react_get inert, Register.Table.get_set, if_neg apart]
    rfl

end Bus.Simulated

variable {σ α : Type} {bus : Simulated} {target : Register}

theorem Program.run_untouched (inert : target.Inert) (program : Program α) (address : UInt8)
    (unwritten : ∀ event ∈ traffic (program.run address bus).events, ¬ event.WritesTo target) :
    (program.run address bus).bus.registers.get target = bus.registers.get target := by
  induction program generalizing bus with
  | done value => rfl
  | log record next ih => exact ih unwritten
  | delay nanoseconds next ih =>
    exact ih fun event member => unwritten event (List.mem_cons_of_mem _ member)
  | write register value next ih =>
    rw [traffic_run_write] at unwritten
    -- The first write is to another register, and so is what the bus does upon it.
    obtain ⟨other, later⟩ := List.forall_mem_cons.mp unwritten
    exact (ih _ later).trans (Simulated.write_get inert (Ne.symm other) bus address value)
  | read register length next ih =>
    rw [traffic_run_read] at unwritten
    obtain ⟨_, later⟩ := List.forall_mem_cons.mp unwritten
    refine (ih _ later).trans ?_
    rw [Simulated.read_registers]

theorem Action.run_untouched (inert : target.Inert) (action : Action σ α) (address : UInt8)
    (state : σ)
    (unwritten : ∀ event ∈ traffic (action.run address state bus).events,
      ¬ event.WritesTo target) :
    (action.run address state bus).bus.registers.get target = bus.registers.get target :=
  (action state).run_untouched inert address unwritten

end FuelGauge
