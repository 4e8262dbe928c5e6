import FuelGauge.Proofs.Bus.Replay

/-!
The registers of a replay, in two parts. Those of the window change with the block
that is loaded and with every byte that is written there; each of the others holds
what it accepted last, whatever happens to the window.
-/

namespace FuelGauge

open Flash (Window)

namespace Register

def Outside (register : Register) : Prop := register < 0x40 ∨ 0x5F < register

instance (register : Register) : Decidable (Outside register) :=
  inferInstanceAs (Decidable (_ ∨ _))

theorem Outside.beyond {register : Register} (outside : Outside register) :
    Flash.blockLength ≤ (register - blockData).toNat := by
  have start : blockData.toNat = 64 := rfl
  have first : (0x40 : UInt8).toNat = 64 := rfl
  have last : (0x5F : UInt8).toNat = 95 := rfl
  have below := register.toNat_lt
  rw [Outside, UInt8.lt_iff_toNat_lt, UInt8.lt_iff_toNat_lt, first, last] at outside
  rw [UInt8.toNat_sub, start, Flash.blockLength]
  omega

namespace Table

variable (table : Table UInt8)

def window : Window := table.slice blockData Flash.blockLength

theorem window_set {place : Nat} (inside : place < Flash.blockLength) (value : UInt8) :
    (table.set (blockData + UInt8.ofNat place) value).window =
      table.window.set place value inside :=
  table.slice_set blockData (by decide) inside value

theorem window_set_outside {register : Register} (outside : Outside register) (value : UInt8) :
    (table.set register value).window = table.window := by
  apply slice_congr
  intro index inside
  have apart : blockData + UInt8.ofNat index ≠ register := by
    rintro rfl
    have beyond := outside.beyond
    rw [toNat_place blockData (by decide) inside] at beyond
    omega
  rw [get_set, if_neg apart]

theorem window_setFrom (window : Window) :
    (table.setFrom blockData window.toList).window = window :=
  table.slice_setFrom blockData (by decide) window

end Table
end Register

namespace Bus.Rules

variable {rules : Rules} {table : Register.Table UInt8} {register target : Register}

theorem poke_of_ne (value : UInt8) (other : register ≠ Register.dataBlock) :
    rules.poke table register value = table.set register value := if_neg other

theorem poke_dataBlock (index : UInt8) :
    rules.poke table Register.dataBlock index =
      (rules.block? (table.get Register.dataClass) index).elim
        (table.set Register.dataBlock index) fun block =>
          (table.set Register.dataBlock index).setFrom Register.blockData block.data.toList := by
  have sameClass : (table.set Register.dataBlock index).get Register.dataClass =
      table.get Register.dataClass := by
    rw [Register.Table.get_set, if_neg (by decide)]
  rw [poke, if_pos rfl, sameClass]

theorem get_poke (value : UInt8) (outside : Register.Outside target) :
    (rules.poke table register value).get target =
      if target = register then value else table.get target := by
  have beyond := outside.beyond
  by_cases loads : register = Register.dataBlock
  · subst loads
    rw [poke_dataBlock]
    cases rules.block? (table.get Register.dataClass) value with
    | none => exact table.get_set ..
    | some block =>
      have size : block.data.toList.length = Flash.blockLength := block.data.length_toList
      rw [Option.elim_some, Register.Table.get_setFrom _ _ _ (size.trans_le (by decide)),
        List.getElem?_eq_none (size.trans_le beyond), Option.getD_none, Register.Table.get_set]
  · rw [poke_of_ne value loads, Register.Table.get_set]

theorem get_after (event : Event) (outside : Register.Outside target) {initial : UInt8}
    {before : Option UInt8} (held : table.get target = before.getD initial) :
    (rules.after table event).get target = (event.stores target before).getD initial := by
  cases event with
  | write address register value accepted =>
    cases accepted with
    | false =>
      simp only [Event.stores, Bool.false_eq_true, and_false, if_false]
      exact held
    | true =>
      simp only [after, Event.stores, and_true, get_poke value outside]
      by_cases same : target = register
      · rw [if_pos same, if_pos same.symm]
        rfl
      · rw [if_neg same, if_neg (Ne.symm same)]
        exact held
  | _ => exact held

theorem get_replay_from (events : List Event) (outside : Register.Outside target)
    {initial : UInt8} {before : Option UInt8} (held : table.get target = before.getD initial) :
    (rules.replay table events).get target =
      (events.foldl (Event.stores target) before).getD initial := by
  induction events generalizing table before with
  | nil => exact held
  | cons event rest ih => exact ih (get_after event outside held)

theorem get_replay (events : List Event) (outside : Register.Outside target) :
    (rules.replay table events).get target =
      (lastWritten target events).getD (table.get target) :=
  get_replay_from events outside rfl

end Bus.Rules

/-- Of a write, that the window does not change by it. -/
def Event.Aside : Event → Prop
  | .write _ register _ _ => register ≠ 0x3F ∧ Register.Outside register
  | _ => True

namespace Bus.Rules

variable {rules : Rules} {table : Register.Table UInt8}

theorem window_after {event : Event} (aside : event.Aside) :
    (rules.after table event).window = table.window := by
  cases event with
  | write address register value accepted =>
    cases accepted with
    | false => rfl
    | true =>
      have poked : rules.after table (.write address register value true) =
          table.set register value := poke_of_ne value aside.1
      rw [poked, table.window_set_outside aside.2]
  | _ => rfl

theorem window_replay {events : List Event} (aside : ∀ event ∈ events, event.Aside) :
    (rules.replay table events).window = table.window := by
  induction events generalizing table with
  | nil => rfl
  | cons event rest ih =>
    obtain ⟨first, later⟩ := List.forall_mem_cons.mp aside
    exact (ih later).trans (window_after first)

end Bus.Rules

end FuelGauge
