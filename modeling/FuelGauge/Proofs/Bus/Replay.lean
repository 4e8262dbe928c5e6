import FuelGauge.Proofs.Bus.Alike
import FuelGauge.Proofs.Bus.Causality

/-!
A simulated gauge as a memory. Its registers are the ones it had, with the accepted
writes carried out one after the other, and a read shows what the writes before it
left. This holds of all registers that no override is put on but those of the
control word, where the gauge puts its answers.
-/

namespace FuelGauge

namespace Register.Table

variable {α : Type}

theorem get_setFrom (table : Table α) (start : Register) (values : List α)
    (fits : values.length ≤ 256) (register : Register) :
    (table.setFrom start values).get register =
      values[(register - start).toNat]?.getD (table.get register) := by
  induction values generalizing table start with
  | nil => rfl
  | cons value rest ih =>
    have restFits : rest.length ≤ 255 := Nat.le_of_succ_le_succ fits
    rw [setFrom, ih _ _ (by omega), get_set]
    have below := register.toNat_lt
    have startBelow := start.toNat_lt
    have one : (1 : UInt8).toNat = 1 := rfl
    by_cases same : register = start
    · -- The values do not come round to the first register again.
      have last : (register - (start + 1)).toNat = 255 := by
        rw [same, UInt8.toNat_sub, UInt8.toNat_add, one]
        omega
      rw [last, List.getElem?_eq_none restFits, if_pos same, same, UInt8.sub_self]
      rfl
    · have next : (register - start).toNat = (register - (start + 1)).toNat + 1 := by
        have apart : register.toNat ≠ start.toNat := fun h => same (UInt8.toNat_inj.mp h)
        rw [UInt8.toNat_sub, UInt8.toNat_sub, UInt8.toNat_add, one]
        omega
      rw [next, List.getElem?_cons_succ, if_neg same]

variable {length : Nat} (table : Table α) (start : Register)

theorem toNat_place (fits : length ≤ 256) {index : Nat} (inside : index < length) :
    (start + UInt8.ofNat index - start).toNat = index := by
  have below := start.toNat_lt
  rw [UInt8.toNat_sub, UInt8.toNat_add, UInt8.toNat_ofNat']
  omega

theorem slice_congr {left right : Table α} (same : ∀ index < length,
      left.get (start + UInt8.ofNat index) = right.get (start + UInt8.ofNat index)) :
    left.slice start length = right.slice start length := by
  apply Vector.ext
  intro index inside
  rw [get_slice, get_slice, same index inside]

theorem slice_setFrom (fits : length ≤ 256) (values : Vector α length) :
    (table.setFrom start values.toList).slice start length = values := by
  apply Vector.ext
  intro index inside
  rw [get_slice, get_setFrom _ _ _ (by simpa using fits), toNat_place start fits inside]
  simp [inside]

theorem slice_set (fits : length ≤ 256) {place : Nat} (inside : place < length) (value : α) :
    (table.set (start + UInt8.ofNat place) value).slice start length =
      (table.slice start length).set place value inside := by
  apply Vector.ext
  intro index bound
  rw [get_slice, get_set, Vector.getElem_set, get_slice]
  by_cases same : place = index
  · rw [same, if_pos rfl, if_pos rfl]
  · have apart : start + UInt8.ofNat index ≠ start + UInt8.ofNat place := by
      intro h
      have places := congrArg (fun register => (register - start).toNat) h
      rw [toNat_place start fits bound, toNat_place start fits inside] at places
      exact same places.symm
    rw [if_neg apart, if_neg same]

end Register.Table

def Event.stores (register : Register) (before : Option UInt8) : Event → Option UInt8
  | .write _ target value accepted =>
      if target = register ∧ accepted = true then some value else before
  | _ => before

def lastWritten (register : Register) (events : List Event) : Option UInt8 :=
  events.foldl (Event.stores register) none

/-- Of a read that was answered, that it shows these registers. -/
def Event.ShownBy (table : Register.Table UInt8) : Event → Prop
  | .read _ register length (some bytes) =>
      Register.Clear register length → bytes = (table.slice register length).toList
  | _ => True

namespace Bus

open Register.Table (SameBeyondControl)

namespace Rules

variable (rules : Rules)

/-- What is written to the register stays there. Of the control word this is not
asked, since answers take the place of what was written. -/
def Keeps (register : Register) : Prop :=
  register ≠ Register.controlLow → register ≠ Register.controlHigh →
    ∀ override ∈ rules.overrides, override.register ≠ register

def poke (table : Register.Table UInt8) (register : Register) (value : UInt8) :
    Register.Table UInt8 :=
  let written := table.set register value
  if register = Register.dataBlock then
    (rules.block? (written.get Register.dataClass) value).elim written fun block =>
      written.setFrom Register.blockData block.data.toList
  else written

def after (table : Register.Table UInt8) : Event → Register.Table UInt8
  | .write _ register value true => rules.poke table register value
  | _ => table

def replay (table : Register.Table UInt8) (events : List Event) : Register.Table UInt8 :=
  events.foldl rules.after table

theorem replay_append (table : Register.Table UInt8) (first second : List Event) :
    rules.replay table (first ++ second) = rules.replay (rules.replay table first) second :=
  List.foldl_append

/-- Every read that was answered shows the registers as they were then. -/
def Shows (table : Register.Table UInt8) : List Event → Prop
  | [] => True
  | event :: rest => event.ShownBy table ∧ Shows (rules.after table event) rest

theorem shows_append {table : Register.Table UInt8} {first second : List Event} :
    rules.Shows table (first ++ second) ↔
      rules.Shows table first ∧ rules.Shows (rules.replay table first) second := by
  induction first generalizing table with
  | nil => exact (and_iff_right trivial).symm
  | cons event rest ih =>
    simp only [List.cons_append, Shows, ih, and_assoc]
    rfl

variable {rules}

theorem Keeps.stored {register : Register} (keeps : rules.Keeps register)
    (low : register ≠ Register.controlLow) (high : register ≠ Register.controlHigh) (count : Nat)
    (value : UInt8) : rules.stored register count value = value := by
  have none : rules.overrides.find? (·.isMet register count) = none := by
    rw [List.find?_eq_none]
    intro override member
    simp [Override.isMet, keeps low high override member]
  rw [Rules.stored, none]
  rfl

end Rules

namespace Simulated

variable {bus : Simulated} {table : Register.Table UInt8}

theorem respond_same (bus : Simulated) (high : UInt8) :
    SameBeyondControl (bus.respond high).registers bus.registers := by
  unfold respond
  split
  · exact .refl _
  · exact ((SameBeyondControl.refl _).setControl (Or.inl rfl) _).setControl (Or.inr rfl) _

theorem set_control (same : SameBeyondControl bus.registers table) {register : Register}
    (control : register = Register.controlLow ∨ register = Register.controlHigh)
    (stored value : UInt8) :
    SameBeyondControl (bus.registers.set register stored) (table.set register value) :=
  ((same.setControl control stored).symm.setControl control value).symm

theorem accept_replays (same : SameBeyondControl bus.registers table) {register : Register}
    (keeps : bus.rules.Keeps register) (value : UInt8) :
    SameBeyondControl (bus.accept register value).registers
      (bus.rules.poke table register value) := by
  unfold accept react Rules.poke
  by_cases low : register = Register.controlLow
  · subst low
    exact set_control same (Or.inl rfl) _ value
  by_cases high : register = Register.controlHigh
  · subst high
    exact (respond_same _ _).trans (set_control same (Or.inr rfl) _ value)
  · have written := same.set register value
    have sameClass := written Register.dataClass (by decide) (by decide)
    simp only [low, high, if_false, keeps.stored low high]
    split
    · unfold loadBlock
      simp only [sameClass]
      cases bus.rules.block? ((table.set register value).get Register.dataClass) value with
      | none => exact written
      | some block => exact written.setFrom _ _
    · exact written

theorem write_replays (same : SameBeyondControl bus.registers table) (address : UInt8)
    {register : Register} (keeps : bus.rules.Keeps register) (value : UInt8) :
    SameBeyondControl (Bus.write bus address register value).2.registers
      (bus.rules.after table
        (.write address register value (Bus.write bus address register value).1)) := by
  simp only [Bus.write]
  split
  · exact same
  · have counted : SameBeyondControl (bus.countWrite register).registers table := same
    exact accept_replays counted keeps value

theorem read_shows (same : SameBeyondControl bus.registers table) {address : UInt8}
    {register : Register} {length : Nat} {bytes : Vector UInt8 length}
    (clear : Register.Clear register length)
    (answered : (Bus.read bus address register length).1 = some bytes) :
    bytes = table.slice register length := by
  simp only [Bus.read] at answered
  split at answered
  · cases answered
  · rw [← Option.some.inj answered]
    exact same.slice clear

end Simulated

def Rules.KeepsWrite (rules : Rules) : Event → Prop
  | .write _ register _ _ => rules.Keeps register
  | _ => True

end Bus

open Bus (Rules Simulated)
open Register.Table (SameBeyondControl)

variable {σ α : Type} {rules : Rules} {bus : Simulated} {table : Register.Table UInt8}

theorem Program.run_replays (program : Program α) (address : UInt8) (known : bus.rules = rules)
    (same : SameBeyondControl bus.registers table)
    (keeps : ∀ event ∈ traffic (program.run address bus).events, rules.KeepsWrite event) :
    SameBeyondControl (program.run address bus).bus.registers
        (rules.replay table (traffic (program.run address bus).events)) ∧
      rules.Shows table (traffic (program.run address bus).events) := by
  induction program generalizing bus table with
  | done value => exact ⟨same, trivial⟩
  | log record next ih => exact ih known same keeps
  | delay nanoseconds next ih =>
    obtain ⟨registers, shows⟩ :=
      ih known same fun event member => keeps event (List.mem_cons_of_mem _ member)
    exact ⟨registers, trivial, shows⟩
  | write register value next ih =>
    rw [traffic_run_write] at keeps ⊢
    obtain ⟨kept, restKept⟩ := List.forall_mem_cons.mp keeps
    subst known
    obtain ⟨registers, shows⟩ := ih _ (Simulated.write_rules bus address register value)
      (Simulated.write_replays same address kept value) restKept
    exact ⟨registers, trivial, shows⟩
  | read register length next ih =>
    rw [traffic_run_read] at keeps ⊢
    obtain ⟨_, restKept⟩ := List.forall_mem_cons.mp keeps
    subst known
    have unread : SameBeyondControl (Bus.read bus address register length).2.registers table := by
      rw [Simulated.read_registers]
      exact same
    obtain ⟨registers, shows⟩ := ih _ (Simulated.read_rules bus address register length)
      unread restKept
    refine ⟨registers, ?_, shows⟩
    cases answered : (Bus.read bus address register length).1 with
    | none => trivial
    | some bytes =>
      intro clear
      rw [Simulated.read_shows same clear answered]

theorem Action.run_replays (action : Action σ α) (address : UInt8) (state : σ)
    (keeps : ∀ event ∈ traffic (action.run address state bus).events, bus.rules.KeepsWrite event) :
    SameBeyondControl (action.run address state bus).bus.registers
        (bus.rules.replay bus.registers (traffic (action.run address state bus).events)) ∧
      bus.rules.Shows bus.registers (traffic (action.run address state bus).events) :=
  (action state).run_replays address rfl (.refl _) keeps

end FuelGauge
