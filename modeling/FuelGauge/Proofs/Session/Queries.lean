import FuelGauge.Proofs.Gauge.Unaffected
import FuelGauge.Proofs.Session.History

/-!
Questions to the gauge are transparent. On a bus whose rules do not count, a
question changes the control register and the counts at most, and no other
request depends on what it finds there: wherever questions are put in a session,
all else goes as it would go without them.
-/

namespace FuelGauge

open Bus (Adjustment Simulated)

variable {σ α γ : Type}

/-- What the action leaves on the bus cannot be seen beyond the control register. -/
def Unseen (action : Action σ α) : Prop :=
  ∀ (address : UInt8) (state : σ) (bus : Simulated), bus.rules.Uncounted →
    (action.run address state bus).bus.Alike bus

namespace Unseen

theorem bind {action : Action σ α} {rest : α → Action σ γ} (first : Unseen action)
    (second : ∀ value, Unseen (rest value)) : Unseen (action >>= rest) := by
  intro address state bus uncounted
  have kept := first address state bus uncounted
  simp only [Action.run_bind]
  cases (action.run address state bus).result with
  | error error => exact kept
  | ok value => exact (second value address _ _ kept.symm.uncounted).trans kept

theorem writeControl {register : Register}
    (control : register = Register.controlLow ∨ register = Register.controlHigh) (value : UInt8) :
    Unseen (Action.write register value : Action σ Unit) :=
  fun address _ _ uncounted => .write_control uncounted address control value

theorem delay (nanoseconds : Nat) : Unseen (Action.delay nanoseconds : Action σ Unit) :=
  fun _ _ _ uncounted => .refl uncounted

theorem readWord (register : Register) :
    Unseen (Transfer.readWord register : Action σ UInt16) := by
  intro address state bus uncounted
  have kept := Simulated.Alike.read_unchanged uncounted address register 2
  simp only [Transfer.run_readWord]
  cases (Bus.read bus address register 2).1 with
  | none => exact kept
  | some bytes => exact kept

theorem ask (word : ControlWord) : Unseen (Transfer.ask word : Action σ UInt16) := by
  have issue : Unseen (Transfer.issue word : Action σ Unit) :=
    (writeControl (Or.inl rfl) _).bind fun _ =>
      (delay _).bind fun _ => writeControl (Or.inr rfl) _
  exact issue.bind fun _ => readWord _

end Unseen

namespace Bus

def Adjustment.Uncounted (change : Adjustment) : Prop := (change.applyRules {}).Uncounted

theorem getD_of_getD {P : γ → Prop} {named? : Option γ} {nothing before : γ}
    (named : P (named?.getD nothing)) (kept : P before) : P (named?.getD before) := by
  cases named? with
  | none => exact kept
  | some value => exact named

theorem Adjustment.Uncounted.applyRules {change : Adjustment} {rules : Rules}
    (named : change.Uncounted) (before : rules.Uncounted) :
    (change.applyRules rules).Uncounted where
  overrides := getD_of_getD (P := fun overrides : List Override =>
    ∀ override ∈ overrides, override.occurrence = .every) named.overrides before.overrides
  failingWrites := getD_of_getD (P := fun faults : List Fault =>
    ∀ fault ∈ faults, fault.occurrence = .every) named.failingWrites before.failingWrites
  failingReads := getD_of_getD (P := fun faults : List Fault =>
    ∀ fault ∈ faults, fault.occurrence = .every) named.failingReads before.failingReads
  failingTransactions :=
    getD_of_getD (P := fun numbers : List Nat => numbers = []) named.failingTransactions
      before.failingTransactions

theorem applyRegisters_same {left right : Register.Table UInt8}
    (same : left.SameBeyondControl right) (change : Adjustment) :
    (change.applyRegisters left).SameBeyondControl (change.applyRegisters right) := by
  have bytes (entries : List (Register × UInt8)) :
      ∀ {left right : Register.Table UInt8}, left.SameBeyondControl right →
        (entries.foldl (fun table entry => table.set entry.1 entry.2) left).SameBeyondControl
          (entries.foldl (fun table entry => table.set entry.1 entry.2) right) := by
    induction entries with
    | nil => exact id
    | cons entry rest ih => exact fun same => ih (same.set entry.1 entry.2)
  have words (entries : List (Register × UInt16)) :
      ∀ {left right : Register.Table UInt8}, left.SameBeyondControl right →
        (entries.foldl Adjustment.storeWord left).SameBeyondControl
          (entries.foldl Adjustment.storeWord right) := by
    induction entries with
    | nil => exact id
    | cons entry rest ih => exact fun same => ih ((same.set _ _).set _ _)
  exact words change.words (bytes change.registers same)

theorem Simulated.Alike.adjust {left right : Simulated} (alike : left.Alike right)
    {change : Adjustment} (uncounted : change.Uncounted) :
    (Adjustable.adjust left change).Alike (Adjustable.adjust right change) where
  rules := congrArg change.applyRules alike.rules
  uncounted := uncounted.applyRules alike.uncounted
  registers := applyRegisters_same alike.registers change

end Bus

namespace Session

/-- The requests that ask something of the gauge and leave it as it is. -/
def Request.isQuery {κ : Type} : Request κ → Bool
  | .command .deviceType | .command .firmwareVersion | .command .controlStatus => true
  | _ => false

def others {β κ : Type} [Bus β] [Adjustable β κ] (session : Session β)
    (requests : List (Request κ)) : List Reply :=
  ((requests.zip (session.run requests).1).filter fun step => !step.1.isQuery).map Prod.snd

structure Alike (left right : Session Simulated) : Prop where
  gauge : left.gauge = right.gauge
  bus : left.bus.Alike right.bus

def Uncounted (requests : List (Request Adjustment)) : Prop :=
  ∀ change, .adjust change ∈ requests → change.Uncounted

variable {left right third : Session Simulated}

theorem step_alike (alike : Alike left right) (request : Request Adjustment)
    (uncounted : Uncounted [request]) :
    (left.step request).1 = (right.step request).1 ∧
      Alike (left.step request).2 (right.step request).2 := by
  cases request with
  | adjust change =>
    have named := uncounted change (List.mem_singleton_self _)
    simp only [step, alike.gauge, true_and]
    exact ⟨rfl, alike.bus.adjust named⟩
  | command command =>
    obtain ⟨result, state, events, bus⟩ :=
      command.unaffected right.gauge.address right.gauge alike.bus
    simp only [step, perform, alike.gauge, result, state, events, true_and]
    exact ⟨rfl, bus⟩

theorem step_query (session : Session Simulated) (uncounted : session.bus.rules.Uncounted)
    {request : Request Adjustment} (query : request.isQuery = true) :
    Alike (session.step request).2 session := by
  have asked (word : ControlWord) :
      (session.perform (Transfer.ask word)).state = session.gauge ∧
        (session.perform (Transfer.ask word)).bus.Alike session.bus :=
    ⟨Transfer.ask_state .., Unseen.ask word _ _ _ uncounted⟩
  cases request with
  | adjust change => cases query
  | command command =>
    cases command with
    | deviceType =>
      simp only [step, perform, Gauge.Command.action, Action.run_map]
      exact ⟨(asked .deviceType).1, (asked .deviceType).2⟩
    | firmwareVersion =>
      simp only [step, perform, Gauge.Command.action, Action.run_map]
      exact ⟨(asked .firmwareVersion).1, (asked .firmwareVersion).2⟩
    | controlStatus =>
      simp only [step, perform, Gauge.Command.action, Gauge.controlStatus, Action.run_map]
      exact ⟨(asked .controlStatus).1, (asked .controlStatus).2⟩
    | _ => cases query

theorem run_others (alike : Alike left right) (requests : List (Request Adjustment))
    (uncounted : Uncounted requests) :
    let unasked := requests.filter fun request => !request.isQuery
    left.others requests = (right.run unasked).1 ∧
      Alike (left.run requests).2 (right.run unasked).2 := by
  induction requests generalizing left right with
  | nil => exact ⟨rfl, alike⟩
  | cons request rest ih =>
    have first : Uncounted [request] := fun change member =>
      uncounted change (List.mem_singleton.mp member ▸ List.mem_cons_self)
    have later : Uncounted rest := fun change member =>
      uncounted change (List.mem_cons_of_mem _ member)
    by_cases query : request.isQuery = true
    · -- The question is left out on the right, and the left has not moved.
      have asked := step_query left alike.bus.symm.uncounted query
      have still : Alike (left.step request).2 right :=
        ⟨asked.gauge.trans alike.gauge, asked.bus.trans alike.bus⟩
      obtain ⟨replies, last⟩ := ih still later
      simp only [others, run, List.zip_cons_cons, List.filter_cons, query] at replies last ⊢
      exact ⟨replies, last⟩
    · obtain ⟨reply, moved⟩ := step_alike alike request first
      obtain ⟨replies, last⟩ := ih moved later
      simp only [others, run, List.zip_cons_cons, List.filter_cons, query] at replies last ⊢
      exact ⟨congrArg₂ List.cons reply replies, last⟩

/-- Two sessions that differ in the questions asked, anywhere and any number of
them. What differs on the bus at the end are its control register and counts. -/
theorem queries_transparent (config : Config) (address : UInt8) (bus : Simulated)
    (first second : List (Request Adjustment)) (uncounted : bus.rules.Uncounted)
    (adjusted : ∀ change, .adjust change ∈ first → change.Uncounted)
    (same : first.filter (fun request => !request.isQuery) =
      second.filter (fun request => !request.isQuery)) :
    let initial := start config address bus
    let left := (initial.run first).2
    let right := (initial.run second).2
    initial.others first = initial.others second ∧
    left.gauge = right.gauge ∧
    left.bus.rules = right.bus.rules ∧
    ∀ register, register ≠ 0x00 → register ≠ 0x01 →
      left.bus.registers.get register = right.bus.registers.get register := by
  intro initial left right
  have unchanged : Alike initial initial := ⟨rfl, .refl uncounted⟩
  -- A change of the bus is no question, so both sessions make the same ones.
  have adjustedSecond : Uncounted second := by
    intro change member
    have kept : .adjust change ∈ second.filter fun request => !request.isQuery :=
      List.mem_filter.mpr ⟨member, rfl⟩
    rw [← same] at kept
    exact adjusted change (List.mem_filter.mp kept).1
  obtain ⟨leftReplies, leftLast⟩ := run_others unchanged first adjusted
  obtain ⟨rightReplies, rightLast⟩ := run_others unchanged second adjustedSecond
  rw [same] at leftReplies leftLast
  have last : left.bus.Alike right.bus := leftLast.bus.trans rightLast.bus.symm
  exact ⟨leftReplies.trans rightReplies.symm, leftLast.gauge.trans rightLast.gauge.symm,
    last.rules, last.registers⟩

/-- The voltage cannot be read until the rules are changed, and the questions are
asked before the first init, between its retries and after the calibration. -/
theorem queries_transparent_around_init :
    let config : Config := ⟨1500, 3000, .atInit, true⟩
    let bus : Simulated := { rules := {
      responses := [⟨0x0001, 0x0520⟩, ⟨0x0000, 0x6080⟩]
      overrides := [⟨0x00, .every, 0x77⟩]
      failingReads := [⟨0x08, .every⟩] } }
    let mend : Request Adjustment :=
      .adjust { failingReads := some [], words := [(0x00, 0x1234), (0x08, 3700)] }
    let first : List (Request Adjustment) :=
      [.command .init, .command (.fetch .all), mend, .command (.fetch (.one .voltage))]
    let second : List (Request Adjustment) :=
      [.command .firmwareVersion, .command .init, .command .deviceType, .command .controlStatus,
        .command (.fetch .all), mend, .command .deviceType, .command (.fetch (.one .voltage))]
    let initial := start config 0x55 bus
    initial.others first = initial.others second ∧
    ((initial.run first).2.gauge.telemetry.voltage = some 3700) := by
  intro config bus mend first second initial
  have uncounted : bus.rules.Uncounted :=
    ⟨by decide, by decide, by decide, rfl⟩
  have adjusted : ∀ change, .adjust change ∈ first → change.Uncounted := by
    intro change member
    have named : change = { failingReads := some [], words := [(0x00, 0x1234), (0x08, 3700)] } := by
      simpa [first, mend] using member
    rw [named]
    exact ⟨by decide, by decide, by decide, rfl⟩
  exact ⟨(queries_transparent config 0x55 bus first second uncounted adjusted (by decide)).1,
    by decide +kernel⟩

end Session
end FuelGauge
