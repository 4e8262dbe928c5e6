import FuelGauge.Proofs.Bus.InStep
import FuelGauge.Proofs.Calibration.Course
import Mathlib.Data.List.Forall2

/-!
Two calibration scripts run side by side, on buses that are in step. Instruction by
instruction they make the same access, or write different values to a register that is
left out of the comparison; then they fail at the same access and in the same phase.
Checksums that are read back are not looked at here: what decides about them is stored
in a register that may be left out.
-/

namespace FuelGauge

open Bus (Rules Simulated View)

/-- The same access with the same outcome. What goes over the bus is the same where
the registers are shown. -/
inductive Event.Matches (shown : Register → Prop) : Event → Event → Prop
  | write (address register : UInt8) {value other : UInt8} (accepted : Bool)
      (known : shown register → value = other) :
      Matches shown (.write address register value accepted)
        (.write address register other accepted)
  | read (address register : UInt8) (length : Nat) {answer other : Option (List UInt8)}
      (outcome : answer.isSome = other.isSome)
      (known : (∀ index < length, shown (register + UInt8.ofNat index)) → answer = other) :
      Matches shown (.read address register length answer) (.read address register length other)
  | delay (nanoseconds : Nat) : Matches shown (.delay nanoseconds) (.delay nanoseconds)

theorem Event.Matches.eq {shown : Register → Prop} {event other : Event}
    (every : ∀ register, shown register) (same : event.Matches shown other) : event = other := by
  cases same with
  | write address register accepted known => rw [known (every register)]
  | read address register length outcome known => rw [known fun _ _ => every _]
  | delay nanoseconds => rfl

abbrev Matching (shown : Register → Prop) : List Event → List Event → Prop :=
  List.Forall₂ (Event.Matches shown)

theorem Matching.append {shown : Register → Prop} {first second later further : List Event}
    (start : Matching shown first second) (rest : Matching shown later further) :
    Matching shown (first ++ later) (second ++ further) :=
  List.rel_append start rest

theorem Matching.eq {shown : Register → Prop} {first second : List Event}
    (every : ∀ register, shown register) (same : Matching shown first second) :
    first = second := by
  induction same with
  | nil => rfl
  | cons head _ ih => rw [head.eq every, ih]

theorem both_or_neither {α : Type} {answer other : Option α}
    (same : answer.isSome = other.isSome) :
    (answer = none ∧ other = none) ∨
      ∃ value found, answer = some value ∧ other = some found := by
  cases answer with
  | none => exact .inl ⟨rfl, Option.isNone_iff_eq_none.mp (by simpa using same.symm)⟩
  | some value =>
    obtain ⟨found, told⟩ := Option.isSome_iff_exists.mp same.symm
    exact .inr ⟨value, found, rfl, told⟩

namespace Calibration

open Flash (Field)

variable {view : View} {rules : Rules} {address : UInt8}

structure Progress.Beside (view : View) (left right : Progress) : Prop where
  phase : left.phase = right.phase
  checksum : (∀ index < Flash.blockLength, view.shown (Register.blockData + UInt8.ofNat index)) →
    left.checksum = right.checksum

theorem Progress.Beside.refl (view : View) (progress : Progress) : progress.Beside view progress :=
  ⟨rfl, fun _ => rfl⟩

structure Beside (view : View) (rules : Rules)
    (left right : Action.Outcome Simulated Progress Unit) : Prop where
  result : left.result = right.result
  state : left.state.Beside view right.state
  bus : left.bus.InStep view rules right.bus
  events : Matching view.shown (traffic left.events) (traffic right.events)

theorem Beside.after {left right : Action.Outcome Simulated Progress Unit}
    (beside : Beside view rules left right) {first second : List Event}
    (events : Matching view.shown (traffic first) (traffic second)) :
    Beside view rules (left.after first) (right.after second) where
  result := beside.result
  state := beside.state
  bus := beside.bus
  events := by
    simp only [Action.Outcome.after, traffic_append]
    exact events.append beside.events

/-- Whatever they start from, as long as it is in step. -/
def Lockstep (view : View) (rules : Rules) (left right : Action Progress Unit) : Prop :=
  ∀ (address : UInt8) {first second : Progress} {bus other : Simulated},
    first.Beside view second → bus.InStep view rules other →
    Beside view rules (left.run address first bus) (right.run address second other)

namespace Lockstep

theorem nothing : Lockstep view rules (pure ()) (pure ()) :=
  fun _ _ _ _ _ state bus => ⟨rfl, state, bus, .nil⟩

theorem bind {first second rest other : Action Progress Unit}
    (start : Lockstep view rules first second) (later : Lockstep view rules rest other) :
    Lockstep view rules (do first; rest) (do second; other) := by
  intro address left right bus beside state inStep
  have begun := start address state inStep
  simp only [Action.run_bind, begun.result]
  cases (second.run address right beside).result with
  | error error => exact ⟨rfl, begun.state, begun.bus, begun.events⟩
  | ok done => exact (later address begun.state begun.bus).after begun.events

theorem write {register : Register} {value other : UInt8}
    (known : view.shown register → value = other) :
    Lockstep view rules (Action.write register value) (Action.write register other) := by
  intro address _ _ _ _ state inStep
  obtain ⟨same, later⟩ := inStep.write address register value other known
  simp only [Action.run_write, same]
  exact ⟨rfl, state, later, .cons (.write address register _ known) .nil⟩

theorem delay (nanoseconds : Nat) :
    Lockstep view rules (Action.delay nanoseconds) (Action.delay nanoseconds) :=
  fun _ _ _ _ _ state inStep => ⟨rfl, state, inStep, .cons (.delay nanoseconds) .nil⟩

theorem issue (word : ControlWord) :
    Lockstep view rules (Transfer.issue word) (Transfer.issue word) :=
  (write fun _ => rfl).bind ((delay settleTime).bind (write fun _ => rfl))

theorem log (record other : Log.Record) :
    Lockstep view rules (Action.log record) (Action.log other) :=
  fun _ _ _ _ _ state inStep => ⟨rfl, state, inStep, .nil⟩

theorem fail (error : Error) : Lockstep view rules (Action.fail error) (Action.fail error) :=
  fun _ _ _ _ _ state inStep => ⟨rfl, state, inStep, .nil⟩

theorem recover {first second : Action Progress Unit} {handle other : Error → Action Progress Unit}
    (start : Lockstep view rules first second)
    (later : ∀ error, Lockstep view rules (handle error) (other error)) :
    Lockstep view rules (first.recover handle) (second.recover other) := by
  intro address left right bus beside state inStep
  have begun := start address state inStep
  simp only [Action.run_recover, begun.result]
  cases (second.run address right beside).result with
  | error error => exact (later error address begun.state begun.bus).after begun.events
  | ok done => exact ⟨rfl, begun.state, begun.bus, begun.events⟩

theorem enter (phase : Phase) :
    Lockstep view rules (Instruction.enter phase).perform (Instruction.enter phase).perform :=
  fun _ _ _ _ _ state inStep => ⟨rfl, ⟨rfl, state.checksum⟩, inStep, .nil⟩

theorem readWindow (counted : view.counted Register.blockData) :
    Lockstep view rules Instruction.readWindow.perform Instruction.readWindow.perform := by
  intro address first second bus other state inStep
  obtain ⟨outcome, known, later⟩ := inStep.read address counted Flash.blockLength
  simp only [run_readWindow]
  rcases both_or_neither outcome with ⟨refused, mute⟩ | ⟨found, window, answered, told⟩
  · rw [refused, mute]
    exact ⟨rfl, state, later, .cons (.read address 0x40 32 rfl fun _ => rfl) .nil⟩
  · -- What is found need not be the same, unless the whole window is shown.
    have same isShown : found = window :=
      Option.some.inj (answered.symm.trans ((known isShown).trans told))
    rw [answered, told]
    refine ⟨rfl, ⟨state.phase, fun isShown => by rw [same isShown]⟩, later, .cons ?_ .nil⟩
    exact .read address 0x40 32 rfl fun isShown => by rw [same isShown]

theorem commit : Lockstep view rules Instruction.commit.perform Instruction.commit.perform := by
  intro address first second bus other state inStep
  have known := fun isShown => state.checksum (view.checksum isShown)
  exact write known address state inStep

end Lockstep

def Instruction.readsBack : Instruction → Bool
  | .verify _ => true
  | _ => false

/-- Instructions that differ in a value at most, and only where it is not looked at. -/
inductive Twin (shown : Register → Prop) : Instruction → Instruction → Prop
  | same {instruction : Instruction} (plain : instruction.readsBack = false) :
      Twin shown instruction instruction
  | write (register : Register) {value other : UInt8} (known : shown register → value = other) :
      Twin shown (.write register value) (.write register other)

theorem perform_lockstep (counted : view.counted Register.blockData)
    {instruction other : Instruction} (twin : Twin view.shown instruction other) :
    Lockstep view rules instruction.perform other.perform := by
  cases twin with
  | write register known => exact .write known
  | same plain =>
    cases instruction with
    | enter phase => exact .enter phase
    | issue word => exact .issue word
    | write register value => exact .write fun _ => rfl
    | delay nanoseconds => exact .delay nanoseconds
    | readWindow => exact .readWindow counted
    | commit => exact .commit
    | verify field => cases plain

theorem execute_lockstep (counted : view.counted Register.blockData)
    {first second : List Instruction} (twins : List.Forall₂ (Twin view.shown) first second) :
    Lockstep view rules (execute first) (execute second) := by
  induction twins with
  | nil => exact .nothing
  | cons twin _ ih => exact (perform_lockstep counted twin).bind ih

theorem Lockstep.append {first second later further : List Instruction}
    (start : Lockstep view rules (execute first) (execute second))
    (rest : Lockstep view rules (execute later) (execute further)) :
    Lockstep view rules (execute (first ++ later)) (execute (second ++ further)) := by
  rw [execute_append, execute_append]
  exact start.bind rest

theorem execute_plain_lockstep (counted : view.counted Register.blockData)
    {script : List Instruction} (plain : ∀ instruction ∈ script, instruction.readsBack = false) :
    Lockstep view rules (execute script) (execute script) :=
  execute_lockstep counted
    (List.forall₂_same.mpr fun instruction member => .same (plain instruction member))

theorem execute_single (instruction : Instruction) :
    execute [instruction] = instruction.perform := bind_pure_unit

/-! A field is prepared, and then its checksum is committed. -/

def prepareScript (config : Config) (field : Field) : List Instruction :=
  [.enter (.selectingSubclass field),
    .write Register.dataClass field.subclass,
    .write Register.dataBlock field.block,
    .enter (.writingField field)] ++
  [.write field.address (Word.high (config.value field)),
    .write (field.address + 1) (Word.low (config.value field))] ++
  [.enter (.recomputingChecksum field),
    .readWindow,
    .delay settleTime,
    .enter (.committingChecksum field)]

def commitScript (readBack : Bool) (field : Field) : List Instruction :=
  if readBack then [.commit, .delay settleTime, .verify field] else [.commit]

theorem fieldScript_eq (config : Config) (field : Field) :
    fieldScript config field =
      prepareScript config field ++ commitScript config.verifyChecksum field := by
  unfold fieldScript commitScript
  cases config.verifyChecksum <;> rfl

section

variable {β : Type} [Bus β] (address : UInt8) (progress : Progress) (bus : β)

theorem run_commitScript (readBack : Bool) (field : Field) :
    (execute (commitScript readBack field)).run address progress bus =
      let committed := Bus.write bus address Register.blockChecksum progress.checksum
      if committed.1 then
        (if readBack then
          ((Instruction.verify field).perform.run address progress committed.2).after
            [.delay 5000000]
        else ⟨.ok (), progress, committed.2, []⟩).after
          [.write address 0x60 progress.checksum true]
      else ⟨.error .bus, progress, committed.2, [.write address 0x60 progress.checksum false]⟩ := by
  have written : Instruction.commit.perform.run address progress bus =
      (Action.write Register.blockChecksum progress.checksum).run address progress bus := rfl
  have waited (bus : β) : (Instruction.delay settleTime).perform.run address progress bus =
      (Action.delay settleTime).run address progress bus := rfl
  have unread : commitScript false field = [.commit] := rfl
  have read : commitScript true field = [.commit, .delay settleTime, .verify field] := rfl
  cases readBack with
  | false =>
    simp only [unread, execute_single, written, Action.run_write]
    cases (Bus.write bus address Register.blockChecksum progress.checksum).1 with
    | false => rfl
    | true => rfl
  | true =>
    rw [read, execute, execute, execute_single]
    simp only [Action.run_bind, written, Action.run_write, waited, Action.run_delay]
    cases (Bus.write bus address Register.blockChecksum progress.checksum).1 with
    | false => rfl
    | true => rfl

end

/-! Two runs that got equally far end alike. -/

theorem conclude_lockstep (counted : view.counted Register.blockData) (config other : Config)
    (result : Except Error Unit) :
    Lockstep view rules (conclude config result) (conclude other result) := by
  cases result with
  | error error =>
    intro address first second bus beside state inStep
    have reseal : Lockstep view rules reseal reseal :=
      .recover (.issue .seal) fun error => .log (.resealFailed error) (.resealFailed error)
    exact Lockstep.bind (.log (.calibrationFailed first.phase error)
      (.calibrationFailed second.phase error)) (reseal.bind (.fail error)) address state inStep
  | ok done =>
    have sealed : Lockstep view rules (execute sealScript) (execute sealScript) :=
      execute_plain_lockstep counted (by decide)
    exact sealed.bind (.log _ _)

end Calibration
end FuelGauge
