import FuelGauge.Proofs.Calibration.ReadBacks
import FuelGauge.Proofs.Calibration.Stages
import FuelGauge.Proofs.Gauge.Operations

/-!
Reading the committed checksums back only observes. As long as each is found as it was
written, a calibration goes as it would have gone without; at the first that is not
found so it stops, and until then the other one has written the same. Transactions must
not be numbered, since there are more of them when checksums are read back.
-/

namespace FuelGauge

open Bus (Rules Simulated View)
open Calibration (Progress)
open Flash (Field)

namespace Bus

def View.allRegisters : View where
  shown _ := True
  counted register := register ≠ Register.blockChecksum
  acting _ _ := trivial
  checksum _ _ _ := trivial

end Bus

namespace Calibration

variable {rules : Rules} {address : UInt8} {before : List Event}

/-! Side by side. -/

/-- How a script goes that reads checksums back, and how the same script goes that does
not: the same way throughout, or up to a checksum that was not found as committed. -/
inductive Observes (rules : Rules) (address : UInt8) (before : List Event)
    (checked plain : Action.Outcome Simulated Progress Unit) : Prop
  | through (result : checked.result = plain.result)
      (blameless : checked.result ≠ .error .checksumMismatch)
      (state : checked.state = plain.state)
      (bus : checked.bus.InStep .allRegisters rules plain.bus)
      (events : WithoutReadBacks (traffic checked.events) (traffic plain.events))
  | stopped {field : Field} {committed : UInt8} {answer : Option UInt8}
      {early kept later : List Event} (wrong : answer ≠ some committed)
      (result : checked.result = .error (answer.elim .bus fun _ => .checksumMismatch))
      (phase : checked.state.phase = .committingChecksum field)
      (found : ReadBack (before ++ traffic checked.events) address field committed answer
        (before ++ early) later)
      (last : ∀ event ∈ later, event.isReadBack = false)
      (events : WithoutReadBacks early kept)
      (begun : kept ++ [.write address 0x60 committed true] <+: traffic plain.events)

def Observing (rules : Rules) (checked plain : List Instruction) : Prop :=
  ∀ (address : UInt8) (before : List Event) (progress : Progress) {bus other : Simulated},
    bus.InStep .allRegisters rules other →
    Observes rules address before ((execute checked).run address progress bus)
      ((execute plain).run address progress other)

theorem Progress.Beside.eq {left right : Progress} (same : left.Beside .allRegisters right) :
    left = right := by
  cases left
  cases right
  exact congrArg₂ Progress.mk same.phase (same.checksum fun _ _ => trivial)

theorem Beside.observes {checked plain : Action.Outcome Simulated Progress Unit}
    (beside : Beside .allRegisters rules checked plain)
    (blameless : checked.result ≠ .error .checksumMismatch)
    (reads : ∀ event ∈ traffic checked.events, event.isReadBack = false) :
    Observes rules address before checked plain := by
  have same := beside.events.eq fun _ => trivial
  exact .through beside.result blameless beside.state.eq beside.bus (same ▸ .of_plain reads)

theorem counted_window : Bus.View.allRegisters.counted Register.blockData := by
  change Register.blockData ≠ Register.blockChecksum
  decide

theorem observing_plain {script : List Instruction}
    (plain : ∀ instruction ∈ script, instruction.readsBack = false) :
    Observing rules script script := by
  intro address before progress bus other inStep
  have reads : Plain ((execute script).run address progress bus) :=
    execute_plain progress bus plain
  have beside := execute_plain_lockstep counted_window plain address (.refl _ progress) inStep
  exact beside.observes reads.blameless reads.events

namespace Observes

variable {checked plain later further : Action.Outcome Simulated Progress Unit}

theorem after (begun : WithoutReadBacks (traffic checked.events) (traffic plain.events))
    (rest : Observes rules address (before ++ traffic checked.events) later further) :
    Observes rules address before (later.after checked.events) (further.after plain.events) := by
  cases rest with
  | through result blameless state bus events =>
    refine .through result blameless state bus ?_
    simp only [Action.Outcome.after, traffic_append]
    exact begun.append events
  | stopped wrong result phase found last events start =>
    rw [List.append_assoc, List.append_assoc, ← traffic_append] at found
    refine .stopped wrong result phase found last (begun.append events) ?_
    simp only [Action.Outcome.after, traffic_append, List.append_assoc]
    exact (List.prefix_append_right_inj _).mpr start

theorem bind {first second rest other : Action Progress Unit} {progress : Progress}
    {bus opposite : Simulated}
    (start : Observes rules address before (first.run address progress bus)
      (second.run address progress opposite))
    (later : ∀ done, (first.run address progress bus).result = .ok done →
      ∀ {right : Simulated}, (first.run address progress bus).bus.InStep .allRegisters rules right →
      Observes rules address (before ++ traffic (first.run address progress bus).events)
        (rest.run address (first.run address progress bus).state
          (first.run address progress bus).bus)
        (other.run address (first.run address progress bus).state right)) :
    Observes rules address before ((do first; rest).run address progress bus)
      ((do second; other).run address progress opposite) := by
  simp only [Action.run_bind]
  cases start with
  | through result blameless state inStep events =>
    -- Both have failed by now, or both go on from the same place.
    rw [← result, ← state]
    cases ended : (first.run address progress bus).result with
    | error error =>
      rw [ended] at blameless
      exact .through rfl blameless rfl inStep events
    | ok done => exact (later done ended inStep).after events
  | stopped wrong result phase found last events begun =>
    simp only [result]
    refine .stopped wrong rfl phase found last events ?_
    cases (second.run address progress opposite).result with
    | error error => exact begun
    | ok done =>
      simp only [Action.Outcome.after, traffic_append]
      exact begun.trans (List.prefix_append ..)

end Observes

theorem Observing.append {first second later further : List Instruction}
    (start : Observing rules first second) (rest : Observing rules later further) :
    Observing rules (first ++ later) (second ++ further) := by
  intro address before progress bus other inStep
  rw [execute_append, execute_append]
  exact (start address before progress inStep).bind fun _ _ _ later => rest address _ _ later

/-! The fields. -/

theorem prepareScript_selects {config : Config} {field : Field} {progress : Progress}
    {bus : Simulated} {done : Unit}
    (ended : ((execute (prepareScript config field)).run address progress bus).result = .ok done)
    (before : List Event) :
    let prepared := (execute (prepareScript config field)).run address progress bus
    prepared.state.phase = .committingChecksum field ∧
      lastWritten 0x3E (before ++ traffic prepared.events) = some field.subclass := by
  have parts : prepareScript config field =
      (prepareScript config field).dropLast ++ [.enter (.committingChecksum field)] := rfl
  constructor
  · rw [parts] at ended ⊢
    exact execute_enters address progress bus _ _ ended
  · obtain ⟨windows, located⟩ := execute_located address progress bus (prepareScript config field)
    have follows := located.follows
    rw [ended] at follows
    rw [follows.seen_eq]
    -- The two bytes of the value go into the window and leave the selection alone.
    have first : field.address ≠ 0x3E := by cases field <;> decide
    have second : field.address + 1 ≠ 0x3E := by cases field <;> decide
    simp [prepareScript, ledger, Instruction.accesses, lastWritten, Event.stores, first, second,
      Register.dataClass, Register.dataBlock]

theorem commitScript_observes {field : Field} {progress : Progress} {bus other : Simulated}
    (unnumbered : rules.failingTransactions = [])
    (phase : progress.phase = .committingChecksum field)
    (selected : lastWritten 0x3E before = some field.subclass)
    (inStep : bus.InStep .allRegisters rules other) :
    Observes rules address before ((execute (commitScript true field)).run address progress bus)
      ((execute (commitScript false field)).run address progress other) := by
  obtain ⟨same, later⟩ := inStep.write address Register.blockChecksum progress.checksum
    progress.checksum fun _ => rfl
  simp only [run_commitScript, if_true, same]
  cases (Bus.write other address Register.blockChecksum progress.checksum).1 with
  | false =>
    exact .through rfl (by simp) rfl later (.of_plain (by simp [traffic, Event.isReadBack]))
  | true =>
    have uncounted : ¬ View.allRegisters.counted Register.blockChecksum := fun other => other rfl
    have back := later.read_left address uncounted unnumbered 1
    have found (answer : Option UInt8) : ReadBack (before ++ [.write address 0x60 progress.checksum
        true, .delay 5000000, .read address 0x60 1 (answer.map fun found => [found])]) address field
        progress.checksum answer (before ++ []) [] := by
      rw [List.append_nil]
      exact ⟨selected, rfl⟩
    -- Here the plain script has ended; the other one waits and looks.
    simp only [if_true, run_verify]
    cases (Bus.read (Bus.write bus address Register.blockChecksum progress.checksum).2 address
        Register.blockChecksum 1).1 with
    | none =>
      exact .stopped (Option.some_ne_none _).symm rfl phase (found none)
        (List.forall_mem_nil _) .nil ⟨[], rfl⟩
    | some bytes =>
      by_cases kept : Transfer.onlyByte bytes = progress.checksum
      · simp only [kept, if_true]
        have blameless : (.ok () : Except Error Unit) ≠ .error .checksumMismatch := by simp
        exact .through rfl blameless rfl back (.readBack address progress.checksum .nil)
      · have wrong : some (Transfer.onlyByte bytes) ≠ some progress.checksum := by simpa using kept
        simp only [kept, if_false]
        exact .stopped wrong rfl phase (found (some (Transfer.onlyByte bytes)))
          (List.forall_mem_nil _) .nil ⟨[], rfl⟩

end Calibration

def Config.readingBack (config : Config) (readBack : Bool) : Config :=
  { config with verifyChecksum := readBack }

namespace Calibration

variable {rules : Rules} {address : UInt8} {before : List Event}

theorem fieldScript_observes (unnumbered : rules.failingTransactions = []) (config : Config)
    (field : Field) :
    Observing rules (fieldScript (config.readingBack true) field)
      (fieldScript (config.readingBack false) field) := by
  have prepared (readBack : Bool) : fieldScript (config.readingBack readBack) field =
      prepareScript config field ++ commitScript readBack field :=
    fieldScript_eq (config.readingBack readBack) field
  have plain : ∀ instruction ∈ prepareScript config field, instruction.readsBack = false := by
    simp [prepareScript, Instruction.readsBack]
  intro address before progress bus other inStep
  rw [prepared, prepared, execute_append, execute_append]
  apply (observing_plain plain address before progress inStep).bind
  intro done ended right later
  obtain ⟨phase, selected⟩ := prepareScript_selects ended before
  exact commitScript_observes unnumbered phase selected later

theorem openScript_observes (unnumbered : rules.failingTransactions = []) (config : Config) :
    Observing rules (openScript (config.readingBack true))
      (openScript (config.readingBack false)) := by
  have fields (fields : List Field) :
      Observing rules (fields.flatMap (fieldScript (config.readingBack true)))
        (fields.flatMap (fieldScript (config.readingBack false))) := by
    induction fields with
    | nil => exact observing_plain (List.forall_mem_nil _)
    | cons field rest ih => exact (fieldScript_observes unnumbered config field).append ih
  have unsealing : Observing rules unsealScript unsealScript := observing_plain (by decide)
  have resetting : Observing rules resetScript resetScript := observing_plain (by decide)
  exact (unsealing.append (fields Field.inOrder)).append resetting

theorem run_observes (unnumbered : rules.failingTransactions = []) (config : Config)
    (address : UInt8) (progress : Progress) {bus other : Simulated}
    (inStep : bus.InStep .allRegisters rules other) :
    Observes rules address [] ((run (config.readingBack true)).run address progress bus)
      ((run (config.readingBack false)).run address progress other) := by
  have opened := openScript_observes unnumbered config address [] progress inStep
  simp only [run_conclude]
  generalize (execute (openScript (config.readingBack true))).run address progress bus = checked
    at opened ⊢
  generalize (execute (openScript (config.readingBack false))).run address progress other = plain
    at opened ⊢
  cases opened with
  | through result blameless state later events =>
    have beside := conclude_lockstep counted_window (config.readingBack true)
      (config.readingBack false) checked.result address (.refl _ checked.state) later
    rw [← result, ← state]
    obtain ⟨concluded, reads⟩ := conclude_plain (config.readingBack true) checked.result address
      checked.state checked.bus
    exact .after events (beside.observes (concluded blameless) reads)
  | @stopped field committed answer early kept later wrong result phase found last events begun =>
    -- The attempt to seal reads nothing back, and leaves the error and the phase as they are.
    rw [result]
    let error := answer.elim Error.bus fun _ => Error.checksumMismatch
    obtain ⟨_, reads⟩ := conclude_plain (config.readingBack true) (.error error) address
      checked.state checked.bus
    have abandoned := run_abandon address checked.state checked.bus error
    have extended := found.extend
      (traffic ((abandon error).run address checked.state checked.bus).events)
    rw [List.append_assoc, ← traffic_append] at extended
    refine .stopped wrong ?_ ?_ extended ?_ events ?_
    · exact congrArg Action.Outcome.result abandoned
    · exact (congrArg (·.state.phase) abandoned).trans phase
    · exact List.forall_mem_append.mpr ⟨last, reads⟩
    · simp only [Action.Outcome.after, traffic_append]
      exact begun.trans (List.prefix_append ..)

namespace Observes

variable {checked plain : Action.Outcome Simulated Progress Unit}

theorem unaffected (observes : Observes rules address [] checked plain)
    (blameless : checked.result ≠ .error .checksumMismatch)
    (answered : .read address 0x60 1 none ∉ traffic checked.events) :
    plain.result = checked.result ∧ plain.state = checked.state ∧
      plain.bus.registers = checked.bus.registers ∧
      WithoutReadBacks (traffic checked.events) (traffic plain.events) := by
  cases observes with
  | through result _ state bus events =>
    have registers : checked.bus.registers = plain.bus.registers :=
      Register.Table.eq_of_get fun register => bus.registers register trivial
    exact ⟨result.symm, state.symm, registers.symm, events⟩
  | @stopped field committed answer early kept later wrong result phase found last events begun =>
    cases answer with
    | none =>
      rw [List.nil_append] at found
      rw [found.split] at answered
      exact absurd (by simp) answered
    | some byte => exact absurd result blameless

theorem stops (observes : Observes rules address [] checked plain)
    (stopped : checked.result = .error .checksumMismatch ∨
      .read address 0x60 1 none ∈ traffic checked.events) :
    ∃ field committed answer early later,
      ReadBack (traffic checked.events) address field committed answer early later ∧
      answer ≠ some committed ∧ checked.state.phase = .committingChecksum field ∧
      ∃ kept, WithoutReadBacks early kept ∧
        kept ++ [.write address 0x60 committed true] <+: traffic plain.events := by
  cases observes with
  | through result blameless state bus events =>
    rcases stopped with ended | unanswered
    · exact absurd ended blameless
    · exact absurd unanswered events.all_answered
  | @stopped field committed answer early kept later wrong result phase found last events begun =>
    exact ⟨field, committed, answer, early, later, found, wrong, phase, kept, events, begun⟩

theorem mismatch_iff (observes : Observes rules address [] checked plain) :
    checked.result = .error .checksumMismatch ↔
      ∃ field committed found early later,
        ReadBack (traffic checked.events) address field committed (some found) early later ∧
        found ≠ committed := by
  have onlyByte : Function.Injective (Option.map fun found : UInt8 => [found]) :=
    Option.map_injective List.singleton_injective
  cases observes with
  | through result blameless state bus events =>
    constructor
    · exact fun ended => absurd ended blameless
    · rintro ⟨other, byte, told, before, after, back, different⟩
      exact absurd (Option.some.inj (onlyByte (events.confirmed back.split))) different
  | @stopped field committed answer early kept later wrong result phase found last events begun =>
    rw [result]
    constructor
    · intro ended
      cases answer with
      | none => cases ended
      | some byte =>
        have different : byte ≠ committed := fun same => wrong (congrArg some same)
        exact ⟨field, committed, byte, early, later, found, different⟩
    · rintro ⟨other, byte, told, before, after, back, different⟩
      -- It is the one that ended the run: those before it were found right.
      rcases events.or_last last (found.split.symm.trans back.split) with right | same
      · exact absurd (Option.some.inj (onlyByte right)) different
      · rw [← onlyByte same]
        rfl

end Observes

end Calibration

def Gauge.readingBack (gauge : Gauge) (readBack : Bool) : Gauge :=
  { gauge with config := gauge.config.readingBack readBack }

namespace Gauge

/-- What reading checksums back changes about a calibration: nothing, unless one cannot be
read or is not what was committed. The first such one ends it, in the phase of its field;
what was accessed until then, the commit included, is accessed without reading back as
well. -/
theorem configure_readingBack (gauge : Gauge) (bus : Simulated) (verified : gauge.verified = true)
    (unnumbered : bus.rules.failingTransactions = []) :
    let checked := configure.run gauge.address (gauge.readingBack true) bus
    let plain := configure.run gauge.address (gauge.readingBack false) bus
    let seen := traffic checked.events
    (checked.result ≠ .error .checksumMismatch → .read gauge.address 0x60 1 none ∉ seen →
      plain.result = checked.result ∧ plain.state = checked.state.readingBack false ∧
        plain.bus.registers = checked.bus.registers ∧
        WithoutReadBacks seen (traffic plain.events)) ∧
    (checked.result = .error .checksumMismatch ∨ .read gauge.address 0x60 1 none ∈ seen →
      ∃ field committed answer early later,
        ReadBack seen gauge.address field committed answer early later ∧
        answer ≠ some committed ∧ checked.state.phase = .committingChecksum field ∧
        ∃ kept, WithoutReadBacks early kept ∧
          kept ++ [.write gauge.address 0x60 committed true] <+: traffic plain.events) ∧
    (checked.result = .error .checksumMismatch ↔
      ∃ field committed found early later,
        ReadBack seen gauge.address field committed (some found) early later ∧
        found ≠ committed) := by
  have observed := Calibration.run_observes unnumbered gauge.config gauge.address {}
    (.refl .allRegisters bus)
  have asked (readBack : Bool) : (gauge.readingBack readBack).verified = true := verified
  simp only [run_configure, asked, if_true]
  refine ⟨?_, observed.stops, observed.mismatch_iff⟩
  intro blameless answered
  obtain ⟨result, state, registers, events⟩ := observed.unaffected blameless answered
  have recorded := congrArg₂
    (fun result (progress : Progress) => (gauge.readingBack false).recordRun result progress.phase)
    result state
  exact ⟨result, recorded, registers, events⟩

/-- The second of three checksums is not found as it was committed: the value stored is
another one. -/
theorem configure_readingBack_wrong :
    let gauge : Gauge := { config := ⟨1500, 3000, .atInit, false⟩, verified := true }
    let bus : Simulated := { rules := { overrides := [⟨0x60, .nth 2, 0⟩] } }
    let checked := configure.run gauge.address (gauge.readingBack true) bus
    let plain := configure.run gauge.address (gauge.readingBack false) bus
    let seen := traffic checked.events
    gauge.verified = true ∧ bus.rules.failingTransactions = [] ∧
    checked.state.phase = .committingChecksum .terminateVoltage ∧ plain.result = .ok () ∧
    (checked.result ≠ .error .checksumMismatch → .read gauge.address 0x60 1 none ∉ seen →
      plain.result = checked.result ∧ plain.state = checked.state.readingBack false ∧
        plain.bus.registers = checked.bus.registers ∧
        WithoutReadBacks seen (traffic plain.events)) ∧
    (checked.result = .error .checksumMismatch ∨ .read gauge.address 0x60 1 none ∈ seen →
      ∃ field committed answer early later,
        ReadBack seen gauge.address field committed answer early later ∧
        answer ≠ some committed ∧ checked.state.phase = .committingChecksum field ∧
        ∃ kept, WithoutReadBacks early kept ∧
          kept ++ [.write gauge.address 0x60 committed true] <+: traffic plain.events) ∧
    (checked.result = .error .checksumMismatch ↔
      ∃ field committed found early later,
        ReadBack seen gauge.address field committed (some found) early later ∧
        found ≠ committed) :=
  ⟨rfl, rfl, by decide +kernel, by rfl, configure_readingBack _ _ rfl rfl⟩

end Gauge
end FuelGauge
