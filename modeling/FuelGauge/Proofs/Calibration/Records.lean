import FuelGauge.Proofs.Calibration.Entered
import FuelGauge.Proofs.Calibration.Lockstep

/-!
What a calibration logs. Each phase is recorded as it is entered, with the phase that
it comes after, so the records link up; the phases that were entered are the first
ones of the script. A checksum that reads back wrong is recorded right after it was
read, and nothing is recorded of an access that was refused.
-/

namespace FuelGauge

def records (events : List Event) : List Log.Record :=
  events.filterMap fun
    | .log record => some record
    | _ => none

theorem records_append (first second : List Event) :
    records (first ++ second) = records first ++ records second :=
  List.filterMap_append ..

theorem mem_records {events : List Event} {record : Log.Record} :
    record ∈ records events ↔ .log record ∈ events := by
  rw [records, List.mem_filterMap]
  constructor
  · rintro ⟨event, member, logged⟩
    cases event with
    | log other =>
      cases logged
      exact member
    | _ => cases logged
  · intro member
    exact ⟨_, member, rfl⟩

def Log.ofLevel (level : Log.Level) (log : List Log.Record) : List Log.Record :=
  log.filter fun record => record.level = level

theorem Log.ofLevel_append (level : Log.Level) (first second : List Log.Record) :
    ofLevel level (first ++ second) = ofLevel level first ++ ofLevel level second :=
  List.filter_append ..

theorem Log.mem_ofLevel {level : Log.Level} {log : List Log.Record} {record : Log.Record} :
    record ∈ ofLevel level log ↔ record ∈ log ∧ record.level = level := by
  rw [ofLevel, List.mem_filter, decide_eq_true_eq]

theorem Log.ofLevel_of_same {log : List Log.Record} {own : Log.Level}
    (same : ∀ record ∈ log, record.level = own) (level : Log.Level) :
    ofLevel level log = if level = own then log else [] := by
  by_cases asked : level = own
  · subst asked
    rw [if_pos rfl, ofLevel, List.filter_eq_self]
    intro record member
    exact decide_eq_true (same record member)
  · rw [if_neg asked, ofLevel, List.filter_eq_nil_iff]
    intro record member
    rw [same record member, decide_eq_true_eq]
    exact Ne.symm asked

namespace Calibration

open Flash (Field)

def transitions : Phase → List Phase → List Log.Record
  | _, [] => []
  | source, target :: rest => .transition source target :: transitions target rest

theorem transitions_debug (source : Phase) (phases : List Phase) :
    ∀ record ∈ transitions source phases, record.level = .debug := by
  induction phases generalizing source with
  | nil => exact List.forall_mem_nil _
  | cons phase rest ih => exact List.forall_mem_cons.mpr ⟨rfl, ih phase⟩

theorem transitions_append (source : Phase) (first second : List Phase) :
    transitions source (first ++ second) =
      transitions source first ++ transitions (first.getLastD source) second := by
  induction first generalizing source with
  | nil => rfl
  | cons phase rest ih =>
    rw [List.cons_append, transitions, transitions, ih, List.getLastD_cons, List.cons_append]

theorem getLastD_append (source : Phase) (first second : List Phase) :
    (first ++ second).getLastD source = second.getLastD (first.getLastD source) := by
  induction first generalizing source with
  | nil => rfl
  | cons phase rest ih => rw [List.cons_append, List.getLastD_cons, List.getLastD_cons, ih]

/-- What a failure adds to the log by itself. A refused access adds nothing; a checksum
that reads back wrong is recorded as soon as it was read. -/
inductive Blamed (address : UInt8) (phase : Phase) (events : List Event) :
    Error → List Log.Record → Prop
  | refused : Blamed address phase events .bus []
  | mismatch {field : Field} {committed found : UInt8} (place : phase = .committingChecksum field)
      (different : found ≠ committed)
      (shown : [.write address 0x60 committed true, .delay 5000000,
        .read address 0x60 1 (some [found]),
        .log (.checksumMismatch field committed found)] <:+ events) :
      Blamed address phase events .checksumMismatch [.checksumMismatch field committed found]

/-- What was logged by something that was to enter some phases, and how it ended. It
entered all of them, or the first ones until an access failed. -/
inductive Recounts (address : UInt8) (source : Phase) (phases : List Phase) :
    List Event → Except Error Unit → Phase → Prop
  | completed {events : List Event} (logged : records events = transitions source phases) :
      Recounts address source phases events (.ok ()) (phases.getLastD source)
  | broken {events : List Event} {seen : List Phase} {error : Error} {remarks : List Log.Record}
      (start : seen <+: phases) (logged : records events = transitions source seen ++ remarks)
      (blamed : Blamed address (seen.getLastD source) events error remarks) :
      Recounts address source phases events (.error error) (seen.getLastD source)

theorem Blamed.after {address : UInt8} {phase : Phase} {events : List Event} {error : Error}
    {remarks : List Log.Record} (blamed : Blamed address phase events error remarks)
    (before : List Event) : Blamed address phase (before ++ events) error remarks := by
  cases blamed with
  | refused => exact .refused
  | mismatch place different shown =>
    exact .mismatch place different (shown.trans (List.suffix_append ..))

namespace Recounts

variable {address : UInt8} {source phase last : Phase} {first second : List Phase}
  {events later : List Event} {result : Except Error Unit} {error : Error}

theorem of_ok (entire : Recounts address source first events (.ok ()) phase) :
    records events = transitions source first ∧ phase = first.getLastD source := by
  cases entire with
  | completed logged => exact ⟨logged, rfl⟩

theorem of_error (partly : Recounts address source first events (.error error) phase) :
    ∃ seen remarks, seen <+: first ∧ phase = seen.getLastD source ∧
      records events = transitions source seen ++ remarks ∧
      Blamed address phase events error remarks := by
  cases partly with
  | broken start logged blamed => exact ⟨_, _, start, rfl, logged, blamed⟩

theorem silent (nothing : records events = []) (source : Phase)
    (either : result = .ok () ∨ result = .error .bus) :
    Recounts address source [] events result source := by
  rcases either with rfl | rfl
  · exact .completed nothing
  · exact .broken List.prefix_rfl nothing .refused

theorem append (start : Recounts address source first events (.ok ()) phase)
    (rest : Recounts address phase second later result last) :
    Recounts address source (first ++ second) (events ++ later) result last := by
  obtain ⟨logged, rfl⟩ := start.of_ok
  cases rest with
  | completed more =>
    rw [← getLastD_append]
    refine .completed ?_
    rw [records_append, logged, more, transitions_append]
  | broken part more blamed =>
    rw [← getLastD_append] at blamed ⊢
    refine .broken ((List.prefix_append_right_inj first).mpr part) ?_ (blamed.after events)
    rw [records_append, logged, more, transitions_append, List.append_assoc]

theorem append_phases (start : Recounts address source first events (.error error) phase)
    (second : List Phase) :
    Recounts address source (first ++ second) events (.error error) phase := by
  cases start with
  | broken start logged blamed =>
    exact .broken (start.trans (List.prefix_append ..)) logged blamed

end Recounts

abbrev Recounted {β : Type} (address : UInt8) (source : Phase) (phases : List Phase)
    (outcome : Action.Outcome β Progress Unit) : Prop :=
  Recounts address source phases outcome.events outcome.result outcome.state.phase

variable {β : Type} [Bus β]

theorem Recounted.append {address : UInt8} {progress : Progress} {bus : β}
    {first second : List Instruction}
    (start : Recounted address progress.phase (entered first)
      ((execute first).run address progress bus))
    (rest : ∀ (reached : Progress) (bus : β),
      reached.phase = (entered first).getLastD progress.phase →
      Recounted address reached.phase (entered second) ((execute second).run address reached bus)) :
    Recounted address progress.phase (entered (first ++ second))
      ((execute (first ++ second)).run address progress bus) := by
  rw [execute_append, entered_append]
  simp only [Recounted, Action.run_bind] at start ⊢
  generalize (execute first).run address progress bus = reached at start ⊢
  cases ended : reached.result with
  | error error =>
    rw [ended] at start
    exact start.append_phases (entered second)
  | ok done =>
    rw [ended] at start
    exact start.append (rest reached.state reached.bus start.of_ok.2)

/-! Instructions that read no checksum back. -/

variable (address : UInt8) (progress : Progress) (bus : β)

theorem issue_silent {σ : Type} (state : σ) (word : ControlWord) :
    let outcome := (Transfer.issue word : Action σ Unit).run address state bus
    records outcome.events = [] ∧ (outcome.result = .ok () ∨ outcome.result = .error .bus) := by
  simp only [Transfer.issue, Action.run_bind, Action.run_write, Action.run_delay]
  cases (Bus.write bus address Register.controlLow word.low).1 with
  | false => exact ⟨rfl, .inr rfl⟩
  | true =>
    simp only [if_true, Action.Outcome.after]
    cases (Bus.write (Bus.write bus address Register.controlLow word.low).2 address
        Register.controlHigh word.high).1 with
    | false => exact ⟨rfl, .inr rfl⟩
    | true => exact ⟨rfl, .inl rfl⟩

theorem write_silent {σ : Type} (state : σ) (register value : UInt8) :
    let outcome := (Action.write register value : Action σ Unit).run address state bus
    records outcome.events = [] ∧ (outcome.result = .ok () ∨ outcome.result = .error .bus) := by
  simp only [Action.run_write]
  cases (Bus.write bus address register value).1 with
  | false => exact ⟨rfl, .inr rfl⟩
  | true => exact ⟨rfl, .inl rfl⟩

theorem perform_recounted {instruction : Instruction} (plain : instruction.readsBack = false) :
    Recounted address progress.phase (entered [instruction])
      (instruction.perform.run address progress bus) := by
  cases instruction with
  | enter phase => exact .completed rfl
  | issue word =>
    obtain ⟨nothing, either⟩ := issue_silent address bus progress word
    rw [Recounted, Instruction.perform, Transfer.issue_state]
    exact .silent nothing progress.phase either
  | write register value =>
    obtain ⟨nothing, either⟩ := write_silent address bus progress register value
    exact .silent nothing progress.phase either
  | delay nanoseconds => exact .completed rfl
  | readWindow =>
    simp only [Recounted, run_readWindow]
    cases (Bus.read bus address Register.blockData Flash.blockLength).1 with
    | none => exact .silent rfl progress.phase (.inr rfl)
    | some window => exact .completed rfl
  | commit =>
    obtain ⟨nothing, either⟩ :=
      write_silent address bus progress Register.blockChecksum progress.checksum
    exact .silent nothing progress.phase either
  | verify field => cases plain

theorem execute_recounted (script : List Instruction)
    (plain : ∀ instruction ∈ script, instruction.readsBack = false) :
    Recounted address progress.phase (entered script)
      ((execute script).run address progress bus) := by
  induction script generalizing progress bus with
  | nil => exact .completed rfl
  | cons instruction rest ih =>
    obtain ⟨first, others⟩ := List.forall_mem_cons.mp plain
    have start := perform_recounted address progress bus first
    rw [← execute_single] at start
    exact start.append fun reached bus _ => ih reached bus others

/-! A field, and all fields. -/

theorem commitScript_recounted (readBack : Bool) {field : Field}
    (place : progress.phase = .committingChecksum field) :
    Recounted address progress.phase (entered (commitScript readBack field))
      ((execute (commitScript readBack field)).run address progress bus) := by
  have none : entered (commitScript readBack field) = [] := by cases readBack <;> rfl
  rw [none]
  simp only [Recounted, run_commitScript]
  cases (Bus.write bus address Register.blockChecksum progress.checksum).1 with
  | false => exact .silent rfl progress.phase (.inr rfl)
  | true =>
    cases readBack with
    | false => exact .completed rfl
    | true =>
      simp only [if_true, run_verify, Action.Outcome.after]
      cases (Bus.read (Bus.write bus address Register.blockChecksum progress.checksum).2 address
          Register.blockChecksum 1).1 with
      | none => exact .silent rfl progress.phase (.inr rfl)
      | some bytes =>
        by_cases same : Transfer.onlyByte bytes = progress.checksum
        · simp only [same, if_true]
          exact .completed rfl
        · simp only [same, if_false]
          exact .broken List.prefix_rfl rfl (.mismatch place same List.suffix_rfl)

theorem fieldScript_recounted (config : Config) (field : Field) :
    Recounted address progress.phase (entered (fieldScript config field))
      ((execute (fieldScript config field)).run address progress bus) := by
  rw [fieldScript_eq]
  have prepared := execute_recounted address progress bus (prepareScript config field)
    (by simp [prepareScript, Instruction.readsBack])
  exact prepared.append fun reached bus place =>
    commitScript_recounted address reached bus config.verifyChecksum place

theorem fieldScripts_recounted (config : Config) (fields : List Field) :
    Recounted address progress.phase (entered (fields.flatMap (fieldScript config)))
      ((execute (fields.flatMap (fieldScript config))).run address progress bus) := by
  induction fields generalizing progress bus with
  | nil => exact .completed rfl
  | cons field rest ih =>
    exact (fieldScript_recounted address progress bus config field).append
      fun reached bus _ => ih reached bus

theorem openScript_recounted (config : Config) :
    Recounted address progress.phase (entered (openScript config))
      ((execute (openScript config)).run address progress bus) := by
  have unsealed := execute_recounted address progress bus unsealScript (by decide)
  have fields := unsealed.append fun reached bus _ =>
    fieldScripts_recounted address reached bus config Field.inOrder
  exact fields.append fun reached bus _ =>
    execute_recounted address reached bus resetScript (by decide)

end Calibration
end FuelGauge
