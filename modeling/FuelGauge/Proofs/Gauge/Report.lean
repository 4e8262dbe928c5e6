import FuelGauge.Proofs.Calibration.Failures
import FuelGauge.Proofs.Calibration.Records
import FuelGauge.Proofs.Gauge.Operations

/-!
The log of a calibration run, held against what the run did. From the log alone one
can tell which phases were entered and in which one the run ended, whether it failed
before its final seal and with what error, which checksum was found wrong, and whether
the gauge could be sealed after that.
-/

namespace FuelGauge.Calibration

open Flash (Field Window)

/-- What the log says of a run is what happened in it. -/
structure Reported (config : Config) (address : UInt8) (events : List Event)
    (result : Except Error Unit) (phase : Phase) : Prop where
  phases : ∃ visited, Log.ofLevel .debug (records events) = transitions .idle visited ∧
    .idle :: visited <+: Phase.inOrder ∧ visited.getLast? = some phase
  warned : ∀ record, record ∈ Log.ofLevel .warn (records events) ↔
    ∃ error, result = .error error ∧ phase ≠ .sealing ∧ record = .calibrationFailed phase error
  once : (Log.ofLevel .warn (records events)).length ≤ 1
  /-- Where the warning stands, the accesses have broken off, and those of the attempt
  to seal are still to come. -/
  place : ∀ earlier stated error later,
    events = earlier ++ .log (.calibrationFailed stated error) :: later →
    (∃ windows, Follows (openAccesses config address windows) (traffic earlier)
      (.error error : Except Error Unit)) ∧
    ∃ ending : Except Error Unit, Follows (sealAccesses address) (traffic later) ending
  /-- Where there is none, all accesses before the final seal were as expected. -/
  unwarned : Log.ofLevel .warn (records events) = [] → ∃ windows last,
    traffic events = openAccesses config address windows ++ last ∧
    Follows (sealAccesses address) last result
  resealing : ∀ refusal, .resealFailed refusal ∈ Log.ofLevel .error (records events) ↔
    refusal = .bus ∧ ∃ earlier stated error later,
      events = earlier ++ .log (.calibrationFailed stated error) :: later ∧
      ∃ event ∈ later, event.isFailure = true
  mismatch : (∃ field committed found,
      .checksumMismatch field committed found ∈ Log.ofLevel .error (records events)) ↔
    result = .error .checksumMismatch
  /-- The two checksums are the one that was committed and the one that was then read. -/
  named : ∀ field committed found,
    .checksumMismatch field committed found ∈ Log.ofLevel .error (records events) →
    phase = .committingChecksum field ∧ found ≠ committed ∧
    [.write address 0x60 committed true, .delay 5000000, .read address 0x60 1 (some [found]),
      .log (.checksumMismatch field committed found)] <:+: events
  applied : ∀ record, record ∈ Log.ofLevel .info (records events) ↔
    result = .ok () ∧
      record = .calibrationApplied config.designCapacity config.terminateVoltage

/-! What is logged beside the transitions. -/

section

variable {config : Config} {address : UInt8} {events earlier later : List Event}
  {visited : List Phase} {remarks : List Log.Record} {level : Log.Level} {phase : Phase}

theorem ofLevel_remarks (logged : records events = transitions .idle visited ++ remarks)
    (other : level ≠ .debug) : Log.ofLevel level (records events) = Log.ofLevel level remarks := by
  rw [logged, Log.ofLevel_append, Log.ofLevel_of_same (transitions_debug .idle visited),
    if_neg other, List.nil_append]

theorem ofLevel_phases (logged : records events = transitions .idle visited ++ remarks)
    (quiet : Log.ofLevel .debug remarks = []) :
    Log.ofLevel .debug (records events) = transitions .idle visited := by
  rw [logged, Log.ofLevel_append, Log.ofLevel_of_same (transitions_debug .idle visited),
    if_pos rfl, quiet, List.append_nil]

theorem getLast?_of_ne_idle (moved : visited.getLastD .idle ≠ .idle) :
    visited.getLast? = some (visited.getLastD .idle) := by
  rw [List.getLastD_eq_getLast?] at moved ⊢
  cases last : visited.getLast? with
  | none =>
    rw [last] at moved
    exact absurd rfl moved
  | some phase => rfl

theorem visited_inOrder (start : visited <+: entered (openScript config ++ sealScript)) :
    .idle :: visited <+: Phase.inOrder := by
  rw [← entered_script config]
  exact (List.prefix_cons_inj Phase.idle).mpr start

theorem warning_listed {stated : Phase} {error : Error}
    (split : events = earlier ++ .log (.calibrationFailed stated error) :: later) :
    .calibrationFailed stated error ∈ Log.ofLevel .warn (records events) := by
  rw [Log.mem_ofLevel, mem_records, split]
  exact ⟨List.mem_append_right _ List.mem_cons_self, rfl⟩

/-! A run that comes to its final seal. -/

theorem Reported.of_sealing {result : Except Error Unit} {windows : Field → Window}
    {last : List Event} (accesses : traffic events = openAccesses config address windows ++ last)
    (sealed : Follows (sealAccesses address) last result)
    (start : visited <+: entered (openScript config ++ sealScript))
    (logged : records events = transitions .idle visited ++ remarks)
    (moved : visited.getLastD .idle ≠ .idle)
    (verdict : (result = .ok () ∧
        remarks = [.calibrationApplied config.designCapacity config.terminateVoltage]) ∨
      (result = .error .bus ∧ visited.getLastD .idle = .sealing ∧ remarks = [])) :
    Reported config address events result (visited.getLastD .idle) := by
  have quiet : ∀ record ∈ remarks, record.level = .info := by
    rcases verdict with ⟨_, rfl⟩ | ⟨_, _, rfl⟩
    · exact List.forall_mem_singleton.mpr rfl
    · exact List.forall_mem_nil _
  have warnings : Log.ofLevel .warn (records events) = [] :=
    (ofLevel_remarks logged (by decide)).trans (Log.ofLevel_of_same quiet .warn)
  have errors : Log.ofLevel .error (records events) = [] :=
    (ofLevel_remarks logged (by decide)).trans (Log.ofLevel_of_same quiet .error)
  have nowhere {earlier later : List Event} {stated : Phase} {error : Error}
      (split : events = earlier ++ .log (.calibrationFailed stated error) :: later) : False := by
    have listed := warning_listed split
    rw [warnings] at listed
    cases listed
  constructor
  case phases =>
    have entering := ofLevel_phases logged (Log.ofLevel_of_same quiet .debug)
    exact ⟨visited, entering, visited_inOrder start, getLast?_of_ne_idle moved⟩
  case warned =>
    intro record
    rw [warnings]
    refine iff_of_false List.not_mem_nil ?_
    rintro ⟨error, failed, early, _⟩
    rcases verdict with ⟨ended, _⟩ | ⟨_, late, _⟩
    · cases ended.symm.trans failed
    · exact early late
  case once =>
    rw [warnings]
    exact Nat.zero_le 1
  case place =>
    intro earlier stated error later split
    exact (nowhere split).elim
  case unwarned =>
    intro _
    exact ⟨windows, last, accesses, sealed⟩
  case resealing =>
    intro refusal
    rw [errors]
    refine iff_of_false List.not_mem_nil ?_
    rintro ⟨_, _, _, _, _, split, _⟩
    exact nowhere split
  case mismatch =>
    rw [errors]
    refine iff_of_false ?_ ?_
    · rintro ⟨_, _, _, listed⟩
      cases listed
    · intro blamed
      rcases verdict with ⟨ended, _⟩ | ⟨ended, _, _⟩
      · cases ended.symm.trans blamed
      · cases ended.symm.trans blamed
  case named =>
    intro field committed found listed
    rw [errors] at listed
    cases listed
  case applied =>
    intro record
    rw [ofLevel_remarks logged (by decide), Log.ofLevel_of_same quiet, if_pos rfl]
    rcases verdict with ⟨rfl, rfl⟩ | ⟨rfl, _, rfl⟩
    · simp
    · simp

/-! A run that breaks off before. -/

def refusals : Except Error Unit → List Log.Record
  | .ok _ => []
  | .error refusal => [.resealFailed refusal]

theorem refusals_level (ending : Except Error Unit) :
    ∀ record ∈ refusals ending, record.level = .error := by
  cases ending with
  | ok done => exact List.forall_mem_nil _
  | error refusal => exact List.forall_mem_singleton.mpr rfl

theorem mem_refusals {ending : Except Error Unit} {refusal : Error} :
    .resealFailed refusal ∈ refusals ending ↔ ending = .error refusal := by
  cases ending with
  | ok done => simp [refusals]
  | error other => simp [refusals, eq_comm]

theorem exists_failure_traffic :
    (∃ event ∈ traffic events, event.isFailure = true) ↔
      ∃ event ∈ events, event.isFailure = true := by
  constructor
  · rintro ⟨event, member, failure⟩
    exact ⟨event, (List.mem_filter.mp member).1, failure⟩
  · rintro ⟨event, member, failure⟩
    cases event with
    | log record => cases failure
    | _ => exact ⟨_, List.mem_filter.mpr ⟨member, rfl⟩, failure⟩

theorem refused_iff {accesses : List Event} {ending : Except Error Unit}
    (sealing : Follows (sealAccesses address) accesses ending) (refusal : Error) :
    ending = .error refusal ↔ refusal = .bus ∧ ∃ event ∈ accesses, event.isFailure = true := by
  have accepted := controlAccesses_accepted address 0x0020
  cases ending with
  | ok done =>
    rw [sealing.seen_eq]
    refine iff_of_false (by simp) ?_
    rintro ⟨_, event, member, failure⟩
    exact accepted.not_failed member failure
  | error other =>
    rcases sealing.control_cases with ⟨_, _, impossible⟩ | ⟨same, _⟩
    · cases impossible
    · cases same
      obtain ⟨done, found, rfl, _, failure⟩ := sealing.last_of_error accepted
      constructor
      · rintro ⟨⟩
        exact ⟨rfl, found, List.mem_append_right _ (List.mem_singleton_self found), failure⟩
      · rintro ⟨rfl, _⟩
        rfl

namespace Blamed

variable {error : Error}

theorem level_error (blamed : Blamed address phase events error remarks) :
    ∀ record ∈ remarks, record.level = .error := by
  cases blamed with
  | refused => exact List.forall_mem_nil _
  | mismatch => exact List.forall_mem_singleton.mpr rfl

theorem not_resealFailed (blamed : Blamed address phase events error remarks) (refusal : Error) :
    .resealFailed refusal ∉ remarks := by
  cases blamed with
  | refused => exact List.not_mem_nil
  | mismatch =>
    intro listed
    cases List.mem_singleton.mp listed

end Blamed

/-- The parts of a run that breaks off: what it did until then, and the attempt to seal. -/
structure Abandoned (config : Config) (address : UInt8) (visited : List Phase)
    (remarks : List Log.Record) (seen last : List Event) (error : Error)
    (ending : Except Error Unit) : Prop where
  start : visited <+: entered (openScript config)
  logged : records seen = transitions .idle visited ++ remarks
  blamed : Blamed address (visited.getLastD .idle) seen error remarks
  broken : ∃ windows, Follows (openAccesses config address windows) (traffic seen)
    (.error error : Except Error Unit)
  silent : records last = []
  resealed : Follows (sealAccesses address) (traffic last) ending

def abandonedEvents (seen last : List Event) (phase : Phase) (error : Error)
    (ending : Except Error Unit) : List Event :=
  seen ++ .log (.calibrationFailed phase error) :: (last ++ (refusals ending).map .log)

namespace Abandoned

variable {seen last : List Event} {error : Error} {ending : Except Error Unit}

theorem log (run : Abandoned config address visited remarks seen last error ending)
    (phase : Phase) :
    records (abandonedEvents seen last phase error ending) =
      transitions .idle visited ++
        (remarks ++ .calibrationFailed phase error :: refusals ending) := by
  have told : records ((refusals ending).map .log) = refusals ending := by
    cases ending <;> rfl
  have warned : records (.log (.calibrationFailed phase error) ::
      (last ++ (refusals ending).map .log)) =
        .calibrationFailed phase error :: records (last ++ (refusals ending).map .log) := rfl
  rw [abandonedEvents, records_append, warned, records_append, run.logged, run.silent, told,
    List.nil_append, List.append_assoc]

theorem log_level (run : Abandoned config address visited remarks seen last error ending)
    (phase : Phase) (level : Log.Level) :
    Log.ofLevel level (records (abandonedEvents seen last phase error ending)) =
      match level with
      | .debug => transitions .idle visited
      | .warn => [.calibrationFailed phase error]
      | .error => remarks ++ refusals ending
      | _ => [] := by
  have parts : remarks ++ .calibrationFailed phase error :: refusals ending =
      remarks ++ ([.calibrationFailed phase error] ++ refusals ending) := rfl
  have warning : ∀ record ∈ [Log.Record.calibrationFailed phase error], record.level = .warn :=
    List.forall_mem_singleton.mpr rfl
  rw [run.log, parts, Log.ofLevel_append, Log.ofLevel_append, Log.ofLevel_append,
    Log.ofLevel_of_same (transitions_debug .idle visited),
    Log.ofLevel_of_same run.blamed.level_error, Log.ofLevel_of_same warning,
    Log.ofLevel_of_same (refusals_level ending)]
  cases level with
  | debug => exact List.append_nil _
  | _ => rfl

theorem place (run : Abandoned config address visited remarks seen last error ending)
    {phase stated : Phase} {failure : Error}
    (split : abandonedEvents seen last phase error ending =
      earlier ++ .log (.calibrationFailed stated failure) :: later) :
    earlier = seen ∧ failure = error ∧ later = last ++ (refusals ending).map .log := by
  have unwarned : .log (.calibrationFailed stated failure) ∉ seen := by
    intro member
    have listed := mem_records.mpr member
    rw [run.logged, List.mem_append] at listed
    rcases listed with entering | blaming
    · cases transitions_debug .idle visited _ entering
    · cases run.blamed.level_error _ blaming
  have silent : .log (.calibrationFailed stated failure) ∉
      last ++ (refusals ending).map .log := by
    intro member
    rcases List.mem_append.mp member with resealing | refused
    · have listed := mem_records.mpr resealing
      rw [run.silent] at listed
      cases listed
    · obtain ⟨record, listed, same⟩ := List.mem_map.mp refused
      cases same
      cases refusals_level ending _ listed
  obtain ⟨rfl, same, rfl⟩ := (List.append_cons_inj_of_notMem unwarned silent).mp split
  cases same
  exact ⟨rfl, rfl, rfl⟩

theorem traffic_later (run : Abandoned config address visited remarks seen last error ending) :
    Follows (sealAccesses address) (traffic (last ++ (refusals ending).map .log)) ending := by
  have unheard : traffic ((refusals ending).map .log) = [] := by
    cases ending <;> rfl
  rw [traffic_append, unheard, List.append_nil]
  exact run.resealed

theorem mismatch_listed (run : Abandoned config address visited remarks seen last error ending)
    {field : Field} {committed found : UInt8}
    (listed : .checksumMismatch field committed found ∈ remarks ++ refusals ending) :
    error = .checksumMismatch ∧ visited.getLastD .idle = .committingChecksum field ∧
      found ≠ committed ∧
      [.write address 0x60 committed true, .delay 5000000, .read address 0x60 1 (some [found]),
        .log (.checksumMismatch field committed found)] <:+ seen := by
  rcases List.mem_append.mp listed with blaming | refused
  · have blamed := run.blamed
    cases blamed with
    | refused => cases blaming
    | mismatch place different shown =>
      cases List.mem_singleton.mp blaming
      exact ⟨rfl, place, different, shown⟩
  · cases ending with
    | ok done => cases refused
    | error refusal => cases List.mem_singleton.mp refused

theorem reported (run : Abandoned config address visited remarks seen last error ending)
    (moved : visited.getLastD .idle ≠ .idle) (early : visited.getLastD .idle ≠ .sealing) :
    Reported config address
      (abandonedEvents seen last (visited.getLastD .idle) error ending)
      (.error error) (visited.getLastD .idle) := by
  have level := run.log_level (visited.getLastD .idle)
  constructor
  case phases =>
    have inScript : visited <+: entered (openScript config ++ sealScript) := by
      rw [entered_append]
      exact run.start.trans (List.prefix_append ..)
    exact ⟨visited, level .debug, visited_inOrder inScript, getLast?_of_ne_idle moved⟩
  case warned =>
    intro record
    rw [level .warn, List.mem_singleton]
    constructor
    · rintro rfl
      exact ⟨error, rfl, early, rfl⟩
    · rintro ⟨_, failed, _, rfl⟩
      rw [Except.error.inj failed]
  case once =>
    rw [level .warn]
    exact Nat.le_refl 1
  case place =>
    intro earlier stated failure later split
    obtain ⟨rfl, rfl, rfl⟩ := run.place split
    exact ⟨run.broken, ending, run.traffic_later⟩
  case unwarned =>
    intro none
    rw [level .warn] at none
    cases none
  case resealing =>
    intro refusal
    rw [level .error, List.mem_append, or_iff_right (run.blamed.not_resealFailed refusal),
      mem_refusals, refused_iff run.traffic_later, exists_failure_traffic]
    refine and_congr_right fun _ => ⟨?_, ?_⟩
    · intro failed
      exact ⟨seen, _, error, _, rfl, failed⟩
    · rintro ⟨earlier, stated, failure, later, split, failed⟩
      rwa [(run.place split).2.2] at failed
  case mismatch =>
    rw [level .error]
    constructor
    · rintro ⟨field, committed, found, listed⟩
      rw [(run.mismatch_listed listed).1]
    · intro same
      cases same
      cases run.blamed with
      | mismatch => exact ⟨_, _, _, List.mem_append_left _ List.mem_cons_self⟩
  case named =>
    intro field committed found listed
    rw [level .error] at listed
    obtain ⟨_, place, different, shown⟩ := run.mismatch_listed listed
    exact ⟨place, different, shown.isInfix.trans (List.prefix_append ..).isInfix⟩
  case applied =>
    intro record
    rw [level .info]
    simp

end Abandoned

end

/-! The run itself. -/

variable {β : Type} [Bus β] (address : UInt8) (progress : Progress) (bus : β)

theorem ne_of_mem_openScript {config : Config} {phase : Phase}
    (member : phase ∈ entered (openScript config)) : phase ≠ .idle ∧ phase ≠ .sealing := by
  have distinct := Phase.inOrder_nodup
  rw [← entered_script config, entered_append] at distinct
  obtain ⟨fresh, scripts⟩ := List.nodup_cons.mp distinct
  have sealing : Phase.sealing ∈ entered sealScript := List.mem_cons_self
  refine ⟨?_, ?_⟩
  · rintro rfl
    exact fresh (List.mem_append_left _ member)
  · rintro rfl
    exact (List.nodup_append.mp scripts).2.2 _ member _ sealing rfl

theorem sealScript_phase (error : Error)
    (failed : ((execute sealScript).run address progress bus).result = .error error) :
    ((execute sealScript).run address progress bus).state.phase = .sealing := by
  have entering : (Instruction.perform (.enter .sealing)).run address progress bus =
      ⟨.ok (), { progress with phase := .sealing }, bus,
        [.log (.transition progress.phase .sealing)]⟩ := rfl
  have issuing : Instruction.perform (.issue .seal) = Transfer.issue .seal := rfl
  have kept := Transfer.issue_state address { progress with phase := .sealing } bus .seal
  simp only [sealScript, execute, Action.run_bind, entering, issuing] at failed ⊢
  generalize (Transfer.issue .seal).run address { progress with phase := .sealing } bus = issued
    at failed kept ⊢
  cases ended : issued.result with
  | error refusal => simp only [Action.Outcome.after, kept]
  | ok done =>
    simp only [ended] at failed
    cases failed

theorem reported_of_error {config : Config} {error : Error}
    (failed : ((execute (openScript config)).run address {} bus).result = .error error) :
    let outcome := (run config).run address {} bus
    Reported config address outcome.events outcome.result outcome.state.phase := by
  obtain ⟨windows, opened⟩ := openScript_follows address {} bus config
  have recounted := openScript_recounted address {} bus config
  have between := ne_of_mem_openScript (openScript_phase address {} bus config)
  simp only [run_eq, failed]
  generalize (execute (openScript config)).run address {} bus = reached
    at failed opened recounted between ⊢
  have resealed := Transfer.issue_follows address reached.state reached.bus .seal
  have silent := (issue_silent address reached.bus reached.state .seal).1
  generalize (Transfer.issue .seal).run address reached.state reached.bus = sealing
    at resealed silent ⊢
  rw [Recounted, failed] at recounted
  rw [Action.Outcome.Follows, failed] at opened
  obtain ⟨visited, remarks, start, place, logged, blamed⟩ := recounted.of_error
  rw [place] at blamed between
  have broken : Abandoned config address visited remarks reached.events sealing.events error
      sealing.result := ⟨start, logged, blamed, ⟨windows, opened⟩, silent, resealed⟩
  have reported := broken.reported between.1 between.2
  rw [abandonedEvents, ← List.cons_append, ← List.append_assoc] at reported
  simp only [place]
  cases closed : sealing.result with
  | error refusal =>
    rw [closed] at reported
    exact reported
  | ok done =>
    rw [closed] at reported
    exact reported

theorem reported_of_ok {config : Config}
    (ended : ((execute (openScript config)).run address {} bus).result = .ok ()) :
    let outcome := (run config).run address {} bus
    Reported config address outcome.events outcome.result outcome.state.phase := by
  obtain ⟨windows, opened⟩ := openScript_follows address {} bus config
  have recounted := openScript_recounted address {} bus config
  simp only [run_eq, ended]
  generalize (execute (openScript config)).run address {} bus = reached
    at ended opened recounted ⊢
  have sealed := sealScript_follows address reached.state reached.bus
  have sealing := execute_recounted address reached.state reached.bus sealScript (by decide)
  have late := sealScript_phase address reached.state reached.bus
  generalize (execute sealScript).run address reached.state reached.bus = final
    at sealed sealing late ⊢
  rw [Recounted, ended] at recounted
  rw [Action.Outcome.Follows, ended] at opened
  have whole := recounted.append sealing
  rw [← entered_append] at whole
  have accesses : traffic (reached.events ++ final.events) =
      openAccesses config address windows ++ traffic final.events := by
    rw [traffic_append, opened.seen_eq]
  cases closed : final.result with
  | error error =>
    rw [closed] at whole
    rw [Action.Outcome.Follows, closed] at sealed
    obtain ⟨visited, remarks, start, place, logged, blamed⟩ := whole.of_error
    have last := late error closed
    rw [place] at last blamed
    simp only [place]
    have moved : visited.getLastD .idle ≠ .idle := by
      rw [last]
      decide
    cases blamed with
    | refused => exact .of_sealing accesses sealed start logged moved (.inr ⟨rfl, last, rfl⟩)
    -- No checksum is read back in the phase that seals.
    | mismatch committing _ _ => cases last.symm.trans committing
  | ok done =>
    rw [closed] at whole
    rw [Action.Outcome.Follows, closed] at sealed
    obtain ⟨logged, place⟩ := whole.of_ok
    have last : (entered (openScript config ++ sealScript)).getLastD .idle = .isSealed := by
      rw [entered_append, getLastD_append]
      rfl
    let applied : Log.Record :=
      .calibrationApplied config.designCapacity config.terminateVoltage
    have told : records (reached.events ++ final.events ++ [.log applied]) =
        transitions .idle (entered (openScript config ++ sealScript)) ++ [applied] := by
      rw [records_append, logged]
      rfl
    have silent : traffic (reached.events ++ final.events ++ [.log applied]) =
        openAccesses config address windows ++ traffic final.events := by
      rw [traffic_append, accesses, traffic_log, traffic_nil, List.append_nil]
    simp only [place]
    exact .of_sealing silent sealed List.prefix_rfl told (by rw [last]; decide) (.inl ⟨rfl, rfl⟩)

theorem run_reported (config : Config) :
    let outcome := (run config).run address {} bus
    Reported config address outcome.events outcome.result outcome.state.phase := by
  cases ended : ((execute (openScript config)).run address {} bus).result with
  | error error => exact reported_of_error address bus ended
  | ok done => exact reported_of_ok address bus ended

end FuelGauge.Calibration

namespace FuelGauge.Gauge

open Calibration (Reported)

/-- A calibration that a verified gauge makes is told by its log. -/
theorem configure_reported {β : Type} [Bus β] (gauge : Gauge) (bus : β)
    (verified : gauge.verified = true) :
    let outcome := configure.run gauge.address gauge bus
    Reported gauge.config gauge.address outcome.events outcome.result outcome.state.phase := by
  simp only [run_configure, verified, if_true]
  exact Calibration.run_reported gauge.address bus gauge.config

/-- A checksum reads back wrong, and then the gauge cannot be sealed. -/
theorem configure_reported_mismatch :
    let gauge : Gauge := { config := ⟨1500, 3000, .atInit, true⟩, verified := true }
    let bus : Bus.Simulated := { rules := {
      overrides := [⟨0x60, .nth 2, 0⟩]
      failingWrites := [⟨0x00, .nth 3⟩] } }
    let outcome := configure.run gauge.address gauge bus
    let log := records outcome.events
    gauge.verified = true ∧
    Reported gauge.config gauge.address outcome.events outcome.result outcome.state.phase ∧
    outcome.result = .error .checksumMismatch ∧
    outcome.state.phase = .committingChecksum .terminateVoltage ∧
    Log.ofLevel .warn log =
      [.calibrationFailed (.committingChecksum .terminateVoltage) .checksumMismatch] ∧
    Log.ofLevel .error log = [.checksumMismatch .terminateVoltage 91 0, .resealFailed .bus] := by
  intro gauge bus outcome log
  have verified : gauge.verified = true := rfl
  have reported := configure_reported gauge bus verified
  exact ⟨verified, reported, by decide +kernel, by decide +kernel, by decide +kernel,
    by decide +kernel⟩

end FuelGauge.Gauge
