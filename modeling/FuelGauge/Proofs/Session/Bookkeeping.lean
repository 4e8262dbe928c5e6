import FuelGauge.Proofs.Calibration.Entered
import FuelGauge.Proofs.Gauge.Readings
import FuelGauge.Proofs.Gauge.Runs
import FuelGauge.Proofs.Session.FirstFetch

/-!
What a gauge remembers of its calibration runs: whether the first one succeeded,
and where the last one ended. A fetch makes a run at most once in a session, and
only while there has been none.
-/

namespace FuelGauge.Session

open Calibration (Attempt Phase)

variable {β κ : Type}

def Request.isFetch : Request κ → Bool
  | .command (.fetch _) => true
  | _ => false

theorem Request.isFetch_iff {request : Request κ} :
    request.isFetch = true ↔ ∃ selection, request = .command (.fetch selection) := by
  constructor
  · intro fetching
    cases request with
    | adjust change => cases fetching
    | command command =>
      cases command with
      | fetch selection => exact ⟨selection, rfl⟩
      | _ => cases fetching
  · rintro ⟨selection, rfl⟩
    rfl

def calibratingFetches (past : List (Request κ × List Event)) : List (Request κ × List Event) :=
  past.filter fun step => step.1.isFetch && 0 < runsOpened step.2

theorem calibratingFetches_snoc (past : List (Request κ × List Event)) (request : Request κ)
    (events : List Event) :
    calibratingFetches (past ++ [(request, events)]) =
      calibratingFetches past ++
        if (request.isFetch && 0 < runsOpened events) = true then [(request, events)] else [] := by
  simp only [calibratingFetches, List.filter_append, List.filter_cons, List.filter_nil]

variable [Bus β] [Adjustable β κ]

theorem step_phase (session : Session β) (request : Request κ) :
    (session.step request).2.gauge.phase =
      (session.calibration? request).elim session.gauge.phase (·.state.phase) := by
  obtain ⟨telemetry, verified, marked⟩ := step_marked session request
  rw [marked]
  cases session.calibration? request with
  | none => rfl
  | some run => rfl

theorem step_runsOpened (session : Session β) (request : Request κ) :
    runsOpened (session.step request).1.events = (session.calibration? request).toList.length := by
  cases request with
  | adjust change => rfl
  | command command => exact command.runsOpened_eq session.gauge session.bus

section Runs

variable (config : Config) (address : UInt8) (bus : β) (requests : List (Request κ))

theorem calibrations_eq : ∀ run ∈ (start config address bus).calibrations requests,
    ∃ before : β, run = (Calibration.run config).run address {} before := by
  induction requests using List.reverseRecOn with
  | nil => simp [calibrations]
  | append_singleton requests request ih =>
    rw [calibrations_snoc, List.forall_mem_append]
    refine ⟨ih, ?_⟩
    intro run member
    have made := Option.mem_toList.mp member
    cases request with
    | adjust change => cases made
    | command command =>
      obtain ⟨sameConfig, sameAddress⟩ := run_config (start config address bus) requests
      obtain ⟨before, same⟩ := Gauge.Command.calibration?_eq _ _ made
      rw [sameConfig, sameAddress] at same
      exact ⟨before, same⟩

theorem runsOpened_history : runsOpened ((start config address bus).history requests) =
    ((start config address bus).calibrations requests).length := by
  induction requests using List.reverseRecOn with
  | nil => rfl
  | append_singleton requests request ih =>
    rw [history_snoc, runsOpened_append, ih, step_runsOpened, calibrations_snoc,
      List.length_append]

theorem run_attempt : ((start config address bus).run requests).2.gauge.attempt =
    ((start config address bus).calibrations requests).head?.elim .notStarted fun first =>
      if first.result.isOk then .succeeded else .failed := by
  induction requests using List.reverseRecOn with
  | nil => rfl
  | append_singleton requests request ih =>
    rw [run_snoc, step_attempt, ih, calibrations_snoc, List.head?_append]
    cases ((start config address bus).run requests).2.calibration? request with
    | none => simp
    | some run =>
      cases ((start config address bus).calibrations requests).head? with
      | none => rfl
      | some first =>
        have settled : (if first.result.isOk then .succeeded else .failed : Attempt).isPending =
            false := by split <;> rfl
        exact Attempt.record_of_not_pending settled _

theorem run_phase : ((start config address bus).run requests).2.gauge.phase =
    ((start config address bus).calibrations requests).getLast?.elim .idle (·.state.phase) := by
  induction requests using List.reverseRecOn with
  | nil => rfl
  | append_singleton requests request ih =>
    rw [run_snoc, step_phase, ih, calibrations_snoc, List.getLast?_append]
    cases ((start config address bus).run requests).2.calibration? request with
    | none => simp
    | some run => rfl

theorem run_phase_idle : ((start config address bus).run requests).2.gauge.phase = .idle ↔
    (start config address bus).calibrations requests = [] := by
  have known := calibrations_eq config address bus requests
  rw [run_phase]
  generalize (start config address bus).calibrations requests = runs at known ⊢
  cases ended : runs.getLast? with
  | none => simpa using ended
  | some last =>
    have member : last ∈ runs := List.mem_of_getLast? ended
    obtain ⟨before, rfl⟩ := known last member
    constructor
    · intro idle
      exact absurd idle (Calibration.run_phase_ne_idle address {} before config)
    · rintro rfl
      cases member

end Runs

theorem fetch_opens_iff (session : Session β) (selection : Selection) :
    0 < runsOpened (session.step (.command (.fetch selection) : Request κ)).1.events ↔
      (session.gauge.config.mode = .onFirstFetch ∧ session.gauge.attempt.isPending = true) ∧
        session.gauge.verified = true := by
  rw [step_runsOpened]
  simp only [calibration?, Gauge.Command.calibration?, Gauge.calibration?, Gauge.calibrationDue,
    Bool.and_eq_true, decide_eq_true_eq]
  by_cases due : session.gauge.config.mode = .onFirstFetch ∧ session.gauge.attempt.isPending = true
  · by_cases verified : session.gauge.verified = true
    · simp [due, verified]
    · simp [due, verified]
  · simp [due]

theorem fetch_failed (session : Session β) (selection : Selection)
    {run : Action.Outcome β Calibration.Progress Unit} {error : Error}
    (made : session.calibration? (.command (.fetch selection) : Request κ) = some run)
    (failed : run.result = .error error) :
    let reply := (session.step (.command (.fetch selection) : Request κ)).1
    let next := (session.step (.command (.fetch selection) : Request κ)).2
    reply.result = .error error ∧ reply.events = run.events ∧ Unread reply.events ∧
      next.gauge.telemetry = session.gauge.telemetry := by
  simp only [calibration?, Gauge.Command.calibration?] at made
  split at made
  next due =>
    obtain ⟨verified, rfl⟩ := Gauge.calibration?_eq _ _ made
    have unread := Calibration.run_unread session.gauge.config session.gauge.address {} session.bus
    simp only [step, perform, reply, Gauge.Command.action, Action.run_map, Gauge.run_fetch, due,
      if_true, Gauge.run_configure, verified, failed, Except.map, true_and]
    exact ⟨unread, rfl⟩
  next => cases made

/-- A fetch makes no run unless it makes the first one. -/
theorem calibratingFetches_length (config : Config) (address : UInt8) (bus : β)
    (requests : List (Request κ)) :
    let fetches := calibratingFetches ((start config address bus).transcript requests)
    fetches.length ≤ 1 ∧
      (fetches ≠ [] → config.mode = .onFirstFetch ∧
        (start config address bus).calibrations requests ≠ []) := by
  induction requests using List.reverseRecOn with
  | nil => exact ⟨Nat.zero_le 1, fun some => absurd rfl some⟩
  | append_singleton requests request ih =>
    have pending := run_pending config address bus requests
    have mode := (run_config (start config address bus) requests).1
    rw [transcript_snoc, calibratingFetches_snoc, calibrations_snoc]
    generalize ((start config address bus).run requests).2 = session at pending mode ⊢
    generalize calibratingFetches ((start config address bus).transcript requests) = fetches at ih ⊢
    by_cases opened : (request.isFetch && 0 < runsOpened (session.step request).1.events) = true
    · obtain ⟨fetching, running⟩ := Bool.and_eq_true_iff.mp opened
      obtain ⟨selection, rfl⟩ := Request.isFetch_iff.mp fetching
      have first := (fetch_opens_iff session selection).mp (of_decide_eq_true running)
      have untried := pending.mp first.1.2
      -- There was no run before this one, so no earlier fetch made one.
      have fresh : fetches = [] := by
        by_contra some
        exact (ih.2 some).2 untried
      have deferred : config.mode = .onFirstFetch := by
        rw [mode] at first
        exact first.1.1
      rw [if_pos opened, fresh]
      refine ⟨Nat.le_refl 1, fun _ => ⟨deferred, ?_⟩⟩
      intro none
      have counted := step_runsOpened session (.command (.fetch selection) : Request κ)
      rw [(List.append_eq_nil_iff.mp none).2] at counted
      exact absurd counted (Nat.ne_of_gt (of_decide_eq_true running))
    · rw [if_neg opened, List.append_nil]
      refine ⟨ih.1, fun some => ⟨(ih.2 some).1, ?_⟩⟩
      intro none
      exact (ih.2 some).2 (List.append_eq_nil_iff.mp none).1

/-- After any session. A run that failed is as little repeated as one that succeeded. -/
theorem run_calibrates_once (config : Config) (address : UInt8) (bus : β)
    (requests : List (Request κ)) :
    let initial := start config address bus
    let runs := initial.calibrations requests
    let session := (initial.run requests).2
    let past := initial.transcript requests
    (∀ run ∈ runs, ∃ before : β, run = (Calibration.run config).run address {} before) ∧
    runs.length = runsOpened (initial.history requests) ∧
    (session.gauge.attempt = .notStarted ↔ runs = []) ∧
    (session.gauge.phase = .idle ↔ runs = []) ∧
    (∀ first ∈ runs.head?,
      session.gauge.attempt = if first.result.isOk then .succeeded else .failed) ∧
    (∀ last ∈ runs.getLast?, session.gauge.phase = last.state.phase) ∧
    (runs ≠ [] → ∀ more,
      (initial.run (requests ++ more)).2.gauge.attempt = session.gauge.attempt) ∧
    (calibratingFetches past).length ≤ (if config.mode = .onFirstFetch then 1 else 0) ∧
    ∀ selection,
      let fetch : Request κ := .command (.fetch selection)
      let reply := (session.step fetch).1
      let next := (session.step fetch).2
      (0 < runsOpened reply.events ↔
        (config.mode = .onFirstFetch ∧ session.gauge.attempt = .notStarted) ∧
          Verified address past) ∧
      (∀ run, session.calibration? fetch = some run → ∀ error, run.result = .error error →
        reply.result = .error error ∧ reply.events = run.events ∧ Unread reply.events ∧
          next.gauge.telemetry = session.gauge.telemetry) ∧
      (runs ≠ [] → runsOpened reply.events = 0 ∧
        session.perform (Gauge.fetch selection) =
          session.perform (Gauge.fetchEach selection.channels)) := by
  intro initial runs session past
  have pending : session.gauge.attempt.isPending = true ↔ runs = [] := run_pending ..
  have untried : session.gauge.attempt = .notStarted ↔ session.gauge.attempt.isPending = true :=
    Attempt.isPending_iff.symm
  have mode : session.gauge.config = config := (run_config initial requests).1
  have verified : session.gauge.verified = true ↔ Verified address past := run_verified ..
  have told := run_attempt config address bus requests
  have ended := run_phase config address bus requests
  refine ⟨calibrations_eq config address bus requests, (runsOpened_history ..).symm,
    untried.trans pending, run_phase_idle config address bus requests, ?_, ?_, ?_, ?_, ?_⟩
  · intro first member
    rw [told, Option.mem_def.mp member]
    rfl
  · intro last member
    rw [ended, Option.mem_def.mp member]
    rfl
  · intro some more
    have first : (initial.calibrations (requests ++ more)).head? = runs.head? := by
      rw [calibrations_append, List.head?_append_of_ne_nil _ some]
    rw [run_attempt, first]
    exact told.symm
  · obtain ⟨once, deferred⟩ := calibratingFetches_length config address bus requests
    split
    · exact once
    next eager =>
      have none : calibratingFetches past = [] := by
        by_contra some
        exact eager (deferred some).1
      rw [none]
      exact Nat.le_refl 0
  · intro selection fetch reply next
    have opens : 0 < runsOpened reply.events ↔ _ := fetch_opens_iff session selection
    rw [mode, ← untried, verified] at opens
    refine ⟨opens, ?_, ?_⟩
    · intro run made error failed
      exact fetch_failed session selection made failed
    · intro tried
      have settled : session.gauge.attempt ≠ .notStarted := fun fresh =>
        tried (pending.mp (untried.mp fresh))
      have unopened : ¬ 0 < runsOpened reply.events := fun opened => settled (opens.mp opened).1.2
      refine ⟨Nat.eq_zero_of_not_pos unopened, fetch_settled session selection ?_⟩
      simp [Gauge.calibrationDue, ← Bool.not_eq_true, ← untried, settled]

end FuelGauge.Session
