import FuelGauge.Proofs.Calibration.Failures
import FuelGauge.Proofs.Gauge.Operations

/-!
How the accesses of an operation account for what it reports. A refused access
ends the operation and is reported for what it is. After a calibration that was
broken off there is one attempt to seal, and what becomes of it is not reported.
-/

namespace FuelGauge

open Calibration (openAccesses sealAccesses)

variable {α γ : Type} {config : Config} {address : UInt8} {accesses : List Event}

inductive Account (config : Config) (address : UInt8) : List Event → Except Error α → Prop
  | completed {accesses : List Event} (accepted : Accepted accesses) (value : α) :
      Account config address accesses (.ok value)
  /-- The gauge answered, and it is none of this kind, or it was never asked. -/
  | otherDevice {accesses : List Event} (accepted : Accepted accesses) :
      Account config address accesses (.error .wrongDevice)
  | refused {earlier : List Event} {failed : Event} (accepted : Accepted earlier)
      (failure : failed.isFailure = true) :
      Account config address (earlier ++ [failed]) (.error .bus)
  /-- A calibration was broken off, and then there was the attempt to seal. -/
  | abandoned {windows : Flash.Field → Flash.Window} {before seen last : List Event}
      {error : Error} {ending : Except Error Unit} (accepted : Accepted before)
      (opened : Follows (openAccesses config address windows) seen
        (.error error : Except Error Unit))
      (resealed : Follows (sealAccesses address) last ending) :
      Account config address (before ++ seen ++ last) (.error error)

namespace Account

variable {result : Except Error α}

theorem after {first : List Event} (account : Account config address accesses result)
    (clean : Accepted first) : Account config address (first ++ accesses) result := by
  cases account with
  | completed accepted value => exact .completed (accepted_append.mpr ⟨clean, accepted⟩) value
  | otherDevice accepted => exact .otherDevice (accepted_append.mpr ⟨clean, accepted⟩)
  | refused accepted failure =>
    rw [← List.append_assoc]
    exact .refused (accepted_append.mpr ⟨clean, accepted⟩) failure
  | abandoned accepted opened resealed =>
    rw [← List.append_assoc, ← List.append_assoc]
    exact .abandoned (accepted_append.mpr ⟨clean, accepted⟩) opened resealed

theorem map (account : Account config address accesses result) (change : α → γ) :
    Account config address accesses (result.map change) := by
  cases account with
  | completed accepted value => exact .completed accepted (change value)
  | otherDevice accepted => exact .otherDevice accepted
  | refused accepted failure => exact .refused accepted failure
  | abandoned accepted opened resealed => exact .abandoned accepted opened resealed

theorem accepted_of_ok {value : α}
    (account : Account config address accesses (.ok value : Except Error α)) :
    Accepted accesses := by
  cases account with
  | completed accepted => exact accepted

theorem accepted_of_wrongDevice
    (account : Account config address accesses (.error .wrongDevice : Except Error α)) :
    Accepted accesses := by
  cases account with
  | otherDevice accepted => exact accepted
  | abandoned _ opened =>
    rcases opened.error_cases with impossible | impossible <;> cases impossible

theorem failure_of_bus (account : Account config address accesses (.error .bus : Except Error α)) :
    ∃ event ∈ accesses, event.isFailure = true := by
  cases account with
  | @refused earlier failed accepted failure =>
    exact ⟨failed, List.mem_append_right _ (List.mem_singleton_self failed), failure⟩
  | @abandoned windows before seen last error ending accepted opened resealed =>
    obtain ⟨done, found, rfl, _, failure⟩ := opened.last_of_error
      (Calibration.openAccesses_accepted config address windows)
    exact ⟨found, by simp, failure⟩

theorem not_unsupportedChannel
    (account : Account config address accesses result) : result ≠ .error .unsupportedChannel := by
  rintro rfl
  cases account with
  | abandoned _ opened =>
    rcases opened.error_cases with impossible | impossible <;> cases impossible

theorem mismatch (account :
      Account config address accesses (.error .checksumMismatch : Except Error α)) :
    config.verifyChecksum = true ∧ ShowsMismatch address accesses := by
  cases account with
  | abandoned accepted opened resealed =>
    obtain ⟨asked, _, shown⟩ := Calibration.mismatch_shown opened
    exact ⟨asked, shown.after accepted _⟩

/-- Every refused access is reported, but for those of an attempt to seal that
came after a mismatch. -/
theorem failure_reported {earlier later : List Event} {failed : Event}
    (account : Account config address accesses result)
    (split : accesses = earlier ++ failed :: later) (failure : failed.isFailure = true) :
    result = .error .bus ∨
      result = .error .checksumMismatch ∧
        failed ∈ [.write address 0x00 0x20 false, .write address 0x01 0x00 false] ∧
        ShowsMismatch address earlier := by
  have member : failed ∈ accesses := by simp [split]
  cases account with
  | completed accepted value => exact (accepted.not_failed member failure).elim
  | otherDevice accepted => exact (accepted.not_failed member failure).elim
  | refused accepted _ => exact Or.inl rfl
  | abandoned accepted opened resealed =>
    rcases opened.error_cases with rfl | rfl
    · exact Or.inl rfl
    · obtain ⟨_, clean, shown⟩ := Calibration.mismatch_shown opened
      obtain ⟨inner, rfl, rest⟩ := (accepted_append.mpr ⟨accepted, clean⟩).around failure split
      exact Or.inr ⟨rfl, (Calibration.seal_failure resealed rest failure).1,
        shown.after accepted inner⟩

theorem first_failure {earlier later : List Event} {failed : Event}
    (account : Account config address accesses result)
    (split : accesses = earlier ++ failed :: later) (failure : failed.isFailure = true)
    (first : Accepted earlier) :
    later = [] ∨
      (∃ (windows : Flash.Field → Flash.Window) (before inner : List Event),
        earlier = before ++ inner ∧
        Follows (openAccesses config address windows) (inner ++ [failed])
          (.error .bus : Except Error Unit)) ∧
      ∃ ending : Except Error Unit, Follows (sealAccesses address) later ending := by
  have member : failed ∈ accesses := by simp [split]
  cases account with
  | completed accepted value => exact (accepted.not_failed member failure).elim
  | otherDevice accepted => exact (accepted.not_failed member failure).elim
  | refused accepted refused =>
    exact Or.inl (accepted.first_failure_unique first failure refused split).2.2
  | @abandoned windows before seen last error ending accepted opened resealed =>
    rcases opened.error_cases with rfl | rfl
    · obtain ⟨done, found, rfl, clean, refused⟩ := opened.last_of_error
        (Calibration.openAccesses_accepted config address windows)
      have parts : before ++ (done ++ [found]) ++ last = (before ++ done) ++ found :: last := by
        simp
      obtain ⟨rfl, rfl, rfl⟩ := (accepted_append.mpr ⟨accepted, clean⟩).first_failure_unique
        first failure refused (parts.symm.trans split)
      exact Or.inr ⟨⟨windows, before, done, rfl, opened⟩, ending, resealed⟩
    -- After a mismatch only the seal can be refused, and nothing follows it.
    · obtain ⟨_, clean, _⟩ := Calibration.mismatch_shown opened
      obtain ⟨inner, rfl, rest⟩ := (accepted_append.mpr ⟨accepted, clean⟩).around failure split
      exact Or.inl (Calibration.seal_failure resealed rest failure).2

end Account

/-! The accesses of a gauge. -/

theorem Follows.account {expected seen : List Event} {result : Except Error α}
    (follows : Follows expected seen result) (accepted : Accepted expected)
    (transport : ∀ error, result = .error error → error = .bus) :
    Account config address seen result := by
  cases ended : result with
  | ok value =>
    rw [ended] at follows
    rw [follows.seen_eq]
    exact .completed accepted value
  | error error =>
    rw [ended] at follows
    obtain ⟨done, found, rfl, clean, failure⟩ := follows.last_of_error accepted
    rw [transport error ended] at failure ⊢
    exact .refused clean failure

theorem Follows.query_account {word : UInt16} {low high : UInt8} {seen : List Event}
    {result : Except Error α}
    (follows : Follows (queryAccesses address word low high) seen result) :
    Account config address seen result := by
  apply follows.account (queryAccesses_accepted address word low high)
  rintro error rfl
  rcases follows.query_cases with ⟨_, _, impossible⟩ | ⟨refused, _⟩
  · cases impossible
  · exact Except.error.inj refused

theorem Calibration.Course.account {accesses : List Event} {result : Except Error Unit}
    (course : Course config address accesses result) : Account config address accesses result := by
  cases course with
  | @sealing windows last result sealed =>
    have account : Account config address last result := by
      apply sealed.account (controlAccesses_accepted address 0x0020)
      rintro error rfl
      rcases sealed.control_cases with ⟨_, _, impossible⟩ | ⟨refused, _⟩
      · cases impossible
      · exact Except.error.inj refused
    exact account.after (openAccesses_accepted config address windows)
  | abandoned opened resealed => exact .abandoned accepted_nil opened resealed

abbrev Action.Outcome.Accounted {β σ : Type} (outcome : Action.Outcome β σ α) (config : Config)
    (address : UInt8) : Prop := Account config address (traffic outcome.events) outcome.result

theorem Account.outcome_after {β σ : Type} {outcome : Action.Outcome β σ α}
    (account : outcome.Accounted config address) {events : List Event}
    (clean : Accepted (traffic events)) : (outcome.after events).Accounted config address := by
  simp only [Action.Outcome.Accounted, Action.Outcome.after, traffic_append]
  exact account.after clean

namespace Gauge

variable {β : Type} [Bus β] (gauge : Gauge) (bus : β)

theorem ask_account (word : ControlWord) :
    ((Transfer.ask word : Action Gauge UInt16).run address gauge bus).Accounted config address := by
  obtain ⟨low, high, follows, _⟩ := Transfer.ask_follows address gauge bus word
  exact follows.query_account

theorem verify_account :
    (verify.run address gauge bus).Accounted config address := by
  obtain ⟨low, high, asked, follows, judged⟩ := verify_follows address gauge bus
  have account : Account config address _ asked := follows.query_account
  simp only [Action.Outcome.Accounted, judged]
  cases asked with
  | error error => exact account.map fun _ => ()
  | ok reported =>
    by_cases expected : Word.ofBytes low high = 0x0520
    · simp only [expected, if_true]
      exact .completed account.accepted_of_ok ()
    · simp only [expected, if_false]
      exact .otherDevice account.accepted_of_ok

theorem configure_account :
    (configure.run address gauge bus).Accounted gauge.config address := by
  simp only [run_configure]
  by_cases verified : gauge.verified = true
  · simp only [verified, if_true]
    exact (Calibration.run_course gauge.config address {} bus).account
  · simp only [verified]
    exact .otherDevice accepted_nil

theorem init_account :
    (init.run address gauge bus).Accounted gauge.config address := by
  have asked : (verify.run address gauge bus).Accounted gauge.config address :=
    verify_account gauge bus
  have state := verify_state address gauge bus
  simp only [run_init]
  generalize verify.run address gauge bus = checked at asked state ⊢
  cases ended : checked.result with
  | error error =>
    simp only [Action.Outcome.Accounted, ended] at asked
    exact asked
  | ok done =>
    simp only [Action.Outcome.Accounted, ended] at asked
    cases gauge.config.mode with
    | atInit =>
      have calibrated : (configure.run address checked.state checked.bus).Accounted
          checked.state.config address := configure_account _ _
      have same : checked.state.config = gauge.config := by rw [state]
      rw [same] at calibrated
      exact Account.outcome_after calibrated asked.accepted_of_ok
    | onFirstFetch =>
      simp only [Action.Outcome.Accounted, traffic_append, traffic_log, traffic_nil,
        List.append_nil]
      exact .completed asked.accepted_of_ok ()

theorem fetchEach_account (channels : List Channel) :
    ((fetchEach channels).run address gauge bus).Accounted config address := by
  induction channels generalizing gauge bus with
  | nil => exact .completed accepted_nil ()
  | cons channel rest ih =>
    simp only [fetchEach, Action.run_bind, run_fetchChannel]
    cases (Bus.read bus address channel.register 2).1 with
    | none => exact .refused accepted_nil rfl
    | some bytes =>
      apply Account.outcome_after (ih _ _)
      simp [traffic, Event.isLog, Accepted, Event.isFailure]

theorem fetch_account (selection : Selection) :
    ((fetch selection).run address gauge bus).Accounted gauge.config address := by
  simp only [run_fetch]
  by_cases due : gauge.calibrationDue = true
  · have configured : (configure.run address gauge bus).Accounted gauge.config address :=
      configure_account gauge bus
    simp only [due, if_true]
    cases ended : (configure.run address gauge bus).result with
    | error error =>
      simp only [Action.Outcome.Accounted, ended] at configured
      exact configured
    | ok done =>
      simp only [Action.Outcome.Accounted, ended] at configured
      exact Account.outcome_after (fetchEach_account _ _ selection.channels)
        configured.accepted_of_ok
  · simp only [due]
    exact fetchEach_account gauge bus selection.channels

def Command.usesBus : Command → Bool
  | .init | .configure | .deviceType | .firmwareVersion | .controlStatus | .fetch _ => true
  | .reading _ | .fixedReading _ | .telemetry | .config => false

theorem Command.account (command : Command) (uses : command.usesBus = true) :
    (command.action.run gauge.address gauge bus).Accounted gauge.config gauge.address := by
  cases command with
  | init =>
    simp only [Command.action, Action.run_map]
    exact (init_account gauge bus).map _
  | configure =>
    simp only [Command.action, Action.run_map]
    exact (configure_account gauge bus).map _
  | deviceType =>
    simp only [Command.action, Action.run_map]
    exact (ask_account gauge bus .deviceType).map _
  | firmwareVersion =>
    simp only [Command.action, Action.run_map]
    exact (ask_account gauge bus .firmwareVersion).map _
  | controlStatus =>
    simp only [Command.action, Gauge.controlStatus, Action.run_map]
    exact ((ask_account gauge bus .controlStatus).map _).map _
  | fetch selection =>
    simp only [Command.action, Action.run_map]
    exact (fetch_account gauge bus selection).map _
  | _ => cases uses

end Gauge
end FuelGauge
