import FuelGauge.Bus.Simulated
import FuelGauge.Gauge.Command
import FuelGauge.Proofs.Calibration.Course

/-!
Each operation of the gauge in one equation: its result, what the gauge holds
afterwards, and its events as those of the operations it is made of.
-/

namespace FuelGauge.Gauge

open Calibration (Attempt Phase Progress)

variable {β : Type} [Bus β] (address : UInt8) (gauge : Gauge) (bus : β)

theorem run_configure :
    configure.run address gauge bus =
      if gauge.verified then
        let run := (Calibration.run gauge.config).run address {} bus
        ⟨run.result, gauge.recordRun run.result run.state.phase, run.bus, run.events⟩
      else ⟨.error .wrongDevice, gauge, bus, [.log .calibrationRefused]⟩ := by
  simp only [configure, Action.run_bind, Action.run_get]
  by_cases verified : gauge.verified = true
  · simp [verified, Action.run_bind, Action.run_within, Action.run_modify, Action.run_ofResult,
      Action.Outcome.after]
  · simp [verified, Action.run_bind, Action.run_log, Action.run_fail, Action.Outcome.after]

/-- The trace of a calibration, whatever the bus answers and refuses. Each window
is what was read for its field: it stands in the sequence as that answer. -/
theorem configure_follows_reference (gauge : Gauge) (bus : β) (verified : gauge.verified = true) :
    let outcome := configure.run gauge.address gauge bus
    ∃ (windows : Flash.Field → Flash.Window) (seen last : List Event),
      traffic outcome.events = seen ++ last ∧
      Follows (Calibration.referenceAccesses gauge.config gauge.address windows) seen
        outcome.result ∧
      ((Calibration.openAccesses gauge.config gauge.address windows <+: seen ∧ last = []) ∨
        ∃ error, outcome.result = .error error ∧
          Follows (Calibration.openAccesses gauge.config gauge.address windows) seen
            (.error error : Except Error Unit) ∧
          ∃ ending : Except Error Unit,
            Follows (Calibration.sealAccesses gauge.address) last ending) := by
  have course := Calibration.run_course gauge.config gauge.address {} bus
  simp only [run_configure, verified, if_true]
  exact course.follows_reference

/-- A checksum that reads back wrong, and a seal that is then refused. -/
theorem configure_follows_reference_mismatch :
    let gauge : Gauge := { config := ⟨1500, 3000, .atInit, true⟩, verified := true }
    let bus : Bus.Simulated := { rules := {
      overrides := [⟨0x60, .nth 2, 0⟩]
      failingWrites := [⟨0x00, .nth 3⟩] } }
    let outcome := configure.run gauge.address gauge bus
    gauge.verified = true ∧ outcome.result = .error .checksumMismatch ∧
    ∃ (windows : Flash.Field → Flash.Window) (seen last : List Event),
      traffic outcome.events = seen ++ last ∧
      Follows (Calibration.referenceAccesses gauge.config gauge.address windows) seen
        outcome.result ∧
      ((Calibration.openAccesses gauge.config gauge.address windows <+: seen ∧ last = []) ∨
        ∃ error, outcome.result = .error error ∧
          Follows (Calibration.openAccesses gauge.config gauge.address windows) seen
            (.error error : Except Error Unit) ∧
          ∃ ending : Except Error Unit,
            Follows (Calibration.sealAccesses gauge.address) last ending) :=
  ⟨rfl, by rfl, configure_follows_reference _ _ rfl⟩

theorem run_verify :
    verify.run address gauge bus =
      let asked := deviceType.run address { gauge with verified := false } bus
      match asked.result with
      | .error error => ⟨.error error, { gauge with verified := false }, asked.bus, asked.events⟩
      | .ok reported =>
        if reported = expectedDeviceType then
          ⟨.ok (), { gauge with verified := true }, asked.bus, asked.events⟩
        else
          ⟨.error .wrongDevice, { gauge with verified := false }, asked.bus,
            asked.events ++ [.log (.wrongDevice reported)]⟩ := by
  simp only [verify, Action.run_bind, Action.run_modify]
  have kept : (deviceType.run address { gauge with verified := false } bus).state =
      { gauge with verified := false } := Transfer.ask_state _ _ _ .deviceType
  cases (deviceType.run address { gauge with verified := false } bus).result with
  | error error => simp [Action.Outcome.after, kept]
  | ok reported =>
    by_cases expected : reported = expectedDeviceType
    · simp [expected, Action.run_modify, Action.Outcome.after, kept]
    · simp [expected, Action.run_bind, Action.run_log, Action.run_fail, Action.Outcome.after, kept]

theorem verify_state :
    (verify.run address gauge bus).state =
      { gauge with verified := (verify.run address gauge bus).result.isOk } := by
  simp only [run_verify]
  cases (deviceType.run address { gauge with verified := false } bus).result with
  | error error => rfl
  | ok reported =>
    by_cases expected : reported = expectedDeviceType
    · simp only [expected, if_true]
      rfl
    · simp only [expected, if_false]
      rfl

theorem run_init :
    init.run address gauge bus =
      let checked := verify.run address gauge bus
      match checked.result with
      | .error error => ⟨.error error, checked.state, checked.bus, checked.events⟩
      | .ok _ =>
        match gauge.config.mode with
        | .atInit => (configure.run address checked.state checked.bus).after checked.events
        | .onFirstFetch =>
          ⟨.ok (), checked.state, checked.bus, checked.events ++ [.log .calibrationDeferred]⟩ := by
  have kept : (verify.run address gauge bus).state.config = gauge.config := by rw [verify_state]
  simp only [init, Action.run_bind, Action.run_get]
  cases (verify.run address gauge bus).result with
  | error error => rfl
  | ok done =>
    simp only [kept, Action.Outcome.after, List.nil_append]
    cases gauge.config.mode with
    | atInit => rfl
    | onFirstFetch => rfl

theorem run_fetch (selection : Selection) :
    (fetch selection).run address gauge bus =
      if gauge.calibrationDue then
        let configured := configure.run address gauge bus
        match configured.result with
        | .error error => ⟨.error error, configured.state, configured.bus, configured.events⟩
        | .ok _ =>
          ((fetchEach selection.channels).run address configured.state configured.bus).after
            configured.events
      else (fetchEach selection.channels).run address gauge bus := by
  simp only [fetch, Action.run_bind, Action.run_get]
  by_cases due : gauge.calibrationDue = true
  · simp only [due, if_true, Action.run_bind, Action.Outcome.after, List.nil_append]
    cases (configure.run address gauge bus).result with
    | error error => rfl
    | ok done => rfl
  · simp [due, Action.Outcome.after]

theorem run_fetchChannel (channel : Channel) :
    (fetchChannel channel).run address gauge bus =
      let answer := Bus.read bus address channel.register 2
      match answer.1 with
      | none => ⟨.error .bus, gauge, answer.2, [.read address channel.register 2 none]⟩
      | some bytes =>
        let word := Word.ofBytes (Transfer.lowByte bytes) (Transfer.highByte bytes)
        ⟨.ok (), { gauge with telemetry := gauge.telemetry.store channel word }, answer.2,
          [.read address channel.register 2
              (some [Transfer.lowByte bytes, Transfer.highByte bytes]),
            .log (.fetched channel word)]⟩ := by
  simp only [fetchChannel, Action.run_bind, Transfer.run_readWord]
  cases (Bus.read bus address channel.register 2).1 with
  | none => rfl
  | some bytes => rfl

theorem verify_follows :
    ∃ (low high : UInt8) (asked : Except Error UInt16),
      Follows (queryAccesses address 0x0001 low high)
        (traffic (verify.run address gauge bus).events) asked ∧
      (verify.run address gauge bus).result =
        match asked with
        | .error error => .error error
        | .ok _ => if Word.ofBytes low high = 0x0520 then .ok () else .error .wrongDevice := by
  obtain ⟨low, high, follows, answered⟩ := Transfer.ask_follows address
    { gauge with verified := false } bus .deviceType
  change (deviceType.run address { gauge with verified := false } bus).Follows _ at follows
  change ∀ answer, (deviceType.run address { gauge with verified := false } bus).result =
    .ok answer → answer = Word.ofBytes low high at answered
  refine ⟨low, high, (deviceType.run address { gauge with verified := false } bus).result, ?_⟩
  simp only [run_verify]
  generalize deviceType.run address { gauge with verified := false } bus = asked
    at follows answered ⊢
  cases ended : asked.result with
  | error error =>
    simp only [Action.Outcome.Follows, ended] at follows
    exact ⟨follows, rfl⟩
  | ok reported =>
    simp only [Action.Outcome.Follows, ended] at follows
    have told : reported = Word.ofBytes low high := answered reported ended
    have expected : expectedDeviceType = 0x0520 := rfl
    subst told
    by_cases supported : Word.ofBytes low high = 0x0520
    · simp only [expected, if_pos supported, and_true]
      exact follows
    · simp only [expected, if_neg supported, traffic_append, and_true]
      rw [traffic_log, traffic_nil, List.append_nil]
      exact follows

theorem fetchEach_outcome (channels : List Channel) :
    let outcome := (fetchEach channels).run address gauge bus
    (∃ telemetry, outcome.state = { gauge with telemetry }) ∧
      (∀ error, outcome.result = .error error → error = .bus) ∧
      ∀ event ∈ traffic outcome.events, ∃ channel ∈ channels, ∃ answer,
        event = .read address channel.register 2 answer := by
  induction channels generalizing gauge bus with
  | nil =>
    refine ⟨⟨gauge.telemetry, rfl⟩, ?_, ?_⟩
    · intro error ended
      cases ended
    · intro event member
      cases member
  | cons channel rest ih =>
    simp only [fetchEach, Action.run_bind, run_fetchChannel]
    cases (Bus.read bus address channel.register 2).1 with
    | none =>
      refine ⟨⟨gauge.telemetry, rfl⟩, ?_, ?_⟩
      · intro error ended
        exact (Except.error.inj ended).symm
      · intro event member
        exact ⟨channel, List.mem_cons_self, none, List.mem_singleton.mp member⟩
    | some bytes =>
      let stored := gauge.telemetry.store channel
        (Word.ofBytes (Transfer.lowByte bytes) (Transfer.highByte bytes))
      obtain ⟨⟨telemetry, kept⟩, failed, reads⟩ := ih { gauge with telemetry := stored }
        (Bus.read bus address channel.register 2).2
      refine ⟨⟨telemetry, kept⟩, failed, ?_⟩
      intro event member
      simp only [Action.Outcome.after, List.cons_append, List.nil_append, traffic_read,
        traffic_log] at member
      rcases List.mem_cons.mp member with first | later
      · exact ⟨channel, List.mem_cons_self, _, first⟩
      · obtain ⟨other, listed, answer, read⟩ := reads event later
        exact ⟨other, List.mem_cons_of_mem channel listed, answer, read⟩

theorem run_inspect {α : Type} (view : Gauge → Except Error α) :
    (inspect view).run address gauge bus = ⟨view gauge, gauge, bus, []⟩ := by
  simp [inspect, Action.run_bind, Action.run_get, Action.run_ofResult, Action.Outcome.after]

end FuelGauge.Gauge
