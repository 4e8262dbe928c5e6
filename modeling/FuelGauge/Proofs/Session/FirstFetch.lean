import FuelGauge.Bus.Adjustment
import FuelGauge.Proofs.Session.Verification

/-!
Fetching where calibration waits for the first fetch. The device is judged only
while that calibration is still to be attempted; after the first attempt, and
whatever later inits say, a fetch reads what the bus shows.
-/

namespace FuelGauge.Session

variable {β κ : Type} [Bus β] [Adjustable β κ]

theorem step_attempt (session : Session β) (request : Request κ) :
    (session.step request).2.gauge.attempt =
      (session.calibration? request).elim session.gauge.attempt fun run =>
        session.gauge.attempt.record run.result.isOk := by
  obtain ⟨telemetry, verified, marked⟩ := step_marked session request
  rw [marked]
  cases session.calibration? request with
  | none => rfl
  | some run => rfl

theorem run_pending (config : Config) (address : UInt8) (bus : β) (requests : List (Request κ)) :
    ((start config address bus).run requests).2.gauge.attempt.isPending = true ↔
      (start config address bus).calibrations requests = [] := by
  induction requests using List.reverseRecOn with
  | nil => exact ⟨fun _ => rfl, fun _ => rfl⟩
  | append_singleton requests request ih =>
    rw [run_snoc, calibrations_snoc, step_attempt, List.append_eq_nil_iff]
    cases ((start config address bus).run requests).2.calibration? request with
    | none => simpa using ih
    | some run => simp [Calibration.Attempt.isPending_record]

theorem fetch_due (session : Session β) (selection : Selection)
    (due : session.gauge.calibrationDue = true) (unverified : session.gauge.verified = false) :
    session.perform (Gauge.fetch selection) =
      ⟨.error .wrongDevice, session.gauge, session.bus, [.log .calibrationRefused]⟩ := by
  simp [perform, Gauge.run_fetch, Gauge.run_configure, due, unverified]

theorem fetch_settled (session : Session β) (selection : Selection)
    (settled : session.gauge.calibrationDue = false) :
    session.perform (Gauge.fetch selection) =
      session.perform (Gauge.fetchEach selection.channels) := by
  simp [perform, Gauge.run_fetch, settled]

theorem fetchEach_accepted (session : Session β) (channels : List Channel) :
    (session.perform (Gauge.fetchEach channels)).result ≠ .error .wrongDevice := by
  obtain ⟨_, failed, _⟩ :=
    Gauge.fetchEach_outcome session.gauge.address session.gauge session.bus channels
  intro refused
  have impossible := failed _ refused
  cases impossible

/-- An unverified device is refused up to the first attempt to calibrate. From
then on its channels are read. -/
theorem fetch_refused_iff (config : Config) (address : UInt8) (bus : β)
    (requests : List (Request κ)) (selection : Selection) (deferred : config.mode = .onFirstFetch)
    (unverified : ¬ Verified address ((start config address bus).transcript requests)) :
    let session := ((start config address bus).run requests).2
    let (reply, next) := session.step (.command (.fetch selection) : Request κ)
    ((reply.result = .error .wrongDevice ∧ traffic reply.events = [] ∧
        next.gauge.telemetry = session.gauge.telemetry) ↔
      (start config address bus).calibrations requests = []) ∧
    ((start config address bus).calibrations requests ≠ [] →
      session.perform (Gauge.fetch selection) =
        session.perform (Gauge.fetchEach selection.channels)) := by
  have kept : ((start config address bus).run requests).2.gauge.config = config :=
    (run_config _ requests).1
  have known := run_verified config address bus requests
  have pending := run_pending config address bus requests
  generalize ((start config address bus).run requests).2 = session at kept known pending ⊢
  have refused : session.gauge.verified = false := by
    rw [← Bool.not_eq_true, known]
    exact unverified
  have due : session.gauge.calibrationDue = session.gauge.attempt.isPending := by
    simp [Gauge.calibrationDue, kept, deferred]
  simp only [step, Gauge.Command.action, perform, reply, Action.run_map, map_eq_error]
  -- What is due is told by the attempt alone: the mode never changes.
  by_cases untried : (start config address bus).calibrations requests = []
  · have first := fetch_due session selection (due.trans (pending.mpr untried)) refused
    rw [perform] at first
    rw [first]
    exact ⟨⟨fun _ => untried, fun _ => ⟨rfl, rfl, rfl⟩⟩, fun tried => absurd untried tried⟩
  · have settled : session.gauge.calibrationDue = false := by
      rw [due, ← Bool.not_eq_true, pending]
      exact untried
    have later := fetch_settled session selection settled
    have accepted := fetchEach_accepted session selection.channels
    rw [← later] at accepted
    exact ⟨⟨fun holds => absurd holds.1 accepted, fun none => absurd none untried⟩, fun _ => later⟩

/-- A device that never was the expected one is refused. -/
theorem fetch_refused_iff_other_device :
    let config : Config := ⟨1500, 3000, .onFirstFetch, false⟩
    let session : Session Bus.Simulated :=
      start config 0x55 { rules := { responses := [⟨0x0001, 0x0421⟩] } }
    let requests : List (Request Bus.Adjustment) := [.command .init]
    let reply := ((session.run requests).2.step (.command (.fetch (.one .voltage)))).1
    config.mode = .onFirstFetch ∧ ¬ Verified 0x55 (session.transcript requests) ∧
      reply.result = .error .wrongDevice :=
  have unverified := by decide +kernel
  ⟨rfl, unverified, ((fetch_refused_iff _ _ _ _ _ rfl unverified).1.mpr rfl).1⟩

/-- The calibration that the first fetch makes fails, and the next init cannot
ask for the device type: the device is unverified, and still it is read. -/
theorem fetch_not_refused_after_attempt :
    let config : Config := ⟨1500, 3000, .onFirstFetch, false⟩
    let session : Session Bus.Simulated := start config 0x55
      { rules := { responses := [⟨0x0001, 0x0520⟩], failingTransactions := [4, 5, 6] } }
    let requests : List (Request Bus.Adjustment) :=
      [.command .init, .command (.fetch (.one .voltage)), .command .init]
    let reply := ((session.run requests).2.step (.command (.fetch (.one .voltage)))).1
    config.mode = .onFirstFetch ∧ ¬ Verified 0x55 (session.transcript requests) ∧
      reply.result ≠ .error .wrongDevice ∧ traffic reply.events ≠ [] := by
  refine ⟨rfl, by decide +kernel, ?_, ?_⟩
  · rintro ⟨⟩
  · decide +kernel

end FuelGauge.Session
