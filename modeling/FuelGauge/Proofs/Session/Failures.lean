import FuelGauge.Bus.Adjustment
import FuelGauge.Proofs.Gauge.Account
import FuelGauge.Proofs.Session.History

/-!
What a step reports against what was refused in it. No refusal is swallowed, none
is invented, nothing is tried again, and the error that broke off a calibration
is the one reported even if the attempt to seal is refused as well.
-/

namespace FuelGauge.Session

open Calibration (openAccesses sealAccesses)

variable {β κ : Type} [Bus β] [Adjustable β κ]

/-- In any state of a session, for every command that uses the bus. -/
theorem step_failures_reported (session : Session β) (command : Gauge.Command)
    (uses : command.usesBus = true) :
    let config := session.gauge.config
    let address := session.gauge.address
    let reply := (session.step (.command command : Request κ)).1
    let accesses := traffic reply.events
    (∀ answer, reply.result = .ok answer → Accepted accesses) ∧
    (reply.result = .error .bus → ∃ event ∈ accesses, event.isFailure = true) ∧
    (reply.result = .error .wrongDevice → Accepted accesses) ∧
    reply.result ≠ .error .unsupportedChannel ∧
    (reply.result = .error .checksumMismatch →
      config.verifyChecksum = true ∧ ShowsMismatch address accesses) ∧
    ∀ earlier failed later, accesses = earlier ++ failed :: later → failed.isFailure = true →
      (reply.result = .error .bus ∨
        reply.result = .error .checksumMismatch ∧
          failed ∈ [.write address 0x00 0x20 false, .write address 0x01 0x00 false] ∧
          ShowsMismatch address earlier) ∧
      (Accepted earlier →
        later = [] ∨
          (∃ (windows : Flash.Field → Flash.Window) (before inner : List Event),
            earlier = before ++ inner ∧
            Follows (openAccesses config address windows) (inner ++ [failed])
              (.error .bus : Except Error Unit)) ∧
          ∃ ending : Except Error Unit, Follows (sealAccesses address) later ending) := by
  intro config address reply accesses
  have account : Account config address accesses reply.result :=
    command.account session.gauge session.bus uses
  refine ⟨?_, ?_, ?_, account.not_unsupportedChannel, ?_, ?_⟩
  · intro answer done
    rw [done] at account
    exact account.accepted_of_ok
  · intro refused
    rw [refused] at account
    exact account.failure_of_bus
  · intro other
    rw [other] at account
    exact account.accepted_of_wrongDevice
  · intro mismatch
    rw [mismatch] at account
    exact account.mismatch
  · intro earlier failed later split failure
    exact ⟨account.failure_reported split failure, account.first_failure split failure⟩

/-- The second checksum reads back wrong, and the seal is then refused. -/
theorem step_failures_reported_mismatch :
    let session : Session Bus.Simulated := start ⟨1500, 3000, .atInit, true⟩ 0x55
      { rules := {
          responses := [⟨0x0001, 0x0520⟩]
          overrides := [⟨0x60, .nth 2, 0⟩]
          failingWrites := [⟨0x00, .nth 4⟩] } }
    let reply := (session.step (.command .init)).1
    reply.result = .error .checksumMismatch ∧
    .write 0x55 0x00 0x20 false ∈ traffic reply.events ∧
    ShowsMismatch session.gauge.address (traffic reply.events) :=
  ⟨by rfl, by decide,
    ((step_failures_reported (_ : Session Bus.Simulated) .init rfl).2.2.2.2.1 (by rfl)).2⟩

end FuelGauge.Session
