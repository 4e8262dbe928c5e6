import FuelGauge.Calibration
import FuelGauge.Calibration.Attempt
import FuelGauge.ControlStatus
import FuelGauge.Telemetry

/-!
The gauge as its user holds it: what it is to be calibrated to, what was last
read from it, and how its last calibration went. Calibration changes data flash,
so it is refused until the device has said what it is.
-/

namespace FuelGauge

open Calibration (Attempt Phase)

structure Gauge where
  config : Config
  address : UInt8 := factoryAddress
  telemetry : Telemetry := {}
  attempt : Attempt := .notStarted
  /-- Where the last calibration ended. -/
  phase : Phase := .idle
  /-- The device type was asked for and is the expected one. -/
  verified : Bool := false
  deriving DecidableEq, Repr

namespace Gauge

def deviceType : Action Gauge UInt16 := Transfer.ask .deviceType

def firmwareVersion : Action Gauge UInt16 := Transfer.ask .firmwareVersion

def controlStatus : Action Gauge ControlStatus := ControlStatus.mk <$> Transfer.ask .controlStatus

/-- Until the answer is known the device counts as unverified. -/
def verify : Action Gauge Unit := do
  Action.modify fun gauge => { gauge with verified := false }
  let reported ← deviceType
  if reported = expectedDeviceType then
    Action.modify fun gauge => { gauge with verified := true }
  else
    Action.log (.wrongDevice reported)
    Action.fail .wrongDevice

def recordRun (gauge : Gauge) (result : Except Error Unit) (phase : Phase) : Gauge :=
  { gauge with phase, attempt := gauge.attempt.record result.isOk }

def configure : Action Gauge Unit := do
  let gauge ← Action.get
  if gauge.verified then
    let (result, progress) ← Action.within (Calibration.run gauge.config) {}
    Action.modify (·.recordRun result progress.phase)
    Action.ofResult result
  else
    Action.log .calibrationRefused
    Action.fail .wrongDevice

def init : Action Gauge Unit := do
  verify
  match (← Action.get).config.mode with
  | .atInit => configure
  | .onFirstFetch => Action.log .calibrationDeferred

def calibrationDue (gauge : Gauge) : Bool :=
  gauge.config.mode = .onFirstFetch && gauge.attempt.isPending

def fetchChannel (channel : Channel) : Action Gauge Unit := do
  let word ← Transfer.readWord channel.register
  Action.log (.fetched channel word)
  Action.modify fun gauge => { gauge with telemetry := gauge.telemetry.store channel word }

def fetchEach : List Channel → Action Gauge Unit
  | [] => pure ()
  | channel :: rest => do
      fetchChannel channel
      fetchEach rest

/-- A calibration that is due comes first; if it fails nothing is fetched. -/
def fetch (selection : Selection) : Action Gauge Unit := do
  if (← Action.get).calibrationDue then
    configure
  fetchEach selection.channels

def reading (gauge : Gauge) (selection : Selection) : Except Error Quantity :=
  (gauge.telemetry.quantity? selection).elim (.error .unsupportedChannel) .ok

theorem calibrationDue_recordRun (gauge : Gauge) (result : Except Error Unit) (phase : Phase) :
    (gauge.recordRun result phase).calibrationDue = false := by
  simp [calibrationDue, recordRun, Calibration.Attempt.isPending_record]

theorem fetchEach_append (first second : List Channel) :
    fetchEach (first ++ second) = (do fetchEach first; fetchEach second) := by
  induction first with
  | nil => simp only [List.nil_append, fetchEach, pure_bind]
  | cons channel rest ih => simp only [List.cons_append, fetchEach, ih, bind_assoc]

end Gauge
end FuelGauge
