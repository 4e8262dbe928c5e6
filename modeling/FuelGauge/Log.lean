import FuelGauge.Calibration.Phase
import FuelGauge.Error
import FuelGauge.Telemetry.Channel
import FuelGauge.Text

/-!
What is logged, as data: each record says what happened, and its level and text
follow from that.
-/

namespace FuelGauge.Log

open Calibration (Phase)

inductive Level where
  | trace
  | debug
  | info
  | warn
  | error
  deriving DecidableEq, Repr

def Level.name : Level → String
  | .trace => "TRACE"
  | .debug => "DEBUG"
  | .info => "INFO"
  | .warn => "WARN"
  | .error => "ERROR"

inductive Record where
  | transition (source target : Phase)
  | calibrationFailed (phase : Phase) (error : Error)
  | resealFailed (error : Error)
  | checksumMismatch (field : Flash.Field) (written read : UInt8)
  | calibrationApplied (capacity voltage : UInt16)
  | calibrationDeferred
  | calibrationRefused
  | wrongDevice (reported : UInt16)
  | fetched (channel : Channel) (word : UInt16)
  deriving DecidableEq, Repr

namespace Record

def level : Record → Level
  | .fetched .. => .trace
  | .transition .. | .calibrationDeferred => .debug
  | .calibrationApplied .. => .info
  | .calibrationFailed .. | .calibrationRefused => .warn
  | .resealFailed .. | .checksumMismatch .. | .wrongDevice .. => .error

def text : Record → String
  | .transition source target =>
      "calibration: " ++ source.name ++ " -> " ++ target.name
  | .calibrationFailed phase error =>
      "calibration failed in " ++ phase.name ++ ": " ++ error.name
  | .resealFailed error =>
      "reseal after failed calibration failed: " ++ error.name
  | .checksumMismatch field written read =>
      "checksum mismatch for " ++ field.name ++ ": wrote " ++ Text.hex written.toNat ++
        ", read " ++ Text.hex read.toNat
  | .calibrationApplied capacity voltage =>
      "calibration applied: design capacity " ++ toString capacity.toNat ++
        " mAh, terminate voltage " ++ toString voltage.toNat ++ " mV"
  | .calibrationDeferred => "calibration deferred to first fetch"
  | .calibrationRefused => "calibration refused: device type not verified"
  | .wrongDevice reported =>
      "unexpected device type " ++ Text.hex reported.toNat ++ ", expected " ++
        Text.hex expectedDeviceType.toNat
  | .fetched channel word =>
      "fetched " ++ channel.name ++ ": " ++ Text.hex word.toNat

end Record
end FuelGauge.Log
