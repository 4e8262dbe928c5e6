import FuelGauge.Gauge

/-!
What can be asked of a gauge, and the answers. Questions about what is already
known are answered without the bus.
-/

namespace FuelGauge.Gauge

inductive Command where
  | init
  | configure
  | deviceType
  | firmwareVersion
  | controlStatus
  | fetch (selection : Selection)
  | reading (selection : Selection)
  | fixedReading (selection : Selection)
  | telemetry
  | config
  deriving DecidableEq, Repr

inductive Answer where
  | done
  | word (word : UInt16)
  | status (status : ControlStatus)
  | reading (quantity : Quantity)
  | fixedReading (reading : Option (Except Fixed.ConversionError Fixed))
  | telemetry (telemetry : Telemetry)
  | config (config : Config)

def inspect {α : Type} (view : Gauge → Except Error α) : Action Gauge α := do
  Action.ofResult (view (← Action.get))

def Command.action : Command → Action Gauge Answer
  | .init => (fun _ => .done) <$> Gauge.init
  | .configure => (fun _ => .done) <$> Gauge.configure
  | .deviceType => .word <$> Gauge.deviceType
  | .firmwareVersion => .word <$> Gauge.firmwareVersion
  | .controlStatus => .status <$> Gauge.controlStatus
  | .fetch selection => (fun _ => .done) <$> Gauge.fetch selection
  | .reading selection => .reading <$> inspect (·.reading selection)
  | .fixedReading selection =>
      inspect fun gauge => .ok (.fixedReading (gauge.telemetry.fixed? selection))
  | .telemetry => inspect fun gauge => .ok (.telemetry gauge.telemetry)
  | .config => inspect fun gauge => .ok (.config gauge.config)

end FuelGauge.Gauge
