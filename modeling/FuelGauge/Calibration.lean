import FuelGauge.Calibration.Script

/-!
A calibration run. The gauge is unsealed in between, so a run that fails before
its own seal is followed by one attempt to seal; the error reported is the one
that ended the run, whatever becomes of that attempt. A run whose own seal fails
makes no second attempt.
-/

namespace FuelGauge.Calibration

/-- The best effort to leave the gauge sealed. It never fails. -/
def reseal : Action Progress Unit :=
  (Transfer.issue .seal).recover fun error => Action.log (.resealFailed error)

def abandon (error : Error) : Action Progress Unit := do
  Action.log (.calibrationFailed (← Action.get).phase error)
  reseal
  Action.fail error

def run (config : Config) : Action Progress Unit := do
  (execute (openScript config)).recover abandon
  execute sealScript
  Action.log (.calibrationApplied config.designCapacity config.terminateVoltage)

end FuelGauge.Calibration
