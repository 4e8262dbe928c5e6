import FuelGauge.Bus.Adjustment
import FuelGauge.Session
import FuelGauge.Proofs.Calibration.Course
import FuelGauge.Proofs.ControlHistory
import FuelGauge.Proofs.Gauge.Operations
import FuelGauge.Proofs.Gauge.Parts
import FuelGauge.Proofs.Session.History
import FuelGauge.Proofs.Gauge.DeviceType
import FuelGauge.Proofs.Calibration.Sealed
import FuelGauge.Proofs.Session.Sealing
import FuelGauge.Proofs.Gauge.Writes
import FuelGauge.Proofs.Session.Verification
import FuelGauge.Proofs.Session.FirstFetch
import FuelGauge.Proofs.Gauge.Readings
import FuelGauge.Proofs.Session.Readings
import FuelGauge.Proofs.Calibration.Entered
import FuelGauge.Proofs.Gauge.Runs
import FuelGauge.Proofs.Session.Bookkeeping
import FuelGauge.Proofs.WholeWords
import FuelGauge.Proofs.Session.WholeWords
import FuelGauge.Proofs.Calibration.Failures
import FuelGauge.Proofs.Gauge.Account
import FuelGauge.Proofs.Session.Failures
import FuelGauge.Proofs.Session.Deferral
import FuelGauge.Proofs.Bus.Alike
import FuelGauge.Proofs.Gauge.Unaffected
import FuelGauge.Proofs.Bus.Causality
import FuelGauge.Proofs.Calibration.Ledger
import FuelGauge.Proofs.Calibration.Stages
import FuelGauge.Proofs.Gauge.FirstFlaw
import FuelGauge.Proofs.Session.Queries
import FuelGauge.Proofs.Bus.Replay
import FuelGauge.Proofs.Gauge.Programming
import FuelGauge.Proofs.Bus.Window
import FuelGauge.Proofs.Bus.InStep
import FuelGauge.Proofs.Calibration.Lockstep
import FuelGauge.Proofs.Calibration.ReadBacks
import FuelGauge.Proofs.Gauge.ReadBacks
import FuelGauge.Proofs.Gauge.InTurn
import FuelGauge.Proofs.Gauge.Values
import FuelGauge.Proofs.Bus.Overlay
import FuelGauge.Proofs.Gauge.Rerun
import FuelGauge.Proofs.Quantity.Micro
import FuelGauge.Proofs.Quantity.Units
import FuelGauge.Proofs.Bus.Untouched
import FuelGauge.Proofs.Gauge.FetchOrder
import FuelGauge.Proofs.Gauge.Measurements
import FuelGauge.Proofs.Quantity.Fixed
import FuelGauge.Proofs.Gauge.Report
