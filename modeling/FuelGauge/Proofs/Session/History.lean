import FuelGauge.Session
import FuelGauge.Proofs.Gauge.Parts
import Mathlib.Data.List.Induction

/-!
What has happened in a session so far: the events, the events of each request,
and the calibration runs. All three grow at their end.
-/

namespace FuelGauge.Session

open Calibration (Progress)
open Gauge (Command)

variable {β κ : Type}

def start (config : Config) (address : UInt8) (bus : β) : Session β :=
  ⟨{ config, address }, bus⟩

variable [Bus β] [Adjustable β κ]

def history (session : Session β) (requests : List (Request κ)) : List Event :=
  (session.run requests).1.flatMap Reply.events

def transcript (session : Session β) (requests : List (Request κ)) :
    List (Request κ × List Event) :=
  requests.zip ((session.run requests).1.map Reply.events)

def calibration? (session : Session β) : Request κ → Option (Action.Outcome β Progress Unit)
  | .command command => command.calibration? session.gauge session.bus
  | .adjust _ => none

def calibrations (session : Session β) : List (Request κ) → List (Action.Outcome β Progress Unit)
  | [] => []
  | request :: rest =>
      (session.calibration? request).toList ++ (session.step request).2.calibrations rest

theorem run_snoc (session : Session β) (requests : List (Request κ)) (request : Request κ) :
    session.run (requests ++ [request]) =
      ((session.run requests).1 ++ [((session.run requests).2.step request).1],
        ((session.run requests).2.step request).2) := by
  rw [run_append]
  rfl

theorem history_snoc (session : Session β) (requests : List (Request κ)) (request : Request κ) :
    session.history (requests ++ [request]) =
      session.history requests ++ ((session.run requests).2.step request).1.events := by
  simp [history, run_snoc]

theorem transcript_snoc (session : Session β) (requests : List (Request κ))
    (request : Request κ) :
    session.transcript (requests ++ [request]) =
      session.transcript requests ++
        [(request, ((session.run requests).2.step request).1.events)] := by
  have same : requests.length = ((session.run requests).1.map Reply.events).length := by
    rw [List.length_map, length_run]
  rw [transcript, run_snoc, List.map_append, List.zip_append same]
  rfl

theorem calibrations_append (session : Session β) (first second : List (Request κ)) :
    session.calibrations (first ++ second) =
      session.calibrations first ++ (session.run first).2.calibrations second := by
  induction first generalizing session with
  | nil => rfl
  | cons request rest ih =>
    rw [List.cons_append, calibrations, calibrations, ih, List.append_assoc]
    rfl

theorem calibrations_snoc (session : Session β) (requests : List (Request κ))
    (request : Request κ) :
    session.calibrations (requests ++ [request]) =
      session.calibrations requests ++
        ((session.run requests).2.calibration? request).toList := by
  rw [calibrations_append, calibrations, calibrations, List.append_nil]

/-! A step marks the gauge with the run that it makes. Beside that it changes the telemetry
and the verdict on the device at most, so a session never changes what its gauge is to be
calibrated to, nor where it is. -/

theorem step_marked (session : Session β) (request : Request κ) :
    ∃ telemetry verified, (session.step request).2.gauge =
      { session.gauge.marked (session.calibration? request) with telemetry, verified } := by
  cases request with
  | adjust change => exact ⟨session.gauge.telemetry, session.gauge.verified, rfl⟩
  | command command =>
    obtain ⟨telemetry, state⟩ := command.state_eq session.gauge session.bus
    exact ⟨telemetry, command.verdict session.gauge session.bus, state⟩

theorem step_config (session : Session β) (request : Request κ) :
    (session.step request).2.gauge.config = session.gauge.config ∧
      (session.step request).2.gauge.address = session.gauge.address := by
  obtain ⟨telemetry, verified, marked⟩ := step_marked session request
  rw [marked]
  exact Gauge.marked_config session.gauge (session.calibration? request)

theorem run_config (session : Session β) (requests : List (Request κ)) :
    (session.run requests).2.gauge.config = session.gauge.config ∧
      (session.run requests).2.gauge.address = session.gauge.address := by
  induction requests generalizing session with
  | nil => exact ⟨rfl, rfl⟩
  | cons request rest ih =>
    obtain ⟨config, address⟩ := step_config session request
    obtain ⟨restConfig, restAddress⟩ := ih (session.step request).2
    exact ⟨restConfig.trans config, restAddress.trans address⟩

end FuelGauge.Session
