import FuelGauge.Proofs.Gauge.Writes
import FuelGauge.Proofs.Session.History

/-!
When the device of a session counts as verified, told by the last init alone,
and what that permits. Nothing but a calibration run writes to data flash, and
no run is made on a device that the last init did not confirm.
-/

namespace FuelGauge.Session

open Calibration (Progress)
open Gauge (Confirms typeQuery)

variable {β κ : Type}

def inits (past : List (Request κ × List Event)) : List (List Event) :=
  past.filterMap fun
    | (.command .init, events) => some events
    | _ => none

/-- There was an init, and the last one confirmed the device. -/
def Verified (address : UInt8) (past : List (Request κ × List Event)) : Prop :=
  ∃ events, (inits past).getLast? = some events ∧ Confirms address events

theorem verified_init {address : UInt8} {past : List (Request κ × List Event)}
    {events : List Event} :
    Verified address (past ++ [(.command .init, events)]) ↔ Confirms address events := by
  simp [Verified, inits]

theorem verified_other {address : UInt8} {past : List (Request κ × List Event)}
    {request : Request κ} {events : List Event} (other : request ≠ .command .init) :
    Verified address (past ++ [(request, events)]) ↔ Verified address past := by
  have none : inits [(request, events)] = [] := by
    cases request with
    | adjust change => rfl
    | command command =>
      cases command with
      | init => contradiction
      | _ => rfl
  rw [Verified, inits, List.filterMap_append]
  change (∃ _, (inits past ++ inits _).getLast? = _ ∧ _) ↔ _
  rw [none, List.append_nil]
  exact Iff.rfl

/-- What a command permits, the history permits: the last init is the one in
progress, or the one that the gauge remembers. -/
theorem verified_of_permits {session : Session β} {past : List (Request κ × List Event)}
    {command : Gauge.Command} {opening : List Event}
    (known : session.gauge.verified = true ↔ Verified session.gauge.address past)
    (permitted : command.Permits session.gauge opening) (inner : List Event) :
    Verified session.gauge.address (past ++ [(.command command, opening ++ inner)]) := by
  cases command with
  | init =>
    obtain ⟨rest, asked⟩ : Confirms session.gauge.address opening := permitted
    rw [verified_init, Confirms, traffic_append, ← asked, List.append_assoc]
    exact List.prefix_append ..
  | _ => exact (verified_other (by simp)).mpr (known.mp permitted)

instance (address : UInt8) (past : List (Request κ × List Event)) :
    Decidable (Verified address past) :=
  match last : (inits past).getLast? with
  | some events => decidable_of_iff (Confirms address events) (by simp [Verified, last])
  | none => isFalse (by simp [Verified, last])

variable [Bus β] [Adjustable β κ]

theorem step_verified (session : Session β) (request : Request κ)
    (past : List (Request κ × List Event))
    (known : session.gauge.verified = true ↔ Verified session.gauge.address past) :
    (session.step request).2.gauge.verified = true ↔
      Verified session.gauge.address (past ++ [(request, (session.step request).1.events)]) := by
  cases request with
  | adjust change => exact known.trans (verified_other (by simp)).symm
  | command command =>
    obtain ⟨telemetry, state⟩ := command.state_eq session.gauge session.bus
    have told : (session.step (.command command : Request κ)).2.gauge.verified =
        command.verdict session.gauge session.bus := by
      simp only [step, perform, state]
    rw [told]
    cases command with
    | init =>
      -- The verdict is on this very query, whatever was verified before.
      have events : (session.step (.command .init : Request κ)).1.events =
          (Gauge.init.run session.gauge.address session.gauge session.bus).events := by
        simp only [step, perform, reply, Gauge.Command.action, Action.run_map]
      rw [verified_init, events, Gauge.init_confirms, Gauge.Command.verdict]
      cases (Gauge.verify.run session.gauge.address session.gauge session.bus).result with
      | ok done => simp [Except.isOk, Except.toBool]
      | error error => simp [Except.isOk, Except.toBool]
    | _ => exact known.trans (verified_other (by simp)).symm

theorem run_verified (config : Config) (address : UInt8) (bus : β) (requests : List (Request κ)) :
    ((start config address bus).run requests).2.gauge.verified = true ↔
      Verified address ((start config address bus).transcript requests) := by
  induction requests using List.reverseRecOn with
  | nil => simp [run, start, transcript, Verified, inits]
  | append_singleton requests request ih =>
    have place := (run_config (start config address bus) requests).2
    rw [run_snoc, transcript_snoc]
    have known := step_verified ((start config address bus).run requests).2 request
      ((start config address bus).transcript requests)
    rw [place] at known
    exact known ih

theorem step_calibrates (session : Session β) (request : Request κ) (low : UInt8)
    {earlier later : List Event} {event : Event}
    (split : (session.step request).1.events = earlier ++ event :: later)
    (calibrates : event.Calibrates (latched low earlier)) :
    ∃ (command : Gauge.Command) (run : Action.Outcome β Progress Unit)
      (opening closing inner outer : List Event),
      request = .command command ∧ command.Permits session.gauge opening ∧
      session.calibration? request = some run ∧
      run.events = inner ++ event :: outer ∧
      earlier = opening ++ inner ∧ later = outer ++ closing := by
  cases request with
  | adjust change => simp [step, reply] at split
  | command command =>
    obtain ⟨opening, closing, parts⟩ := command.parts session.gauge session.bus
    have whole : opening ++ _ ++ closing = earlier ++ event :: later :=
      parts.events.symm.trans split
    -- Before the run there are questions only, and after it reads only.
    rcases append_eq_around whole with ⟨outer, body, later_eq⟩ | ⟨inner, _, ending⟩
    · rcases append_eq_around body with ⟨rest, asked, _⟩ | ⟨inner, earlier_eq, ran⟩
      · exact absurd calibrates ((parts.asking.harmless low).not_calibrates asked)
      · cases made : command.calibration? session.gauge session.bus with
        | none => simp [made] at ran
        | some run =>
          have permitted := parts.permitted (by rw [made]; rfl)
          rw [made] at ran
          exact ⟨command, run, opening, closing, inner, outer, rfl, permitted, made, ran,
            earlier_eq, later_eq⟩
    · have member : event ∈ closing := by simp [ending]
      exact absurd calibrates (parts.fetching.not_calibrates member _)

theorem calibration?_confined {command : Gauge.Command} {gauge : Gauge} {bus : β} :
    Confined gauge.address ((command.calibration? gauge bus).elim [] (·.events)) := by
  cases made : command.calibration? gauge bus with
  | none =>
    intro event member
    cases member
  | some run =>
    obtain ⟨before, rfl⟩ := Gauge.Command.calibration?_eq _ _ made
    rw [← confined_traffic]
    exact (Calibration.run_course ..).confined

theorem step_confined (session : Session β) (request : Request κ) :
    Confined session.gauge.address (session.step request).1.events := by
  cases request with
  | adjust change =>
    intro event member
    cases member
  | command command =>
    obtain ⟨opening, closing, parts⟩ := command.parts session.gauge session.bus
    have events : (session.step (.command command : Request κ)).1.events =
        opening ++ _ ++ closing := parts.events
    rw [events, confined_append, confined_append]
    exact ⟨⟨parts.asking.confined, calibration?_confined⟩, parts.fetching.confined⟩

theorem step_configure (session : Session β) :
    let (reply, next) := session.step (.command .configure : Request κ)
    (reply.result = .error .wrongDevice ↔ session.gauge.verified = false) ∧
    (session.gauge.verified = false → traffic reply.events = [] ∧ next = session) := by
  simp only [step, perform, reply, Gauge.Command.action, Action.run_map, map_eq_error]
  constructor
  · exact Gauge.configure_wrongDevice ..
  · intro unverified
    rw [Gauge.run_configure, unverified]
    exact ⟨rfl, rfl⟩

theorem step_init (session : Session β) :
    let (reply, next) := session.step (.command .init : Request κ)
    (reply.result = .error .wrongDevice ↔
      ∃ low high, typeQuery session.gauge.address low high <+: traffic reply.events ∧
        Word.ofBytes low high ≠ 0x0520) ∧
    (reply.result = .error .wrongDevice →
      (∃ low high, traffic reply.events = typeQuery session.gauge.address low high) ∧
      next.gauge = { session.gauge with verified := false }) := by
  simp only [step, perform, reply, Gauge.Command.action, Action.run_map, map_eq_error]
  exact Gauge.init_wrongDevice ..

/-- At any moment of any step, `earlier` being what has happened in it so far. -/
theorem step_reserved_for_verified (config : Config) (address : UInt8) (bus : β)
    (requests : List (Request κ)) (request : Request κ) (low : UInt8) :
    let past := (start config address bus).transcript requests
    let history := (start config address bus).history requests
    let session := ((start config address bus).run requests).2
    let reply := (session.step request).1
    let next := (session.step request).2
    (∀ earlier event later, reply.events = earlier ++ event :: later →
      event.Calibrates (latched low (history ++ earlier)) →
      Verified address (past ++ [(request, earlier)]) ∧
      ∃ (run : Action.Outcome β Progress Unit) (opening closing inner outer : List Event),
        session.calibration? request = some run ∧
        run.events = inner ++ event :: outer ∧
        earlier = opening ++ inner ∧ later = outer ++ closing) ∧
    (∀ place register value accepted, .write place register value accepted ∈ reply.events →
      place = address ∧ register ∈ writtenRegisters) ∧
    (request = .command .configure →
      (reply.result = .error .wrongDevice ↔ ¬ Verified address past) ∧
      (¬ Verified address past → traffic reply.events = [] ∧ next = session)) ∧
    (request = .command .init →
      (reply.result = .error .wrongDevice ↔
        ∃ lowByte highByte, typeQuery address lowByte highByte <+: traffic reply.events ∧
          Word.ofBytes lowByte highByte ≠ 0x0520) ∧
      (reply.result = .error .wrongDevice →
        (∃ lowByte highByte, traffic reply.events = typeQuery address lowByte highByte) ∧
        next.gauge = { session.gauge with verified := false })) := by
  intro past history session reply next
  have place : session.gauge.address = address := (run_config _ requests).2
  have known : session.gauge.verified = true ↔ Verified address past := run_verified ..
  refine ⟨?_, ?_, ?_, ?_⟩
  · intro earlier event later split calibrates
    rw [latched_append] at calibrates
    obtain ⟨command, run, opening, closing, inner, outer, rfl, permitted, made, ran, rfl, rest⟩ :=
      step_calibrates session request _ split calibrates
    rw [← place] at known ⊢
    exact ⟨verified_of_permits known permitted inner, run, opening, closing, inner, outer, made,
      ran, rfl, rest⟩
  · intro target register value accepted written
    have confined := step_confined session request _ written
    rw [place] at confined
    exact confined
  · rintro rfl
    have refused := step_configure (κ := κ) session
    rw [← Bool.not_eq_true, known] at refused
    exact refused
  · rintro rfl
    have other := step_init (κ := κ) session
    rw [place] at other
    exact other

end FuelGauge.Session
