import FuelGauge.Gauge
import FuelGauge.Proofs.Calibration.Ledger

/-!
How a calibration run can go. It follows the reference sequence up to the first
deviation. A deviation before the final seal is followed by an attempt to seal,
one in the final seal by nothing at all.
-/

namespace FuelGauge.Calibration

open Flash (Field Window)

variable {β : Type} [Bus β]

/-! How a run ends once its fields were written, or could not be. -/

def conclude (config : Config) : Except Error Unit → Action Progress Unit
  | .error error => abandon error
  | .ok _ => do
      execute sealScript
      Action.log (.calibrationApplied config.designCapacity config.terminateVoltage)

section

variable (address : UInt8) (progress : Progress) (bus : β)

/-- Whatever becomes of the attempt to seal, the error and the phase stay. -/
theorem run_abandon (error : Error) :
    (abandon error).run address progress bus =
      let sealing := (Transfer.issue .seal).run address progress bus
      ⟨.error error, progress, sealing.bus,
        .log (.calibrationFailed progress.phase error) :: sealing.events ++
          match sealing.result with
          | .ok _ => []
          | .error refusal => [.log (.resealFailed refusal)]⟩ := by
  have kept := Transfer.issue_state address progress bus .seal
  simp only [abandon, reseal, Action.run_bind, Action.run_get, Action.run_log, Action.run_recover,
    Action.run_fail, Action.Outcome.after]
  cases ((Transfer.issue .seal).run address progress bus).result with
  | ok done => simp [kept]
  | error refusal => simp [kept]

theorem run_conclude (config : Config) :
    (run config).run address progress bus =
      let opened := (execute (openScript config)).run address progress bus
      ((conclude config opened.result).run address opened.state opened.bus).after
        opened.events := by
  simp only [run, Action.run_bind, Action.run_recover]
  cases ((execute (openScript config)).run address progress bus).result with
  | ok done => simp only [conclude, Action.run_bind]
  | error error => simp only [conclude, run_abandon, Action.Outcome.after]

theorem run_eq (config : Config) :
    (run config).run address progress bus =
      let opened := (execute (openScript config)).run address progress bus
      match opened.result with
      | .error error =>
        let sealing := (Transfer.issue .seal).run address opened.state opened.bus
        ⟨.error error, opened.state, sealing.bus,
          opened.events ++ .log (.calibrationFailed opened.state.phase error) :: sealing.events ++
            match sealing.result with
            | .ok _ => []
            | .error refusal => [.log (.resealFailed refusal)]⟩
      | .ok _ =>
        let sealing := (execute sealScript).run address opened.state opened.bus
        match sealing.result with
        | .error error =>
          ⟨.error error, sealing.state, sealing.bus, opened.events ++ sealing.events⟩
        | .ok _ =>
          ⟨.ok (), sealing.state, sealing.bus, opened.events ++ sealing.events ++
            [.log (.calibrationApplied config.designCapacity config.terminateVoltage)]⟩ := by
  simp only [run_conclude]
  generalize (execute (openScript config)).run address progress bus = opened
  cases opened.result with
  | error error =>
    simp only [conclude, run_abandon, Action.Outcome.after, List.append_assoc]
  | ok done =>
    simp only [conclude, Action.run_bind, Action.run_log]
    cases ((execute sealScript).run address opened.state opened.bus).result with
    | error refusal => rfl
    | ok done => simp only [Action.Outcome.after, List.append_assoc]

end

/-- What passes over the bus, and what the run reports. -/
inductive Course (config : Config) (address : UInt8) : List Event → Except Error Unit → Prop
  | sealing {windows : Field → Window} {last : List Event} {result : Except Error Unit}
      (sealed : Follows (sealAccesses address) last result) :
      Course config address (openAccesses config address windows ++ last) result
  | abandoned {windows : Field → Window} {seen last : List Event} {error : Error}
      {ending : Except Error Unit}
      (opened : Follows (openAccesses config address windows) seen
        (.error error : Except Error Unit))
      (resealed : Follows (sealAccesses address) last ending) :
      Course config address (seen ++ last) (.error error)

theorem Course.follows_reference {config : Config} {address : UInt8} {events : List Event}
    {result : Except Error Unit} (course : Course config address events result) :
    ∃ (windows : Field → Window) (seen last : List Event),
      events = seen ++ last ∧
      Follows (referenceAccesses config address windows) seen result ∧
      ((openAccesses config address windows <+: seen ∧ last = []) ∨
        ∃ error, result = .error error ∧
          Follows (openAccesses config address windows) seen (.error error : Except Error Unit) ∧
          ∃ ending : Except Error Unit, Follows (sealAccesses address) last ending) := by
  cases course with
  | @sealing windows last result sealed =>
    have opened : Follows (openAccesses config address windows)
        (openAccesses config address windows) (.ok () : Except Error Unit) := .completed ()
    refine ⟨windows, openAccesses config address windows ++ last, [], ?_, ?_, ?_⟩
    · rw [List.append_nil]
    · exact opened.append sealed
    · exact Or.inl ⟨List.prefix_append .., rfl⟩
  | @abandoned windows seen last error ending opened resealed =>
    refine ⟨windows, seen, last, rfl, ?_, ?_⟩
    · exact opened.append_expected (sealAccesses address)
    · exact Or.inr ⟨error, rfl, opened, ending, resealed⟩

theorem Course.forall_mem {config : Config} {address : UInt8} {events : List Event}
    {result : Except Error Unit} (course : Course config address events result)
    {P : Event → Prop}
    (stable : ∀ {event found error}, Deviates event found error → P event → P found)
    (opening : ∀ windows, ∀ event ∈ openAccesses config address windows, P event)
    (sealing : ∀ event ∈ sealAccesses address, P event) : ∀ event ∈ events, P event := by
  cases course with
  | @sealing windows last result sealed =>
    rw [List.forall_mem_append]
    exact ⟨opening windows, sealed.forall_mem stable sealing⟩
  | @abandoned windows seen last error ending opened resealed =>
    rw [List.forall_mem_append]
    exact ⟨opened.forall_mem stable (opening windows), resealed.forall_mem stable sealing⟩

theorem Course.error_cases {config : Config} {address : UInt8} {events : List Event}
    {error : Error} (course : Course config address events (.error error)) :
    error = .bus ∨ error = .checksumMismatch := by
  cases course with
  | sealing sealed => exact sealed.error_cases
  | abandoned opened resealed => exact opened.error_cases

theorem run_course (config : Config) (address : UInt8) (progress : Progress) (bus : β) :
    Course config address (traffic ((run config).run address progress bus).events)
      ((run config).run address progress bus).result := by
  obtain ⟨windows, opened⟩ := openScript_follows address progress bus config
  simp only [run_eq]
  generalize (execute (openScript config)).run address progress bus = reached at opened ⊢
  cases ended : reached.result with
  | error error =>
    have resealed := Transfer.issue_follows address reached.state reached.bus .seal
    -- The record of a refused attempt to seal is not traffic.
    have silent : traffic (match ((Transfer.issue .seal).run address reached.state
        reached.bus).result with
      | .ok _ => []
      | .error refusal => [.log (.resealFailed refusal)]) = [] := by
      split <;> rfl
    simp only [Action.Outcome.Follows, ended] at opened
    simp only [traffic_append, traffic_log, silent, List.append_nil]
    exact .abandoned opened resealed
  | ok done =>
    have sealed := sealScript_follows address reached.state reached.bus
    generalize (execute sealScript).run address reached.state reached.bus = final at sealed ⊢
    simp only [Action.Outcome.Follows, ended] at opened
    have complete : traffic reached.events = openAccesses config address windows := opened.seen_eq
    cases closed : final.result with
    | error error =>
      simp only [Action.Outcome.Follows, closed] at sealed
      simp only [traffic_append, complete]
      exact .sealing sealed
    | ok done =>
      simp only [Action.Outcome.Follows, closed] at sealed
      simp only [traffic_append, complete, traffic_log]
      have applied : traffic [] = [] := rfl
      rw [applied, List.append_nil]
      exact .sealing sealed

end FuelGauge.Calibration
