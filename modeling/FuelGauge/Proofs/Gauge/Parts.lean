import FuelGauge.Proofs.Gauge.DeviceType

/-!
A command makes at most one calibration run. Before the run it asks one question
at most, and after it there are only reads. What a gauge holds after the command
is told by that run and by the verdict on the device.
-/

namespace FuelGauge.Gauge

open Calibration (Progress)

section Shape

variable {β α γ : Type} {address : UInt8} {events opening closing : List Event} {command : Command}
  {gauge : Gauge} {outcome : Action.Outcome β Gauge α}
  {run? : Option (Action.Outcome β Progress Unit)}

/-- What passes over the bus when an answer is asked for, if anything does. -/
def Asking (address : UInt8) (events : List Event) : Prop :=
  traffic events = [] ∨
    ∃ code ∈ [0x0000, 0x0001, 0x0002], ∃ (low high : UInt8) (result : Except Error UInt16),
      Follows (queryAccesses address code low high) (traffic events) result

def Fetching (address : UInt8) (events : List Event) : Prop :=
  ∀ event ∈ traffic events, ∃ (channel : Channel) (answer : Option (List UInt8)),
    event = .read address channel.register 2 answer

theorem Asking.append_log (asking : Asking address events) (record : Log.Record) :
    Asking address (events ++ [.log record]) := by
  rw [Asking, traffic_append, traffic_log, traffic_nil, List.append_nil]
  exact asking

theorem Asking.forall_mem {P : Event → Prop} (asking : Asking address events)
    (stable : ∀ {event found error}, Deviates event found error → P event → P found)
    (query : ∀ code ∈ [0x0000, 0x0001, 0x0002], ∀ low high,
      ∀ event ∈ queryAccesses address code low high, P event) :
    ∀ event ∈ traffic events, P event := by
  rcases asking with silent | ⟨code, listed, low, high, _, follows⟩
  · rw [silent]
    exact List.forall_mem_nil P
  · exact follows.forall_mem stable (query code listed low high)

theorem fetching_nil : Fetching address [] := by
  intro event member
  cases member

/-- Whether a command may calibrate, after what passed over the bus in it. -/
def Command.Permits (command : Command) (gauge : Gauge) (opening : List Event) : Prop :=
  match command with
  | .init => Confirms gauge.address opening
  | _ => gauge.verified = true

/-- The events of a command around those of a calibration run. A run that fails
is the end of what it is part of, and its error is the error of the whole. -/
structure Parts (command : Command) (gauge : Gauge)
    (run? : Option (Action.Outcome β Progress Unit)) (outcome : Action.Outcome β Gauge α)
    (opening closing : List Event) : Prop where
  events : outcome.events = opening ++ run?.elim [] (·.events) ++ closing
  asking : Asking gauge.address opening
  fetching : Fetching gauge.address closing
  permitted : run?.isSome → command.Permits gauge opening
  failed : ∀ run, run? = some run → ∀ error, run.result = .error error →
    outcome.result = .error error ∧ closing = []

theorem Parts.map (parts : Parts command gauge run? outcome opening closing) (change : α → γ) :
    Parts command gauge run?
      (⟨outcome.result.map change, outcome.state, outcome.bus, outcome.events⟩ :
        Action.Outcome β Gauge γ) opening closing where
  events := parts.events
  asking := parts.asking
  fetching := parts.fetching
  permitted := parts.permitted
  failed := by
    intro run made error failed
    obtain ⟨result, ended⟩ := parts.failed run made error failed
    exact ⟨by rw [result]; rfl, ended⟩

theorem Parts.of_asking (command : Command) (asking : Asking gauge.address outcome.events) :
    Parts command gauge none outcome outcome.events [] where
  events := by simp
  asking := asking
  fetching := fetching_nil
  permitted := by simp
  failed := by rintro run ⟨⟩

theorem Parts.of_fetching (command : Command) (fetching : Fetching gauge.address outcome.events) :
    Parts command gauge none outcome [] outcome.events where
  events := by simp
  asking := Or.inl rfl
  fetching := fetching
  permitted := by simp
  failed := by rintro run ⟨⟩

theorem Parts.of_run {run : Action.Outcome β Progress Unit}
    (asking : Asking gauge.address opening) (permitted : command.Permits gauge opening)
    (failed : ∀ error, run.result = .error error → outcome.result = .error error)
    (events : outcome.events = opening ++ run.events) :
    Parts command gauge (some run) outcome opening [] where
  events := by simp [events]
  asking := asking
  fetching := fetching_nil
  permitted := fun _ => permitted
  failed := by
    rintro run ⟨⟩ error reported
    exact ⟨failed error reported, rfl⟩

end Shape

variable {β : Type} [Bus β] (address : UInt8) (gauge : Gauge) (bus : β)

theorem fetchEach_fetching (channels : List Channel) :
    Fetching address ((fetchEach channels).run address gauge bus).events := by
  obtain ⟨_, _, reads⟩ := fetchEach_outcome address gauge bus channels
  intro event member
  obtain ⟨channel, _, answer, read⟩ := reads event member
  exact ⟨channel, answer, read⟩

theorem ask_asking (word : ControlWord) (listed : word.code ∈ [0x0000, 0x0001, 0x0002]) :
    Asking address ((Transfer.ask word : Action Gauge UInt16).run address gauge bus).events := by
  obtain ⟨low, high, follows, _⟩ := Transfer.ask_follows address gauge bus word
  exact Or.inr ⟨word.code, listed, low, high, _, follows⟩

theorem verify_asking : Asking address (verify.run address gauge bus).events := by
  obtain ⟨low, high, asked, follows, _⟩ := verify_follows address gauge bus
  exact Or.inr ⟨0x0001, by decide, low, high, asked, follows⟩

def calibration? (gauge : Gauge) (bus : β) : Option (Action.Outcome β Progress Unit) :=
  if gauge.verified then some ((Calibration.run gauge.config).run gauge.address {} bus) else none

/-- The calibration run that a command makes. An init makes its run on the gauge
and the bus that the query left. -/
def Command.calibration? (command : Command) (gauge : Gauge) (bus : β) :
    Option (Action.Outcome β Progress Unit) :=
  match command with
  | .init =>
    let checked := verify.run gauge.address gauge bus
    if gauge.config.mode = .atInit then checked.state.calibration? checked.bus else none
  | .configure => gauge.calibration? bus
  | .fetch _ => if gauge.calibrationDue then gauge.calibration? bus else none
  | _ => none

theorem configure_parts :
    ∃ opening closing, Parts .configure gauge (gauge.calibration? bus)
      (configure.run gauge.address gauge bus) opening closing := by
  simp only [run_configure, calibration?]
  by_cases verified : gauge.verified = true
  · simp only [verified, if_true]
    exact ⟨[], [], .of_run (Or.inl rfl) verified (fun _ failed => failed) rfl⟩
  · simp only [verified]
    exact ⟨_, _, .of_asking _ (Or.inl rfl)⟩

theorem init_parts :
    ∃ opening closing, Parts .init gauge (Command.init.calibration? gauge bus)
      (init.run gauge.address gauge bus) opening closing := by
  have asking := verify_asking gauge.address gauge bus
  have state := verify_state gauge.address gauge bus
  have confirmed := verify_confirms gauge.address gauge bus
  simp only [Command.calibration?, run_init]
  generalize verify.run gauge.address gauge bus = checked at asking state confirmed ⊢
  cases ended : checked.result with
  | error error =>
    -- An unconfirmed device is left unverified, so even a due run is not made.
    have refused : checked.state.calibration? checked.bus = none := by
      rw [state, ended]
      rfl
    simp only [refused, ite_self]
    exact ⟨_, _, .of_asking _ asking⟩
  | ok done =>
    cases gauge.config.mode with
    | onFirstFetch => exact ⟨_, _, .of_asking _ (asking.append_log .calibrationDeferred)⟩
    | atInit =>
      have verified : checked.state.verified = true := by
        rw [state, ended]
        rfl
      have place : checked.state.address = gauge.address := by rw [state]
      simp only [run_configure, calibration?, verified, if_true, place]
      exact ⟨checked.events, [],
        .of_run asking (confirmed.mpr ended) (fun _ failed => failed) rfl⟩

theorem fetch_parts (selection : Selection) :
    ∃ opening closing, Parts (.fetch selection) gauge
      ((Command.fetch selection).calibration? gauge bus)
      ((fetch selection).run gauge.address gauge bus) opening closing := by
  simp only [Command.calibration?, run_fetch]
  by_cases due : gauge.calibrationDue = true
  · simp only [due, if_true, run_configure, calibration?]
    by_cases verified : gauge.verified = true
    · simp only [verified, if_true]
      generalize (Calibration.run gauge.config).run gauge.address {} bus = run
      cases ended : run.result with
      | error error =>
        have same : ∀ reported, run.result = .error reported →
            (.error error : Except Error Unit) = .error reported := by
          intro reported failed
          exact ended.symm.trans failed
        exact ⟨[], [], .of_run (Or.inl rfl) verified same rfl⟩
      | ok done =>
        -- Only a run that succeeded is followed by reads.
        have fetching := fetchEach_fetching gauge.address
          (gauge.recordRun (.ok done) run.state.phase) run.bus selection.channels
        refine ⟨[], _, by simp [Action.Outcome.after], Or.inl rfl, fetching, fun _ => verified, ?_⟩
        rintro other ⟨⟩ reported failed
        rw [ended] at failed
        cases failed
    · simp only [verified]
      exact ⟨_, _, .of_asking _ (Or.inl rfl)⟩
  · simp only [due]
    exact ⟨_, _, .of_fetching _ (fetchEach_fetching gauge.address gauge bus selection.channels)⟩

theorem Command.parts (command : Command) (gauge : Gauge) (bus : β) :
    ∃ opening closing, Parts command gauge (command.calibration? gauge bus)
      (command.action.run gauge.address gauge bus) opening closing := by
  cases command with
  | init =>
    obtain ⟨opening, closing, parts⟩ := init_parts gauge bus
    simp only [Command.action, Action.run_map]
    exact ⟨opening, closing, parts.map fun _ => Answer.done⟩
  | configure =>
    obtain ⟨opening, closing, parts⟩ := configure_parts gauge bus
    simp only [Command.action, Action.run_map]
    exact ⟨opening, closing, parts.map fun _ => Answer.done⟩
  | deviceType =>
    simp only [Command.action, Action.run_map]
    exact ⟨_, _, .of_asking _ (ask_asking gauge.address gauge bus .deviceType (by decide))⟩
  | firmwareVersion =>
    simp only [Command.action, Action.run_map]
    exact ⟨_, _, .of_asking _ (ask_asking gauge.address gauge bus .firmwareVersion (by decide))⟩
  | controlStatus =>
    simp only [Command.action, Gauge.controlStatus, Action.run_map]
    exact ⟨_, _, .of_asking _ (ask_asking gauge.address gauge bus .controlStatus (by decide))⟩
  | fetch selection =>
    obtain ⟨opening, closing, parts⟩ := fetch_parts gauge bus selection
    simp only [Command.action, Action.run_map]
    exact ⟨opening, closing, parts.map fun _ => Answer.done⟩
  | reading selection =>
    simp only [Command.action, Action.run_map, run_inspect]
    exact ⟨_, _, .of_asking _ (Or.inl rfl)⟩
  | fixedReading selection => exact ⟨_, _, .of_asking _ (Or.inl rfl)⟩
  | telemetry => exact ⟨_, _, .of_asking _ (Or.inl rfl)⟩
  | config => exact ⟨_, _, .of_asking _ (Or.inl rfl)⟩

theorem calibration?_eq {run : Action.Outcome β Progress Unit}
    (made : gauge.calibration? bus = some run) :
    gauge.verified = true ∧ run = (Calibration.run gauge.config).run gauge.address {} bus := by
  rw [calibration?] at made
  by_cases verified : gauge.verified = true
  · rw [if_pos verified] at made
    exact ⟨verified, (Option.some.inj made).symm⟩
  · rw [if_neg verified] at made
    cases made

theorem Command.calibration?_eq {command : Command} {run : Action.Outcome β Progress Unit}
    (made : command.calibration? gauge bus = some run) :
    ∃ before : β, run = (Calibration.run gauge.config).run gauge.address {} before := by
  cases command with
  | init =>
    have state := verify_state gauge.address gauge bus
    simp only [Command.calibration?] at made
    split at made
    · obtain ⟨_, same⟩ := Gauge.calibration?_eq _ _ made
      rw [state] at same
      exact ⟨_, same⟩
    · cases made
  | configure =>
    obtain ⟨_, same⟩ := Gauge.calibration?_eq gauge bus made
    exact ⟨bus, same⟩
  | fetch selection =>
    simp only [Command.calibration?] at made
    split at made
    · obtain ⟨_, same⟩ := Gauge.calibration?_eq gauge bus made
      exact ⟨bus, same⟩
    · cases made
  | _ => cases made

/-! What a gauge holds after a command. -/

/-- A run leaves its mark, and nothing else does. -/
def marked (gauge : Gauge) (run? : Option (Action.Outcome β Progress Unit)) : Gauge :=
  run?.elim gauge fun run => gauge.recordRun run.result run.state.phase

omit [Bus β] in
theorem marked_verified (run? : Option (Action.Outcome β Progress Unit)) :
    (gauge.marked run?).verified = gauge.verified := by
  cases run? <;> rfl

omit [Bus β] in
theorem marked_config (run? : Option (Action.Outcome β Progress Unit)) :
    (gauge.marked run?).config = gauge.config ∧ (gauge.marked run?).address = gauge.address := by
  cases run? with
  | none => exact ⟨rfl, rfl⟩
  | some run => exact ⟨rfl, rfl⟩

def Command.verdict (command : Command) (gauge : Gauge) (bus : β) : Bool :=
  match command with
  | .init => (verify.run gauge.address gauge bus).result.isOk
  | _ => gauge.verified

theorem configure_state :
    (configure.run gauge.address gauge bus).state = gauge.marked (gauge.calibration? bus) := by
  simp only [run_configure, calibration?]
  by_cases verified : gauge.verified = true
  · simp only [verified, if_true]
    rfl
  · simp only [verified]
    rfl

theorem init_state :
    (init.run gauge.address gauge bus).state =
      { gauge.marked (Command.init.calibration? gauge bus) with
        verified := Command.init.verdict gauge bus } := by
  simp only [Command.calibration?, Command.verdict, run_init]
  have state := verify_state gauge.address gauge bus
  generalize verify.run gauge.address gauge bus = checked at state ⊢
  rcases checked with ⟨result, after, bus, events⟩
  simp only at state
  subst state
  cases result with
  | error error => simp [calibration?, marked, Except.isOk, Except.toBool]
  | ok done =>
    cases gauge.config.mode with
    | onFirstFetch => rfl
    | atInit =>
      simp only [run_configure, calibration?, marked, Except.isOk, Except.toBool, if_true]
      rfl

theorem fetch_state (selection : Selection) :
    ∃ telemetry, ((fetch selection).run gauge.address gauge bus).state =
      { gauge.marked ((Command.fetch selection).calibration? gauge bus) with telemetry } := by
  simp only [Command.calibration?, run_fetch]
  by_cases due : gauge.calibrationDue = true
  · simp only [due, if_true]
    rw [← configure_state]
    cases (configure.run gauge.address gauge bus).result with
    | error error => exact ⟨_, rfl⟩
    | ok done =>
      obtain ⟨⟨telemetry, kept⟩, _, _⟩ := fetchEach_outcome gauge.address
        (configure.run gauge.address gauge bus).state (configure.run gauge.address gauge bus).bus
        selection.channels
      exact ⟨telemetry, kept⟩
  · simp only [due]
    obtain ⟨⟨telemetry, kept⟩, _, _⟩ :=
      fetchEach_outcome gauge.address gauge bus selection.channels
    exact ⟨telemetry, kept⟩

theorem Command.state_eq (command : Command) (gauge : Gauge) (bus : β) :
    ∃ telemetry, (command.action.run gauge.address gauge bus).state =
      { gauge.marked (command.calibration? gauge bus) with
        telemetry, verified := command.verdict gauge bus } := by
  cases command with
  | init =>
    simp only [Command.action, Action.run_map, init_state]
    exact ⟨_, rfl⟩
  | configure =>
    have kept : Command.configure.verdict gauge bus =
        (gauge.marked (gauge.calibration? bus)).verified := (marked_verified ..).symm
    simp only [Command.action, Action.run_map, configure_state, kept]
    exact ⟨_, rfl⟩
  | fetch selection =>
    obtain ⟨telemetry, state⟩ := fetch_state gauge bus selection
    have kept : (Command.fetch selection).verdict gauge bus =
        (gauge.marked ((Command.fetch selection).calibration? gauge bus)).verified :=
      (marked_verified ..).symm
    simp only [Command.action, Action.run_map, state, kept]
    exact ⟨telemetry, rfl⟩
  | deviceType =>
    simp only [Command.action, Action.run_map, Gauge.deviceType, Transfer.ask_state]
    exact ⟨gauge.telemetry, rfl⟩
  | firmwareVersion =>
    simp only [Command.action, Action.run_map, Gauge.firmwareVersion, Transfer.ask_state]
    exact ⟨gauge.telemetry, rfl⟩
  | controlStatus =>
    simp only [Command.action, Action.run_map, Gauge.controlStatus, Transfer.ask_state]
    exact ⟨gauge.telemetry, rfl⟩
  | reading selection =>
    simp only [Command.action, Action.run_map, run_inspect]
    exact ⟨gauge.telemetry, rfl⟩
  | fixedReading selection => exact ⟨gauge.telemetry, rfl⟩
  | telemetry => exact ⟨gauge.telemetry, rfl⟩
  | config => exact ⟨gauge.telemetry, rfl⟩

end FuelGauge.Gauge
