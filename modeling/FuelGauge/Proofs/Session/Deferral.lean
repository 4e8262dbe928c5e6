import FuelGauge.Proofs.Session.FirstFetch

/-!
Whether a calibration is made by init or by the first fetch. The mode of a gauge
is read in two places only, where it decides when the first run is made; what is
done apart from that is the same in both modes, and so is all that follows it.
-/

namespace FuelGauge

def Config.inMode (config : Config) (mode : Mode) : Config := { config with mode }

namespace Gauge

variable {α γ : Type}

def inMode (gauge : Gauge) (mode : Mode) : Gauge :=
  { gauge with config := gauge.config.inMode mode }

/-- The same answer from a gauge in another mode, which its configuration tells. -/
def Answer.inMode (mode : Mode) : Answer → Answer
  | .config known => .config (known.inMode mode)
  | other => other

variable (β : Type) [Bus β]

def Modeless (action : Action Gauge α) : Prop :=
  ∀ (address : UInt8) (gauge : Gauge) (bus : β) (mode : Mode),
    let outcome := action.run address gauge bus
    action.run address (gauge.inMode mode) bus =
      { outcome with state := outcome.state.inMode mode }

variable {β}

theorem Modeless.bind {action : Action Gauge α} {rest : α → Action Gauge γ}
    (first : Modeless β action) (second : ∀ value, Modeless β (rest value)) :
    Modeless β (action >>= rest) := by
  intro address gauge bus mode
  simp only [Action.run_bind, first address gauge bus mode]
  cases (action.run address gauge bus).result with
  | error error => rfl
  | ok value => simp only [second value address _ _ mode, Action.Outcome.after]

theorem Modeless.map {action : Action Gauge α} (modeless : Modeless β action)
    (change : α → γ) : Modeless β (change <$> action) := by
  intro address gauge bus mode
  simp only [Action.run_map, modeless address gauge bus mode]

theorem modify_modeless {change : Gauge → Gauge}
    (same : ∀ gauge mode, change (gauge.inMode mode) = (change gauge).inMode mode) :
    Modeless β (Action.modify change) := by
  intro address gauge bus mode
  simp only [Action.run_modify, same]

theorem readWord_modeless (register : Register) : Modeless β (Transfer.readWord register) := by
  intro address gauge bus mode
  simp only [Transfer.run_readWord]
  cases (Bus.read bus address register 2).1 with
  | none => rfl
  | some bytes => rfl

theorem ask_modeless (word : ControlWord) : Modeless β (Transfer.ask word) := by
  have write (register value : UInt8) : Modeless β (Action.write register value) :=
    fun _ _ _ _ => rfl
  have settle : Modeless β (Action.delay settleTime) := fun _ _ _ _ => rfl
  have issue : Modeless β (Transfer.issue word) :=
    (write _ _).bind fun _ => settle.bind fun _ => write _ _
  exact issue.bind fun _ => readWord_modeless _

theorem verify_modeless : Modeless β verify := by
  have forget : Modeless β (Action.modify fun gauge => { gauge with verified := false }) :=
    modify_modeless fun _ _ => rfl
  have confirm : Modeless β (Action.modify fun gauge => { gauge with verified := true }) :=
    modify_modeless fun _ _ => rfl
  refine forget.bind fun _ => (ask_modeless .deviceType).bind fun reported => ?_
  by_cases expected : reported = expectedDeviceType
  · simp only [expected, if_true]
    exact confirm
  · simp only [expected, if_false]
    intro address gauge bus mode
    rfl

/-- A run is told what to program, not when it is made. -/
theorem configure_modeless : Modeless β configure := by
  intro address gauge bus mode
  have sameRun : Calibration.run (gauge.config.inMode mode) = Calibration.run gauge.config := rfl
  by_cases verified : gauge.verified = true
  · simp only [run_configure, inMode, verified, if_true, sameRun, recordRun]
  · simp [run_configure, inMode, verified]

theorem fetchEach_modeless (channels : List Channel) : Modeless β (fetchEach channels) := by
  induction channels with
  | nil => exact fun _ _ _ _ => rfl
  | cons channel rest ih =>
    have log (record : Log.Record) : Modeless β (Action.log record) := fun _ _ _ _ => rfl
    have store (word : UInt16) : Modeless β (Action.modify fun gauge =>
        { gauge with telemetry := gauge.telemetry.store channel word }) :=
      modify_modeless fun _ _ => rfl
    have first : Modeless β (fetchChannel channel) :=
      (readWord_modeless _).bind fun word => (log _).bind fun _ => store word
    exact first.bind fun _ => ih

theorem inspect_modeless {view : Gauge → Except Error α}
    (same : ∀ gauge mode, view (gauge.inMode mode) = view gauge) :
    Modeless β (inspect view) := by
  intro address gauge bus mode
  simp only [run_inspect, same]

/-! How a gauge is brought into use: it is initialized, and a fetch follows. -/

def begin (selection : Selection) : Action Gauge Unit := do
  init
  fetch selection

def calibrateAndFetch (selection : Selection) : Action Gauge Unit := do
  verify
  configure
  fetchEach selection.channels

theorem calibrateAndFetch_modeless (selection : Selection) :
    Modeless β (calibrateAndFetch selection) :=
  verify_modeless.bind fun _ => configure_modeless.bind fun _ => fetchEach_modeless _

section

variable (address : UInt8) (gauge : Gauge) (bus : β) (selection : Selection)

theorem verify_keeps :
    (verify.run address gauge bus).state.config = gauge.config ∧
      (verify.run address gauge bus).state.attempt = gauge.attempt := by
  rw [verify_state]
  exact ⟨rfl, rfl⟩

theorem configure_keeps :
    (configure.run address gauge bus).state.config = gauge.config := by
  simp only [run_configure]
  by_cases verified : gauge.verified = true
  · simp only [verified, if_true, recordRun]
  · simp [verified]

theorem begin_atInit (eager : gauge.config.mode = .atInit) :
    (begin selection).run address gauge bus =
      (calibrateAndFetch selection).run address gauge bus := by
  simp only [begin, calibrateAndFetch, Action.run_bind, run_init, eager]
  have kept := (verify_keeps address gauge bus).1
  cases (verify.run address gauge bus).result with
  | error error => rfl
  | ok done =>
    have config := configure_keeps address (verify.run address gauge bus).state
      (verify.run address gauge bus).bus
    have settled : (configure.run address (verify.run address gauge bus).state
        (verify.run address gauge bus).bus).state.calibrationDue = false := by
      simp [calibrationDue, config, kept, eager]
    simp only [Action.Outcome.after, run_fetch, settled]
    cases (configure.run address (verify.run address gauge bus).state
        (verify.run address gauge bus).bus).result with
    | error error => rfl
    | ok done => simp [List.append_assoc]

/-- The first fetch makes the calibration that was put off, and only the record
of its being put off shows that. -/
theorem begin_onFirstFetch (deferred : gauge.config.mode = .onFirstFetch)
    (untried : gauge.attempt = .notStarted) :
    let outcome := (begin selection).run address gauge bus
    let direct := (calibrateAndFetch selection).run address gauge bus
    outcome.result = direct.result ∧ outcome.state = direct.state ∧ outcome.bus = direct.bus ∧
      traffic outcome.events = traffic direct.events := by
  simp only [begin, calibrateAndFetch, Action.run_bind, run_init, deferred]
  obtain ⟨config, attempt⟩ := verify_keeps address gauge bus
  cases (verify.run address gauge bus).result with
  | error error => exact ⟨rfl, rfl, rfl, rfl⟩
  | ok done =>
    have due : (verify.run address gauge bus).state.calibrationDue = true := by
      simp [calibrationDue, config, attempt, deferred, untried, Calibration.Attempt.isPending]
    simp only [Action.Outcome.after, run_fetch, due, if_true]
    cases (configure.run address (verify.run address gauge bus).state
        (verify.run address gauge bus).bus).result with
    | error error => simp [traffic_append, traffic_log]
    | ok done => simp [traffic_append, traffic_log]

theorem calibrateAndFetch_settled
    (confirmed : Confirms address ((calibrateAndFetch selection).run address gauge bus).events) :
    ((calibrateAndFetch selection).run address gauge bus).state.attempt.isPending = false := by
  have verdict := verify_confirms address gauge bus
  have state := verify_state address gauge bus
  simp only [calibrateAndFetch, Action.run_bind] at confirmed ⊢
  generalize verify.run address gauge bus = checked at confirmed verdict state ⊢
  cases ended : checked.result with
  | error error =>
    simp only [ended] at confirmed verdict
    cases verdict.mp confirmed
  | ok done =>
    have verified : checked.state.verified = true := by
      rw [state, ended]
      rfl
    simp only [Action.Outcome.after, run_configure, verified, if_true]
    generalize (Calibration.run checked.state.config).run address {} checked.bus = run
    cases run.result with
    | error error => exact Calibration.Attempt.isPending_record _ _
    | ok done =>
      obtain ⟨⟨telemetry, kept⟩, _, _⟩ := fetchEach_outcome address
        (checked.state.recordRun (.ok done) run.state.phase) run.bus selection.channels
      rw [kept]
      exact Calibration.Attempt.isPending_record _ _

end

/-! What follows. -/

theorem map_inMode (result : Except Error α) {answer : α → Answer} {mode : Mode}
    (plain : ∀ value, (answer value).inMode mode = answer value) :
    (result.map answer).map (Answer.inMode mode) = result.map answer := by
  cases result with
  | error error => rfl
  | ok value => exact congrArg Except.ok (plain value)

theorem Command.result_inMode (command : Command) (other : command ≠ .config)
    (address : UInt8) (gauge : Gauge) (bus : β) (mode : Mode) :
    (command.action.run address gauge bus).result.map (Answer.inMode mode) =
      (command.action.run address gauge bus).result := by
  cases command with
  | config => contradiction
  | fixedReading selection => rfl
  | telemetry => rfl
  | _ =>
    simp only [Command.action, Action.run_map]
    exact map_inMode _ fun _ => rfl

/-- Once a calibration was tried, only an init asks for the mode, and the
configuration tells it. -/
theorem Command.run_inMode (command : Command) (address : UInt8) (gauge : Gauge) (bus : β)
    (mode : Mode) (settled : gauge.attempt.isPending = false) (later : command ≠ .init) :
    let outcome := command.action.run address gauge bus
    command.action.run address (gauge.inMode mode) bus =
      ⟨outcome.result.map (Answer.inMode mode), outcome.state.inMode mode, outcome.bus,
        outcome.events⟩ := by
  by_cases told : command = .config
  · subst told
    simp only [Command.action, run_inspect]
    rfl
  · simp only [command.result_inMode told]
    cases command with
    | init => contradiction
    | config => contradiction
    | configure => exact configure_modeless.map _ address gauge bus mode
    | deviceType => exact (ask_modeless _).map _ address gauge bus mode
    | firmwareVersion => exact (ask_modeless _).map _ address gauge bus mode
    | controlStatus => exact ((ask_modeless _).map _).map _ address gauge bus mode
    | fetch selection =>
      have due (mode : Mode) : (gauge.inMode mode).calibrationDue = false := by
        simp [calibrationDue, inMode, settled]
      have here : gauge.calibrationDue = false := due gauge.config.mode
      have fetched := fetchEach_modeless selection.channels address gauge bus mode
      simp [Command.action, Action.run_map, run_fetch, due, here, fetched]
    | reading selection =>
      exact (inspect_modeless fun _ _ => rfl).map _ address gauge bus mode
    | fixedReading selection => exact inspect_modeless (fun _ _ => rfl) address gauge bus mode
    | telemetry => exact inspect_modeless (fun _ _ => rfl) address gauge bus mode

end Gauge

namespace Session

def Reply.inMode (mode : Mode) (reply : Reply) : Reply :=
  { reply with result := reply.result.map (Gauge.Answer.inMode mode) }

def inMode {β : Type} (session : Session β) (mode : Mode) : Session β :=
  { session with gauge := session.gauge.inMode mode }

variable {β κ : Type} [Bus β] [Adjustable β κ]

theorem step_inMode (session : Session β) (request : Request κ) (mode : Mode)
    (settled : session.gauge.attempt.isPending = false) (later : request ≠ .command .init) :
    (session.inMode mode).step request =
      ((session.step request).1.inMode mode, (session.step request).2.inMode mode) := by
  cases request with
  | adjust change => rfl
  | command command =>
    have same := command.run_inMode session.gauge.address session.gauge session.bus mode settled
      fun first => later (congrArg _ first)
    simp only at same
    simp only [step, perform, inMode, Gauge.inMode] at same ⊢
    rw [same]
    rfl

theorem step_settled (session : Session β) (request : Request κ)
    (settled : session.gauge.attempt.isPending = false) :
    (session.step request).2.gauge.attempt.isPending = false := by
  rw [step_attempt]
  cases session.calibration? request with
  | none => exact settled
  | some run => exact Calibration.Attempt.isPending_record _ _

theorem run_inMode (session : Session β) (requests : List (Request κ)) (mode : Mode)
    (settled : session.gauge.attempt.isPending = false) (later : .command .init ∉ requests) :
    (session.inMode mode).run requests =
      ((session.run requests).1.map (·.inMode mode), (session.run requests).2.inMode mode) := by
  induction requests generalizing session with
  | nil => rfl
  | cons request rest ih =>
    have notFirst : request ≠ .command .init := fun first => later (first ▸ List.mem_cons_self)
    have notLater : .command .init ∉ rest := fun member => later (List.mem_cons_of_mem _ member)
    have restSame := ih (session.step request).2 (step_settled session request settled) notLater
    simp only [run, step_inMode session request mode settled notFirst, restSame, List.map_cons]

theorem run_plain (session : Session β) (requests : List (Request κ)) (mode : Mode)
    (untold : .command .config ∉ requests) :
    (session.run requests).1.map (·.inMode mode) = (session.run requests).1 := by
  induction requests generalizing session with
  | nil => rfl
  | cons request rest ih =>
    have notLater : .command .config ∉ rest := fun member =>
      untold (List.mem_cons_of_mem _ member)
    have first : (session.step request).1.inMode mode = (session.step request).1 := by
      cases request with
      | adjust change => rfl
      | command command =>
        have notFirst : command ≠ .config := by
          rintro rfl
          exact untold List.mem_cons_self
        simp only [step, perform, reply, Reply.inMode, command.result_inMode notFirst]
    simp only [run, List.map_cons, first, ih _ notLater]

/-- A calibration that is put off to the first fetch goes as it would have gone
at init, and nothing that follows tells the two gauges apart but their modes. -/
theorem begin_same_in_any_mode (config : Config) (address : UInt8) (bus : β)
    (selection : Selection) :
    let begun := fun mode =>
      (start (config.inMode mode) address bus).perform (Gauge.begin selection)
    let eager := begun .atInit
    let deferred := begun .onFirstFetch
    deferred.result = eager.result ∧
    traffic deferred.events = traffic eager.events ∧
    deferred.bus = eager.bus ∧
    deferred.state = eager.state.inMode .onFirstFetch ∧
    (Gauge.Confirms address eager.events →
      ∀ requests : List (Request κ), .command .init ∉ requests →
        let eagerReplies := ((⟨eager.state, eager.bus⟩ : Session β).run requests).1
        let deferredReplies := ((⟨deferred.state, deferred.bus⟩ : Session β).run requests).1
        deferredReplies = eagerReplies.map (·.inMode .onFirstFetch) ∧
        (.command .config ∉ requests → deferredReplies = eagerReplies)) := by
  intro begun eager deferred
  let gauge : Gauge := { config := config.inMode .atInit, address }
  have direct : eager = (Gauge.calibrateAndFetch selection).run address gauge bus :=
    Gauge.begin_atInit address gauge bus selection rfl
  obtain ⟨result, state, final, accesses⟩ := Gauge.begin_onFirstFetch address
    (gauge.inMode .onFirstFetch) bus selection rfl rfl
  -- Made directly, a calibration does not ask for the mode.
  rw [Gauge.calibrateAndFetch_modeless selection address gauge bus .onFirstFetch, ← direct]
    at result state final accesses
  refine ⟨result, accesses, final, state, ?_⟩
  intro confirmed requests later
  have settled : eager.state.attempt.isPending = false := by
    rw [direct] at confirmed ⊢
    exact Gauge.calibrateAndFetch_settled address gauge bus selection confirmed
  have same := congrArg Prod.fst
    (run_inMode ⟨eager.state, eager.bus⟩ requests .onFirstFetch settled later)
  have moved : (⟨deferred.state, deferred.bus⟩ : Session β) =
      (⟨eager.state, eager.bus⟩ : Session β).inMode .onFirstFetch :=
    congrArg₂ Session.mk state final
  rw [← moved] at same
  refine ⟨same, fun untold => ?_⟩
  rw [same, run_plain _ requests _ untold]

/-- The second checksum reads back wrong, so both gauges begin with a failure. -/
theorem begin_same_in_any_mode_mismatch :
    let config : Config := ⟨1500, 3000, .atInit, true⟩
    let bus : Bus.Simulated :=
      { rules := { responses := [⟨0x0001, 0x0520⟩], overrides := [⟨0x60, .nth 2, 0⟩] } }
    let begun := fun mode =>
      (start (config.inMode mode) 0x55 bus).perform (Gauge.begin (.one .voltage))
    let eager := begun .atInit
    let deferred := begun .onFirstFetch
    let requests : List (Request Bus.Adjustment) :=
      [.command (.fetch .all), .adjust { failingReads := some [⟨0x08, .nth 2⟩] },
        .command .configure, .command (.fetch (.one .voltage)), .command .controlStatus]
    let replies := fun outcome : Action.Outcome Bus.Simulated Gauge Unit =>
      ((⟨outcome.state, outcome.bus⟩ : Session Bus.Simulated).run requests).1
    eager.result = .error .checksumMismatch ∧ Gauge.Confirms 0x55 eager.events ∧
      .command .init ∉ requests ∧ .command .config ∉ requests ∧
      replies deferred = replies eager :=
  have confirmed := by decide +kernel
  have later := by decide
  have untold := by decide
  ⟨by rfl, confirmed, later, untold,
    ((begin_same_in_any_mode _ _ _ (.one .voltage)).2.2.2.2 confirmed _ later).2 untold⟩

end Session
end FuelGauge
