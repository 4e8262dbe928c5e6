import FuelGauge.Proofs.Gauge.Operations

/-!
To fetch all channels is to fetch one after the other until an access fails. Each of
these fetches looks for a calibration that is due, and only the first can find one: it
is attempted there, and is not due any more when the next channel is fetched.
-/

namespace FuelGauge

theorem Action.run_bind_congr {β σ : Type} [Bus β] {address : UInt8} {state : σ} {bus : β}
    {first rest other : Action σ Unit}
    (same : ∀ done, (first.run address state bus).result = .ok done →
      rest.run address (first.run address state bus).state (first.run address state bus).bus =
        other.run address (first.run address state bus).state (first.run address state bus).bus) :
    (do first; rest).run address state bus = (do first; other).run address state bus := by
  simp only [run_bind]
  cases ended : (first.run address state bus).result with
  | error error => rfl
  | ok done => simp only [same done ended]

namespace Gauge

def fetchInTurn : List Channel → Action Gauge Unit
  | [] => pure ()
  | channel :: rest => do
      fetch (.one channel)
      fetchInTurn rest

def calibrateIfDue : Action Gauge Unit := do
  if (← Action.get).calibrationDue then
    configure

theorem fetch_eq (selection : Selection) :
    fetch selection = (do calibrateIfDue; fetchEach selection.channels) := by
  simp only [fetch, calibrateIfDue, bind_assoc]
  refine congrArg (Action.get >>= ·) (funext fun gauge => ?_)
  cases gauge.calibrationDue with
  | false => rfl
  | true => rfl

theorem fetchInTurn_cons (channel : Channel) (rest : List Channel) :
    fetchInTurn (channel :: rest) =
      (do calibrateIfDue; (do fetchEach [channel]; fetchInTurn rest)) := by
  simp only [fetchInTurn, fetch_eq, Selection.channels, bind_assoc]

variable {β : Type} [Bus β] (address : UInt8) (gauge : Gauge) (bus : β)

theorem fetchEach_calibrationDue (channels : List Channel) :
    ((fetchEach channels).run address gauge bus).state.calibrationDue = gauge.calibrationDue := by
  obtain ⟨⟨telemetry, kept⟩, _, _⟩ := fetchEach_outcome address gauge bus channels
  rw [kept]
  rfl

theorem run_calibrateIfDue :
    calibrateIfDue.run address gauge bus =
      if gauge.calibrationDue then configure.run address gauge bus
      else ⟨.ok (), gauge, bus, []⟩ := by
  simp only [calibrateIfDue, Action.run_bind, Action.run_get]
  split <;> rfl

/-- Whether it was due or not, it is not due afterwards. A calibration that is refused
stays due, but then the fetch has failed. -/
theorem calibrateIfDue_settles {done : Unit}
    (ended : (calibrateIfDue.run address gauge bus).result = .ok done) :
    (calibrateIfDue.run address gauge bus).state.calibrationDue = false := by
  rw [run_calibrateIfDue] at ended ⊢
  cases due : gauge.calibrationDue with
  | false => exact due
  | true =>
    rw [due, if_pos rfl, run_configure] at ended
    rw [if_pos rfl, run_configure]
    by_cases verified : gauge.verified = true
    · rw [if_pos verified]
      exact calibrationDue_recordRun gauge _ _
    · rw [if_neg verified] at ended
      cases ended

variable {gauge}

theorem run_fetchInTurn_cons (notDue : gauge.calibrationDue = false) (channel : Channel)
    (rest : List Channel) :
    (fetchInTurn (channel :: rest)).run address gauge bus =
      (do fetchEach [channel]; fetchInTurn rest).run address gauge bus := by
  have nothing : calibrateIfDue.run address gauge bus = ⟨.ok (), gauge, bus, []⟩ := by
    rw [run_calibrateIfDue, notDue]
    rfl
  rw [fetchInTurn_cons, Action.run_bind, nothing]
  rfl

theorem run_fetchInTurn (notDue : gauge.calibrationDue = false) (channels : List Channel) :
    (fetchInTurn channels).run address gauge bus = (fetchEach channels).run address gauge bus := by
  induction channels generalizing gauge bus with
  | nil => rfl
  | cons channel rest ih =>
    have parts : fetchEach (channel :: rest) = (do fetchEach [channel]; fetchEach rest) :=
      fetchEach_append [channel] rest
    rw [run_fetchInTurn_cons address bus notDue, parts]
    refine Action.run_bind_congr fun done _ => ?_
    exact ih _ ((fetchEach_calibrationDue address gauge bus [channel]).trans notDue)

/-- Whether a calibration is due, and whatever becomes of it: a failure ends both at the
same access, and a refusal before the first. -/
theorem fetch_all_in_turn (gauge : Gauge) :
    (fetch .all).run address gauge bus =
      (fetchInTurn Channel.inRegisterOrder).run address gauge bus := by
  rw [fetch_eq, Channel.inRegisterOrder, fetchInTurn_cons]
  refine Action.run_bind_congr fun done ended => ?_
  have notDue := calibrateIfDue_settles address gauge bus ended
  rw [← run_fetchInTurn_cons address _ notDue, run_fetchInTurn address _ notDue]
  rfl

end Gauge
end FuelGauge
