import FuelGauge.Proofs.Calibration.Course

/-!
The stages of a calibration run: which phase makes which accesses. A run that does
not succeed stays in the phase that made the access at which it failed; what is then
done to seal the gauge leaves the phase and the result alone.
-/

namespace FuelGauge.Calibration

open Flash (Field Window)

variable {β : Type} [Bus β] (address : UInt8) (progress : Progress) (bus : β)

def stages (config : Config) (address : UInt8) (windows : Field → Window) :
    List (Phase × List Event) :=
  [(.unsealing, controlAccesses address 0x0414 ++ controlAccesses address 0x3672),
    (.unsealed, [.write address 0x61 0x00 true])] ++
  ([.designCapacity, .terminateVoltage, .finalVoltage].flatMap fun field => [
    (.selectingSubclass field, [
      .write address 0x3E field.subclass true,
      .write address 0x3F field.block true]),
    (.writingField field, [
      .write address field.address (Word.high (config.value field)) true,
      .write address (field.address + 1) (Word.low (config.value field)) true]),
    (.recomputingChecksum field, [
      .read address 0x40 32 (some (windows field).toList),
      .delay 5000000]),
    (.committingChecksum field,
      .write address 0x60 (Flash.complement (windows field).toList) true ::
        if config.verifyChecksum then [
          .delay 5000000,
          .read address 0x60 1 (some [Flash.complement (windows field).toList])]
        else [])]) ++
  [(.resetting, controlAccesses address 0x0041 ++ [.delay 100000000]),
    (.sealing, controlAccesses address 0x0020)]

def runLedger (config : Config) (address : UInt8) (windows : Field → Window) :
    List (Phase × Event) :=
  (stages config address windows).flatMap fun stage => stage.2.map (stage.1, ·)

theorem stages_phases (config : Config) (windows : Field → Window) :
    (stages config address windows).map Prod.fst = Phase.inOrder.tail.dropLast := rfl

theorem runLedger_accesses (config : Config) (windows : Field → Window) :
    (runLedger config address windows).map Prod.snd =
      referenceAccesses config address windows := by
  simp only [referenceAccesses, openAccesses, fieldAccesses, runLedger, stages]
  cases config.verifyChecksum <;> rfl

theorem runLedger_phases (config : Config) (windows other : Field → Window) :
    (runLedger config address windows).map Prod.fst =
      (runLedger config address other).map Prod.fst := by
  simp only [runLedger, stages]
  cases config.verifyChecksum <;> rfl

theorem ledger_script (config : Config) (windows : Nat → Window) :
    ledger address (openScript config ++ sealScript) progress windows =
      runLedger config address (byField windows) := by
  simp only [runLedger, stages, ← Flash.checksum_eq_complement]
  obtain ⟨capacity, voltage, mode, verifyChecksum⟩ := config
  cases verifyChecksum <;> rfl

theorem ne_isSealed_of_listed {config : Config} {address : UInt8} {windows : Field → Window}
    {phase : Phase} {event : Event} (listed : (phase, event) ∈ runLedger config address windows) :
    phase ≠ .isSealed := by
  obtain ⟨stage, inStages, entry⟩ := List.mem_flatMap.mp listed
  obtain ⟨_, _, same⟩ := List.mem_map.mp entry
  have member : stage.1 ∈ (stages config address windows).map Prod.fst :=
    List.mem_map_of_mem inStages
  rw [stages_phases, congrArg Prod.fst same] at member
  rintro rfl
  have isStage : Phase.isSealed ∈ Phase.inOrder.tail.dropLast := member
  exact absurd isStage (by decide)

theorem execute_enters (script : List Instruction) (phase : Phase) {done : Unit}
    (ended : ((execute (script ++ [.enter phase])).run address progress bus).result = .ok done) :
    ((execute (script ++ [.enter phase])).run address progress bus).state.phase = phase := by
  rw [execute_append, Action.run_bind] at ended ⊢
  cases first : ((execute script).run address progress bus).result with
  | error error =>
    simp only [first] at ended
    cases ended
  | ok done => simp only [first, execute, Action.run_bind, Action.Outcome.after]; rfl

/-- The scripts alone decide how a run ends. The attempt to seal after a failure
adds to what passes over the bus, and to nothing else. -/
theorem run_eq_scripts (config : Config) :
    let outcome := (run config).run address progress bus
    let scripts := (execute (openScript config ++ sealScript)).run address progress bus
    outcome.result = scripts.result ∧ outcome.state = scripts.state ∧
      ∃ last, traffic outcome.events = traffic scripts.events ++ last ∧
        (∀ done, outcome.result = .ok done → last = []) := by
  simp only [run_eq, execute_append, Action.run_bind]
  generalize (execute (openScript config)).run address progress bus = opened
  cases opened.result with
  | error error =>
    refine ⟨rfl, rfl, ?_⟩
    simp only [List.append_assoc, traffic_append]
    refine ⟨_, rfl, ?_⟩
    intro done ended
    cases ended
  | ok done =>
    simp only [Action.Outcome.after]
    generalize (execute sealScript).run address opened.state opened.bus = final
    cases ended : final.result with
    | error error => exact ⟨rfl, rfl, [], (List.append_nil _).symm, fun _ _ => rfl⟩
    | ok done =>
      refine ⟨rfl, rfl, [], ?_, fun _ _ => rfl⟩
      rw [traffic_append, traffic_log, traffic_nil]

theorem run_located (config : Config) :
    let outcome := (run config).run address progress bus
    ∃ windows seen last, traffic outcome.events = seen ++ last ∧
      Located (runLedger config address windows) seen outcome.result outcome.state.phase ∧
      (∀ done, outcome.result = .ok done → last = []) := by
  obtain ⟨result, state, last, split, nothing⟩ := run_eq_scripts address progress bus config
  obtain ⟨windows, located⟩ := execute_located address progress bus
    (openScript config ++ sealScript)
  rw [Locates, ledger_script, ← result, ← state] at located
  exact ⟨byField windows, _, last, split, located, nothing⟩

theorem run_traffic_of_ok {config : Config} {address : UInt8} {progress : Progress} {bus : β}
    {done : Unit} (ended : ((run config).run address progress bus).result = .ok done) :
    ∃ windows, traffic ((run config).run address progress bus).events =
      referenceAccesses config address windows := by
  obtain ⟨windows, seen, last, split, located, nothing⟩ := run_located address progress bus config
  rw [ended] at located
  cases located with
  | completed => exact ⟨windows, by rw [split, nothing done ended, List.append_nil,
      runLedger_accesses]⟩

theorem run_ok_iff_isSealed (config : Config) :
    ((run config).run address progress bus).result = .ok () ↔
      ((run config).run address progress bus).state.phase = .isSealed := by
  constructor
  · obtain ⟨result, state, _⟩ := run_eq_scripts address progress bus config
    have parts : openScript config ++ sealScript =
        (openScript config ++ [.enter .sealing, .issue .seal]) ++ [.enter .isSealed] := by
      rw [List.append_assoc]
      rfl
    intro ended
    rw [result, parts] at ended
    rw [state, parts]
    exact execute_enters address progress bus _ _ ended
  · obtain ⟨windows, seen, last, _, located, _⟩ := run_located address progress bus config
    generalize ((run config).run address progress bus).result = result at located ⊢
    intro isSealed
    rw [isSealed] at located
    cases located with
    | completed => rfl
    | @deviated done rest _ event found error split deviates =>
      have listed : (.isSealed, event) ∈ runLedger config address windows := by
        rw [split]
        exact List.mem_append_right _ List.mem_cons_self
      exact absurd rfl (ne_isSealed_of_listed listed)

end FuelGauge.Calibration
