import FuelGauge.Proofs.Calibration.Course

/-!
Where a calibration run ends. A script leaves the phase as it was or in one that
it enters, and the first thing a run does is to enter one.
-/

namespace FuelGauge.Calibration

variable {β : Type} [Bus β] (address : UInt8) (progress : Progress) (bus : β)

theorem perform_phase (instruction : Instruction) :
    (instruction.perform.run address progress bus).state.phase = progress.phase ∨
      (instruction.perform.run address progress bus).state.phase ∈ entered [instruction] := by
  cases instruction with
  | enter phase => exact Or.inr (List.mem_singleton_self phase)
  | issue word => exact Or.inl (by rw [Instruction.perform, Transfer.issue_state])
  | write register value => exact Or.inl rfl
  | delay nanoseconds => exact Or.inl rfl
  | readWindow =>
    apply Or.inl
    simp only [run_readWindow]
    cases (Bus.read bus address Register.blockData Flash.blockLength).1 with
    | none => rfl
    | some window => rfl
  | commit => exact Or.inl rfl
  | verify field => exact Or.inl (by rw [(verify_follows address progress bus field).2])

theorem execute_phase (script : List Instruction) :
    ((execute script).run address progress bus).state.phase = progress.phase ∨
      ((execute script).run address progress bus).state.phase ∈ entered script := by
  induction script generalizing progress bus with
  | nil => exact Or.inl rfl
  | cons instruction rest ih =>
    have split : entered (instruction :: rest) = entered [instruction] ++ entered rest :=
      entered_append [instruction] rest
    have first := perform_phase address progress bus instruction
    simp only [execute, Action.run_bind, split, List.mem_append]
    cases (instruction.perform.run address progress bus).result with
    | error error => exact first.imp_right Or.inl
    | ok done =>
      rcases ih (instruction.perform.run address progress bus).state
        (instruction.perform.run address progress bus).bus with kept | later
      · simp only [Action.Outcome.after, kept]
        exact first.imp_right Or.inl
      · exact Or.inr (Or.inr later)

/-- The first instruction cannot fail, so no run ends where it began. -/
theorem openScript_phase (config : Config) :
    ((execute (openScript config)).run address progress bus).state.phase ∈
      entered (openScript config) := by
  obtain ⟨rest, script⟩ : ∃ rest, openScript config = .enter .unsealing :: rest := ⟨_, rfl⟩
  have split : entered (openScript config) = .unsealing :: entered rest := by
    rw [script]
    rfl
  have entering : (Instruction.perform (.enter .unsealing)).run address progress bus =
      ⟨.ok (), { progress with phase := .unsealing }, bus,
        [.log (.transition progress.phase .unsealing)]⟩ := rfl
  rw [split, script]
  simp only [execute, Action.run_bind, entering, Action.Outcome.after, List.mem_cons]
  exact execute_phase address _ bus rest

theorem run_phase (config : Config) :
    ((run config).run address progress bus).state.phase ∈
      entered (openScript config ++ sealScript) := by
  have opened := openScript_phase address progress bus config
  simp only [run_eq, entered_append, List.mem_append]
  generalize (execute (openScript config)).run address progress bus = reached at opened ⊢
  cases reached.result with
  | error error => exact Or.inl opened
  | ok done =>
    have sealed := execute_phase address reached.state reached.bus sealScript
    generalize (execute sealScript).run address reached.state reached.bus = final at sealed ⊢
    have ended : final.state.phase ∈ entered (openScript config) ∨
        final.state.phase ∈ entered sealScript := by
      rcases sealed with kept | later
      · rw [kept]
        exact Or.inl opened
      · exact Or.inr later
    cases final.result with
    | error error => exact ended
    | ok done => exact ended

theorem run_phase_ne_idle (config : Config) :
    ((run config).run address progress bus).state.phase ≠ .idle := by
  have distinct := Phase.inOrder_nodup
  rw [← entered_script config] at distinct
  intro idle
  have listed := run_phase address progress bus config
  rw [idle] at listed
  exact (List.nodup_cons.mp distinct).1 listed

end FuelGauge.Calibration
