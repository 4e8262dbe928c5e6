import FuelGauge.Proofs.Calibration.Lockstep
import FuelGauge.Proofs.Gauge.Operations
import FuelGauge.Proofs.Gauge.Writes

/-!
Two calibrations of one gauge, to different values. The window and its checksum hold
other bytes then, and nothing else does: the two make the same accesses, and succeed or
fail alike. Checksums are compared when they are read back, so what was committed must
not be replaced.
-/

namespace FuelGauge

open Bus (Rules Simulated View)
open Flash (Field)

/-- Where the bytes go that depend on the values to be programmed. -/
def valueRegisters : List UInt8 := [0x4A, 0x4B, 0x4E, 0x4F, 0x57, 0x58, 0x60]

/-- The same access with the same outcome. Only what is written to one of the registers
above, or what is read, may be something else. -/
inductive Event.SameButValues : Event → Event → Prop
  | write (address register : UInt8) {value other : UInt8} (accepted : Bool)
      (same : register ∉ valueRegisters → value = other) :
      SameButValues (.write address register value accepted)
        (.write address register other accepted)
  | read (address register : UInt8) (length : Nat) {answer other : Option (List UInt8)}
      (outcome : answer.isSome = other.isSome) :
      SameButValues (.read address register length answer) (.read address register length other)
  | delay (nanoseconds : Nat) : SameButValues (.delay nanoseconds) (.delay nanoseconds)

namespace Bus

def View.beyondWindow : View where
  shown register := register < 0x40 ∨ 0x60 < register
  counted _ := True
  acting := by
    simp only [List.forall_mem_cons, List.not_mem_nil, false_implies, implies_true, and_true]
    decide
  checksum shown := absurd shown (by decide)

instance : DecidablePred View.beyondWindow.shown :=
  fun register => inferInstanceAs (Decidable (register < 0x40 ∨ 0x60 < register))

theorem Simulated.reads_written {bus : Simulated} {address value : UInt8}
    {bytes : Vector UInt8 1}
    (kept : ∀ override ∈ bus.rules.overrides, override.register ≠ Register.blockChecksum)
    (written : (Bus.write bus address Register.blockChecksum value).1 = true)
    (answered : (Bus.read (Bus.write bus address Register.blockChecksum value).2 address
      Register.blockChecksum 1).1 = some bytes) : Transfer.onlyByte bytes = value := by
  have stored := write_replays (.refl bus.registers) address (fun _ _ => kept) value
  rw [written] at stored
  have shown := read_shows stored (by decide) answered
  have poked : bus.rules.after bus.registers
      (.write address Register.blockChecksum value true) =
        bus.registers.set Register.blockChecksum value := rfl
  rw [shown, poked]
  calc Transfer.onlyByte ((bus.registers.set Register.blockChecksum value).slice _ 1)
    _ = (bus.registers.set Register.blockChecksum value).get Register.blockChecksum :=
      Register.Table.get_slice _ Register.blockChecksum 1 0 Nat.zero_lt_one
    _ = value := by rw [Register.Table.get_set, if_pos rfl]

end Bus

theorem Matching.sameButValues {address : UInt8} {first second : List Event}
    (same : Matching View.beyondWindow.shown first second) (confined : Confined address first) :
    List.Forall₂ Event.SameButValues first second := by
  induction same with
  | nil => exact .nil
  | cons head _ ih =>
    obtain ⟨here, others⟩ := List.forall_mem_cons.mp confined
    refine .cons ?_ (ih others)
    cases head with
    | write place register accepted known =>
      refine .write place register accepted fun fixed => known ?_
      have shown : ∀ register ∈ writtenRegisters, register ∉ valueRegisters →
          View.beyondWindow.shown register := by
        simp only [writtenRegisters, List.forall_mem_cons, List.not_mem_nil, false_implies,
          implies_true, and_true]
        decide
      exact shown register here.2 fixed
    | read place register length outcome _ => exact .read place register length outcome
    | delay nanoseconds => exact .delay nanoseconds

namespace Calibration

variable {rules : Rules}

theorem prepareScript_lockstep (config other : Config) (field : Field) :
    Lockstep .beyondWindow rules (execute (prepareScript config field))
      (execute (prepareScript other field)) := by
  have same {script : List Instruction}
      (plain : ∀ instruction ∈ script, instruction.readsBack = false) :
      List.Forall₂ (Twin View.beyondWindow.shown) script script :=
    List.forall₂_same.mpr fun instruction member => .same (plain instruction member)
  have first : ¬ View.beyondWindow.shown field.address := by
    cases field <;> decide
  have second : ¬ View.beyondWindow.shown (field.address + 1) := by
    cases field <;> decide
  refine execute_lockstep trivial (List.rel_append (List.rel_append (same ?_) ?_) (same ?_))
  · simp [Instruction.readsBack]
  · exact .cons (.write _ fun shown => absurd shown first)
      (.cons (.write _ fun shown => absurd shown second) .nil)
  · simp [Instruction.readsBack]

theorem commitScript_lockstep {readBack : Bool} (field : Field)
    (kept : readBack = false ∨
      ∀ override ∈ rules.overrides, override.register ≠ Register.blockChecksum) :
    Lockstep .beyondWindow rules (execute (commitScript readBack field))
      (execute (commitScript readBack field)) := by
  cases readBack with
  | false =>
    have alone : commitScript false field = [.commit] := rfl
    rw [alone, execute_single]
    exact .commit
  | true =>
    have kept := kept.resolve_left (by decide)
    intro address left right bus other state inStep
    have hidden (shown : View.beyondWindow.shown Register.blockChecksum) :
        left.checksum = right.checksum := absurd shown (by decide)
    obtain ⟨same, later⟩ := inStep.write address Register.blockChecksum left.checksum
      right.checksum hidden
    simp only [run_commitScript, if_true, same]
    cases written : (Bus.write other address Register.blockChecksum right.checksum).1 with
    | false => exact ⟨rfl, state, later, .cons (.write _ _ _ hidden) .nil⟩
    | true =>
      -- The registers hold different checksums now, each the one that is expected.
      obtain ⟨outcome, _, back⟩ := later.read address trivial 1
      have found {start : Simulated} {progress : Progress} {bytes : Vector UInt8 1}
          (same : start.rules = rules)
          (accepted : (Bus.write start address Register.blockChecksum progress.checksum).1 = true)
          (answered : (Bus.read (Bus.write start address Register.blockChecksum
            progress.checksum).2 address Register.blockChecksum 1).1 = some bytes) :
          Transfer.onlyByte bytes = progress.checksum :=
        Simulated.reads_written (same ▸ kept) accepted answered
      simp only [if_true, run_verify]
      rcases both_or_neither outcome with ⟨silent, mute⟩ | ⟨bytes, others, answered, told⟩
      · rw [silent, mute]
        refine ⟨rfl, state, back, .cons (.write _ _ _ hidden) (.cons (.delay _) (.cons ?_ .nil))⟩
        exact .read _ _ _ rfl fun _ => rfl
      · rw [answered, told]
        simp only [found inStep.leftRules (same.trans written) answered,
          found inStep.rightRules written told, if_true]
        refine ⟨rfl, state, back, .cons (.write _ _ _ hidden) (.cons (.delay _) (.cons ?_ .nil))⟩
        exact .read _ _ _ rfl fun shown => absurd (shown 0 Nat.zero_lt_one) (by decide)

theorem openScript_lockstep {config other : Config}
    (asked : other.verifyChecksum = config.verifyChecksum)
    (kept : config.verifyChecksum = false ∨
      ∀ override ∈ rules.overrides, override.register ≠ Register.blockChecksum) :
    Lockstep .beyondWindow rules (execute (openScript config)) (execute (openScript other)) := by
  have fields (fields : List Field) : Lockstep .beyondWindow rules
      (execute (fields.flatMap (fieldScript config)))
      (execute (fields.flatMap (fieldScript other))) := by
    induction fields with
    | nil => exact .nothing
    | cons field rest ih =>
      rw [List.flatMap_cons, List.flatMap_cons, fieldScript_eq, fieldScript_eq, asked]
      exact ((prepareScript_lockstep config other field).append
        (commitScript_lockstep field kept)).append ih
  have unsealing : Lockstep .beyondWindow rules (execute unsealScript) (execute unsealScript) :=
    execute_plain_lockstep trivial (by decide)
  have resetting : Lockstep .beyondWindow rules (execute resetScript) (execute resetScript) :=
    execute_plain_lockstep trivial (by decide)
  exact (unsealing.append (fields Field.inOrder)).append resetting

theorem run_lockstep {config other : Config}
    (asked : other.verifyChecksum = config.verifyChecksum)
    (kept : config.verifyChecksum = false ∨
      ∀ override ∈ rules.overrides, override.register ≠ Register.blockChecksum) :
    Lockstep .beyondWindow rules (run config) (run other) := by
  intro address first second bus beside state inStep
  have opened := openScript_lockstep asked kept address state inStep
  simp only [run_conclude, ← opened.result]
  exact (conclude_lockstep trivial config other _ address opened.state opened.bus).after
    opened.events

end Calibration

namespace Gauge

/-- Whatever the gauge is calibrated to: the outcome and the phase it ends in are the
same, and so are the accesses, but for the values. -/
theorem configure_lockstep (gauge : Gauge) (other : Config) (bus : Simulated)
    (verified : gauge.verified = true)
    (asked : other.verifyChecksum = gauge.config.verifyChecksum)
    (kept : gauge.config.verifyChecksum = false ∨
      ∀ override ∈ bus.rules.overrides, override.register ≠ 0x60) :
    let first := configure.run gauge.address gauge bus
    let second := configure.run gauge.address { gauge with config := other } bus
    second.result = first.result ∧ second.state = { first.state with config := other } ∧
      List.Forall₂ Event.SameButValues (traffic first.events) (traffic second.events) := by
  have beside := Calibration.run_lockstep asked kept gauge.address (.refl _ {})
    (.refl .beyondWindow bus)
  have confined := (Calibration.run_course gauge.config gauge.address {} bus).confined
  simp only [run_configure, if_pos verified]
  refine ⟨beside.result.symm, ?_, beside.events.sameButValues confined⟩
  rw [recordRun, recordRun, beside.result, beside.state.phase]

/-- Checksums are read back, a block is loaded in between, and the window of the last
field cannot be read. -/
theorem configure_lockstep_refused :
    let gauge : Gauge := { config := ⟨1500, 3000, .atInit, true⟩, verified := true }
    let other : Config := ⟨0, 0xFFFF, .onFirstFetch, true⟩
    let bus : Simulated := { rules := {
      flash := [⟨0x50, 1, .replicate 32 7⟩]
      overrides := [⟨0x4A, .every, 1⟩, ⟨0x61, .nth 1, 2⟩]
      failingReads := [⟨0x40, .nth 3⟩] } }
    let first := configure.run gauge.address gauge bus
    let second := configure.run gauge.address { gauge with config := other } bus
    gauge.verified = true ∧ other.verifyChecksum = gauge.config.verifyChecksum ∧
    (∀ override ∈ bus.rules.overrides, override.register ≠ 0x60) ∧
    first.result = .error .bus ∧ first.state.phase = .recomputingChecksum .finalVoltage ∧
    second.result = first.result ∧ second.state = { first.state with config := other } ∧
    List.Forall₂ Event.SameButValues (traffic first.events) (traffic second.events) :=
  ⟨rfl, rfl, by decide, by rfl, by decide +kernel,
    configure_lockstep _ ⟨0, 0xFFFF, .onFirstFetch, true⟩ _ rfl rfl (.inr (by decide))⟩

end Gauge
end FuelGauge
