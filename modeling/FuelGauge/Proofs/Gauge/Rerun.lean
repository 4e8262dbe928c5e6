import FuelGauge.Proofs.Bus.Overlay
import FuelGauge.Proofs.Calibration.Lockstep
import FuelGauge.Proofs.Calibration.Stages
import FuelGauge.Proofs.Gauge.Operations

/-!
A calibration made twice. The second one starts from a window that holds all fields
already, so it may commit other checksums on its way. But every register it changes it
gives the value that the first one gave it, and the last checksum is that of the window
they both leave.
-/

namespace FuelGauge

open Bus (Rules Simulated)
open Flash (Field)
open Register.Table (Overlay Overlaid SameBeyondControl)

namespace Action

variable {σ β : Type} {address : UInt8} {state : σ}

theorem bind_ok [Bus β] {bus : β} {first rest : Action σ Unit}
    (ended : ((do first; rest).run address state bus).result = .ok ()) :
    let begun := first.run address state bus
    let later := rest.run address begun.state begun.bus
    let whole := (do first; rest).run address state bus
    begun.result = .ok () ∧ later.result = .ok () ∧ whole.state = later.state ∧
      whole.bus = later.bus := by
  simp only [run_bind] at ended ⊢
  cases begun : (first.run address state bus).result with
  | error error =>
    simp only [begun] at ended
    cases ended
  | ok done =>
    simp only [begun] at ended
    exact ⟨rfl, ended, rfl, rfl⟩

theorem write_ok {bus : Simulated} {register : Register} {value : UInt8}
    (ended : ((write register value).run address state bus).result = .ok ()) :
    ((write register value).run address state bus).bus =
      (bus.countWrite register).accept register value := by
  apply Simulated.write_accepted
  cases accepted : (Bus.write bus address register value).1 with
  | false =>
    simp only [run_write, accepted] at ended
    cases ended
  | true => rfl

end Action

namespace Calibration

abbrev Fact := Progress → Simulated → Prop

namespace Fact

def anything : Fact := fun _ _ => True

def latched (low : UInt8) (fact : Fact) : Fact :=
  fun progress bus => bus.pendingLow = low ∧ fact progress bus

def selected (subclass : UInt8) : Fact :=
  fun _ bus => bus.registers.get Register.dataClass = subclass

def remembered : Fact := fun progress bus => progress.checksum = bus.registers.window.checksum

/-- So is the one that was committed, as far as the bus stores it. -/
def committed : Fact := fun _ bus =>
  bus.registers.get Register.blockChecksum =
    bus.rules.stored Register.blockChecksum 0 bus.registers.window.checksum

def Apart (fact : Fact) : Prop :=
  ∀ (progress : Progress) (bus other : Simulated), other.rules = bus.rules →
    SameBeyondControl other.registers bus.registers → fact progress bus → fact progress other

theorem anything_apart : anything.Apart := fun _ _ _ _ _ _ => trivial

theorem committed_apart : committed.Apart := by
  intro progress bus other rules same held
  have window : other.registers.window = bus.registers.window := same.slice (by decide)
  rw [committed, rules, window, same _ (by decide) (by decide)]
  exact held

end Fact

/-- If it succeeds, the registers it changed hold the same whatever they held before;
and the one fact has led to the other. -/
def Settles (rules : Rules) (before : Fact) (action : Action Progress Unit) (after : Fact) : Prop :=
  ∃ overlay : Overlay, ∀ (address : UInt8) (progress : Progress) (bus : Simulated),
    bus.rules = rules → before progress bus →
    let outcome := action.run address progress bus
    outcome.result = .ok () →
      outcome.bus.rules = rules ∧ Overlaid overlay bus.registers outcome.bus.registers ∧
        after outcome.state outcome.bus

variable {rules : Rules} {fact before between after : Fact}

namespace Settles

theorem bind {first rest : Action Progress Unit} (start : Settles rules before first between)
    (later : Settles rules between rest after) : Settles rules before (do first; rest) after := by
  obtain ⟨early, begun⟩ := start
  obtain ⟨late, ending⟩ := later
  refine ⟨late.covering early, fun address progress bus known held ended => ?_⟩
  obtain ⟨done, left, state, reached⟩ := Action.bind_ok ended
  obtain ⟨kept, first, middle⟩ := begun address progress bus known held done
  obtain ⟨still, second, last⟩ := ending address _ _ kept middle left
  rw [state, reached]
  exact ⟨still, first.trans second, last⟩

theorem forget {action : Action Progress Unit} (settles : Settles rules before action after) :
    Settles rules before action .anything := by
  obtain ⟨overlay, settled⟩ := settles
  refine ⟨overlay, fun address progress bus known held ended => ?_⟩
  obtain ⟨kept, overlaid, _⟩ := settled address progress bus known held ended
  exact ⟨kept, overlaid, trivial⟩

theorem nothing : Settles rules fact (execute []) fact :=
  ⟨.nothing, fun _ _ _ known held _ => ⟨known, .refl _, held⟩⟩

theorem cons {instruction : Instruction} {rest : List Instruction}
    (start : Settles rules before instruction.perform between)
    (later : Settles rules between (execute rest) after) :
    Settles rules before (execute (instruction :: rest)) after := start.bind later

theorem append {first second : List Instruction}
    (start : Settles rules before (execute first) between)
    (later : Settles rules between (execute second) after) :
    Settles rules before (execute (first ++ second)) after := by
  rw [execute_append]
  exact start.bind later

theorem write {register : Register} {value : UInt8} (overlay : Overlay)
    (step : ∀ (progress : Progress) (bus : Simulated), bus.rules = rules → before progress bus →
      let accepted := (bus.countWrite register).accept register value
      Overlaid overlay bus.registers accepted.registers ∧ after progress accepted) :
    Settles rules before (Action.write register value) after := by
  refine ⟨overlay, fun address progress bus known held ended => ?_⟩
  obtain ⟨overlaid, later⟩ := step progress bus known held
  rw [Action.write_ok ended]
  exact ⟨(Simulated.accept_rules ..).trans known, overlaid, later⟩

theorem enter (same : ∀ progress phase bus, fact progress bus → fact { progress with phase } bus)
    (phase : Phase) : Settles rules fact (Instruction.enter phase).perform fact :=
  ⟨.nothing, fun _ _ _ known held _ => ⟨known, .refl _, same _ _ _ held⟩⟩

theorem delay (nanoseconds : Nat) :
    Settles rules fact (Instruction.delay nanoseconds).perform fact :=
  ⟨.nothing, fun _ _ _ known held _ => ⟨known, .refl _, held⟩⟩

theorem readWindow : Settles rules .anything Instruction.readWindow.perform .remembered := by
  refine ⟨.nothing, fun address progress bus known _ => ?_⟩
  have rules := Simulated.read_rules bus address Register.blockData Flash.blockLength
  have registers := Simulated.read_registers bus address Register.blockData Flash.blockLength
  simp only [run_readWindow]
  cases answered : (Bus.read bus address Register.blockData Flash.blockLength).1 with
  | none =>
    intro ended
    cases ended
  | some window =>
    have shown : window = bus.registers.window :=
      Simulated.read_shows (.refl _) (by decide) answered
    intro _
    rw [Fact.remembered, rules, registers, shown]
    exact ⟨known, .refl _, rfl⟩

theorem verify (field : Field) :
    Settles rules .committed (Instruction.verify field).perform .committed := by
  refine ⟨.nothing, fun address progress bus known held => ?_⟩
  have rules := Simulated.read_rules bus address Register.blockChecksum 1
  have registers := Simulated.read_registers bus address Register.blockChecksum 1
  have still : Fact.committed progress (Bus.read bus address Register.blockChecksum 1).2 := by
    rw [Fact.committed, rules, registers]
    exact held
  simp only [run_verify]
  cases (Bus.read bus address Register.blockChecksum 1).1 with
  | none =>
    intro ended
    cases ended
  | some bytes =>
    by_cases found : Transfer.onlyByte bytes = progress.checksum
    · simp only [if_pos found, rules, registers]
      exact fun _ => ⟨known, .refl _, still⟩
    · simp only [if_neg found]
      intro ended
      cases ended

section

variable (every : ∀ override ∈ rules.overrides, override.occurrence = .every)
include every

theorem commit : Settles rules .remembered Instruction.commit.perform .committed := by
  refine ⟨.nothing, fun address progress bus known held ended => ?_⟩
  have accepted : (Instruction.commit.perform.run address progress bus).bus =
      (bus.countWrite Register.blockChecksum).accept Register.blockChecksum progress.checksum :=
    Action.write_ok ended
  subst known
  have stored : ((bus.countWrite Register.blockChecksum).accept Register.blockChecksum
      progress.checksum).registers = bus.registers.set Register.blockChecksum
        (bus.rules.stored Register.blockChecksum 0 progress.checksum) :=
    Simulated.accept_registers (bus.countWrite Register.blockChecksum) every _ (by decide)
      (by decide) progress.checksum
  rw [accepted, Fact.committed, Simulated.accept_rules, stored,
    Register.Table.window_set_outside _ (by decide), Register.Table.get_set, if_pos rfl, held]
  exact ⟨rfl, .setChecksum _ _, rfl⟩

theorem issue (apart : fact.Apart) (word : ControlWord) :
    Settles rules fact (Transfer.issue word) fact := by
  have latching : Settles rules fact (Action.write Register.controlLow word.low)
      (fact.latched word.low) := by
    refine write (.single Register.controlLow (rules.stored Register.controlLow 0 word.low)) ?_
    rintro progress bus rfl held
    have stored := Simulated.accept_registers (bus.countWrite Register.controlLow) every
      Register.controlLow (by decide) (by decide) word.low
    refine ⟨stored ▸ .set _ _ _, rfl, ?_⟩
    exact apart progress bus _ (Simulated.accept_rules ..)
      (Simulated.accept_spares _ (.inl rfl) _) held
  have answering : Settles rules (fact.latched word.low)
      (Action.write Register.controlHigh word.high) fact := by
    refine write ((Simulated.answerOverlay rules word.low word.high).covering
      (.single Register.controlHigh (rules.stored Register.controlHigh 0 word.high))) ?_
    rintro progress bus rfl ⟨latched, held⟩
    refine ⟨latched ▸ Simulated.accept_high_overlaid (bus.countWrite _) every word.high, ?_⟩
    exact apart progress bus _ (Simulated.accept_rules ..)
      (Simulated.accept_spares _ (.inr rfl) _) held
  exact latching.bind ((delay settleTime).bind answering)

theorem writeClass (subclass : UInt8) :
    Settles rules .anything (Instruction.write Register.dataClass subclass).perform
      (.selected (rules.stored Register.dataClass 0 subclass)) := by
  refine write (.single Register.dataClass (rules.stored Register.dataClass 0 subclass)) ?_
  rintro progress bus rfl _
  have stored := Simulated.accept_registers (bus.countWrite Register.dataClass) every
    Register.dataClass (by decide) (by decide) subclass
  refine ⟨stored ▸ .set _ _ _, ?_⟩
  rw [Fact.selected, stored, Register.Table.get_set, if_pos rfl]
  rfl

/-- Which block is loaded depends on the subclass in the register, if it is overridden
on the one that took the place of the one written. -/
theorem writeBlock (subclass index : UInt8) :
    Settles rules (.selected subclass) (Instruction.write Register.dataBlock index).perform
      .anything := by
  refine write ((Simulated.blockOverlay rules subclass index).covering
    (.single Register.dataBlock (rules.stored Register.dataBlock 0 index))) ?_
  rintro progress bus rfl selected
  exact ⟨selected ▸ Simulated.accept_block_overlaid (bus.countWrite _) every index, trivial⟩

theorem write_plain {register : Register} (high : register ≠ Register.controlHigh)
    (block : register ≠ Register.dataBlock) (value : UInt8) :
    Settles rules .anything (Instruction.write register value).perform .anything := by
  refine write (.single register (rules.stored register 0 value)) ?_
  rintro progress bus rfl _
  have stored := Simulated.accept_registers (bus.countWrite register) every register high block
    value
  exact ⟨stored ▸ .set _ _ _, trivial⟩

end

end Settles

section

variable (every : ∀ override ∈ rules.overrides, override.occurrence = .every)
include every

theorem fieldScript_settles (config : Config) (field : Field) :
    Settles rules .anything (execute (fieldScript config field)) .committed := by
  have first : field.address ≠ Register.controlHigh ∧ field.address ≠ Register.dataBlock := by
    cases field <;> decide
  have second : field.address + 1 ≠ Register.controlHigh ∧
      field.address + 1 ≠ Register.dataBlock := by
    cases field <;> decide
  have anything (phase : Phase) :
      Settles rules .anything (Instruction.enter phase).perform .anything :=
    .enter (fun _ _ _ _ => trivial) phase
  have remembered (phase : Phase) :
      Settles rules .remembered (Instruction.enter phase).perform .remembered :=
    .enter (fun _ _ _ held => held) phase
  have prepared : Settles rules .anything (execute (prepareScript config field)) .remembered := by
    -- Nothing need be known of the window until it is read.
    exact (anything (.selectingSubclass field)).cons <|
      (Settles.writeClass every field.subclass).cons <|
      (Settles.writeBlock every _ field.block).cons <|
      (anything (.writingField field)).cons <|
      (Settles.write_plain every first.1 first.2 _).cons <|
      (Settles.write_plain every second.1 second.2 _).cons <|
      (anything (.recomputingChecksum field)).cons <|
      Settles.readWindow.cons <|
      (Settles.delay settleTime).cons <|
      (remembered (.committingChecksum field)).cons .nothing
  have done : Settles rules .remembered
      (execute (commitScript config.verifyChecksum field)) .committed := by
    cases config.verifyChecksum with
    | false => exact (Settles.commit every).cons .nothing
    | true =>
      exact (Settles.commit every).cons
        ((Settles.delay settleTime).cons ((Settles.verify field).cons .nothing))
  rw [fieldScript_eq]
  exact prepared.append done

theorem run_settles (config : Config) :
    Settles rules .anything (execute (openScript config ++ sealScript)) .committed := by
  have still (phase : Phase) :
      Settles rules .committed (Instruction.enter phase).perform .committed :=
    .enter (fun _ _ _ held => held) phase
  have word (word : ControlWord) :
      Settles rules .committed (Instruction.issue word).perform .committed :=
    Settles.issue every Fact.committed_apart word
  have key (word : ControlWord) :
      Settles rules .anything (Instruction.issue word).perform .anything :=
    Settles.issue every Fact.anything_apart word
  have unsealing : Settles rules .anything (execute unsealScript) .anything :=
    (Settles.enter (fun _ _ _ _ => trivial) .unsealing).cons <| (key .unsealFirst).cons <|
      (key .unsealSecond).cons <| (Settles.enter (fun _ _ _ _ => trivial) .unsealed).cons <|
      (Settles.write_plain every (by decide) (by decide) 0).cons .nothing
  have field (field : Field) :
      Settles rules .anything (execute (fieldScript config field)) .committed :=
    fieldScript_settles every config field
  have fields : Settles rules .anything
      (execute (Field.inOrder.flatMap (fieldScript config))) .committed := by
    -- Of the checksums only the last one stays in its register.
    simp only [Field.inOrder, List.flatMap_cons, List.flatMap_nil, List.append_nil]
    exact (field .designCapacity).forget.append
      ((field .terminateVoltage).forget.append (field .finalVoltage))
  have ending : Settles rules .committed (execute (resetScript ++ sealScript)) .committed :=
    (still .resetting).cons <| (word .reset).cons <| (Settles.delay resetTime).cons <|
      (still .sealing).cons <| (word .seal).cons <| (still .isSealed).cons .nothing
  have parts : openScript config ++ sealScript =
      unsealScript ++
        (Field.inOrder.flatMap (fieldScript config) ++ (resetScript ++ sealScript)) := by
    simp only [openScript, List.append_assoc]
  rw [parts]
  exact unsealing.append (fields.append ending)

end

theorem run_bus_of_ok {config : Config} {address : UInt8} {progress : Progress} {bus : Simulated}
    (ended : ((run config).run address progress bus).result = .ok ()) :
    ((run config).run address progress bus).bus =
      ((execute (openScript config ++ sealScript)).run address progress bus).bus := by
  simp only [run_eq, execute_append, Action.run_bind] at ended ⊢
  generalize (execute (openScript config)).run address progress bus = opened at ended ⊢
  cases reached : opened.result with
  | error error =>
    simp only [reached] at ended
    cases ended
  | ok done =>
    simp only [Action.Outcome.after]
    cases ((execute sealScript).run address opened.state opened.bus).result with
    | error error => rfl
    | ok done => rfl

end Calibration

namespace Gauge

open Calibration (Fact execute openScript sealScript)

theorem configure_of_ok (gauge : Gauge) (bus : Simulated)
    (ended : (configure.run gauge.address gauge bus).result = .ok ()) :
    let outcome := configure.run gauge.address gauge bus
    let scripts := (execute (openScript gauge.config ++ sealScript)).run gauge.address {} bus
    scripts.result = .ok () ∧ outcome.bus = scripts.bus ∧
      outcome.state = gauge.recordRun (.ok ()) .isSealed := by
  rw [run_configure] at ended ⊢
  by_cases verified : gauge.verified = true
  · simp only [if_pos verified] at ended ⊢
    have scripts := (Calibration.run_eq_scripts gauge.address {} bus gauge.config).1
    have phase := (Calibration.run_ok_iff_isSealed ..).mp ended
    rw [phase, ended]
    exact ⟨scripts.symm.trans ended, Calibration.run_bus_of_ok ended, rfl⟩
  · rw [if_neg verified] at ended
    cases ended

theorem recordRun_again (gauge : Gauge) (result : Except Error Unit) (phase : Calibration.Phase) :
    (gauge.recordRun result phase).recordRun result phase = gauge.recordRun result phase := by
  have settled := Calibration.Attempt.isPending_record gauge.attempt result.isOk
  simp only [recordRun, Calibration.Attempt.record_of_not_pending settled]

/-- A gauge that was calibrated can be calibrated again, and nothing comes of it. -/
theorem configure_idempotent (gauge : Gauge) (bus : Simulated)
    (every : ∀ override ∈ bus.rules.overrides, override.occurrence = .every) :
    let first := configure.run gauge.address gauge bus
    let second := configure.run gauge.address first.state first.bus
    first.result = .ok () → second.result = .ok () →
      second.bus.registers = first.bus.registers ∧ second.state = first.state ∧
        first.state.phase = .isSealed := by
  intro first second firstEnded secondEnded
  obtain ⟨firstDone, firstBus, firstState⟩ := configure_of_ok gauge bus firstEnded
  have address : first.state.address = gauge.address := by
    rw [firstState]
    rfl
  have config : first.state.config = gauge.config := by
    rw [firstState]
    rfl
  obtain ⟨secondDone, secondBus, secondState⟩ :=
    configure_of_ok first.state first.bus (address ▸ secondEnded)
  rw [address, config] at secondDone secondBus
  rw [address] at secondState
  -- The same scripts were run twice, the second time from where they had led to.
  obtain ⟨overlay, settled⟩ := Calibration.run_settles every gauge.config
  obtain ⟨firstRules, firstOverlaid, firstSum⟩ := settled gauge.address {} bus rfl trivial firstDone
  rw [← firstBus] at firstRules firstOverlaid firstSum
  obtain ⟨secondRules, secondOverlaid, secondSum⟩ :=
    settled gauge.address {} first.bus firstRules trivial secondDone
  rw [← secondBus] at secondRules secondOverlaid secondSum
  have others {register : Register} (other : register ≠ Register.blockChecksum) :
      second.bus.registers.get register = first.bus.registers.get register :=
    firstOverlaid.again secondOverlaid other
  have window : second.bus.registers.window = first.bus.registers.window := by
    have apart : ∀ index < Flash.blockLength,
        Register.blockData + UInt8.ofNat index ≠ Register.blockChecksum := by decide
    exact Register.Table.slice_congr _ fun index inside => others (apart index inside)
  have checksum : second.bus.registers.get Register.blockChecksum =
      first.bus.registers.get Register.blockChecksum := by
    rw [Fact.committed] at firstSum secondSum
    rw [firstSum, secondSum, firstRules, secondRules, window]
  refine ⟨Register.Table.eq_of_get fun register => ?_, ?_, ?_⟩
  · by_cases other : register = Register.blockChecksum
    · rw [other, checksum]
    · exact others other
  · rw [secondState, firstState]
    exact recordRun_again gauge (.ok ()) .isSealed
  · rw [firstState]
    rfl

/-- One field only has a block of its own. The field before it is written into whatever
the window shows, which the second time is what the first run left there. -/
theorem configure_idempotent_blocks :
    let gauge : Gauge := { config := ⟨1500, 3000, .atInit, false⟩, verified := true }
    let bus : Simulated := {
      registers := .fill 5
      rules := {
        responses := [⟨0x0020, 0x6000⟩]
        flash := [⟨0x50, 1, .replicate 32 9⟩]
        overrides := [⟨0x60, .every, 3⟩, ⟨0x4A, .every, 1⟩, ⟨0x00, .every, 2⟩] } }
    let first := configure.run gauge.address gauge bus
    let second := configure.run gauge.address first.state first.bus
    (∀ override ∈ bus.rules.overrides, override.occurrence = .every) ∧
    first.result = .ok () ∧ second.result = .ok () ∧
    second.bus.registers = first.bus.registers ∧ second.state = first.state ∧
      first.state.phase = .isSealed := by
  intro gauge bus
  have every : ∀ override ∈ bus.rules.overrides, override.occurrence = .every := by decide
  have done : (configure.run gauge.address gauge bus).result = .ok () := by decide +kernel
  have again : (configure.run gauge.address (configure.run gauge.address gauge bus).state
      (configure.run gauge.address gauge bus).bus).result = .ok () := by decide +kernel
  exact ⟨every, done, again, configure_idempotent gauge bus every done again⟩

end Gauge
end FuelGauge
