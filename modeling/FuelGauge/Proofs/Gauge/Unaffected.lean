import FuelGauge.Proofs.Bus.Alike
import FuelGauge.Proofs.Gauge.Operations

/-!
Every operation of the gauge goes the same way on buses that are alike. None but
a question reads the control register, and a question has rewritten both of its
bytes by then.
-/

namespace FuelGauge

open Bus (Simulated)

variable {σ τ α γ : Type}

structure Action.Outcome.Alike (left right : Action.Outcome Simulated σ α) : Prop where
  result : left.result = right.result
  state : left.state = right.state
  events : left.events = right.events
  bus : left.bus.Alike right.bus

theorem Action.Outcome.Alike.after {left right : Action.Outcome Simulated σ α}
    (alike : left.Alike right) (before : List Event) :
    (left.after before).Alike (right.after before) :=
  ⟨alike.result, alike.state, congrArg (before ++ ·) alike.events, alike.bus⟩

def Unaffected (action : Action σ α) : Prop :=
  ∀ (address : UInt8) (state : σ) {left right : Simulated}, left.Alike right →
    (action.run address state left).Alike (action.run address state right)

namespace Unaffected

theorem bind {action : Action σ α} {rest : α → Action σ γ} (first : Unaffected action)
    (second : ∀ value, Unaffected (rest value)) : Unaffected (action >>= rest) := by
  intro address state left right alike
  obtain ⟨result, kept, events, later⟩ := first address state alike
  simp only [Action.run_bind, result, kept, events]
  cases (action.run address state right).result with
  | error error => exact ⟨rfl, rfl, rfl, later⟩
  | ok value => exact (second value address _ later).after _

theorem recover {action : Action σ α} {handle : Error → Action σ α} (first : Unaffected action)
    (second : ∀ error, Unaffected (handle error)) : Unaffected (action.recover handle) := by
  intro address state left right alike
  obtain ⟨result, kept, events, later⟩ := first address state alike
  simp only [Action.run_recover, result, kept, events]
  cases (action.run address state right).result with
  | ok value => exact ⟨rfl, rfl, rfl, later⟩
  | error error => exact (second error address _ later).after _

theorem map {action : Action σ α} (unaffected : Unaffected action) (change : α → γ) :
    Unaffected (change <$> action) := by
  intro address state left right alike
  obtain ⟨result, kept, events, later⟩ := unaffected address state alike
  simp only [Action.run_map]
  exact ⟨congrArg (Except.map change) result, kept, events, later⟩

theorem within {inner : Action τ α} (unaffected : Unaffected inner) (initial : τ) :
    Unaffected (Action.within inner initial : Action σ (Except Error α × τ)) := by
  intro address state left right alike
  obtain ⟨result, kept, events, later⟩ := unaffected address initial alike
  simp only [Action.run_within, result, kept]
  exact ⟨rfl, rfl, events, later⟩

/-! What is done without the bus. -/

theorem pure (value : α) : Unaffected (Pure.pure value : Action σ α) :=
  fun _ _ _ _ alike => ⟨rfl, rfl, rfl, alike⟩

theorem get : Unaffected (Action.get : Action σ σ) :=
  fun _ _ _ _ alike => ⟨rfl, rfl, rfl, alike⟩

theorem modify (change : σ → σ) : Unaffected (Action.modify change) :=
  fun _ _ _ _ alike => ⟨rfl, rfl, rfl, alike⟩

theorem fail (error : Error) : Unaffected (Action.fail error : Action σ α) :=
  fun _ _ _ _ alike => ⟨rfl, rfl, rfl, alike⟩

theorem ofResult (result : Except Error α) : Unaffected (Action.ofResult result : Action σ α) :=
  fun _ _ _ _ alike => ⟨rfl, rfl, rfl, alike⟩

theorem log (record : Log.Record) : Unaffected (Action.log record : Action σ Unit) :=
  fun _ _ _ _ alike => ⟨rfl, rfl, rfl, alike⟩

theorem delay (nanoseconds : Nat) : Unaffected (Action.delay nanoseconds : Action σ Unit) :=
  fun _ _ _ _ alike => ⟨rfl, rfl, rfl, alike⟩

/-! What is done on the bus. -/

theorem write (register : Register) (value : UInt8) :
    Unaffected (Action.write register value : Action σ Unit) := by
  intro address state left right alike
  obtain ⟨same, later⟩ := alike.write address register value
  simp only [Action.run_write, same]
  exact ⟨rfl, rfl, rfl, later⟩

theorem read {register : Register} {length : Nat} (clear : Register.Clear register length) :
    Unaffected (Action.read register length : Action σ (Vector UInt8 length)) := by
  intro address state left right alike
  obtain ⟨same, later⟩ := alike.read address register length (alike.registers.slice clear)
  simp only [Action.run_read, same]
  exact ⟨rfl, rfl, rfl, later⟩

theorem readByte {register : Register} (clear : Register.Clear register 1) :
    Unaffected (Transfer.readByte register : Action σ UInt8) :=
  (read clear).bind fun _ => pure _

theorem readWord_alike {left right : Simulated} (alike : left.Alike right) {register : Register}
    (same : left.registers.slice register 2 = right.registers.slice register 2)
    (address : UInt8) (state : σ) :
    ((Transfer.readWord register : Action σ UInt16).run address state left).Alike
      ((Transfer.readWord register : Action σ UInt16).run address state right) := by
  obtain ⟨answer, later⟩ := alike.read address register 2 same
  simp only [Transfer.run_readWord, answer]
  cases (Bus.read right address register 2).1 with
  | none => exact ⟨rfl, rfl, rfl, later⟩
  | some bytes => exact ⟨rfl, rfl, rfl, later⟩

theorem readWord {register : Register} (clear : Register.Clear register 2) :
    Unaffected (Transfer.readWord register : Action σ UInt16) :=
  fun address state _ _ alike =>
    readWord_alike alike (alike.registers.slice clear) address state

theorem issue (word : ControlWord) : Unaffected (Transfer.issue word : Action σ Unit) :=
  (write _ _).bind fun _ => (delay _).bind fun _ => write _ _

/-- Only a word of which both bytes were accepted is answered, and then nothing is
left of what the control register held before. -/
theorem ask (word : ControlWord) : Unaffected (Transfer.ask word : Action σ UInt16) := by
  intro address state left right alike
  obtain ⟨lowSame, lowAlike⟩ := alike.write address Register.controlLow word.low
  have low := alike.write_low address word.low
  simp only [Transfer.ask, Transfer.issue, Action.run_bind, Action.run_write, Action.run_delay,
    lowSame]
  cases lowAccepted : (Bus.write right address Register.controlLow word.low).1 with
  | false => exact ⟨rfl, rfl, rfl, lowAlike⟩
  | true =>
    obtain ⟨pending, shown⟩ := low lowAccepted
    obtain ⟨highSame, highAlike⟩ := lowAlike.write address Register.controlHigh word.high
    have high := lowAlike.write_high pending shown address word.high
    simp only [if_true, Action.Outcome.after, highSame]
    cases highAccepted : (Bus.write (Bus.write right address Register.controlLow word.low).2 address
        Register.controlHigh word.high).1 with
    | false => exact ⟨rfl, rfl, rfl, highAlike⟩
    | true =>
      have answer := readWord_alike highAlike
        (congrArg (·.slice Register.controlLow 2) (high highAccepted)) address state
      exact answer.after _

end Unaffected

namespace Calibration

theorem perform_unaffected (instruction : Instruction) : Unaffected instruction.perform := by
  have window : Register.Clear Register.blockData Flash.blockLength := by decide
  have checksum : Register.Clear Register.blockChecksum 1 := by decide
  cases instruction with
  | enter phase => exact .bind .get fun _ => .bind (.log _) fun _ => .modify _
  | issue word => exact .issue word
  | write register value => exact .write register value
  | delay nanoseconds => exact .delay nanoseconds
  | readWindow => exact .bind (.read window) fun _ => .modify _
  | commit => exact .bind .get fun _ => .write _ _
  | verify field =>
    refine .bind (.readByte checksum) fun found => .bind .get fun progress => ?_
    by_cases same : found = progress.checksum
    · simp only [same, if_true]
      exact .pure ()
    · simp only [same, if_false]
      exact .bind (.log _) fun _ => .fail _

theorem execute_unaffected (script : List Instruction) : Unaffected (execute script) := by
  induction script with
  | nil => exact .pure ()
  | cons instruction rest ih => exact (perform_unaffected instruction).bind fun _ => ih

theorem run_unaffected (config : Config) : Unaffected (run config) := by
  have reseal : Unaffected reseal := .recover (.issue .seal) fun _ => .log _
  have abandon (error : Error) : Unaffected (abandon error) :=
    .bind .get fun _ => .bind (.log _) fun _ => .bind reseal fun _ => .fail error
  exact .bind ((execute_unaffected _).recover abandon) fun _ =>
    .bind (execute_unaffected _) fun _ => .log _

end Calibration

namespace Gauge

theorem configure_unaffected : Unaffected configure := by
  refine .bind .get fun gauge => ?_
  by_cases verified : gauge.verified = true
  · simp only [verified, if_true]
    exact .bind (.within (Calibration.run_unaffected _) _) fun _ =>
      .bind (.modify _) fun _ => .ofResult _
  · simp only [verified]
    exact .bind (.log _) fun _ => .fail _

theorem verify_unaffected : Unaffected verify := by
  refine .bind (.modify _) fun _ => .bind (.ask _) fun reported => ?_
  by_cases expected : reported = expectedDeviceType
  · simp only [expected, if_true]
    exact .modify _
  · simp only [expected, if_false]
    exact .bind (.log _) fun _ => .fail _

theorem init_unaffected : Unaffected init := by
  refine .bind verify_unaffected fun _ => .bind .get fun gauge => ?_
  cases gauge.config.mode with
  | atInit => exact configure_unaffected
  | onFirstFetch => exact .log _

theorem fetchEach_unaffected (channels : List Channel) : Unaffected (fetchEach channels) := by
  induction channels with
  | nil => exact .pure ()
  | cons channel rest ih =>
    have clear : Register.Clear channel.register 2 := by cases channel <;> decide
    have first : Unaffected (fetchChannel channel) :=
      .bind (.readWord clear) fun _ => .bind (.log _) fun _ => .modify _
    exact first.bind fun _ => ih

theorem fetch_unaffected (selection : Selection) : Unaffected (fetch selection) := by
  refine .bind .get fun gauge => ?_
  by_cases due : gauge.calibrationDue = true
  · simp only [due, if_true]
    exact configure_unaffected.bind fun _ => fetchEach_unaffected _
  · simp only [due]
    exact fetchEach_unaffected _

theorem inspect_unaffected (view : Gauge → Except Error α) : Unaffected (inspect view) :=
  .bind .get fun _ => .ofResult _

theorem Command.unaffected (command : Command) : Unaffected command.action := by
  cases command with
  | init => exact init_unaffected.map _
  | configure => exact configure_unaffected.map _
  | deviceType => exact .map (.ask _) _
  | firmwareVersion => exact .map (.ask _) _
  | controlStatus => exact .map (.map (.ask _) _) _
  | fetch selection => exact (fetch_unaffected selection).map _
  | reading selection => exact (inspect_unaffected _).map _
  | fixedReading selection => exact inspect_unaffected _
  | telemetry => exact inspect_unaffected _
  | config => exact inspect_unaffected _

end Gauge
end FuelGauge
