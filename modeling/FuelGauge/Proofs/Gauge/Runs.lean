import FuelGauge.Proofs.Calibration.Sealed
import FuelGauge.Proofs.Gauge.Parts

/-!
How a calibration run is known on the bus. It opens with the low byte of the
first key, which is offered to the gauge at no other moment, so the runs in a
history of accesses can be counted without knowing the gauge.
-/

namespace FuelGauge

/-- The low byte of the first key, whether the bus accepts it or not. -/
def Event.opensRun : Event → Bool
  | .write _ register value _ => register = 0x00 && value = 0x14
  | _ => false

theorem Deviates.opensRun {event found : Event} {error : Error}
    (deviates : Deviates event found error) : found.opensRun = event.opensRun := by
  cases deviates <;> rfl

theorem Event.opensRun_of_plain {event : Event} (plain : event.isControl = false) :
    event.opensRun = false := by
  cases event with
  | write address register value accepted =>
    simp only [isControl, Bool.or_eq_false_iff] at plain
    simp [opensRun, plain.1]
  | _ => rfl

def runsOpened (events : List Event) : Nat := events.countP Event.opensRun

theorem runsOpened_append (first second : List Event) :
    runsOpened (first ++ second) = runsOpened first + runsOpened second :=
  List.countP_append ..

theorem runsOpened_traffic (events : List Event) :
    runsOpened (traffic events) = runsOpened events := by
  induction events with
  | nil => rfl
  | cons event rest ih =>
    cases event with
    | log record => exact ih
    | _ => simpa [runsOpened, traffic, Event.isLog, List.countP_cons] using ih

theorem runsOpened_eq_zero {events : List Event}
    (none : ∀ event ∈ events, event.opensRun = false) : runsOpened events = 0 := by
  rw [runsOpened, List.countP_eq_zero]
  intro event member
  simp [none event member]

theorem Follows.runsOpened_eq_zero {α : Type} {expected seen : List Event}
    {result : Except Error α} (follows : Follows expected seen result)
    (none : ∀ event ∈ expected, event.opensRun = false) : runsOpened seen = 0 :=
  FuelGauge.runsOpened_eq_zero
    (follows.forall_mem (fun deviates unopened => deviates.opensRun.trans unopened) none)

theorem controlAccesses_unopened {address : UInt8} {word : UInt16} (other : Word.low word ≠ 0x14) :
    ∀ event ∈ controlAccesses address word, event.opensRun = false := by
  simp [controlAccesses, Event.opensRun, other]

namespace Calibration

open Flash (Field Window)

theorem openAccesses_eq_cons (config : Config) (address : UInt8) (windows : Field → Window) :
    ∃ rest, openAccesses config address windows = .write address 0x00 0x14 true :: rest ∧
      ∀ event ∈ rest, event.opensRun = false := by
  have fields (field : Field) : ∀ event ∈ fieldAccesses config address field (windows field),
      event.opensRun = false := fun event member =>
    Event.opensRun_of_plain (fieldAccesses_plain config address field (windows field) event member)
  have second : ∀ event ∈ controlAccesses address 0x3672, event.opensRun = false :=
    controlAccesses_unopened (by decide)
  have reset : ∀ event ∈ controlAccesses address 0x0041, event.opensRun = false :=
    controlAccesses_unopened (by decide)
  refine ⟨_, rfl, ?_⟩
  simp only [List.append_eq, List.forall_mem_cons, List.forall_mem_append, List.flatMap_cons,
    List.flatMap_nil, List.not_mem_nil, false_implies, implies_true, and_true]
  exact ⟨⟨⟨⟨⟨rfl, rfl⟩, second⟩, rfl⟩, fields _, fields _, fields _⟩, reset, rfl⟩

/-- Refused or not, the first access is made, and no later one is like it. -/
theorem Course.runsOpened_eq_one {config : Config} {address : UInt8} {events : List Event}
    {result : Except Error Unit} (course : Course config address events result) :
    runsOpened events = 1 := by
  have sealing : ∀ event ∈ sealAccesses address, event.opensRun = false :=
    controlAccesses_unopened (by decide)
  cases course with
  | @sealing windows last result sealed =>
    obtain ⟨rest, accesses, unopened⟩ := openAccesses_eq_cons config address windows
    have opened : runsOpened (.write address 0x00 0x14 true :: rest) = runsOpened rest + 1 :=
      List.countP_cons_of_pos rfl
    rw [runsOpened_append, sealed.runsOpened_eq_zero sealing, accesses, opened,
      runsOpened_eq_zero unopened]
  | @abandoned windows seen last error ending opened resealed =>
    obtain ⟨rest, accesses, unopened⟩ := openAccesses_eq_cons config address windows
    rw [runsOpened_append, resealed.runsOpened_eq_zero sealing]
    rw [accesses] at opened
    rcases opened.cons_cases with ⟨later, rfl, follows⟩ | ⟨found, _, rfl, _, deviates⟩
    · have first : runsOpened (.write address 0x00 0x14 true :: later) = runsOpened later + 1 :=
        List.countP_cons_of_pos rfl
      rw [first, follows.runsOpened_eq_zero unopened]
    · exact List.countP_cons_of_pos deviates.opensRun

end Calibration

namespace Gauge

theorem Asking.runsOpened_eq_zero {address : UInt8} {events : List Event}
    (asking : Asking address events) : runsOpened events = 0 := by
  rw [← runsOpened_traffic]
  apply FuelGauge.runsOpened_eq_zero
  apply asking.forall_mem fun deviates unopened => deviates.opensRun.trans unopened
  intro code listed low high
  have other : Word.low code ≠ 0x14 := by
    simp only [List.mem_cons, List.not_mem_nil, or_false] at listed
    rcases listed with rfl | rfl | rfl <;> decide
  rw [queryAccesses, List.forall_mem_append]
  exact ⟨controlAccesses_unopened other, by simp [Event.opensRun]⟩

theorem Fetching.runsOpened_eq_zero {address : UInt8} {events : List Event}
    (fetching : Fetching address events) : runsOpened events = 0 := by
  rw [← runsOpened_traffic]
  apply FuelGauge.runsOpened_eq_zero
  intro event member
  obtain ⟨channel, answer, rfl⟩ := fetching event member
  rfl

theorem Command.runsOpened_eq {β : Type} [Bus β] (command : Command) (gauge : Gauge) (bus : β) :
    runsOpened (command.action.run gauge.address gauge bus).events =
      (command.calibration? gauge bus).toList.length := by
  obtain ⟨opening, closing, parts⟩ := command.parts gauge bus
  rw [parts.events, runsOpened_append, runsOpened_append, parts.asking.runsOpened_eq_zero,
    parts.fetching.runsOpened_eq_zero, Nat.zero_add, Nat.add_zero]
  cases made : command.calibration? gauge bus with
  | none => rfl
  | some run =>
    obtain ⟨before, rfl⟩ := Command.calibration?_eq _ _ made
    rw [Option.elim_some, ← runsOpened_traffic]
    exact (Calibration.run_course ..).runsOpened_eq_one

end Gauge
end FuelGauge
