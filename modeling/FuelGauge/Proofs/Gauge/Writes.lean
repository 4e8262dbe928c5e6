import FuelGauge.Proofs.ControlHistory
import FuelGauge.Proofs.Gauge.Parts

/-!
What is written to the bus, and which writes only a calibration makes. A write
counts when it is issued, whether the bus accepts it or not.
-/

namespace FuelGauge

def writtenRegisters : List UInt8 :=
  [0x00, 0x01, 0x3E, 0x3F, 0x4A, 0x4B, 0x4E, 0x4F, 0x57, 0x58, 0x60, 0x61]

/-- Of a write, that it goes to the gauge, and to one of the registers above. -/
def Event.Confined (address : UInt8) : Event → Prop
  | .write place register _ _ => place = address ∧ register ∈ writtenRegisters
  | _ => True

def Confined (address : UInt8) (events : List Event) : Prop :=
  ∀ event ∈ events, event.Confined address

theorem confined_append {address : UInt8} {first second : List Event} :
    Confined address (first ++ second) ↔ Confined address first ∧ Confined address second :=
  List.forall_mem_append

theorem confined_traffic {address : UInt8} {events : List Event} :
    Confined address (traffic events) ↔ Confined address events :=
  forall_mem_traffic fun _ => trivial

theorem Deviates.confined {address : UInt8} {event found : Event} {error : Error}
    (deviates : Deviates event found error) (confined : event.Confined address) :
    found.Confined address := by
  cases deviates with
  | write => exact confined
  | read => trivial
  | mismatch => trivial

theorem controlAccesses_confined (address : UInt8) (word : UInt16) :
    Confined address (controlAccesses address word) := by
  simp [controlAccesses, Confined, Event.Confined, writtenRegisters]

namespace Calibration

open Flash (Field Window)

theorem fieldAccesses_confined (config : Config) (address : UInt8) (field : Field)
    (window : Window) : Confined address (fieldAccesses config address field window) := by
  have first : field.address ∈ writtenRegisters := by cases field <;> decide
  have second : field.address + 1 ∈ writtenRegisters := by cases field <;> decide
  have fixed : 0x3E ∈ writtenRegisters ∧ 0x3F ∈ writtenRegisters ∧ 0x60 ∈ writtenRegisters := by
    decide
  have writes : Confined address (writeAccesses config address field) := by
    simp [writeAccesses, Confined, Event.Confined, first, second, fixed]
  exact forall_mem_fieldAccesses writes trivial trivial ⟨rfl, fixed.2.2⟩ trivial

theorem openAccesses_confined (config : Config) (address : UInt8) (windows : Field → Window) :
    Confined address (openAccesses config address windows) := by
  have control : 0x61 ∈ writtenRegisters := by decide
  exact forall_mem_openAccesses (fun word _ => controlAccesses_confined address word)
    ⟨rfl, control⟩ (fun field => fieldAccesses_confined config address field _) trivial

theorem Course.confined {config : Config} {address : UInt8} {events : List Event}
    {result : Except Error Unit} (course : Course config address events result) :
    Confined address events :=
  course.forall_mem Deviates.confined (openAccesses_confined config address)
    (controlAccesses_confined address 0x0020)

end Calibration

/-- A write to a register other than those of control words, or a byte of a
control word other than the three that ask for the status, the device type and
the firmware version. -/
def Event.Calibrates (low : UInt8) : Event → Prop
  | .write _ register value _ =>
      (register ≠ 0x00 ∧ register ≠ 0x01) ∨
      (register = 0x00 ∧ value ∉ [0x00, 0x01, 0x02]) ∨
      (register = 0x01 ∧ Word.ofBytes low value ∉ [0x0000, 0x0001, 0x0002])
  | _ => False

theorem Deviates.calibrates {event found : Event} {error : Error}
    (deviates : Deviates event found error) {low : UInt8} (calibrates : found.Calibrates low) :
    event.Calibrates low := by
  cases deviates with
  | write => exact calibrates
  | read => exact calibrates
  | mismatch => exact calibrates

def Harmless (low : UInt8) : List Event → Prop
  | [] => True
  | event :: rest => ¬ event.Calibrates low ∧ Harmless (event.latch low) rest

theorem harmless_append (low : UInt8) (first second : List Event) :
    Harmless low (first ++ second) ↔ Harmless low first ∧ Harmless (latched low first) second := by
  induction first generalizing low with
  | nil => simp [Harmless, latched]
  | cons event rest ih => simp only [List.cons_append, Harmless, latched, ih, and_assoc]

theorem harmless_traffic (low : UInt8) (events : List Event) :
    Harmless low (traffic events) ↔ Harmless low events := by
  induction events generalizing low with
  | nil => exact Iff.rfl
  | cons event rest ih =>
    cases event with
    | log record =>
      have silent : ¬ (Event.log record).Calibrates low := id
      exact (ih low).trans (and_iff_right silent).symm
    | write address register value accepted => exact and_congr_right fun _ => ih _
    | read address register length answer => exact and_congr_right fun _ => ih _
    | delay nanoseconds => exact and_congr_right fun _ => ih _

theorem Harmless.not_calibrates {low : UInt8} {events earlier later : List Event} {event : Event}
    (harmless : Harmless low events) (split : events = earlier ++ event :: later) :
    ¬ event.Calibrates (latched low earlier) := by
  rw [split, harmless_append] at harmless
  exact harmless.2.1

theorem Follows.harmless {α : Type} {expected seen : List Event} {result : Except Error α}
    (follows : Follows expected seen result) {low : UInt8} (harmless : Harmless low expected) :
    Harmless low seen := by
  cases follows with
  | completed value => exact harmless
  | deviated split deviates =>
    have event := harmless.not_calibrates split
    rw [split, harmless_append] at harmless
    rw [harmless_append]
    exact ⟨harmless.1, fun calibrates => event (deviates.calibrates calibrates), trivial⟩

theorem queryAccesses_harmless (address low lowByte highByte : UInt8) {word : UInt16}
    (listed : word ∈ [0x0000, 0x0001, 0x0002]) :
    Harmless low (queryAccesses address word lowByte highByte) := by
  have first : Word.low word ∈ [0x00, 0x01, 0x02] := by
    simp only [List.mem_cons, List.not_mem_nil, or_false] at listed
    rcases listed with rfl | rfl | rfl <;> decide
  have whole : Word.ofBytes (Word.low word) (Word.high word) = word := Word.ofBytes_low_high word
  have separate : ¬ (0x00 : UInt8) = 0x01 ∧ ¬ (0x01 : UInt8) = 0x00 := by decide
  simp only [queryAccesses, controlAccesses, List.cons_append, List.nil_append, Harmless,
    Event.Calibrates, Event.latch, and_self, if_true, whole, first, listed, separate, ne_eq,
    not_true_eq_false, not_false_eq_true, and_false, false_and, or_false]

namespace Gauge

variable {address : UInt8} {events : List Event}

theorem Asking.confined (asking : Asking address events) : Confined address events := by
  have answer (low high : UInt8) : Confined address [.read address 0x00 2 (some [low, high])] := by
    simp [Confined, Event.Confined]
  exact confined_traffic.mp (asking.forall_mem Deviates.confined fun code _ low high =>
    confined_append.mpr ⟨controlAccesses_confined address code, answer low high⟩)

theorem Fetching.confined (fetching : Fetching address events) : Confined address events := by
  rw [← confined_traffic]
  intro event member
  obtain ⟨channel, answer, rfl⟩ := fetching event member
  trivial

theorem Asking.harmless (asking : Asking address events) (low : UInt8) : Harmless low events := by
  rw [← harmless_traffic]
  rcases asking with silent | ⟨code, listed, lowByte, highByte, _, follows⟩
  · rw [silent]
    trivial
  · exact follows.harmless (queryAccesses_harmless address low lowByte highByte listed)

theorem Fetching.not_calibrates (fetching : Fetching address events) {event : Event}
    (member : event ∈ events) (low : UInt8) : ¬ event.Calibrates low := by
  cases event with
  | write place register value accepted =>
    obtain ⟨_, _, impossible⟩ := fetching _ (List.mem_filter.mpr ⟨member, rfl⟩)
    cases impossible
  | _ => exact id

end Gauge
end FuelGauge
