import FuelGauge.Proofs.Transfers

/-!
Control words as a history of accesses shows them. The gauge latches the low
byte it last accepted, from one call to the next, and executes a word when it
accepts a high byte. Reads, delays, records and refused writes change nothing.
-/

namespace FuelGauge

namespace Event

def latch (low : UInt8) : Event → UInt8
  | .write _ register value accepted => if register = 0x00 ∧ accepted = true then value else low
  | _ => low

def executes (low : UInt8) : Event → List UInt16
  | .write _ register value accepted =>
      if register = 0x01 ∧ accepted = true then [Word.ofBytes low value] else []
  | _ => []

end Event

def latched (low : UInt8) : List Event → UInt8
  | [] => low
  | event :: rest => latched (event.latch low) rest

def executed (low : UInt8) : List Event → List UInt16
  | [] => []
  | event :: rest => event.executes low ++ executed (event.latch low) rest

theorem latched_append (low : UInt8) (first second : List Event) :
    latched low (first ++ second) = latched (latched low first) second := by
  induction first generalizing low with
  | nil => rfl
  | cons event rest ih => exact ih (event.latch low)

theorem executed_append (low : UInt8) (first second : List Event) :
    executed low (first ++ second) =
      executed low first ++ executed (latched low first) second := by
  induction first generalizing low with
  | nil => rfl
  | cons event rest ih =>
    simp only [List.cons_append, executed, latched, ih, List.append_assoc]

theorem executed_traffic (low : UInt8) (events : List Event) :
    executed low (traffic events) = executed low events := by
  induction events generalizing low with
  | nil => rfl
  | cons event rest ih =>
    cases event with
    | log record => exact ih low
    | write address register value accepted =>
      exact congrArg (Event.executes low _ ++ ·) (ih _)
    | read address register length answer => exact ih low
    | delay nanoseconds => exact ih low

theorem executed_controlAccesses (low address : UInt8) (word : UInt16) :
    executed low (controlAccesses address word) = [word] := by
  have whole : Word.ofBytes (Word.low word) (Word.high word) = word := Word.ofBytes_low_high word
  simp [controlAccesses, executed, Event.executes, Event.latch, whole]

theorem Deviates.executes_nil {event found : Event} {error : Error}
    (deviates : Deviates event found error) (low : UInt8) : found.executes low = [] := by
  cases deviates <;> simp [Event.executes]

theorem Follows.executed_subset {α : Type} {expected seen : List Event} {result : Except Error α}
    (follows : Follows expected seen result) (low : UInt8) :
    executed low seen ⊆ executed low expected := by
  cases follows with
  | completed value => exact List.Subset.refl _
  | deviated split deviates =>
    -- A word is executed by an access that succeeds; the last one seen did not.
    intro word member
    rw [executed_append] at member
    simp only [executed, deviates.executes_nil, List.append_nil] at member
    rw [split, executed_append]
    exact List.mem_append_left _ member

/-! Accesses that belong to no control word. -/

def Event.isControl : Event → Bool
  | .write _ register _ _ => register = 0x00 || register = 0x01
  | _ => false

theorem executed_of_no_control {events : List Event}
    (plain : ∀ event ∈ events, event.isControl = false) (low : UInt8) :
    executed low events = [] := by
  induction events generalizing low with
  | nil => rfl
  | cons event rest ih =>
    have headPlain := plain event List.mem_cons_self
    have restPlain := ih (fun later member => plain later (List.mem_cons_of_mem _ member))
    have nothing : event.executes low = [] := by
      cases event with
      | write address register value accepted =>
        simp only [Event.isControl, Bool.or_eq_false_iff, decide_eq_false_iff_not] at headPlain
        simp [Event.executes, headPlain.2]
      | _ => rfl
    rw [executed, nothing, restPlain]
    rfl

end FuelGauge
