import FuelGauge.Bus.Adjustment
import FuelGauge.Proofs.Session.History
import FuelGauge.Proofs.WholeWords

/-!
Control words over a session. Whatever is refused, and whatever the gauge had
latched before, it executes no word but those that some step issued as a whole.
-/

namespace FuelGauge.Session

variable {β κ : Type} [Bus β] [Adjustable β κ]

theorem step_whole (session : Session β) (request : Request κ) :
    Whole session.gauge.address (traffic (session.step request).1.events) := by
  cases request with
  | adjust change => exact .nil
  | command command => exact command.whole session.gauge session.bus

theorem executed_history (session : Session β) (requests : List (Request κ)) (latch : UInt8) :
    executed latch (session.history requests) =
      (session.run requests).1.flatMap fun reply => wholeWords (traffic reply.events) := by
  induction requests using List.reverseRecOn with
  | nil => rfl
  | append_singleton requests request ih =>
    rw [history_snoc, executed_append, ih, run_snoc, List.flatMap_append, List.flatMap_singleton,
      ← executed_traffic, (step_whole _ request).executed_eq]

theorem executed_history_listed (session : Session β) (requests : List (Request κ))
    (latch : UInt8) : ∀ word ∈ executed latch (session.history requests), word ∈ controlCodes := by
  induction requests using List.reverseRecOn with
  | nil => simp [history, run, executed]
  | append_singleton requests request ih =>
    have whole := step_whole (session.run requests).2 request
    rw [history_snoc, executed_append, List.forall_mem_append, ← executed_traffic _
      ((session.run requests).2.step request).1.events, whole.executed_eq]
    exact ⟨ih, whole.wholeWords_listed⟩

/-- In every step of every session, and over the session as a whole. -/
theorem step_words_whole (session : Session β) (requests : List (Request κ))
    (request : Request κ) (latch : UInt8) :
    let accesses := traffic ((session.run requests).2.step request).1.events
    (∀ earlier place high accepted later,
      accesses = earlier ++ .write place 0x01 high accepted :: later →
      ∃ before low, earlier = before ++ [.write place 0x00 low true, .delay 5000000] ∧
        Word.ofBytes low high ∈ controlCodes) ∧
    (∀ earlier place low later, accesses = earlier ++ .write place 0x00 low true :: later →
      ∃ high accepted rest, later = .delay 5000000 :: .write place 0x01 high accepted :: rest) ∧
    (∀ earlier place low later, accesses = earlier ++ .write place 0x00 low false :: later →
      ∀ next ∈ later.head?, next.isDelay = false ∧
        ∀ other high accepted, next ≠ .write other 0x01 high accepted) ∧
    (executed latch (session.history requests) =
      (session.run requests).1.flatMap fun reply => wholeWords (traffic reply.events)) ∧
    (∀ word ∈ executed latch (session.history requests), word ∈ controlCodes) := by
  intro accesses
  have whole : Whole _ accesses := step_whole (session.run requests).2 request
  have before_high : ∀ earlier place high accepted later,
      accesses = earlier ++ .write place 0x01 high accepted :: later →
      ∃ before low, earlier = before ++ [.write place 0x00 low true, .delay 5000000] ∧
        Word.ofBytes low high ∈ controlCodes := by
    intro earlier place high accepted later split
    cases whole.placed split rfl with
    | high before listed => exact ⟨before, _, rfl, by rwa [Word.ofBytes_low_high]⟩
  refine ⟨before_high, ?_, ?_, executed_history session requests latch,
    executed_history_listed session requests latch⟩
  · intro earlier place low later split
    cases whole.placed split rfl with
    | low _ listed accepted rest => exact ⟨_, accepted, rest, rfl⟩
  · intro earlier place low later split next first
    cases whole.placed split rfl with
    | refused _ _ prompt =>
      refine ⟨prompt next first, ?_⟩
      rintro other high accepted rfl
      -- A high byte would need its low byte just before it, and that one was refused.
      obtain ⟨rest, rfl⟩ := List.head?_eq_some_iff.mp (Option.mem_def.mp first)
      rw [List.append_cons] at split
      obtain ⟨before, byte, torn, _⟩ := before_high _ _ _ _ _ split
      have last := congrArg List.getLast? torn
      simp at last

end FuelGauge.Session
