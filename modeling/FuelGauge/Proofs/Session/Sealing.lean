import FuelGauge.Bus.Adjustment
import FuelGauge.Proofs.Calibration.Sealed
import FuelGauge.Proofs.Session.History

/-!
A gauge is never left unsealed without notice: a step either ends with the seal,
or executes no key, or fails because the bus refused to seal.
-/

namespace FuelGauge

/-! Outside calibration runs no key is executed, and no seal either. -/

theorem executed_asking {address : UInt8} {events : List Event}
    (asking : Gauge.Asking address events) (low : UInt8) :
    ∀ word ∈ executed low events, word ∈ [0x0000, 0x0001, 0x0002] := by
  intro word member
  rw [← executed_traffic] at member
  rcases asking with silent | ⟨code, listed, _, _, _, follows⟩
  · rw [silent] at member
    cases member
  · have asked := follows.executed_subset low member
    simp only [queryAccesses, executed_append, executed_controlAccesses, executed, Event.executes,
      List.append_nil, List.mem_singleton] at asked
    rw [asked]
    exact listed

theorem executed_fetching {address : UInt8} {events : List Event}
    (fetching : Gauge.Fetching address events) (low : UInt8) : executed low events = [] := by
  rw [← executed_traffic]
  apply executed_of_no_control
  intro event member
  obtain ⟨channel, answer, rfl⟩ := fetching event member
  rfl

namespace Session

variable {β κ : Type} [Bus β] [Adjustable β κ]

theorem step_seals (session : Session β) (request : Request κ) (low : UInt8) :
    let reply := (session.step request).1
    (∃ words, executed low reply.events = words ++ [0x0020]) ∨
      (∀ word ∈ executed low reply.events, word ∈ [0x0000, 0x0001, 0x0002]) ∨
      (∃ error, reply.result = .error error) ∧ 0x0020 ∉ executed low reply.events ∧
        SealRefused session.gauge.address (traffic reply.events) := by
  intro reply
  cases request with
  | adjust change =>
    apply Or.inr
    apply Or.inl
    intro word member
    cases member
  | command command =>
    obtain ⟨opening, closing, parts⟩ := command.parts session.gauge session.bus
    have events : reply.events = opening ++ _ ++ closing := parts.events
    have asked := executed_asking parts.asking low
    rw [events, executed_append, executed_append, executed_fetching parts.fetching, List.append_nil]
    cases made : command.calibration? session.gauge session.bus with
    | none =>
      simp only [Option.elim_none, executed, List.append_nil]
      exact Or.inr (Or.inl asked)
    | some run =>
      obtain ⟨before, rfl⟩ := Gauge.Command.calibration?_eq _ _ made
      have course := Calibration.run_course session.gauge.config session.gauge.address {} before
      simp only [Option.elim_some]
      rcases course.seals (latched low opening) with
        ⟨words, sealed⟩ | ⟨⟨error, failed⟩, unsealed, refused⟩
      · rw [executed_traffic] at sealed
        rw [sealed, ← List.append_assoc]
        exact Or.inl ⟨_, rfl⟩
      · rw [executed_traffic] at unsealed
        obtain ⟨reported, ended⟩ := parts.failed _ made error failed
        refine Or.inr (Or.inr ⟨⟨error, reported⟩, ?_, ?_⟩)
        · rw [List.mem_append]
          rintro (early | late)
          · exact absurd (asked _ early) (by decide)
          · exact unsealed late
        · rw [ended, List.append_nil, traffic_append]
          exact refused.after _

/-- What one step does to the flag, from whatever it was. -/
theorem step_flag (session : Session β) (request : Request κ) (low : UInt8) (before : Bool) :
    let reply := (session.step request).1
    let after := maybeUnsealed before (executed low reply.events)
    (before = false → (∃ answer, reply.result = .ok answer) → after = false) ∧
    (before = false → after = true →
      (∃ error, reply.result = .error error) ∧
      SealRefused session.gauge.address (traffic reply.events)) ∧
    (0x0020 ∈ executed low reply.events → after = false) := by
  intro reply after
  rcases step_seals session request low with
    ⟨words, sealed⟩ | plain | ⟨⟨error, failed⟩, unsealed, refused⟩
  -- The seal was the last word, whatever came before it.
  · have cleared : after = false := by
      simp only [after, reply, sealed]
      exact maybeUnsealed_sealed before words
    refine ⟨fun _ _ => cleared, ?_, fun _ => cleared⟩
    intro _ set
    rw [cleared] at set
    cases set
  -- No key was executed, and no seal.
  · have unchanged : before = false → after = false := by
      rintro rfl
      apply maybeUnsealed_of_no_key
      intro word member
      constructor
      · rintro rfl
        exact absurd (plain _ member) (by decide)
      · rintro rfl
        exact absurd (plain _ member) (by decide)
    refine ⟨fun cleared _ => unchanged cleared, ?_, ?_⟩
    · intro cleared set
      rw [unchanged cleared] at set
      cases set
    · intro sealed
      exact absurd (plain _ sealed) (by decide)
  -- The bus refused to seal, and the step says so.
  · refine ⟨?_, fun _ _ => ⟨⟨error, failed⟩, refused⟩, fun sealed => absurd sealed unsealed⟩
    rintro _ ⟨answer, accepted⟩
    rw [accepted] at failed
    cases failed

/-- The flag starts cleared, and the gauge may have latched anything. -/
theorem step_never_left_unsealed (session : Session β) (requests : List (Request κ))
    (request : Request κ) (low : UInt8) :
    let past := session.history requests
    let reply := ((session.run requests).2.step request).1
    let before := maybeUnsealed false (executed low past)
    let after := maybeUnsealed false (executed low (past ++ reply.events))
    (before = false → (∃ answer, reply.result = .ok answer) → after = false) ∧
    (before = false → after = true →
      (∃ error, reply.result = .error error) ∧
      SealRefused session.gauge.address (traffic reply.events)) ∧
    (0x0020 ∈ executed (latched low past) reply.events → after = false) := by
  intro past reply before after
  have grown : after = maybeUnsealed before (executed (latched low past) reply.events) := by
    rw [← maybeUnsealed_append, ← executed_append]
  rw [grown, ← (run_config session requests).2]
  exact step_flag (session.run requests).2 request (latched low past) before

/-- The second key is refused, and then the seal. -/
theorem step_never_left_unsealed_refused :
    let session : Session Bus.Simulated := start ⟨1500, 3000, .atInit, false⟩ 0x55
      { rules := { responses := [⟨0x0001, 0x0520⟩], failingTransactions := [7, 8] } }
    let reply := (session.step (.command .init)).1
    maybeUnsealed false (executed 0 reply.events) = true ∧
    (∃ error, reply.result = .error error) ∧ SealRefused 0x55 (traffic reply.events) :=
  ⟨by rfl, (step_never_left_unsealed _ [] (.command .init) 0).2.1 rfl (by rfl)⟩

theorem history_sealed (session : Session β) (requests : List (Request κ)) (low : UInt8)
    (accepted : ∀ reply ∈ (session.run requests).1, ∃ answer, reply.result = .ok answer) :
    maybeUnsealed false (executed low (session.history requests)) = false := by
  induction requests using List.reverseRecOn with
  | nil => rfl
  | append_singleton requests request ih =>
    rw [run_snoc] at accepted
    have cleared := ih fun reply member => accepted reply (List.mem_append_left _ member)
    have last := accepted _ (List.mem_append_right _ (List.mem_singleton_self _))
    rw [history_snoc, executed_append, maybeUnsealed_append]
    exact (step_flag (session.run requests).2 request _ _).1 cleared last

end Session
end FuelGauge
