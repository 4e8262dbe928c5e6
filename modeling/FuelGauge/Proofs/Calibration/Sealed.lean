import FuelGauge.Proofs.Calibration.Course
import FuelGauge.Proofs.ControlHistory

/-!
Whether the gauge is sealed after a calibration run, as the control words show
that it executed.
-/

namespace FuelGauge

/-- The words that unseal, and the one that seals; a reset does neither. -/
def maybeUnsealed (before : Bool) : List UInt16 → Bool
  | [] => before
  | word :: rest =>
      maybeUnsealed
        (if word = 0x0414 ∨ word = 0x3672 then true else if word = 0x0020 then false else before)
        rest

theorem maybeUnsealed_append (before : Bool) (first second : List UInt16) :
    maybeUnsealed before (first ++ second) = maybeUnsealed (maybeUnsealed before first) second := by
  induction first generalizing before with
  | nil => rfl
  | cons word rest ih => exact ih _

theorem maybeUnsealed_sealed (before : Bool) (words : List UInt16) :
    maybeUnsealed before (words ++ [0x0020]) = false := by
  rw [maybeUnsealed_append]
  rfl

theorem maybeUnsealed_of_no_key {words : List UInt16}
    (keyless : ∀ word ∈ words, word ≠ 0x0414 ∧ word ≠ 0x3672) :
    maybeUnsealed false words = false := by
  induction words with
  | nil => rfl
  | cons word rest ih =>
    obtain ⟨notFirst, notSecond⟩ := keyless word List.mem_cons_self
    have restSealed := ih fun later member => keyless later (List.mem_cons_of_mem _ member)
    simp only [maybeUnsealed, notFirst, notSecond, or_self, if_false, ite_self]
    exact restSealed

/-- The last access was a byte of the seal, and it was refused. -/
def SealRefused (address : UInt8) (accesses : List Event) : Prop :=
  [.write address 0x00 0x20 false] <:+ accesses ∨
    [.write address 0x00 0x20 true, .delay 5000000, .write address 0x01 0x00 false] <:+ accesses

theorem SealRefused.after {address : UInt8} {accesses : List Event}
    (refused : SealRefused address accesses) (before : List Event) :
    SealRefused address (before ++ accesses) := by
  rcases refused with low | high
  · exact Or.inl (low.trans (List.suffix_append ..))
  · exact Or.inr (high.trans (List.suffix_append ..))

namespace Calibration

open Flash (Field Window)

theorem fieldAccesses_plain (config : Config) (address : UInt8) (field : Field)
    (window : Window) :
    ∀ event ∈ fieldAccesses config address field window, event.isControl = false := by
  have first : field.address ≠ 0x00 ∧ field.address ≠ 0x01 := by cases field <;> decide
  have second : field.address + 1 ≠ 0x00 ∧ field.address + 1 ≠ 0x01 := by cases field <;> decide
  have writes : ∀ event ∈ writeAccesses config address field, event.isControl = false := by
    simp [writeAccesses, Event.isControl, first, second]
  exact forall_mem_fieldAccesses writes rfl rfl rfl rfl

theorem executed_fieldAccesses (config : Config) (address : UInt8) (field : Field)
    (window : Window) (low : UInt8) :
    executed low (fieldAccesses config address field window) = [] :=
  executed_of_no_control (fieldAccesses_plain config address field window) low

theorem executed_openAccesses (config : Config) (address : UInt8) (windows : Field → Window)
    (low : UInt8) :
    executed low (openAccesses config address windows) = [0x0414, 0x3672, 0x0041] := by
  simp only [openAccesses, List.flatMap_cons, List.flatMap_nil, List.append_nil, executed_append,
    executed_controlAccesses, executed_fieldAccesses]
  simp [executed, Event.executes]

theorem seal_cases {address : UInt8} {last : List Event} {result : Except Error Unit}
    (follows : Follows (sealAccesses address) last result) (low : UInt8) :
    executed low last = [0x0020] ∨
      result = .error .bus ∧ executed low last = [] ∧
        (last = [.write address 0x00 0x20 false] ∨
          last = [.write address 0x00 0x20 true, .delay 5000000,
            .write address 0x01 0x00 false]) := by
  rcases follows.control_cases with ⟨complete, _⟩ | ⟨failed, shapes⟩
  · rw [complete]
    exact Or.inl (executed_controlAccesses low address 0x0020)
  · refine Or.inr ⟨failed, ?_, shapes⟩
    rcases shapes with rfl | rfl
    · simp [executed, Event.executes]
    · simp [executed, Event.executes]

theorem Course.ends_with_seal {config : Config} {address : UInt8} {events : List Event}
    {result : Except Error Unit} (course : Course config address events result) (low : UInt8) :
    ∃ (seen last : List Event) (ending : Except Error Unit),
      events = seen ++ last ∧
      (∀ word ∈ executed low seen, word ∈ [0x0414, 0x3672, 0x0041]) ∧
      Follows (sealAccesses address) last ending ∧
      ((∃ error, ending = .error error) → ∃ error, result = .error error) := by
  cases course with
  | @sealing windows last result sealed =>
    refine ⟨openAccesses config address windows, last, result, rfl, ?_, sealed, id⟩
    rw [executed_openAccesses]
    intro word member
    exact member
  | @abandoned windows seen last error ending opened resealed =>
    refine ⟨seen, last, ending, rfl, ?_, resealed, fun _ => ⟨error, rfl⟩⟩
    intro word member
    have listed := opened.executed_subset low member
    rwa [executed_openAccesses] at listed

/-- A run executes the seal last, or it fails, and the bus refused to seal. -/
theorem Course.seals {config : Config} {address : UInt8} {events : List Event}
    {result : Except Error Unit} (course : Course config address events result) (low : UInt8) :
    (∃ words, executed low events = words ++ [0x0020]) ∨
      (∃ error, result = .error error) ∧ 0x0020 ∉ executed low events ∧
        SealRefused address events := by
  obtain ⟨seen, last, ending, split, body, sealing, failing⟩ := course.ends_with_seal low
  rw [split, executed_append]
  rcases seal_cases sealing (latched low seen) with complete | ⟨failed, nothing, shapes⟩
  · rw [complete]
    exact Or.inl ⟨_, rfl⟩
  · refine Or.inr ⟨failing ⟨_, failed⟩, ?_, ?_⟩
    · rw [nothing, List.append_nil]
      intro sealed
      exact absurd (body _ sealed) (by decide)
    · rcases shapes with rfl | rfl
      · exact Or.inl (List.suffix_append ..)
      · exact Or.inr (List.suffix_append ..)

end Calibration
end FuelGauge
