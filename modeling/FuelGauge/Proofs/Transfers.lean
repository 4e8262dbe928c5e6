import FuelGauge.Transfer
import FuelGauge.Proofs.Following

/-!
What the gauge's own units of transfer look like on the bus: a control word with
its settling time, a word read from two registers, and the one after the other.
-/

namespace FuelGauge

variable {σ α β : Type}

def controlAccesses (address : UInt8) (word : UInt16) : List Event := [
  .write address 0x00 (Word.low word) true,
  .delay 5000000,
  .write address 0x01 (Word.high word) true]

theorem Follows.control_cases {address : UInt8} {word : UInt16} {seen : List Event}
    {result : Except Error α} (follows : Follows (controlAccesses address word) seen result) :
    (seen = controlAccesses address word ∧ ∃ value, result = .ok value) ∨
      result = .error .bus ∧
        (seen = [.write address 0x00 (Word.low word) false] ∨
          seen = [.write address 0x00 (Word.low word) true, .delay 5000000,
            .write address 0x01 (Word.high word) false]) := by
  have parts : controlAccesses address word =
      [.write address 0x00 (Word.low word) true] ++
        ([.delay 5000000] ++ [.write address 0x01 (Word.high word) true]) := rfl
  rw [parts] at follows
  rcases follows.of_append with ⟨error, failed, low⟩ | ⟨later, seen_eq, rest⟩
  · rcases low.of_single with ⟨_, _, impossible⟩ | ⟨found, other, found_eq, same, deviates⟩
    · cases impossible
    · cases same
      cases deviates
      exact Or.inr ⟨failed, Or.inl found_eq⟩
  · rcases rest.of_append with ⟨error, _, waiting⟩ | ⟨last, later_eq, high⟩
    · rcases waiting.of_single with ⟨_, _, impossible⟩ | ⟨_, _, _, _, deviates⟩
      · cases impossible
      · cases deviates
    · rcases high.of_single with ⟨last_eq, done⟩ | ⟨found, other, last_eq, failed, deviates⟩
      · rw [seen_eq, later_eq, last_eq]
        exact Or.inl ⟨rfl, done⟩
      · cases deviates
        rw [seen_eq, later_eq, last_eq]
        exact Or.inr ⟨failed, Or.inr rfl⟩

namespace Transfer

variable [Bus β] (address : UInt8) (state : σ) (bus : β)

theorem issue_follows (word : ControlWord) :
    ((issue word : Action σ Unit).run address state bus).Follows
      (controlAccesses address word.code) :=
  Action.follows_bind (Action.follows_write _ _) fun _ _ =>
    Action.follows_bind (Action.follows_delay _) fun _ _ => Action.follows_write _ _

theorem issue_state (word : ControlWord) :
    ((issue word : Action σ Unit).run address state bus).state = state := by
  apply Action.state_bind rfl
  intro _ bus
  exact Action.state_bind rfl fun _ _ => rfl

end Transfer

def queryAccesses (address : UInt8) (word : UInt16) (low high : UInt8) : List Event :=
  controlAccesses address word ++ [.read address 0x00 2 (some [low, high])]

theorem Follows.query_cases {address : UInt8} {word : UInt16} {low high : UInt8}
    {seen : List Event} {result : Except Error α}
    (follows : Follows (queryAccesses address word low high) seen result) :
    (seen = queryAccesses address word low high ∧ ∃ value, result = .ok value) ∨
      result = .error .bus ∧
        (seen = [.write address 0x00 (Word.low word) false] ∨
          seen = [.write address 0x00 (Word.low word) true, .delay 5000000,
            .write address 0x01 (Word.high word) false] ∨
          seen = controlAccesses address word ++ [.read address 0x00 2 none]) := by
  rcases follows.of_append with ⟨error, failed, word_seen⟩ | ⟨later, seen_eq, answer⟩
  · rcases word_seen.control_cases with ⟨_, _, impossible⟩ | ⟨same, shapes⟩
    · cases impossible
    · cases same
      rcases shapes with lowRefused | highRefused
      · exact Or.inr ⟨failed, Or.inl lowRefused⟩
      · exact Or.inr ⟨failed, Or.inr (Or.inl highRefused)⟩
  · rcases answer.of_single with ⟨later_eq, done⟩ | ⟨found, other, later_eq, failed, deviates⟩
    · rw [seen_eq, later_eq]
      exact Or.inl ⟨rfl, done⟩
    · cases deviates
      rw [seen_eq, later_eq]
      exact Or.inr ⟨failed, Or.inr (Or.inr rfl)⟩

namespace Transfer

variable [Bus β] (address : UInt8) (state : σ) (bus : β)

/-! What a read of one register, or of two, is answered. -/

def onlyByte (bytes : Vector UInt8 1) : UInt8 := bytes.get ⟨0, Nat.zero_lt_one⟩

def lowByte (bytes : Vector UInt8 2) : UInt8 := bytes.get ⟨0, Nat.zero_lt_two⟩

def highByte (bytes : Vector UInt8 2) : UInt8 := bytes.get ⟨1, Nat.one_lt_two⟩

theorem toList_single (bytes : Vector UInt8 1) : bytes.toList = [onlyByte bytes] := by
  apply List.ext_getElem
  · simp
  · intro index inside _
    have first : index = 0 := by simpa using inside
    subst first
    simp [onlyByte, Vector.get]

theorem toList_pair (bytes : Vector UInt8 2) : bytes.toList = [lowByte bytes, highByte bytes] := by
  apply List.ext_getElem
  · simp
  · intro index inside _
    have bound : index < 2 := by simpa using inside
    rcases Nat.lt_succ_iff_lt_or_eq.mp bound with first | second
    · have zero : index = 0 := by omega
      subst zero
      simp [lowByte, Vector.get]
    · subst second
      simp [highByte, Vector.get]

theorem run_readWord (register : Register) :
    (readWord register : Action σ UInt16).run address state bus =
      let answer := Bus.read bus address register 2
      match answer.1 with
      | none => ⟨.error .bus, state, answer.2, [.read address register 2 none]⟩
      | some bytes =>
        ⟨.ok (Word.ofBytes (lowByte bytes) (highByte bytes)), state, answer.2,
          [.read address register 2 (some [lowByte bytes, highByte bytes])]⟩ := by
  simp only [readWord, readBytes, Action.run_bind, Action.run_read]
  cases (Bus.read bus address register 2).1 with
  | none => rfl
  | some bytes =>
    simp only [Action.run_pure, Action.Outcome.after, Option.elim_some, Option.map_some,
      toList_pair, List.append_nil]
    rfl

theorem readWord_follows (register : Register) :
    ∃ low high,
      ((readWord register : Action σ UInt16).run address state bus).Follows
        [.read address register 2 (some [low, high])] ∧
      ∀ word, ((readWord register : Action σ UInt16).run address state bus).result = .ok word →
        word = Word.ofBytes low high := by
  simp only [run_readWord]
  cases (Bus.read bus address register 2).1 with
  | none =>
    refine ⟨0, 0, .alone (.read ..), ?_⟩
    intro word ended
    cases ended
  | some bytes =>
    refine ⟨lowByte bytes, highByte bytes, .completed _, ?_⟩
    intro word ended
    exact (Except.ok.inj ended).symm

theorem ask_follows (word : ControlWord) :
    ∃ low high,
      ((ask word : Action σ UInt16).run address state bus).Follows
        (queryAccesses address word.code low high) ∧
      ∀ answer, ((ask word : Action σ UInt16).run address state bus).result = .ok answer →
        answer = Word.ofBytes low high := by
  let issued := (issue word : Action σ Unit).run address state bus
  obtain ⟨low, high, follows, answered⟩ := readWord_follows address issued.state issued.bus
    Register.controlLow
  have issuing := issue_follows address state bus word
  refine ⟨low, high, Action.follows_bind issuing fun _ _ => follows, ?_⟩
  intro answer ended
  rw [ask, Action.run_bind] at ended
  cases accepted : ((issue word : Action σ Unit).run address state bus).result with
  | ok done =>
    simp only [accepted] at ended
    exact answered answer ended
  | error error =>
    simp only [accepted] at ended
    cases ended

theorem ask_state (word : ControlWord) :
    ((ask word : Action σ UInt16).run address state bus).state = state := by
  apply Action.state_bind (issue_state address state bus word)
  intro _ bus
  simp only [run_readWord]
  cases (Bus.read bus address Register.controlLow 2).1 <;> rfl

end Transfer
end FuelGauge
