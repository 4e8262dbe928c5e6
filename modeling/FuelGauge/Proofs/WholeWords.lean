import FuelGauge.Proofs.Calibration.Sealed
import FuelGauge.Proofs.Gauge.Runs

/-!
Control words that are never torn. A low byte that was accepted is followed by
its settling time and by its own high byte; one that was refused is followed by
neither. Accesses of this kind may be put one after the other, and what a gauge
executes in them does not depend on what it had latched before.
-/

namespace FuelGauge

def controlCodes : List UInt16 := [0x0000, 0x0001, 0x0002, 0x0020, 0x0041, 0x0414, 0x3672]

def Event.isDelay : Event → Bool
  | .delay _ => true
  | _ => false

def Prompt (events : List Event) : Prop := ∀ event ∈ events.head?, event.isDelay = false

theorem prompt_cons {event : Event} {rest : List Event} (access : event.isDelay = false) :
    Prompt (event :: rest) := by
  rintro _ ⟨⟩
  exact access

theorem Prompt.append {first second : List Event} (firstPrompt : Prompt first)
    (secondPrompt : Prompt second) : Prompt (first ++ second) := by
  cases first with
  | nil => exact secondPrompt
  | cons event rest => exact prompt_cons (firstPrompt event rfl)

theorem Deviates.isDelay {event found : Event} {error : Error}
    (deviates : Deviates event found error) : found.isDelay = false := by
  cases deviates <;> rfl

theorem Deviates.isControl {event found : Event} {error : Error}
    (deviates : Deviates event found error) : found.isControl = event.isControl := by
  cases deviates <;> rfl

theorem Follows.prompt {α : Type} {expected seen : List Event} {result : Except Error α}
    (follows : Follows expected seen result) (prompt : Prompt expected) : Prompt seen := by
  cases expected with
  | nil =>
    cases follows with
    | completed value => exact prompt
    | deviated split deviates => simp at split
  | cons event rest =>
    rcases follows.cons_cases with ⟨later, rfl, _⟩ | ⟨found, _, rfl, _, deviates⟩
    · exact prompt_cons (prompt event rfl)
    · exact prompt_cons deviates.isDelay

inductive Whole (address : UInt8) : List Event → Prop
  | nil : Whole address []
  | other {event : Event} {rest : List Event} (plain : event.isControl = false)
      (later : Whole address rest) : Whole address (event :: rest)
  | refused (low : UInt8) {rest : List Event} (prompt : Prompt rest) (later : Whole address rest) :
      Whole address (.write address 0x00 low false :: rest)
  | issued {word : UInt16} {rest : List Event} (listed : word ∈ controlCodes) (accepted : Bool)
      (later : Whole address rest) :
      Whole address (.write address 0x00 (Word.low word) true :: .delay 5000000 ::
        .write address 0x01 (Word.high word) accepted :: rest)

/-- A byte of a control word, with what comes before it and what comes after. -/
inductive Placed (address : UInt8) : List Event → Event → List Event → Prop
  | refused (earlier : List Event) (low : UInt8) {later : List Event} (prompt : Prompt later) :
      Placed address earlier (.write address 0x00 low false) later
  | low (earlier : List Event) {word : UInt16} (listed : word ∈ controlCodes) (accepted : Bool)
      (rest : List Event) :
      Placed address earlier (.write address 0x00 (Word.low word) true)
        (.delay 5000000 :: .write address 0x01 (Word.high word) accepted :: rest)
  | high (before : List Event) {word : UInt16} (listed : word ∈ controlCodes) (accepted : Bool)
      (later : List Event) :
      Placed address (before ++ [.write address 0x00 (Word.low word) true, .delay 5000000])
        (.write address 0x01 (Word.high word) accepted) later

theorem Placed.after {address : UInt8} {earlier later : List Event} {event : Event}
    (placed : Placed address earlier event later) (first : List Event) :
    Placed address (first ++ earlier) event later := by
  cases placed with
  | refused _ low prompt => exact .refused _ low prompt
  | low _ listed accepted rest => exact .low _ listed accepted rest
  | high before listed accepted _ =>
    rw [← List.append_assoc]
    exact .high _ listed accepted _

namespace Whole

variable {address : UInt8} {accesses further : List Event}

/-- A delay at the start of the second part would settle a byte refused at the end
of the first. -/
theorem append (first : Whole address accesses) (second : Whole address further)
    (prompt : Prompt further) : Whole address (accesses ++ further) := by
  induction first with
  | nil => exact second
  | other plain _ ih => exact .other plain ih
  | refused low restPrompt _ ih => exact .refused low (restPrompt.append prompt) ih
  | issued listed accepted _ ih => exact .issued listed accepted ih

theorem plain_append {first : List Event} (plain : ∀ event ∈ first, event.isControl = false)
    (later : Whole address further) : Whole address (first ++ further) := by
  induction first with
  | nil => exact later
  | cons event rest ih =>
    rw [List.forall_mem_cons] at plain
    exact .other plain.1 (ih plain.2)

theorem deviate {done after : List Event} {event found : Event} {error : Error}
    (whole : Whole address accesses) (split : accesses = done ++ event :: after)
    (deviates : Deviates event found error) : Whole address (done ++ [found]) := by
  induction whole generalizing done with
  | nil => simp at split
  | other plain _ ih =>
    rcases cons_eq_around split with ⟨rfl, rfl, _⟩ | ⟨inner, rfl, rest⟩
    · exact .other (deviates.isControl.trans plain) .nil
    · exact .other plain (ih rest)
  | refused low prompt _ ih =>
    rcases cons_eq_around split with ⟨rfl, rfl, _⟩ | ⟨inner, rfl, rfl⟩
    · cases deviates
    · refine .refused low ?_ (ih rfl)
      cases inner with
      | nil => exact prompt_cons deviates.isDelay
      | cons next inner => exact prompt_cons (prompt next rfl)
  | issued listed accepted _ ih =>
    -- The deviation is at the low byte, at the high byte, or after the word.
    rcases cons_eq_around split with ⟨rfl, rfl, _⟩ | ⟨_, rfl, waiting⟩
    · cases deviates
      exact .refused _ (fun _ none => by cases none) .nil
    rcases cons_eq_around waiting with ⟨rfl, rfl, _⟩ | ⟨_, rfl, high⟩
    · cases deviates
    rcases cons_eq_around high with ⟨rfl, rfl, _⟩ | ⟨inner, rfl, rest⟩
    · cases deviates
      exact .issued listed false .nil
    · exact .issued listed accepted (ih rest)

theorem placed {earlier later : List Event} {event : Event} (whole : Whole address accesses)
    (split : accesses = earlier ++ event :: later) (control : event.isControl = true) :
    Placed address earlier event later := by
  induction whole generalizing earlier with
  | nil => simp at split
  | other plain _ ih =>
    rcases cons_eq_around split with ⟨rfl, rfl, _⟩ | ⟨inner, rfl, rest⟩
    · rw [plain] at control
      cases control
    · exact (ih rest).after [_]
  | refused low prompt _ ih =>
    rcases cons_eq_around split with ⟨rfl, rfl, rfl⟩ | ⟨inner, rfl, rest⟩
    · exact .refused [] low prompt
    · exact (ih rest).after [_]
  | issued listed accepted _ ih =>
    rcases cons_eq_around split with ⟨rfl, rfl, rfl⟩ | ⟨_, rfl, waiting⟩
    · exact .low [] listed accepted _
    rcases cons_eq_around waiting with ⟨rfl, rfl, _⟩ | ⟨_, rfl, high⟩
    · cases control
    rcases cons_eq_around high with ⟨rfl, rfl, rfl⟩ | ⟨inner, rfl, rest⟩
    · exact .high [] listed accepted _
    · exact (ih rest).after [_, _, _]

end Whole

/-- The control word that a list begins with, if it begins with all of one. -/
def leadingWord? : List Event → Option UInt16
  | .write _ first low true :: .delay time :: .write _ second high true :: _ =>
      if first = 0x00 ∧ time = 5000000 ∧ second = 0x01 then some (Word.ofBytes low high) else none
  | _ => none

def wholeWords : List Event → List UInt16
  | [] => []
  | event :: rest => (leadingWord? (event :: rest)).toList ++ wholeWords rest

theorem wholeWords_cons {event : Event} {rest : List Event}
    (other : ∀ address low, event ≠ .write address 0x00 low true) :
    wholeWords (event :: rest) = wholeWords rest := by
  have none : leadingWord? (event :: rest) = none := by
    unfold leadingWord?
    split
    next address register low _ _ _ _ _ split =>
      obtain ⟨rfl, _⟩ := List.cons.inj split
      have elsewhere : register ≠ 0x00 := by
        rintro rfl
        exact other address low rfl
      simp [elsewhere]
    next => rfl
  rw [wholeWords, none]
  rfl

theorem wholeWords_cons_of_plain {event : Event} {rest : List Event}
    (plain : event.isControl = false) : wholeWords (event :: rest) = wholeWords rest := by
  apply wholeWords_cons
  rintro address low rfl
  cases plain

theorem wholeWords_controlAccesses (address : UInt8) (word : UInt16) (rest : List Event) :
    wholeWords (controlAccesses address word ++ rest) = word :: wholeWords rest := by
  have together : Word.ofBytes (Word.low word) (Word.high word) = word :=
    Word.ofBytes_low_high word
  have leading : leadingWord? (controlAccesses address word ++ rest) = some word := by
    simp [controlAccesses, leadingWord?, together]
  have later : wholeWords (.delay 5000000 :: .write address 0x01 (Word.high word) true :: rest) =
      wholeWords rest := by
    rw [wholeWords_cons_of_plain rfl, wholeWords_cons (by simp)]
  change (leadingWord? (controlAccesses address word ++ rest)).toList ++ _ = _
  rw [leading]
  exact congrArg (List.cons word) later

namespace Whole

variable {address : UInt8} {accesses : List Event}

/-- Whatever was latched before, the words executed are the words issued as a whole. -/
theorem executed_eq (whole : Whole address accesses) (low : UInt8) :
    executed low accesses = wholeWords accesses := by
  induction whole generalizing low with
  | nil => rfl
  | @other event rest plain _ ih =>
    have nothing : executed low [event] = [] := executed_of_no_control (by simpa using plain) low
    rw [wholeWords_cons_of_plain plain, ← List.singleton_append, executed_append, nothing, ih]
    rfl
  | refused byte _ _ ih => exact ih low
  | @issued word rest _ accepted _ ih =>
    cases accepted with
    -- The low byte stays latched, but no high byte is accepted before the next low byte.
    | false => exact ih (Word.low word)
    | true =>
      change executed low (controlAccesses address word ++ rest) =
        wholeWords (controlAccesses address word ++ rest)
      rw [executed_append, executed_controlAccesses, wholeWords_controlAccesses, ih]
      rfl

theorem wholeWords_listed (whole : Whole address accesses) :
    ∀ word ∈ wholeWords accesses, word ∈ controlCodes := by
  induction whole with
  | nil => simp [wholeWords]
  | other plain _ ih =>
    rw [wholeWords_cons_of_plain plain]
    exact ih
  | refused byte _ _ ih => exact ih
  | @issued word rest listed accepted _ ih =>
    cases accepted with
    | false => exact ih
    | true =>
      change ∀ code ∈ wholeWords (controlAccesses address word ++ rest), code ∈ controlCodes
      rw [wholeWords_controlAccesses, List.forall_mem_cons]
      exact ⟨listed, ih⟩

end Whole

/-! The accesses of a gauge. -/

theorem Follows.whole {α : Type} {expected seen : List Event} {result : Except Error α}
    (follows : Follows expected seen result) {address : UInt8} (whole : Whole address expected) :
    Whole address seen := by
  cases follows with
  | completed value => exact whole
  | deviated split deviates => exact whole.deviate split deviates

theorem controlAccesses_whole {address : UInt8} {word : UInt16} (listed : word ∈ controlCodes) :
    Whole address (controlAccesses address word) :=
  .issued listed true .nil

namespace Calibration

open Flash (Field Window)

theorem openAccesses_whole (config : Config) (address : UInt8) (windows : Field → Window) :
    Whole address (openAccesses config address windows) := by
  have fields : ∀ event ∈ [.designCapacity, .terminateVoltage, .finalVoltage].flatMap
      (fun field => fieldAccesses config address field (windows field)),
      event.isControl = false := by
    intro event member
    obtain ⟨field, _, written⟩ := List.mem_flatMap.mp member
    exact fieldAccesses_plain config address field (windows field) event written
  have first : 0x0414 ∈ controlCodes := by decide
  have second : 0x3672 ∈ controlCodes := by decide
  have reset : 0x0041 ∈ controlCodes := by decide
  rw [openAccesses, List.append_assoc, List.append_assoc, List.append_assoc]
  apply Whole.issued first true
  apply Whole.issued second true
  apply Whole.other rfl
  apply Whole.plain_append fields
  apply Whole.issued reset true
  exact .other rfl .nil

theorem openAccesses_prompt (config : Config) (address : UInt8) (windows : Field → Window) :
    Prompt (openAccesses config address windows) := prompt_cons rfl

theorem sealAccesses_prompt (address : UInt8) : Prompt (sealAccesses address) := prompt_cons rfl

theorem Course.whole {config : Config} {address : UInt8} {events : List Event}
    {result : Except Error Unit} (course : Course config address events result) :
    Whole address events ∧ Prompt events := by
  have sealing : Whole address (sealAccesses address) := controlAccesses_whole (by decide)
  cases course with
  | sealing sealed =>
    have last := sealed.prompt (sealAccesses_prompt address)
    exact ⟨(openAccesses_whole config address _).append (sealed.whole sealing) last,
      (openAccesses_prompt config address _).append last⟩
  | abandoned opened resealed =>
    have first := opened.whole (openAccesses_whole config address _)
    have last := resealed.prompt (sealAccesses_prompt address)
    exact ⟨first.append (resealed.whole sealing) last,
      (opened.prompt (openAccesses_prompt config address _)).append last⟩

end Calibration

namespace Gauge

theorem Asking.whole {address : UInt8} {events : List Event} (asking : Asking address events) :
    Whole address (traffic events) := by
  rcases asking with silent | ⟨code, listed, low, high, _, follows⟩
  · rw [silent]
    exact .nil
  · have known : code ∈ controlCodes := by
      simp only [List.mem_cons, List.not_mem_nil, or_false] at listed
      rcases listed with rfl | rfl | rfl <;> decide
    exact follows.whole (.issued known true (.other rfl .nil))

theorem Fetching.whole {address : UInt8} {events : List Event}
    (fetching : Fetching address events) :
    Whole address (traffic events) ∧ Prompt (traffic events) := by
  constructor
  · rw [← List.append_nil (traffic events)]
    apply Whole.plain_append _ .nil
    intro event member
    obtain ⟨channel, answer, rfl⟩ := fetching event member
    rfl
  · intro event first
    obtain ⟨channel, answer, rfl⟩ := fetching event (List.mem_of_mem_head? first)
    rfl

theorem Command.whole {β : Type} [Bus β] (command : Command) (gauge : Gauge) (bus : β) :
    Whole gauge.address (traffic (command.action.run gauge.address gauge bus).events) := by
  obtain ⟨opening, closing, parts⟩ := command.parts gauge bus
  have asked := parts.asking.whole
  obtain ⟨fetched, readPrompt⟩ := parts.fetching.whole
  rw [parts.events, traffic_append, traffic_append]
  cases made : command.calibration? gauge bus with
  | none =>
    rw [Option.elim_none, traffic_nil, List.append_nil]
    exact asked.append fetched readPrompt
  | some run =>
    obtain ⟨before, rfl⟩ := Command.calibration?_eq _ _ made
    obtain ⟨ran, runPrompt⟩ :=
      (Calibration.run_course gauge.config gauge.address {} before).whole
    exact (asked.append ran runPrompt).append fetched readPrompt

end Gauge

end FuelGauge
