import FuelGauge.Action

/-!
What an action does on the bus when every access succeeds, against what it was
seen to do. A run follows the expected events up to the first access that turns
out differently; there it ends, with the error that this access stands for.
-/

namespace FuelGauge

theorem traffic_nil : traffic [] = [] := rfl

theorem traffic_log (record : Log.Record) (rest : List Event) :
    traffic (.log record :: rest) = traffic rest := rfl

theorem traffic_read (address register : UInt8) (length : Nat) (answer : Option (List UInt8))
    (rest : List Event) :
    traffic (.read address register length answer :: rest) =
      .read address register length answer :: traffic rest := rfl

theorem forall_mem_traffic {P : Event → Prop} (silent : ∀ record, P (.log record))
    {events : List Event} : (∀ event ∈ traffic events, P event) ↔ ∀ event ∈ events, P event := by
  constructor
  · intro holds event member
    cases event with
    | log record => exact silent record
    | _ => exact holds _ (List.mem_filter.mpr ⟨member, rfl⟩)
  · intro holds event member
    exact holds event (List.mem_filter.mp member).1

theorem append_eq_around {first second earlier later : List Event} {event : Event}
    (same : first ++ second = earlier ++ event :: later) :
    (∃ rest, first = earlier ++ event :: rest ∧ later = rest ++ second) ∨
      ∃ inner, earlier = first ++ inner ∧ second = inner ++ event :: later := by
  rcases List.append_eq_append_iff.mp same with ⟨inner, earlier_eq, second_eq⟩ |
    ⟨rest, first_eq, later_eq⟩
  · exact Or.inr ⟨inner, earlier_eq, second_eq⟩
  · cases rest with
    | nil =>
      rw [List.append_nil] at first_eq
      exact Or.inr ⟨[], by rw [first_eq, List.append_nil], later_eq.symm⟩
    | cons head tail =>
      obtain ⟨rfl, tail_eq⟩ := List.cons.inj later_eq
      exact Or.inl ⟨tail, first_eq, tail_eq⟩

theorem cons_eq_around {first event : Event} {rest earlier later : List Event}
    (same : first :: rest = earlier ++ event :: later) :
    (earlier = [] ∧ event = first ∧ later = rest) ∨
      ∃ inner, earlier = first :: inner ∧ rest = inner ++ event :: later := by
  cases earlier with
  | nil =>
    obtain ⟨first_eq, rest_eq⟩ := List.cons.inj same
    exact Or.inl ⟨rfl, first_eq.symm, rest_eq.symm⟩
  | cons head inner =>
    obtain ⟨first_eq, rest_eq⟩ := List.cons.inj same
    exact Or.inr ⟨inner, by rw [first_eq], rest_eq⟩

/-- An access seen in place of the expected one, and the error it means. -/
inductive Deviates : Event → Event → Error → Prop
  | write (address register value : UInt8) :
      Deviates (.write address register value true) (.write address register value false) .bus
  | read (address register : UInt8) (length : Nat) (answer : List UInt8) :
      Deviates (.read address register length (some answer)) (.read address register length none)
        .bus
  /-- A checksum was committed, and the gauge shows another one. -/
  | mismatch (address : UInt8) {committed found : UInt8} (different : found ≠ committed) :
      Deviates (.read address 0x60 1 (some [committed])) (.read address 0x60 1 (some [found]))
        .checksumMismatch

variable {σ τ α γ β : Type}

inductive Follows (expected : List Event) : List Event → Except Error α → Prop
  | completed (value : α) : Follows expected expected (.ok value)
  | deviated {done rest : List Event} {event found : Event} {error : Error}
      (split : expected = done ++ event :: rest) (deviates : Deviates event found error) :
      Follows expected (done ++ [found]) (.error error)

namespace Follows

theorem alone {event found : Event} {error : Error} (deviates : Deviates event found error) :
    Follows [event] [found] (.error error : Except Error α) := by
  have split : [event] = [] ++ event :: [] := rfl
  exact .deviated split deviates

variable {expected further seen later : List Event} {error : Error}

theorem append {value : α} {result : Except Error γ} (first : Follows expected seen (.ok value))
    (second : Follows further later result) :
    Follows (expected ++ further) (seen ++ later) result := by
  cases first with
  | completed =>
    cases second with
    | completed last => exact .completed last
    | deviated split deviates =>
      rw [← List.append_assoc]
      exact .deviated (by rw [split, List.append_assoc]) deviates

theorem append_expected (first : Follows expected seen (.error error : Except Error α))
    (further : List Event) :
    Follows (expected ++ further) seen (.error error : Except Error γ) := by
  cases first with
  | deviated split deviates =>
    exact .deviated (by rw [split, List.append_assoc, List.cons_append]) deviates

theorem seen_eq {value : α} (follows : Follows expected seen (.ok value)) : seen = expected := by
  cases follows with
  | completed => rfl

theorem of_append {result : Except Error α} (follows : Follows (expected ++ further) seen result) :
    (∃ error, result = .error error ∧
        Follows expected seen (.error error : Except Error Unit)) ∨
      ∃ later, seen = expected ++ later ∧ Follows further later result := by
  cases follows with
  | completed value => exact Or.inr ⟨further, rfl, .completed value⟩
  | @deviated done rest event found error split deviates =>
    -- A deviation at the very end of the first part is none of the second.
    rcases append_eq_around split with ⟨tail, expected_eq, _⟩ | ⟨inner, done_eq, further_eq⟩
    · exact Or.inl ⟨error, rfl, .deviated expected_eq deviates⟩
    · refine Or.inr ⟨inner ++ [found], ?_, .deviated further_eq deviates⟩
      rw [done_eq, List.append_assoc]

theorem of_single {event : Event} {result : Except Error α}
    (follows : Follows [event] seen result) :
    (seen = [event] ∧ ∃ value, result = .ok value) ∨
      ∃ found error, seen = [found] ∧ result = .error error ∧ Deviates event found error := by
  cases follows with
  | completed value => exact Or.inl ⟨rfl, value, rfl⟩
  | @deviated done rest other found error split deviates =>
    have alone : done = [] ∧ rest = [] ∧ event = other := by
      cases done with
      | nil =>
        obtain ⟨same, ended⟩ := List.cons.inj split
        exact ⟨rfl, ended.symm, same⟩
      | cons head tail => simp at split
    obtain ⟨rfl, rfl, rfl⟩ := alone
    exact Or.inr ⟨found, error, rfl, rfl, deviates⟩

theorem error_cases (follows : Follows expected seen (.error error : Except Error α)) :
    error = .bus ∨ error = .checksumMismatch := by
  cases follows with
  | deviated split deviates => cases deviates <;> simp

theorem cons_cases {event : Event} {result : Except Error α}
    (follows : Follows (event :: expected) seen result) :
    (∃ later, seen = event :: later ∧ Follows expected later result) ∨
      ∃ found error, seen = [found] ∧ result = .error error ∧ Deviates event found error := by
  have parts : event :: expected = [event] ++ expected := rfl
  rw [parts] at follows
  rcases follows.of_append with ⟨error, failed, alone⟩ | ⟨later, seen_eq, rest⟩
  · rcases alone.of_single with ⟨_, _, impossible⟩ | ⟨found, other, seen_eq, same, deviates⟩
    · cases impossible
    · cases same
      exact Or.inr ⟨found, error, seen_eq, failed, deviates⟩
  · exact Or.inl ⟨later, seen_eq, rest⟩

/-- What holds of all expected events holds of all that were seen, if a deviation
does not affect it. -/
theorem forall_mem {P : Event → Prop} {result : Except Error α}
    (follows : Follows expected seen result)
    (stable : ∀ {event found error}, Deviates event found error → P event → P found)
    (holds : ∀ event ∈ expected, P event) : ∀ event ∈ seen, P event := by
  cases follows with
  | completed value => exact holds
  | @deviated done rest event found error split deviates =>
    rw [split, List.forall_mem_append] at holds
    obtain ⟨early, rest⟩ := holds
    rw [List.forall_mem_append]
    refine ⟨early, ?_⟩
    intro other member
    rw [List.mem_singleton.mp member]
    exact stable deviates (rest event List.mem_cons_self)

end Follows

theorem map_eq_error {result : Except Error α} {change : α → γ} {error : Error} :
    result.map change = .error error ↔ result = .error error := by
  cases result <;> simp [Except.map]

namespace Action

/-- The traffic of an outcome, and whether it failed, are as expected. -/
abbrev Outcome.Follows (outcome : Outcome β σ α) (expected : List Event) : Prop :=
  FuelGauge.Follows expected (traffic outcome.events) outcome.result

variable [Bus β] {address : UInt8} {state : σ} {bus : β} {expected further : List Event}

theorem follows_bind {action : Action σ α} {rest : α → Action σ γ}
    (first : (action.run address state bus).Follows expected)
    (second : ∀ value, (action.run address state bus).result = .ok value →
      ((rest value).run address (action.run address state bus).state
        (action.run address state bus).bus).Follows further) :
    ((action >>= rest).run address state bus).Follows (expected ++ further) := by
  simp only [Outcome.Follows, run_bind] at *
  cases ended : (action.run address state bus).result with
  | ok value =>
    -- Only now is it known that the second action runs at all.
    rw [ended] at first
    simp only [Outcome.after, traffic_append]
    exact first.append (second value ended)
  | error error =>
    rw [ended] at first
    exact first.append_expected further

theorem run_map (change : α → γ) (action : Action σ α) (address : UInt8) (state : σ) (bus : β) :
    (change <$> action).run address state bus =
      let outcome := action.run address state bus
      ⟨outcome.result.map change, outcome.state, outcome.bus, outcome.events⟩ := by
  have unfolded : change <$> action = action >>= fun value => pure (change value) := rfl
  simp only [unfolded, run_bind, run_pure]
  cases (action.run address state bus).result with
  | ok value => simp [Outcome.after, Except.map]
  | error error => rfl

theorem state_bind {action : Action σ α} {rest : α → Action σ γ}
    (first : (action.run address state bus).state = state)
    (second : ∀ value (bus : β), ((rest value).run address state bus).state = state) :
    ((action >>= rest).run address state bus).state = state := by
  simp only [run_bind]
  cases (action.run address state bus).result with
  | ok value =>
    rw [first]
    exact second value _
  | error error => exact first

theorem follows_write (register value : UInt8) :
    ((write register value : Action σ Unit).run address state bus).Follows
      [.write address register value true] := by
  simp only [Outcome.Follows, run_write]
  cases (Bus.write bus address register value).1 with
  | true => exact .completed ()
  | false => exact .alone (.write address register value)

theorem follows_delay (nanoseconds : Nat) :
    ((delay nanoseconds : Action σ Unit).run address state bus).Follows [.delay nanoseconds] :=
  .completed ()

end Action

end FuelGauge
