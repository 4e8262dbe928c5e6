import FuelGauge.Proofs.Calibration.Lockstep

/-!
Checksums that are read back, in the accesses of a calibration. Each is read just after
it was committed; what is left without these reads, and the delays that come before
them, are the accesses of a calibration that does not look.
-/

namespace FuelGauge

open Flash (Field)

def Event.isReadBack : Event → Bool
  | .read _ register _ _ => register = 0x60
  | _ => false

/-- The accesses of a calibration that reads its checksums back and finds what it
committed, and what is left of them if it does not. -/
inductive WithoutReadBacks : List Event → List Event → Prop
  | nil : WithoutReadBacks [] []
  | readBack (address committed : UInt8) {seen kept : List Event}
      (rest : WithoutReadBacks seen kept) :
      WithoutReadBacks
        (.write address 0x60 committed true :: .delay 5000000 ::
          .read address 0x60 1 (some [committed]) :: seen)
        (.write address 0x60 committed true :: kept)
  | other {event : Event} (plain : event.isReadBack = false) {seen kept : List Event}
      (rest : WithoutReadBacks seen kept) : WithoutReadBacks (event :: seen) (event :: kept)

/-- A checksum that was committed for a field, and what was found when it was read back.
The subclass selected last tells the field. -/
structure ReadBack (accesses : List Event) (address : UInt8) (field : Field) (committed : UInt8)
    (answer : Option UInt8) (early later : List Event) : Prop where
  selected : lastWritten 0x3E early = some field.subclass
  split : accesses = early ++ .write address 0x60 committed true :: .delay 5000000 ::
    .read address 0x60 1 (answer.map fun found => [found]) :: later

theorem ReadBack.extend {accesses early later : List Event} {address committed : UInt8}
    {field : Field} {answer : Option UInt8}
    (found : ReadBack accesses address field committed answer early later)
    (further : List Event) :
    ReadBack (accesses ++ further) address field committed answer early (later ++ further) where
  selected := found.selected
  split := by simp only [found.split, List.append_assoc, List.cons_append]

theorem write_after_readBack {address register value place : UInt8} {accepted : Bool}
    {answer : Option (List UInt8)} {rest earlier later : List Event}
    (split : .delay 5000000 :: .read address 0x60 1 answer :: rest =
      earlier ++ .write place register value accepted :: later) :
    ∃ inner, earlier = .delay 5000000 :: .read address 0x60 1 answer :: inner ∧
      rest = inner ++ .write place register value accepted :: later := by
  rcases cons_eq_around split with ⟨_, same, _⟩ | ⟨inner, rfl, afterDelay⟩
  · cases same
  · rcases cons_eq_around afterDelay with ⟨_, same, _⟩ | ⟨inner, rfl, afterRead⟩
    · cases same
    · exact ⟨inner, rfl, afterRead⟩

namespace WithoutReadBacks

variable {seen kept later left early : List Event}

theorem append (first : WithoutReadBacks seen kept) (second : WithoutReadBacks later left) :
    WithoutReadBacks (seen ++ later) (kept ++ left) := by
  induction first with
  | nil => exact second
  | readBack address committed _ ih => exact .readBack address committed ih
  | other plain _ ih => exact .other plain ih

theorem of_plain (plain : ∀ event ∈ seen, event.isReadBack = false) :
    WithoutReadBacks seen seen := by
  induction seen with
  | nil => exact .nil
  | cons event rest ih =>
    obtain ⟨first, others⟩ := List.forall_mem_cons.mp plain
    exact .other first (ih others)

theorem not_alone {address : UInt8} {answer : Option (List UInt8)} :
    ¬ WithoutReadBacks (.delay 5000000 :: .read address 0x60 1 answer :: later) kept := by
  intro without
  cases without with
  | other _ rest =>
    cases rest with
    | other plain _ => cases plain

theorem confirmed (without : WithoutReadBacks seen kept) {address committed : UInt8}
    {answer : Option (List UInt8)}
    (split : seen = early ++ .write address 0x60 committed true :: .delay 5000000 ::
      .read address 0x60 1 answer :: later) : answer = some [committed] := by
  induction without generalizing early with
  | nil => simp at split
  | other plain rest ih =>
    rcases cons_eq_around split with ⟨rfl, same, rfl⟩ | ⟨inner, rfl, restSplit⟩
    · exact absurd rest not_alone
    · exact ih restSplit
  | readBack place byte rest ih =>
    rcases cons_eq_around split with ⟨rfl, same, tail⟩ | ⟨inner, rfl, afterCommit⟩
    · cases same
      cases tail
      rfl
    · obtain ⟨inner, rfl, afterRead⟩ := write_after_readBack afterCommit
      exact ih afterRead

theorem all_answered (without : WithoutReadBacks seen kept) {address : UInt8} :
    .read address 0x60 1 none ∉ seen := by
  induction without with
  | nil => exact List.not_mem_nil
  | readBack address committed _ ih => simpa using ih
  | other plain _ ih =>
    intro member
    rcases List.mem_cons.mp member with rfl | later
    · cases plain
    · exact ih later

theorem or_last (without : WithoutReadBacks early kept)
    (plain : ∀ event ∈ later, event.isReadBack = false) {address committed other place : UInt8}
    {answer found : Option (List UInt8)} {before after : List Event}
    (split : early ++ .write address 0x60 committed true :: .delay 5000000 ::
        .read address 0x60 1 answer :: later =
      before ++ .write place 0x60 other true :: .delay 5000000 ::
        .read place 0x60 1 found :: after) :
    found = some [other] ∨ found = answer := by
  rcases append_eq_around split with ⟨rest, earlySplit, tail⟩ | ⟨inner, rfl, tail⟩
  · -- It was committed before the last one, so it was read back before that as well.
    obtain ⟨inner, rfl, _⟩ := write_after_readBack tail
    exact .inl (without.confirmed earlySplit)
  · rcases cons_eq_around tail with ⟨rfl, same, rest⟩ | ⟨inner, rfl, afterCommit⟩
    · cases same
      cases rest
      exact .inr rfl
    · obtain ⟨inner, rfl, rfl⟩ := write_after_readBack afterCommit
      have back := plain (.read place 0x60 1 found) (by simp)
      cases back

end WithoutReadBacks

theorem Deviates.isReadBack {event found : Event} {error : Error}
    (deviates : Deviates event found error) (plain : event.isReadBack = false) :
    found.isReadBack = false := by
  cases deviates with
  | write => rfl
  | read => exact plain
  | mismatch => cases plain

theorem Follows.bus_of_plain {α : Type} {expected seen : List Event} {error : Error}
    (follows : Follows expected seen (.error error : Except Error α))
    (plain : ∀ event ∈ expected, event.isReadBack = false) : error = .bus := by
  cases follows with
  | @deviated done rest event found error split deviates =>
    have expectedPlain : event.isReadBack = false := by
      rw [split] at plain
      exact plain event (List.mem_append_right _ List.mem_cons_self)
    cases deviates with
    | write => rfl
    | read => rfl
    | mismatch => cases expectedPlain

namespace Calibration

variable {address : UInt8}

/-! A script that reads nothing back. -/

/-- Nothing of it reads a checksum back, so nothing but the bus can fail. -/
structure Plain {β : Type} (outcome : Action.Outcome β Progress Unit) : Prop where
  error : ∀ error, outcome.result = .error error → error = .bus
  events : ∀ event ∈ traffic outcome.events, event.isReadBack = false

namespace Plain

variable {β : Type}

theorem blameless {outcome : Action.Outcome β Progress Unit} (plain : Plain outcome) :
    outcome.result ≠ .error .checksumMismatch := by
  intro blamed
  cases plain.error _ blamed

theorem of_follows {outcome : Action.Outcome β Progress Unit} {expected : List Event}
    (follows : outcome.Follows expected)
    (plain : ∀ event ∈ expected, event.isReadBack = false) : Plain outcome where
  error := by
    intro error ended
    rw [Action.Outcome.Follows, ended] at follows
    exact follows.bus_of_plain plain
  events := follows.forall_mem Deviates.isReadBack plain

variable [Bus β] {progress : Progress} {bus : β}

theorem bind {action rest : Action Progress Unit} (first : Plain (action.run address progress bus))
    (second : ∀ (progress : Progress) (bus : β), Plain (rest.run address progress bus)) :
    Plain ((do action; rest).run address progress bus) := by
  simp only [Action.run_bind]
  cases ended : (action.run address progress bus).result with
  | error error =>
    refine ⟨?_, first.events⟩
    intro other same
    exact first.error other (ended.trans same)
  | ok done =>
    have later := second (action.run address progress bus).state
      (action.run address progress bus).bus
    refine ⟨later.error, ?_⟩
    simp only [Action.Outcome.after, traffic_append, List.forall_mem_append]
    exact ⟨first.events, later.events⟩

end Plain

section

variable {β : Type} [Bus β] (progress : Progress) (bus : β)

theorem perform_plain {instruction : Instruction} (plain : instruction.readsBack = false) :
    Plain (instruction.perform.run address progress bus) := by
  by_cases reading : instruction = .readWindow
  · subst reading
    simp only [run_readWindow]
    cases (Bus.read bus address Register.blockData Flash.blockLength).1 with
    | none => exact .of_follows (.alone (.read address 0x40 32 [])) (by simp [Event.isReadBack])
    | some window =>
      refine ⟨?_, ?_⟩
      · intro error ended
        cases ended
      · simp [traffic_read, traffic_nil, Event.isReadBack]
  · apply Plain.of_follows (perform_follows address progress bus instruction reading)
    cases instruction with
    | verify field => cases plain
    | _ => simp [Instruction.accesses, controlAccesses, Event.isReadBack]

theorem execute_plain {script : List Instruction}
    (plain : ∀ instruction ∈ script, instruction.readsBack = false) :
    Plain ((execute script).run address progress bus) := by
  induction script generalizing progress bus with
  | nil =>
    have nothing : ((execute []).run address progress bus).Follows [] := .completed ()
    exact .of_follows nothing (List.forall_mem_nil _)
  | cons instruction rest ih =>
    obtain ⟨first, others⟩ := List.forall_mem_cons.mp plain
    exact (perform_plain progress bus first).bind fun progress bus => ih progress bus others

end

theorem conclude_plain {β : Type} [Bus β] (config : Config) (result : Except Error Unit)
    (address : UInt8) (progress : Progress) (bus : β) :
    let concluded := (conclude config result).run address progress bus
    (result ≠ .error .checksumMismatch → concluded.result ≠ .error .checksumMismatch) ∧
      ∀ event ∈ traffic concluded.events, event.isReadBack = false := by
  cases result with
  | error error =>
    have sealing := (Plain.of_follows (Transfer.issue_follows address progress bus .seal)
      (by simp [controlAccesses, Event.isReadBack])).events
    simp only [conclude, run_abandon]
    refine ⟨id, ?_⟩
    cases ((Transfer.issue .seal).run address progress bus).result with
    | ok done => simpa [traffic_log, traffic_nil] using sealing
    | error refusal => simpa [traffic_log, traffic_append, traffic_nil] using sealing
  | ok done =>
    have sealed : Plain ((execute sealScript).run address progress bus) :=
      execute_plain progress bus (by decide)
    have concluded : Plain ((conclude config (.ok done)).run address progress bus) := by
      refine sealed.bind fun progress bus => ⟨?_, List.forall_mem_nil _⟩
      intro error ended
      cases ended
    exact ⟨fun _ => concluded.blameless, concluded.events⟩

end Calibration
end FuelGauge
