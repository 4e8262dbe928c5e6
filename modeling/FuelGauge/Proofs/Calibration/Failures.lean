import FuelGauge.Proofs.Calibration.Course

/-!
How a calibration fails. Either an access was refused, or none was and the last
one shows another checksum than the one that was committed just before.
-/

namespace FuelGauge

variable {α γ : Type} {address : UInt8} {first rest earlier later : List Event}
  {failed found : Event} {expected seen : List Event} {error : Error}

def Accepted (events : List Event) : Prop := ∀ event ∈ events, event.isFailure = false

theorem accepted_nil : Accepted [] := by simp [Accepted]

theorem accepted_append : Accepted (first ++ rest) ↔ Accepted first ∧ Accepted rest :=
  List.forall_mem_append

theorem Accepted.not_failed {event : Event} (accepted : Accepted first) (member : event ∈ first)
    (failure : event.isFailure = true) : False := by
  rw [accepted event member] at failure
  cases failure

theorem Accepted.around (accepted : Accepted first) (failure : failed.isFailure = true)
    (split : first ++ rest = earlier ++ failed :: later) :
    ∃ inner, earlier = first ++ inner ∧ rest = inner ++ failed :: later := by
  rcases append_eq_around split with ⟨tail, rfl, _⟩ | around
  · have member : failed ∈ earlier ++ failed :: tail := List.mem_append_right _ List.mem_cons_self
    exact (accepted.not_failed member failure).elim
  · exact around

theorem Accepted.first_failure_unique (accepted : Accepted first)
    (before : Accepted earlier) (failure : failed.isFailure = true)
    (refused : found.isFailure = true)
    (split : first ++ found :: rest = earlier ++ failed :: later) :
    earlier = first ∧ failed = found ∧ later = rest := by
  obtain ⟨inner, rfl, second⟩ := accepted.around failure split
  rcases cons_eq_around second with ⟨rfl, rfl, rfl⟩ | ⟨tail, rfl, _⟩
  · exact ⟨List.append_nil first, rfl, rfl⟩
  · have member : found ∈ first ++ found :: tail := List.mem_append_right _ List.mem_cons_self
    exact (before.not_failed member refused).elim

theorem Deviates.isFailure {event : Event} (deviates : Deviates event found error) :
    found.isFailure = error.isTransport := by
  cases deviates <;> rfl

/-- A run that fails ends with a refused access, unless a checksum is to blame. -/
theorem Follows.last_of_error (follows : Follows expected seen (.error error : Except Error α))
    (accepted : Accepted expected) :
    ∃ done found, seen = done ++ [found] ∧ Accepted done ∧
      found.isFailure = error.isTransport := by
  cases follows with
  | deviated split deviates =>
    rw [split, accepted_append] at accepted
    exact ⟨_, _, rfl, accepted.1, deviates.isFailure⟩

theorem controlAccesses_accepted (address : UInt8) (word : UInt16) :
    Accepted (controlAccesses address word) := by
  simp [Accepted, controlAccesses, Event.isFailure]

theorem queryAccesses_accepted (address : UInt8) (word : UInt16) (low high : UInt8) :
    Accepted (queryAccesses address word low high) :=
  accepted_append.mpr ⟨controlAccesses_accepted address word, by simp [Accepted, Event.isFailure]⟩

/-! Checksums that are read back. -/

/-- A checksum was committed, and the byte read back next is another one. Nothing
was refused until then. -/
def ShowsMismatch (address : UInt8) (accesses : List Event) : Prop :=
  ∃ (before : List Event) (committed found : UInt8), found ≠ committed ∧ Accepted before ∧
    before ++ [.write address 0x60 committed true, .delay 5000000,
      .read address 0x60 1 (some [found])] <+: accesses

theorem ShowsMismatch.after (shown : ShowsMismatch address seen) (accepted : Accepted first)
    (further : List Event) : ShowsMismatch address (first ++ seen ++ further) := by
  obtain ⟨before, committed, found, different, clean, start⟩ := shown
  refine ⟨first ++ before, committed, found, different, accepted_append.mpr ⟨accepted, clean⟩, ?_⟩
  rw [List.append_assoc, List.append_assoc]
  exact (List.prefix_append_right_inj first).mpr (start.trans (List.prefix_append ..))

/-- Wherever a checksum is read back, it was committed just before. -/
def ReadsBack (config : Config) (address : UInt8) (events : List Event) : Prop :=
  ∀ earlier place committed later,
    events = earlier ++ .read place 0x60 1 (some [committed]) :: later →
    config.verifyChecksum = true ∧ place = address ∧
      ∃ before, earlier = before ++ [.write address 0x60 committed true, .delay 5000000]

section

variable {config : Config}

theorem ReadsBack.append (firstBack : ReadsBack config address first)
    (restBack : ReadsBack config address rest) : ReadsBack config address (first ++ rest) := by
  intro earlier place committed later split
  rcases append_eq_around split with ⟨tail, early, _⟩ | ⟨inner, rfl, late⟩
  · exact firstBack _ _ _ _ early
  · obtain ⟨asked, same, before, rfl⟩ := restBack _ _ _ _ late
    exact ⟨asked, same, first ++ before, by rw [List.append_assoc]⟩

theorem readsBack_of_none
    (none : ∀ place committed, .read place 0x60 1 (some [committed]) ∉ first) :
    ReadsBack config address first := by
  rintro earlier place committed later rfl
  exact absurd (List.mem_append_right _ List.mem_cons_self) (none place committed)

theorem controlAccesses_readsBack (word : UInt16) :
    ReadsBack config address (controlAccesses address word) :=
  readsBack_of_none (by simp [controlAccesses])

end

namespace Calibration

open Flash (Field Window)

variable (config : Config) (address : UInt8) (windows : Field → Window)

theorem commitAccesses_readsBack (window : Window) :
    ReadsBack config address (commitAccesses config address window) := by
  cases asked : config.verifyChecksum with
  | false =>
    apply readsBack_of_none
    simp [commitAccesses, asked]
  | true =>
    let shown : List Event := [.read address 0x40 32 (some window.toList), .delay 5000000]
    let commit : List Event :=
      [.write address 0x60 (Flash.complement window.toList) true, .delay 5000000]
    have parts : commitAccesses config address window =
        (shown ++ commit) ++ [.read address 0x60 1 (some [Flash.complement window.toList])] := by
      simp [commitAccesses, asked, shown, commit]
    intro earlier place committed later split
    rw [parts] at split
    -- The read that ends the accesses of a field is the only one of its kind.
    obtain ⟨rfl, same, _⟩ := (List.append_cons_inj_of_notMem
      (by simp [shown, commit]) List.not_mem_nil).mp split
    obtain ⟨rfl, rfl⟩ : address = place ∧ Flash.complement window.toList = committed := by
      simpa using same
    exact ⟨asked, rfl, shown, rfl⟩

theorem fieldAccesses_readsBack (field : Field) (window : Window) :
    ReadsBack config address (fieldAccesses config address field window) := by
  rw [fieldAccesses_eq]
  have writes : ReadsBack config address (writeAccesses config address field) :=
    readsBack_of_none (by simp [writeAccesses])
  exact writes.append (commitAccesses_readsBack config address window)

theorem openAccesses_readsBack :
    ReadsBack config address (openAccesses config address windows) := by
  have control : ReadsBack config address [.write address 0x61 0x00 true] :=
    readsBack_of_none (by simp)
  have waiting : ReadsBack config address [.delay 100000000] := readsBack_of_none (by simp)
  have field (field : Field) := fieldAccesses_readsBack config address field (windows field)
  simp only [openAccesses, List.flatMap_cons, List.flatMap_nil, List.append_nil]
  have keys := ((controlAccesses_readsBack 0x0414).append
    (controlAccesses_readsBack 0x3672)).append control
  have fields := (field .designCapacity).append
    ((field .terminateVoltage).append (field .finalVoltage))
  exact (keys.append fields).append ((controlAccesses_readsBack 0x0041).append waiting)

theorem fieldAccesses_accepted (field : Field) (window : Window) :
    Accepted (fieldAccesses config address field window) := by
  have writes : Accepted (writeAccesses config address field) := by
    simp [writeAccesses, Accepted, Event.isFailure]
  exact forall_mem_fieldAccesses writes rfl rfl rfl rfl

theorem openAccesses_accepted : Accepted (openAccesses config address windows) :=
  forall_mem_openAccesses (fun word _ => controlAccesses_accepted address word) rfl
    (fun field => fieldAccesses_accepted config address field _) rfl

variable {config address windows}

theorem mismatch_shown {seen : List Event}
    (opened : Follows (openAccesses config address windows) seen
      (.error .checksumMismatch : Except Error Unit)) :
    config.verifyChecksum = true ∧ Accepted seen ∧ ShowsMismatch address seen := by
  have accepted := openAccesses_accepted config address windows
  cases opened with
  | @deviated done rest event found error split deviates =>
    rw [split, accepted_append] at accepted
    cases deviates with
    | @mismatch place committed found different =>
      obtain ⟨asked, rfl, before, rfl⟩ :=
        openAccesses_readsBack config address windows _ _ _ _ split
      refine ⟨asked, accepted_append.mpr ⟨accepted.1, by simp [Accepted, Event.isFailure]⟩, ?_⟩
      refine ⟨before, committed, found, different, (accepted_append.mp accepted.1).1, ?_⟩
      rw [List.append_assoc]
      exact List.prefix_rfl

theorem seal_failure {last : List Event} {ending : Except Error Unit}
    (sealing : Follows (sealAccesses address) last ending)
    (split : last = earlier ++ failed :: later) (failure : failed.isFailure = true) :
    failed ∈ [.write address 0x00 0x20 false, .write address 0x01 0x00 false] ∧ later = [] := by
  rcases sealing.control_cases with ⟨complete, _⟩ | ⟨_, rfl | rfl⟩
  · have accepted := controlAccesses_accepted address 0x0020
    rw [← complete, split] at accepted
    exact (accepted.not_failed (List.mem_append_right _ List.mem_cons_self) failure).elim
  · rcases cons_eq_around split with ⟨_, rfl, rfl⟩ | ⟨_, _, impossible⟩
    · exact ⟨List.mem_cons_self, rfl⟩
    · simp at impossible
  · have waiting : Accepted [.write address 0x00 0x20 true, .delay 5000000] := by
      simp [Accepted, Event.isFailure]
    obtain ⟨inner, _, high⟩ := waiting.around failure split
    rcases cons_eq_around high with ⟨_, rfl, rfl⟩ | ⟨_, _, impossible⟩
    · exact ⟨List.mem_cons_of_mem _ List.mem_cons_self, rfl⟩
    · simp at impossible

end Calibration

end FuelGauge
