import FuelGauge.Proofs.Calibration.Reference

/-!
A script as a ledger: every access that it makes when all goes well, under the phase
that makes it. A script that fails has followed its ledger up to one access, and
leaves the phase under which this access stands.
-/

namespace FuelGauge.Calibration

open Flash (Field Window)

/-- What a script does when every access succeeds. Each read of the window takes
the next one of those that are given. -/
def ledger (address : UInt8) :
    List Instruction → Progress → (Nat → Window) → List (Phase × Event)
  | [], _, _ => []
  | .enter phase :: rest, progress, windows => ledger address rest { progress with phase } windows
  | .readWindow :: rest, progress, windows =>
      (progress.phase, .read address 0x40 32 (some (windows 0).toList)) ::
        ledger address rest { progress with checksum := (windows 0).checksum }
          fun index => windows (index + 1)
  | instruction :: rest, progress, windows =>
      (instruction.accesses address progress.checksum).map (progress.phase, ·) ++
        ledger address rest progress windows

def shownFirst (window : Window) (windows : Nat → Window) : Nat → Window
  | 0 => window
  | index + 1 => windows index

/-- The ledger was followed, to its end or up to an access that turned out
differently; the phase is then the one of this access. -/
inductive Located (ledger : List (Phase × Event)) :
    List Event → Except Error Unit → Phase → Prop
  | completed (phase : Phase) : Located ledger (ledger.map Prod.snd) (.ok ()) phase
  | deviated {done rest : List (Phase × Event)} {phase : Phase} {event found : Event}
      {error : Error} (split : ledger = done ++ (phase, event) :: rest)
      (deviates : Deviates event found error) :
      Located ledger (done.map Prod.snd ++ [found]) (.error error) phase

namespace Located

variable {first second : List (Phase × Event)} {seen later : List Event}
  {result : Except Error Unit} {error : Error} {phase last : Phase}

theorem of_follows {accesses : List Event} (follows : Follows accesses seen result)
    (phase : Phase) : Located (accesses.map (phase, ·)) seen result phase := by
  have unlabelled (events : List Event) :
      (events.map fun event => (phase, event)).map Prod.snd = events := by
    rw [List.map_map]
    exact List.map_id events
  cases follows with
  | completed =>
    have complete : Located (seen.map (phase, ·)) _ (.ok ()) phase := .completed phase
    rwa [unlabelled] at complete
  | @deviated done rest event found error split deviates =>
    have listed : accesses.map (phase, ·) =
        done.map (phase, ·) ++ (phase, event) :: rest.map (phase, ·) := by
      rw [split, List.map_append, List.map_cons]
    have located := Located.deviated listed deviates
    rwa [unlabelled] at located

theorem append (located : Located first seen (.ok ()) phase)
    (further : Located second later result last) :
    Located (first ++ second) (seen ++ later) result last := by
  cases located with
  | completed =>
    cases further with
    | completed =>
      rw [← List.map_append]
      exact .completed last
    | deviated split deviates =>
      rw [← List.append_assoc, ← List.map_append]
      exact .deviated (by rw [split, List.append_assoc]) deviates

theorem append_ledger (located : Located first seen (.error error) phase)
    (second : List (Phase × Event)) : Located (first ++ second) seen (.error error) phase := by
  cases located with
  | deviated split deviates =>
    exact .deviated (by rw [split, List.append_assoc, List.cons_append]) deviates

theorem follows (located : Located first seen result phase) :
    Follows (first.map Prod.snd) seen result := by
  cases located with
  | completed => exact .completed ()
  | deviated split deviates =>
    exact .deviated (by rw [split, List.map_append, List.map_cons]) deviates

end Located

abbrev Locates {β : Type} (ledger : List (Phase × Event))
    (outcome : Action.Outcome β Progress Unit) : Prop :=
  Located ledger (traffic outcome.events) outcome.result outcome.state.phase

variable {β : Type} [Bus β] (address : UInt8) (progress : Progress) (bus : β)

theorem perform_state (instruction : Instruction) (staying : ∀ phase, instruction ≠ .enter phase)
    (settled : instruction ≠ .readWindow) :
    (instruction.perform.run address progress bus).state = progress := by
  cases instruction with
  | enter phase => exact absurd rfl (staying phase)
  | issue word => exact Transfer.issue_state address progress bus word
  | write register value => rfl
  | delay nanoseconds => rfl
  | readWindow => contradiction
  | commit => rfl
  | verify field => exact (verify_follows address progress bus field).2

theorem ledger_cons (instruction : Instruction) (rest : List Instruction)
    (windows : Nat → Window) (staying : ∀ phase, instruction ≠ .enter phase)
    (settled : instruction ≠ .readWindow) :
    ledger address (instruction :: rest) progress windows =
      (instruction.accesses address progress.checksum).map (progress.phase, ·) ++
        ledger address rest progress windows := by
  cases instruction with
  | enter phase => exact absurd rfl (staying phase)
  | readWindow => contradiction
  | _ => rfl

theorem cons_located (instruction : Instruction) (rest : List Instruction)
    (windows : Nat → Window) (staying : ∀ phase, instruction ≠ .enter phase)
    (settled : instruction ≠ .readWindow)
    (later : Locates (ledger address rest progress windows)
      ((execute rest).run address progress (instruction.perform.run address progress bus).bus)) :
    Locates (ledger address (instruction :: rest) progress windows)
      ((execute (instruction :: rest)).run address progress bus) := by
  have kept := perform_state address progress bus instruction staying settled
  have first := Located.of_follows (perform_follows address progress bus instruction settled)
    progress.phase
  rw [ledger_cons address progress instruction rest windows staying settled]
  simp only [Locates, execute, Action.run_bind]
  cases ended : (instruction.perform.run address progress bus).result with
  | error error =>
    rw [ended] at first
    simp only [kept]
    exact first.append_ledger _
  | ok done =>
    rw [ended] at first
    simp only [kept, Action.Outcome.after, traffic_append]
    exact first.append later

theorem readWindow_located (rest : List Instruction)
    (later : ∀ (progress : Progress) (bus : β), ∃ windows,
      Locates (ledger address rest progress windows) ((execute rest).run address progress bus)) :
    ∃ windows, Locates (ledger address (.readWindow :: rest) progress windows)
      ((execute (.readWindow :: rest)).run address progress bus) := by
  simp only [Locates, execute, Action.run_bind, run_readWindow]
  cases (Bus.read bus address Register.blockData Flash.blockLength).1 with
  | none =>
    let unseen : Window := .replicate 32 0
    have first := Located.of_follows (.alone (.read address 0x40 32 unseen.toList)) progress.phase
    exact ⟨fun _ => unseen, first.append_ledger _⟩
  | some window =>
    obtain ⟨windows, located⟩ := later { progress with checksum := Window.checksum window }
      (Bus.read bus address Register.blockData Flash.blockLength).2
    let read : List (Phase × Event) :=
      [(progress.phase, .read address 0x40 32 (some window.toList))]
    have first : Located read _ (.ok ()) progress.phase := .completed progress.phase
    exact ⟨shownFirst window windows, first.append located⟩

theorem execute_located (script : List Instruction) :
    ∃ windows, Locates (ledger address script progress windows)
      ((execute script).run address progress bus) := by
  induction script generalizing progress bus with
  | nil => exact ⟨fun _ => .replicate 32 0, .completed progress.phase⟩
  | cons instruction rest ih =>
    by_cases entering : ∃ phase, instruction = .enter phase
    · obtain ⟨phase, rfl⟩ := entering
      exact ih { progress with phase } bus
    by_cases reading : instruction = .readWindow
    · subst reading
      exact readWindow_located address progress bus rest ih
    · have staying (phase : Phase) (same : instruction = .enter phase) := entering ⟨phase, same⟩
      obtain ⟨windows, later⟩ := ih progress (instruction.perform.run address progress bus).bus
      exact ⟨windows, cons_located address progress bus instruction rest windows staying reading
        later⟩

/-! The two scripts of a run, whatever phase they start in. -/

/-- The window of each field, of windows that are shown in the order of the fields. -/
def byField (windows : Nat → Window) : Field → Window
  | .designCapacity => windows 0
  | .terminateVoltage => windows 1
  | .finalVoltage => windows 2

theorem openScript_accesses (config : Config) (windows : Nat → Window) :
    (ledger address (openScript config) progress windows).map Prod.snd =
      openAccesses config address (byField windows) := by
  simp only [openAccesses, fieldAccesses, ← Flash.checksum_eq_complement]
  obtain ⟨capacity, voltage, mode, verifyChecksum⟩ := config
  cases verifyChecksum <;> rfl

theorem openScript_follows (config : Config) :
    ∃ windows : Field → Window,
      ((execute (openScript config)).run address progress bus).Follows
        (openAccesses config address windows) := by
  obtain ⟨windows, located⟩ := execute_located address progress bus (openScript config)
  have follows := located.follows
  rw [openScript_accesses] at follows
  exact ⟨byField windows, follows⟩

theorem sealScript_follows :
    ((execute sealScript).run address progress bus).Follows (sealAccesses address) := by
  obtain ⟨windows, located⟩ := execute_located address progress bus sealScript
  exact located.follows

end FuelGauge.Calibration
