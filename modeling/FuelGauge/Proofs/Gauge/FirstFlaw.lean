import FuelGauge.Proofs.Bus.Replay
import FuelGauge.Proofs.Calibration.Failures
import FuelGauge.Proofs.Calibration.Stages
import FuelGauge.Proofs.Gauge.Operations

/-!
The first thing that goes wrong in a calibration, as the accesses alone tell it.
It decides which error is reported and in which phase the run ends; what comes
later, the attempt to seal among it, decides nothing.
-/

namespace FuelGauge

/-- An access that went wrong after the earlier ones, and the error it means. It
was refused, or it reads back another checksum than the one committed last. -/
inductive Flaw (earlier : List Event) : Event → Error → Prop
  | refused {event : Event} (failure : event.isFailure = true) : Flaw earlier event .bus
  | mismatch (address : UInt8) {byte found : UInt8} (last : lastWritten 0x60 earlier = some byte)
      (different : found ≠ byte) :
      Flaw earlier (.read address 0x60 1 (some [found])) .checksumMismatch

def Flawless (events : List Event) : Prop :=
  ∀ earlier event error, earlier ++ [event] <+: events → ¬ Flaw earlier event error

structure FirstFlaw (events earlier : List Event) (event : Event) (error : Error) : Prop where
  occurs : earlier ++ [event] <+: events
  before : Flawless earlier
  flaw : Flaw earlier event error

variable {events further earlier later : List Event} {event found : Event} {error other : Error}

theorem Flaw.error_unique (flaw : Flaw earlier event error) (again : Flaw earlier event other) :
    error = other := by
  cases flaw with
  | refused failure =>
    cases again with
    | refused => rfl
    | mismatch => cases failure
  | mismatch =>
    cases again with
    | refused failure => cases failure
    | mismatch => rfl

theorem Flawless.of_start (flawless : Flawless further) (start : events <+: further) :
    Flawless events :=
  fun earlier event error occurs => flawless earlier event error (occurs.trans start)

namespace FirstFlaw

theorem not_flawless (first : FirstFlaw events earlier event error) : ¬ Flawless events :=
  fun flawless => flawless earlier event error first.occurs first.flaw

theorem of_occurs (first : FirstFlaw events earlier event error)
    (occurs : earlier ++ [event] <+: further) : FirstFlaw further earlier event error :=
  ⟨occurs, first.before, first.flaw⟩

theorem not_after (first : FirstFlaw events earlier event error)
    (second : FirstFlaw events later found other) : ¬ earlier ++ [event] <+: later :=
  fun inside => second.before earlier event error inside first.flaw

theorem unique (first : FirstFlaw events earlier event error)
    (second : FirstFlaw events later found other) :
    earlier = later ∧ event = found ∧ error = other := by
  have same : earlier ++ [event] = later ++ [found] := by
    -- Of two first flaws, neither can lie among the accesses before the other.
    rcases List.prefix_or_prefix_of_prefix first.occurs second.occurs with sooner | sooner
    · exact (List.prefix_concat_iff.mp sooner).resolve_right (first.not_after second)
    · exact ((List.prefix_concat_iff.mp sooner).resolve_right (second.not_after first)).symm
  obtain ⟨rfl, sameEvent⟩ := List.append_inj' same rfl
  obtain rfl := List.singleton_inj.mp sameEvent
  exact ⟨rfl, rfl, first.flaw.error_unique second.flaw⟩

end FirstFlaw

namespace Calibration

open Flash (Field Window)

variable (config : Config) (address : UInt8) (windows : Field → Window)

theorem committed_before_readBack {place byte : UInt8}
    (occurs : earlier ++ [.read place 0x60 1 (some [byte])] <+:
      referenceAccesses config address windows) : lastWritten 0x60 earlier = some byte := by
  have back : ReadsBack config address (referenceAccesses config address windows) :=
    (openAccesses_readsBack config address windows).append (controlAccesses_readsBack 0x0020)
  obtain ⟨later, split⟩ := occurs
  rw [List.append_assoc] at split
  obtain ⟨_, _, before, rfl⟩ := back earlier place byte later split.symm
  simp [lastWritten, Event.stores]

theorem referenceAccesses_accepted : Accepted (referenceAccesses config address windows) :=
  accepted_append.mpr
    ⟨openAccesses_accepted config address windows, controlAccesses_accepted address 0x0020⟩

theorem referenceAccesses_flawless : Flawless (referenceAccesses config address windows) := by
  intro earlier event error occurs flaw
  cases flaw with
  | refused failure =>
    have member := occurs.subset (List.mem_append_right _ (List.mem_singleton_self event))
    exact (referenceAccesses_accepted config address windows).not_failed member failure
  | mismatch place last different =>
    have shown := committed_before_readBack config address windows occurs
    exact different (Option.some.inj (shown.symm.trans last))

variable {config address windows}

theorem flaw_of_deviates {done rest : List Event}
    (split : referenceAccesses config address windows = done ++ event :: rest)
    (deviates : Deviates event found error) : Flaw done found error := by
  cases deviates with
  | write => exact .refused rfl
  | read => exact .refused rfl
  | @mismatch place byte found different =>
    have occurs : done ++ [.read place 0x60 1 (some [byte])] <+:
        referenceAccesses config address windows :=
      ⟨rest, by rw [split, List.append_assoc, List.singleton_append]⟩
    exact .mismatch place (committed_before_readBack config address windows occurs) different

/-- The ledger has an access of the phase where another one was found. -/
def Owns (config : Config) (address : UInt8) (phase : Phase) (earlier : List Event)
    (found : Event) (error : Error) : Prop :=
  ∃ windows done event rest, runLedger config address windows = done ++ (phase, event) :: rest ∧
    done.map Prod.snd = earlier ∧ Deviates event found error

theorem Owns.firstFlaw {phase : Phase} (owns : Owns config address phase earlier found error)
    (occurs : earlier ++ [found] <+: events) : FirstFlaw events earlier found error := by
  obtain ⟨windows, done, event, rest, listed, rfl, deviates⟩ := owns
  have split : referenceAccesses config address windows =
      done.map Prod.snd ++ event :: rest.map Prod.snd := by
    rw [← runLedger_accesses, listed, List.map_append, List.map_cons]
  have before := (referenceAccesses_flawless config address windows).of_start ⟨_, split.symm⟩
  exact ⟨occurs, before, flaw_of_deviates split deviates⟩

theorem Owns.phase_unique {phase last : Phase}
    (owns : Owns config address phase earlier found error)
    (again : Owns config address last earlier event other) : phase = last := by
  obtain ⟨windows, done, expected, rest, listed, rfl, _⟩ := owns
  obtain ⟨shown, first, _, tail, relisted, same, _⟩ := again
  have phases := runLedger_phases address config windows shown
  rw [listed, relisted, List.map_append, List.map_append] at phases
  have lengths : (done.map Prod.fst).length = (first.map Prod.fst).length := by
    simpa using (congrArg List.length same).symm
  exact (List.cons.inj (List.append_inj phases lengths).2).1

variable {β : Type} [Bus β] (config address) (progress : Progress) (bus : β)

theorem run_verdict :
    let outcome := (run config).run address progress bus
    (outcome.result = .ok () ∧ Flawless (traffic outcome.events)) ∨
      ∃ earlier found error, outcome.result = .error error ∧
        earlier ++ [found] <+: traffic outcome.events ∧
        Owns config address outcome.state.phase earlier found error := by
  obtain ⟨windows, seen, last, split, located, nothing⟩ := run_located address progress bus config
  simp only [split]
  generalize (run config).run address progress bus = outcome at located nothing ⊢
  cases ended : outcome.result with
  | ok done =>
    rw [ended] at located
    cases located with
    | completed =>
      rw [nothing done ended, List.append_nil, runLedger_accesses]
      exact Or.inl ⟨rfl, referenceAccesses_flawless config address windows⟩
  | error error =>
    rw [ended] at located
    cases located with
    | deviated listed deviates =>
      exact Or.inr ⟨_, _, error, rfl, ⟨last, rfl⟩, windows, _, _, _, listed, rfl, deviates⟩

theorem run_ok_iff_flawless :
    ((run config).run address progress bus).result = .ok () ↔
      Flawless (traffic ((run config).run address progress bus).events) := by
  rcases run_verdict config address progress bus with ⟨ended, flawless⟩ |
    ⟨earlier, found, error, ended, occurs, owns⟩
  · exact iff_of_true ended flawless
  · have flawed := (owns.firstFlaw occurs).not_flawless
    rw [ended]
    exact iff_of_false (by simp) flawed

variable {config address progress bus}

theorem run_of_firstFlaw
    (first : FirstFlaw (traffic ((run config).run address progress bus).events) earlier event
      error) :
    ((run config).run address progress bus).result = .error error ∧
      Owns config address ((run config).run address progress bus).state.phase earlier event
        error := by
  rcases run_verdict config address progress bus with ⟨_, flawless⟩ |
    ⟨before, found, reported, ended, occurs, owns⟩
  · exact absurd flawless first.not_flawless
  · obtain ⟨rfl, rfl, rfl⟩ := first.unique (owns.firstFlaw occurs)
    exact ⟨ended, owns⟩

theorem run_error_iff :
    ((run config).run address progress bus).result = .error error ↔
      ∃ earlier event,
        FirstFlaw (traffic ((run config).run address progress bus).events) earlier event error := by
  constructor
  · intro failed
    rcases run_verdict config address progress bus with ⟨ended, _⟩ |
      ⟨earlier, found, reported, ended, occurs, owns⟩
    · cases ended.symm.trans failed
    · obtain rfl := Except.error.inj (ended.symm.trans failed)
      exact ⟨earlier, found, owns.firstFlaw occurs⟩
  · rintro ⟨earlier, event, first⟩
    exact (run_of_firstFlaw first).1

theorem run_decided {γ : Type} [Bus γ] {other : γ}
    (first : FirstFlaw (traffic ((run config).run address progress bus).events) earlier event
      error)
    (alike : answers (earlier ++ [event]) <+:
      answers (traffic ((run config).run address progress other).events)) :
    ((run config).run address progress other).result = .error error ∧
      ((run config).run address progress other).state.phase =
        ((run config).run address progress bus).state.phase := by
  have occurs := (run config).run_causal address progress bus other first.occurs alike
  obtain ⟨reported, owns⟩ := run_of_firstFlaw (first.of_occurs occurs)
  exact ⟨reported, owns.phase_unique (run_of_firstFlaw first).2⟩

end Calibration

namespace Gauge

open Calibration (Owns)

variable {β : Type} [Bus β]

/-- A run is as good as its accesses: it succeeds if none of them is a flaw, and
otherwise the first flaw gives the error and the phase. What another bus does
after this access makes no difference to either. -/
theorem configure_locates_first_flaw (gauge : Gauge) (bus : β) (verified : gauge.verified = true) :
    let outcome := configure.run gauge.address gauge bus
    let seen := traffic outcome.events
    (outcome.result = .ok () ↔ outcome.state.phase = .isSealed) ∧
    (outcome.result = .ok () ↔ Flawless seen) ∧
    (∀ error, outcome.result = .error error ↔
      ∃ earlier event, FirstFlaw seen earlier event error) ∧
    ∀ earlier event error, FirstFlaw seen earlier event error →
      Owns gauge.config gauge.address outcome.state.phase earlier event error ∧
      ∀ {γ : Type} [Bus γ] (other : γ),
        let again := configure.run gauge.address gauge other
        answers (earlier ++ [event]) <+: answers (traffic again.events) →
        again.result = outcome.result ∧ again.state.phase = outcome.state.phase := by
  simp only [run_configure, verified, if_true, recordRun]
  refine ⟨Calibration.run_ok_iff_isSealed .., Calibration.run_ok_iff_flawless ..,
    fun _ => Calibration.run_error_iff, ?_⟩
  intro earlier event error first
  obtain ⟨failed, owns⟩ := Calibration.run_of_firstFlaw first
  refine ⟨owns, ?_⟩
  intro γ _ other alike
  rw [failed]
  exact Calibration.run_decided first alike

/-- A checksum reads back wrong. Whether the gauge can be sealed after that is not
told by the result. -/
theorem configure_locates_first_flaw_mismatch :
    let gauge : Gauge := { config := ⟨1500, 3000, .atInit, true⟩, verified := true }
    let bus : Bus.Simulated := { rules := {
      overrides := [⟨0x60, .nth 2, 0⟩]
      failingWrites := [⟨0x00, .nth 3⟩] } }
    let other : Bus.Simulated := { rules := { overrides := [⟨0x60, .nth 2, 0⟩] } }
    let outcome := configure.run gauge.address gauge bus
    let again := configure.run gauge.address gauge other
    gauge.verified = true ∧ outcome.result = .error .checksumMismatch ∧
    outcome.state.phase = .committingChecksum .terminateVoltage ∧
    (∃ earlier event, FirstFlaw (traffic outcome.events) earlier event .checksumMismatch ∧
      Owns gauge.config gauge.address (.committingChecksum .terminateVoltage) earlier event
        .checksumMismatch) ∧
    again.result = .error .checksumMismatch ∧
    again.state.phase = .committingChecksum .terminateVoltage := by
  intro gauge bus other outcome again
  have verified : gauge.verified = true := rfl
  have located := configure_locates_first_flaw gauge bus verified
  have failed : outcome.result = .error .checksumMismatch := by decide +kernel
  have phase : outcome.state.phase = .committingChecksum .terminateVoltage := by decide +kernel
  obtain ⟨earlier, event, first⟩ := (located.2.2.1 .checksumMismatch).mp failed
  obtain ⟨owns, decided⟩ := located.2.2.2 earlier event _ first
  -- The refused seal is the last access, so the mismatch comes before it.
  have last : traffic outcome.events =
      (traffic outcome.events).dropLast ++ [.write 0x55 0x00 0x20 false] := by
    decide +kernel
  have sooner : earlier ++ [event] <+: (traffic outcome.events).dropLast := by
    have occurs := first.occurs
    rw [last] at occurs
    refine (List.prefix_concat_iff.mp occurs).resolve_left fun same => ?_
    obtain rfl := List.singleton_inj.mp (List.append_inj' same rfl).2
    cases first.flaw
  have alike : answers (traffic outcome.events).dropLast <+: answers (traffic again.events) := by
    decide +kernel
  obtain ⟨sameResult, samePhase⟩ := decided other ((sooner.filterMap _).trans alike)
  exact ⟨rfl, failed, phase, ⟨earlier, event, first, phase ▸ owns⟩, sameResult.trans failed,
    samePhase.trans phase⟩

end Gauge
end FuelGauge
