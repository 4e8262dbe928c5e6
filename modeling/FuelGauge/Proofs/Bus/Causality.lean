import FuelGauge.Proofs.Following

/-!
A program knows a bus by its answers alone. As long as two buses give the same
answers, the same accesses pass over both, whatever happens on either later.
-/

namespace FuelGauge

inductive Answer where
  | write (accepted : Bool)
  | read (bytes : Option (List UInt8))
  deriving DecidableEq, Repr

/-- What the bus answered. Delays and records do not concern it. -/
def Event.answer? : Event → Option Answer
  | .write _ _ _ accepted => some (.write accepted)
  | .read _ _ _ answer => some (.read answer)
  | _ => none

def answers (events : List Event) : List Answer := events.filterMap Event.answer?

theorem map_toList_inj {length : Nat} {left right : Option (Vector UInt8 length)} :
    left.map Vector.toList = right.map Vector.toList ↔ left = right :=
  (Option.map_injective fun _ _ => Vector.toList_inj.mp).eq_iff

variable {σ α β γ : Type} [Bus β] [Bus γ]

namespace Program

theorem traffic_run_write (address register value : UInt8) (next : Bool → Program α) (bus : β) :
    traffic ((write register value next).run address bus).events =
      let answer := Bus.write bus address register value
      .write address register value answer.1 ::
        traffic ((next answer.1).run address answer.2).events := rfl

theorem traffic_run_read (address register : UInt8) (length : Nat)
    (next : Option (Vector UInt8 length) → Program α) (bus : β) :
    traffic ((read register length next).run address bus).events =
      let answer := Bus.read bus address register length
      .read address register length (answer.1.map Vector.toList) ::
        traffic ((next answer.1).run address answer.2).events := rfl

theorem run_causal (program : Program α) (address : UInt8) (bus : β) (other : γ)
    {early : List Event} (seen : early <+: traffic (program.run address bus).events)
    (alike : answers early <+: answers (traffic (program.run address other).events)) :
    early <+: traffic (program.run address other).events := by
  induction program generalizing bus other early with
  | done value => exact seen
  | log record next ih => exact ih bus other seen alike
  | delay nanoseconds next ih =>
    cases early with
    | nil => exact List.nil_prefix
    | cons event rest =>
      obtain ⟨rfl, restSeen⟩ := List.cons_prefix_cons.mp seen
      exact List.cons_prefix_cons.mpr ⟨rfl, ih bus other restSeen alike⟩
  | write register value next ih =>
    rw [traffic_run_write] at seen alike ⊢
    cases early with
    | nil => exact List.nil_prefix
    | cons event rest =>
      obtain ⟨rfl, restSeen⟩ := List.cons_prefix_cons.mp seen
      obtain ⟨sameAnswer, restAlike⟩ := List.cons_prefix_cons.mp alike
      -- The same answer leads both runs on the same way.
      have same := Answer.write.inj sameAnswer
      rw [same] at restSeen
      exact List.cons_prefix_cons.mpr ⟨by rw [same], ih _ _ _ restSeen restAlike⟩
  | read register length next ih =>
    rw [traffic_run_read] at seen alike ⊢
    cases early with
    | nil => exact List.nil_prefix
    | cons event rest =>
      obtain ⟨rfl, restSeen⟩ := List.cons_prefix_cons.mp seen
      obtain ⟨sameAnswer, restAlike⟩ := List.cons_prefix_cons.mp alike
      have same := map_toList_inj.mp (Answer.read.inj sameAnswer)
      rw [same] at restSeen
      exact List.cons_prefix_cons.mpr ⟨by rw [same], ih _ _ _ restSeen restAlike⟩

end Program

theorem Action.run_causal (action : Action σ α) (address : UInt8) (state : σ) (bus : β)
    (other : γ) {early : List Event}
    (seen : early <+: traffic (action.run address state bus).events)
    (alike : answers early <+: answers (traffic (action.run address state other).events)) :
    early <+: traffic (action.run address state other).events :=
  (action state).run_causal address bus other seen alike

end FuelGauge
