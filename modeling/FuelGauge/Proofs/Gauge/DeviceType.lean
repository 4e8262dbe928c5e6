import FuelGauge.Proofs.Gauge.Operations

/-!
What an init learns of the device. It asks for the device type before anything
else, so its events show whether the device was confirmed.
-/

namespace FuelGauge.Gauge

def typeQuery (address low high : UInt8) : List Event := [
  .write address 0x00 0x01 true,
  .delay 5000000,
  .write address 0x01 0x00 true,
  .read address 0x00 2 (some [low, high])]

/-- The device was asked for its type, and it is the expected one. -/
def Confirms (address : UInt8) (events : List Event) : Prop :=
  typeQuery address 0x20 0x05 <+: traffic events

instance (address : UInt8) (events : List Event) : Decidable (Confirms address events) :=
  inferInstanceAs (Decidable (_ <+: _))

theorem typeQuery_unique {address low high otherLow otherHigh : UInt8} {more : List Event}
    (asked : typeQuery address low high <+: typeQuery address otherLow otherHigh ++ more) :
    low = otherLow ∧ high = otherHigh := by
  simpa [typeQuery, List.cons_prefix_cons] using asked

theorem bytes_of_expected {low high : UInt8} (expected : Word.ofBytes low high = 0x0520) :
    low = 0x20 ∧ high = 0x05 := by
  constructor
  · rw [← Word.low_ofBytes low high, expected]
    decide
  · rw [← Word.high_ofBytes low high, expected]
    decide

variable {β : Type} [Bus β] (address : UInt8) (gauge : Gauge) (bus : β)

theorem verify_cases :
    ((verify.run address gauge bus).result = .error .bus ∧
      ∀ low high, ¬ typeQuery address low high <+: traffic (verify.run address gauge bus).events) ∨
    ∃ low high,
      traffic (verify.run address gauge bus).events = typeQuery address low high ∧
      (verify.run address gauge bus).result =
        if Word.ofBytes low high = 0x0520 then .ok () else .error .wrongDevice := by
  obtain ⟨low, high, asked, follows, judged⟩ := verify_follows address gauge bus
  rcases follows.query_cases with ⟨seen, reported, answered⟩ | ⟨refused, shapes⟩
  · rw [answered] at judged
    exact Or.inr ⟨low, high, seen, judged⟩
  · rw [refused] at judged
    apply Or.inl
    refine ⟨judged, ?_⟩
    intro otherLow otherHigh answered
    -- Each way of refusing differs from an answered question at its last access.
    rcases shapes with seen | seen | seen
    · simp [seen, typeQuery, List.cons_prefix_cons] at answered
    · simp [seen, typeQuery, List.cons_prefix_cons] at answered
    · simp [seen, typeQuery, controlAccesses, List.cons_prefix_cons] at answered

theorem verify_confirms :
    Confirms address (verify.run address gauge bus).events ↔
      (verify.run address gauge bus).result = .ok () := by
  rcases verify_cases address gauge bus with ⟨refused, unanswered⟩ | ⟨low, high, seen, judged⟩
  · constructor
    · intro asked
      exact absurd asked (unanswered _ _)
    · intro accepted
      rw [refused] at accepted
      cases accepted
  · constructor
    · intro asked
      rw [Confirms, seen, ← List.append_nil (typeQuery address low high)] at asked
      obtain ⟨rfl, rfl⟩ := typeQuery_unique asked
      exact judged
    · intro accepted
      by_cases expected : Word.ofBytes low high = 0x0520
      · obtain ⟨rfl, rfl⟩ := bytes_of_expected expected
        exact ⟨[], by rw [List.append_nil, seen]⟩
      · rw [judged, if_neg expected] at accepted
        cases accepted

/-- A calibration does not report another device, only its refusal does. -/
theorem configure_wrongDevice :
    (configure.run address gauge bus).result = .error .wrongDevice ↔ gauge.verified = false := by
  have course := Calibration.run_course gauge.config address {} bus
  simp only [run_configure]
  by_cases verified : gauge.verified = true
  · simp only [verified, if_true]
    constructor
    · intro failed
      rw [failed] at course
      rcases course.error_cases with impossible | impossible
      · cases impossible
      · cases impossible
    · intro unverified
      cases unverified
  · simp [verified]

theorem init_cases :
    ((verify.run address gauge bus).result = .ok () ∧
      (init.run address gauge bus).result ≠ .error .wrongDevice ∧
      ∃ more, traffic (init.run address gauge bus).events =
        typeQuery address 0x20 0x05 ++ more) ∨
    ∃ error, (verify.run address gauge bus).result = .error error ∧
      (init.run address gauge bus).result = .error error ∧
      (init.run address gauge bus).state = { gauge with verified := false } ∧
      (init.run address gauge bus).events = (verify.run address gauge bus).events := by
  have confirmed := verify_confirms address gauge bus
  have state := verify_state address gauge bus
  simp only [run_init]
  cases ended : (verify.run address gauge bus).result with
  | error error =>
    rw [ended] at state
    exact Or.inr ⟨error, rfl, rfl, state, rfl⟩
  | ok done =>
    have verified : (verify.run address gauge bus).state.verified = true := by
      rw [state, ended]
      rfl
    obtain ⟨rest, shown⟩ : Confirms address (verify.run address gauge bus).events :=
      confirmed.mpr ended
    refine Or.inl ⟨rfl, ?_⟩
    cases gauge.config.mode with
    | atInit =>
      -- The calibration that follows may fail, but never for the device.
      simp only [Action.Outcome.after, traffic_append, ← shown, List.append_assoc]
      constructor
      · intro failed
        rw [configure_wrongDevice, verified] at failed
        cases failed
      · exact ⟨_, rfl⟩
    | onFirstFetch =>
      simp only [traffic_append, ← shown, List.append_assoc]
      constructor
      · intro failed
        cases failed
      · exact ⟨_, rfl⟩

theorem init_confirms :
    Confirms address (init.run address gauge bus).events ↔
      (verify.run address gauge bus).result = .ok () := by
  rcases init_cases address gauge bus with ⟨accepted, _, more, seen⟩ | ⟨error, failed, _, _, same⟩
  · constructor
    · intro _
      exact accepted
    · intro _
      rw [Confirms, seen]
      exact List.prefix_append ..
  · rw [Confirms, same]
    exact verify_confirms address gauge bus

theorem init_wrongDevice :
    ((init.run address gauge bus).result = .error .wrongDevice ↔
      ∃ low high,
        typeQuery address low high <+: traffic (init.run address gauge bus).events ∧
        Word.ofBytes low high ≠ 0x0520) ∧
    ((init.run address gauge bus).result = .error .wrongDevice →
      (∃ low high,
        traffic (init.run address gauge bus).events = typeQuery address low high) ∧
      (init.run address gauge bus).state = { gauge with verified := false }) := by
  rcases init_cases address gauge bus with ⟨_, accepted, more, seen⟩ |
    ⟨error, failed, reported, state, same⟩
  · refine ⟨⟨fun refused => absurd refused accepted, ?_⟩, fun refused => absurd refused accepted⟩
    rintro ⟨low, high, asked, other⟩
    rw [seen] at asked
    obtain ⟨rfl, rfl⟩ := typeQuery_unique asked
    exact absurd (by decide) other
  · simp only [same, reported, state, and_true]
    rcases verify_cases address gauge bus with ⟨refused, unanswered⟩ | ⟨low, high, seen, judged⟩
    · rw [refused] at failed
      cases failed
      constructor
      · constructor
        · intro impossible
          cases impossible
        · rintro ⟨low, high, asked, _⟩
          exact absurd asked (unanswered low high)
      · intro impossible
        cases impossible
    · by_cases expected : Word.ofBytes low high = 0x0520
      · rw [judged, if_pos expected] at failed
        cases failed
      · rw [judged, if_neg expected] at failed
        cases failed
        constructor
        · constructor
          · intro _
            exact ⟨low, high, ⟨[], by rw [List.append_nil, seen]⟩, expected⟩
          · intro _
            rfl
        · intro _
          exact ⟨low, high, seen⟩

end FuelGauge.Gauge
