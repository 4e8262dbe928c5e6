import FuelGauge.Proofs.Session.Readings

/-!
How far a fetch gets. It reads the channels in their order and ends with the first read
that is refused. What was read up to then is stored, the channels after it keep what they
held, and nothing else changes, neither in the gauge nor in its registers.
-/

namespace FuelGauge

/-- The reads of a fetch that got `count` answers: those, and if a channel is left after
them, its read, which was refused. -/
def fetchAccesses (address : UInt8) (words : Channel → UInt16) : List Channel → Nat → List Event
  | [], _ => []
  | channel :: _, 0 => [.read address channel.register 2 none]
  | channel :: rest, count + 1 =>
      .read address channel.register 2
          (some [Word.low (words channel), Word.high (words channel)]) ::
        fetchAccesses address words rest count

theorem fetchAccesses_congr {address : UInt8} {words others : Channel → UInt16}
    {channels : List Channel} (same : ∀ channel ∈ channels, words channel = others channel)
    (count : Nat) :
    fetchAccesses address words channels count = fetchAccesses address others channels count := by
  induction channels generalizing count with
  | nil => rfl
  | cons channel rest ih =>
    obtain ⟨first, later⟩ := List.forall_mem_cons.mp same
    cases count with
    | zero => rfl
    | succ count => simp only [fetchAccesses, first, ih later count]

theorem answered_fetchAccesses {address : UInt8} {words : Channel → UInt16}
    {channels : List Channel} {count : Nat} (within : count ≤ channels.length) :
    (fetchAccesses address words channels count).countP (!·.isFailure) = count := by
  induction channels generalizing count with
  | nil => exact (Nat.le_zero.mp within).symm
  | cons channel rest ih =>
    cases count with
    | zero => rfl
    | succ count =>
      rw [fetchAccesses, List.countP_cons_of_pos rfl, ih (Nat.le_of_succ_le_succ within)]

namespace Telemetry

def refreshed (telemetry : Telemetry) (words : Channel → UInt16) (channels : List Channel) :
    Telemetry :=
  ofWords fun channel =>
    if channel ∈ channels then some (words channel) else telemetry.word? channel

theorem word?_refreshed (telemetry : Telemetry) (words : Channel → UInt16)
    (channels : List Channel) (channel : Channel) :
    (telemetry.refreshed words channels).word? channel =
      if channel ∈ channels then some (words channel) else telemetry.word? channel :=
  word?_ofWords ..

theorem refreshed_nil (telemetry : Telemetry) (words : Channel → UInt16) :
    telemetry.refreshed words [] = telemetry := by
  apply eq_of_word?
  intro channel
  rw [word?_refreshed, if_neg List.not_mem_nil]

theorem refreshed_store {telemetry : Telemetry} {words others : Channel → UInt16}
    {channel : Channel} {rest : List Channel}
    (same : ∀ other ∈ rest, others other = words other) :
    (telemetry.store channel (others channel)).refreshed words rest =
      telemetry.refreshed others (channel :: rest) := by
  apply eq_of_word?
  intro target
  rw [word?_refreshed, word?_refreshed, word?_store]
  by_cases later : target ∈ rest
  · rw [if_pos later, if_pos (List.mem_cons_of_mem channel later), same target later]
  · by_cases here : target = channel
    · rw [if_neg later, if_pos here, here, if_pos List.mem_cons_self]
    · rw [if_neg later, if_neg here, if_neg (by simp [here, later])]

end Telemetry

theorem Selection.channels_nodup (selection : Selection) : selection.channels.Nodup := by
  cases selection with
  | all => decide
  | one channel => exact List.pairwise_singleton _ channel

namespace Gauge

/-- An outcome that is that of reading the first `count` of some channels, and no more. -/
structure Fetched {β : Type} (address : UInt8) (gauge : Gauge) (channels : List Channel)
    (words : Channel → UInt16) (count : Nat) (outcome : Action.Outcome β Gauge Unit) : Prop where
  within : count ≤ channels.length
  answered : (traffic outcome.events).countP (!·.isFailure) = count
  accesses : traffic outcome.events = fetchAccesses address words channels count
  result : outcome.result = if count = channels.length then .ok () else .error .bus
  state : outcome.state =
    { gauge with telemetry := gauge.telemetry.refreshed words (channels.take count) }

namespace Fetched

variable {β : Type} {address : UInt8} {gauge : Gauge} {outcome : Action.Outcome β Gauge Unit}

theorem none (channels : List Channel) (words : Channel → UInt16)
    (accesses : traffic outcome.events = fetchAccesses address words channels 0)
    (result : outcome.result = if 0 = channels.length then .ok () else .error .bus)
    (state : outcome.state = gauge) : Fetched address gauge channels words 0 outcome where
  within := Nat.zero_le _
  answered := accesses ▸ answered_fetchAccesses (Nat.zero_le _)
  accesses := accesses
  result := result
  state := by rw [state, List.take_zero, Telemetry.refreshed_nil]

/-- A channel that is read before others. It is none of them, so its word can be chosen
apart from theirs. -/
theorem cons {channel : Channel} {rest : List Channel} {words : Channel → UInt16} {count : Nat}
    {low high : UInt8} (record : Log.Record) (fresh : channel ∉ rest)
    (later : Fetched address
      { gauge with telemetry := gauge.telemetry.store channel (Word.ofBytes low high) }
      rest words count outcome) :
    Fetched address gauge (channel :: rest)
      (Function.update words channel (Word.ofBytes low high)) (count + 1)
      (outcome.after [.read address channel.register 2 (some [low, high]), .log record]) := by
  obtain ⟨within, _, accesses, result, state⟩ := later
  let extended := Function.update words channel (Word.ofBytes low high)
  have here : extended channel = Word.ofBytes low high := Function.update_self ..
  have others : ∀ other ∈ rest, extended other = words other := by
    intro other member
    have apart : other ≠ channel := by
      rintro rfl
      exact fresh member
    exact Function.update_of_ne apart ..
  have seen : traffic (outcome.after
      [.read address channel.register 2 (some [low, high]), .log record]).events =
        fetchAccesses address extended (channel :: rest) (count + 1) := by
    rw [Action.Outcome.after, traffic_append, accesses, traffic_read, traffic_log, traffic_nil,
      fetchAccesses, here, Word.low_ofBytes, Word.high_ofBytes, fetchAccesses_congr others]
    rfl
  have stored : (gauge.telemetry.store channel (Word.ofBytes low high)).refreshed words
      (rest.take count) = gauge.telemetry.refreshed extended (channel :: rest.take count) := by
    rw [← here]
    exact Telemetry.refreshed_store fun other member => others other (List.mem_of_mem_take member)
  refine ⟨Nat.succ_le_succ within, ?_, seen, ?_, ?_⟩
  · exact seen ▸ answered_fetchAccesses (Nat.succ_le_succ within)
  · simp only [Action.Outcome.after, result, List.length_cons, Nat.add_right_cancel_iff]
  · simp only [Action.Outcome.after, state, List.take_succ_cons, stored, extended]

end Fetched

variable {β : Type} [Bus β] (address : UInt8) (gauge : Gauge) (bus : β)

theorem fetchEach_fetched {channels : List Channel} (distinct : channels.Nodup) :
    ∃ words count, Fetched address gauge channels words count
      ((fetchEach channels).run address gauge bus) := by
  induction channels generalizing gauge bus with
  | nil => exact ⟨fun _ => 0, 0, .none [] _ rfl rfl rfl⟩
  | cons channel rest ih =>
    obtain ⟨fresh, restDistinct⟩ := List.nodup_cons.mp distinct
    simp only [fetchEach, Action.run_bind, run_fetchChannel]
    -- The rest starts from the telemetry with this word and the bus after this read.
    cases (Bus.read bus address channel.register 2).1 with
    | none => exact ⟨fun _ => 0, 0, .none (channel :: rest) _ rfl rfl rfl⟩
    | some bytes =>
      obtain ⟨words, count, later⟩ := ih _ (Bus.read bus address channel.register 2).2 restDistinct
      exact ⟨_, _, .cons _ fresh later⟩

theorem calibrationDue_eq_false
    (settled : gauge.config.mode = .atInit ∨ gauge.attempt ≠ .notStarted) :
    gauge.calibrationDue = false := by
  rw [← Bool.not_eq_true]
  simp only [calibrationDue, Bool.and_eq_true, decide_eq_true_eq,
    Calibration.Attempt.isPending_iff]
  rintro ⟨deferred, untried⟩
  rcases settled with atInit | tried
  · rw [deferred] at atInit
    cases atInit
  · exact tried untried

theorem configure_telemetry_apart (telemetry : Telemetry) :
    configure.run address { gauge with telemetry } bus =
      let configured := configure.run address gauge bus
      { configured with state := { configured.state with telemetry } } := by
  rw [run_configure, run_configure]
  cases gauge with
  | mk config place held attempt phase verified =>
    cases verified with
    | false => rfl
    | true => rfl

theorem fetchEach_counted (channels : List Channel) (bus : Bus.Simulated) :
    ∃ transactions reads, ((fetchEach channels).run address gauge bus).bus =
      { bus with transactions, reads } := by
  induction channels generalizing gauge bus with
  | nil => exact ⟨bus.transactions, bus.reads, rfl⟩
  | cons channel rest ih =>
    have counted : (Bus.read bus address channel.register 2).2 =
        bus.countRead channel.register := by
      simp only [Bus.read]
      split <;> rfl
    simp only [fetchEach, Action.run_bind, run_fetchChannel, counted]
    cases (Bus.read bus address channel.register 2).1 with
    | none => exact ⟨_, _, rfl⟩
    | some bytes =>
      obtain ⟨transactions, reads, later⟩ := ih _ (bus.countRead channel.register)
      exact ⟨transactions, reads, later⟩

/-- A fetch with no calibration in its way: how far it gets, and what it leaves alone. A
later calibration goes as if nothing had been fetched. -/
theorem fetch_in_order (gauge : Gauge) (bus : β) (selection : Selection)
    (settled : gauge.config.mode = .atInit ∨ gauge.attempt ≠ .notStarted) :
    let outcome := (fetch selection).run gauge.address gauge bus
    (Selection.all.channels.map fun channel => (channel, channel.register)) = [
      (.voltage, 0x08), (.nominalAvailableCapacity, 0x0C), (.fullAvailableCapacity, 0x0E),
      (.remainingCapacity, 0x10), (.fullChargeCapacity, 0x12), (.averageCurrent, 0x14),
      (.standbyCurrent, 0x18), (.stateOfHealth, 0x1C), (.stateOfCharge, 0x20),
      (.internalTemperature, 0x28)] ∧
    (∃ words count,
      Fetched gauge.address gauge selection.channels words count outcome) ∧
    (∀ later : β, configure.run gauge.address outcome.state later =
      let configured := configure.run gauge.address gauge later
      { configured with
        state := { configured.state with telemetry := outcome.state.telemetry } }) ∧
    ∀ simulated : Bus.Simulated, ∃ transactions reads,
      ((fetch selection).run gauge.address gauge simulated).bus =
        { simulated with transactions, reads } := by
  have notDue := calibrationDue_eq_false gauge settled
  simp only [run_fetch, notDue]
  obtain ⟨words, count, fetched⟩ :=
    fetchEach_fetched gauge.address gauge bus selection.channels_nodup
  refine ⟨rfl, ⟨words, count, fetched⟩, fun later => ?_, fun simulated => ?_⟩
  · have state := fetched.state
    simp only [Bool.false_eq_true, if_false]
    rw [state]
    exact configure_telemetry_apart gauge.address gauge later _
  · exact fetchEach_counted gauge.address gauge selection.channels simulated

/-- The fourth read is refused. Of the two channels that had been read before, one is
read again and the other is not. -/
theorem fetch_in_order_refused :
    let gauge : Gauge := {
      config := ⟨1500, 3000, .onFirstFetch, false⟩
      attempt := .failed
      telemetry := { voltage := some 1, averageCurrent := some (-2) } }
    let bus : Bus.Simulated := {
      registers := .fill 7
      rules := { failingReads := [⟨0x10, .every⟩] } }
    let outcome := (fetch .all).run gauge.address gauge bus
    (gauge.config.mode = .atInit ∨ gauge.attempt ≠ .notStarted) ∧
    outcome.result = .error .bus ∧
    outcome.state.telemetry = {
      voltage := some 0x0707
      nominalAvailableCapacity := some 0x0707
      fullAvailableCapacity := some 0x0707
      averageCurrent := some (-2) } ∧
    ∃ words, Fetched gauge.address gauge Selection.all.channels words 3 outcome := by
  intro gauge bus outcome
  have settled : gauge.config.mode = .atInit ∨ gauge.attempt ≠ .notStarted := by decide
  obtain ⟨_, ⟨words, count, fetched⟩, _⟩ := fetch_in_order gauge bus .all settled
  have three : count = 3 := fetched.answered.symm.trans (by decide +kernel)
  exact ⟨settled, by rfl, by decide +kernel, words, three ▸ fetched⟩

end Gauge
end FuelGauge
