import FuelGauge.Proofs.Bus.Untouched
import FuelGauge.Proofs.Gauge.FetchOrder
import FuelGauge.Proofs.Gauge.Writes
import FuelGauge.Proofs.Quantity.Units

/-!
From the registers of a simulated gauge to physical units. The registers of the channels
are never written, so a fetch finds in them what they held before it, whether or not it
calibrated first; and the quantity that is made of a word is exact.
-/

namespace FuelGauge

namespace Register.Table

def word (table : Table UInt8) (register : Register) : UInt16 :=
  Word.ofBytes (table.get register) (table.get (register + 1))

theorem toNat_word (table : Table UInt8) (register : Register) :
    (table.word register).toNat =
      (table.get register).toNat + 256 * (table.get (register + 1)).toNat :=
  Word.toNat_ofBytes ..

theorem word_inj {left right : Table UInt8} {register : Register} :
    left.word register = right.word register ↔
      left.get register = right.get register ∧
        left.get (register + 1) = right.get (register + 1) := by
  constructor
  · intro same
    have low := congrArg Word.low same
    have high := congrArg Word.high same
    rw [word, word, Word.low_ofBytes, Word.low_ofBytes] at low
    rw [word, word, Word.high_ofBytes, Word.high_ofBytes] at high
    exact ⟨low, high⟩
  · rintro ⟨low, high⟩
    rw [word, word, low, high]

theorem slice_pair (table : Table UInt8) (register : Register) :
    (table.slice register 2).toList = [table.get register, table.get (register + 1)] := by
  have low : Transfer.lowByte (table.slice register 2) = table.get (register + 0) :=
    table.get_slice register 2 0 Nat.zero_lt_two
  have high : Transfer.highByte (table.slice register 2) = table.get (register + 1) :=
    table.get_slice register 2 1 Nat.one_lt_two
  rw [Transfer.toList_pair, low, high, UInt8.add_zero]

end Register.Table

namespace Channel

theorem registers_apart (channel : Channel) :
    (channel.register.Inert ∧ channel.register ∉ writtenRegisters) ∧
      (channel.register + 1).Inert ∧ channel.register + 1 ∉ writtenRegisters := by
  refine ⟨⟨⟨?_, ?_, ?_⟩, ?_⟩, ⟨?_, ?_, ?_⟩, ?_⟩ <;> cases channel <;> decide

end Channel

/-- Reads change nothing, so each shows what was there before all of them. -/
theorem word_of_shows {rules : Bus.Rules} {table : Register.Table UInt8} {address : UInt8}
    {words : Channel → UInt16} {channels : List Channel} {count : Nat}
    (shows : rules.Shows table (fetchAccesses address words channels count)) :
    ∀ channel ∈ channels.take count, words channel = table.word channel.register := by
  induction channels generalizing count with
  | nil => simp
  | cons channel rest ih =>
    cases count with
    | zero => simp
    | succ count =>
      obtain ⟨shown, later⟩ := shows
      have clear : Register.Clear channel.register 2 := by cases channel <;> decide
      have bytes := shown clear
      rw [Register.Table.slice_pair] at bytes
      obtain ⟨low, rest_eq⟩ := List.cons.inj bytes
      have high := List.singleton_inj.mp rest_eq
      rw [List.take_succ_cons, List.forall_mem_cons]
      refine ⟨?_, ih later⟩
      rw [Register.Table.word, ← low, ← high, Word.ofBytes_low_high]

namespace Gauge

open Bus (Simulated)

variable (gauge : Gauge) (bus : Simulated)

theorem configure_untouched {register : Register} (inert : register.Inert)
    (other : register ∉ writtenRegisters) :
    (configure.run gauge.address gauge bus).bus.registers.get register =
      bus.registers.get register := by
  rw [run_configure]
  by_cases verified : gauge.verified = true
  · rw [if_pos verified]
    apply (Calibration.run gauge.config).run_untouched inert
    have confined := (Calibration.run_course gauge.config gauge.address {} bus).confined
    intro event member
    cases event with
    | write place target value accepted =>
      rintro rfl
      exact other (confined _ member).2
    | _ => exact id
  · rw [if_neg verified]

theorem configure_word (channel : Channel) :
    (configure.run gauge.address gauge bus).bus.registers.word channel.register =
      bus.registers.word channel.register := by
  obtain ⟨⟨lowInert, low⟩, highInert, high⟩ := channel.registers_apart
  rw [Register.Table.word_inj]
  exact ⟨configure_untouched gauge bus lowInert low,
    configure_untouched gauge bus highInert high⟩

theorem fetchEach_words (address : UInt8) {channels : List Channel} (distinct : channels.Nodup)
    (ended : ((fetchEach channels).run address gauge bus).result = .ok ()) :
    ∀ channel ∈ channels,
      ((fetchEach channels).run address gauge bus).state.telemetry.word? channel =
        some (bus.registers.word channel.register) := by
  obtain ⟨words, count, fetched⟩ := fetchEach_fetched address gauge bus distinct
  have keeps : ∀ event ∈ traffic ((fetchEach channels).run address gauge bus).events,
      bus.rules.KeepsWrite event := by
    intro event member
    obtain ⟨channel, answer, rfl⟩ := fetchEach_fetching address gauge bus channels event member
    trivial
  obtain ⟨_, shows⟩ := (fetchEach channels).run_replays address gauge keeps
  rw [fetched.accesses] at shows
  -- A fetch that ends well has read every channel.
  have all : count = channels.length := by
    by_contra short
    have failed := fetched.result
    rw [if_neg short, ended] at failed
    cases failed
  have shown := word_of_shows shows
  rw [all, List.take_length] at shown
  intro channel member
  rw [fetched.state, all, List.take_length]
  simp only [Telemetry.word?_refreshed, if_pos member, shown channel member]

theorem fetch_words (selection : Selection)
    (ended : ((fetch selection).run gauge.address gauge bus).result = .ok ()) :
    ∀ channel ∈ selection.channels,
      ((fetch selection).run gauge.address gauge bus).state.telemetry.word? channel =
        some (bus.registers.word channel.register) := by
  have distinct := selection.channels_nodup
  rw [run_fetch] at ended ⊢
  by_cases due : gauge.calibrationDue = true
  · have kept := configure_word gauge bus
    simp only [due, if_true] at ended ⊢
    generalize configure.run gauge.address gauge bus = configured at ended kept ⊢
    -- Only a calibration that succeeded is followed by reads.
    cases done : configured.result with
    | error error =>
      simp only [done] at ended
      cases ended
    | ok _ =>
      simp only [done, Action.Outcome.after] at ended ⊢
      intro channel member
      rw [fetchEach_words configured.state configured.bus gauge.address distinct ended channel
        member, kept]
  · rw [if_neg due] at ended ⊢
    exact fetchEach_words gauge bus gauge.address distinct ended

theorem reading_of_fetch_all
    (fetched : ((fetch .all).run gauge.address gauge bus).result = .ok ()) (channel : Channel) :
    ((fetch .all).run gauge.address gauge bus).state.reading (.one channel) =
      .ok (channel.quantity (bus.registers.word channel.register)) := by
  have held := fetch_words gauge bus .all fetched channel channel.mem_inRegisterOrder
  rw [reading, Telemetry.quantity?, held]
  rfl

/-- Fetched from one memory, and compared with what is fetched from another. -/
theorem fetch_all_in_units
    (fetched : ((fetch .all).run gauge.address gauge bus).result = .ok ()) :
    let outcome := (fetch .all).run gauge.address gauge bus
    (∀ channel : Channel, ∃ (word : UInt16) (quantity : Quantity),
      word.toNat = (bus.registers.get channel.register).toNat +
        256 * (bus.registers.get (channel.register + 1)).toNat ∧
      outcome.state.reading (.one channel) = .ok quantity ∧
      quantity.toMicro.toInt = channel.micro word ∧
      quantity.Normal ∧ quantity = .ofMicro quantity.toMicro ∧ channel.Exact word) ∧
    ∀ (other : Gauge) (memory : Simulated),
      let second := (fetch .all).run other.address other memory
      second.result = .ok () → ∀ channel : Channel,
        (outcome.state.reading (.one channel) = second.state.reading (.one channel) ↔
          bus.registers.get channel.register = memory.registers.get channel.register ∧
          bus.registers.get (channel.register + 1) =
            memory.registers.get (channel.register + 1)) := by
  refine ⟨fun channel => ?_, fun other memory alsoFetched channel => ?_⟩
  · have denotes := channel.quantity_denotes (bus.registers.word channel.register)
    exact ⟨_, _, bus.registers.toNat_word channel.register,
      reading_of_fetch_all gauge bus fetched channel, denotes.micro, denotes.normal,
      ((Quantity.ofMicro_toMicro_iff _).mpr denotes.normal).symm, channel.exact _⟩
  · rw [reading_of_fetch_all gauge bus fetched, reading_of_fetch_all other memory alsoFetched,
      Except.ok.injEq, channel.quantity_inj, Register.Table.word_inj]

/-- A calibration first, and then a temperature and a current just below zero. -/
theorem fetch_all_in_units_below_zero :
    let gauge : Gauge := { config := ⟨1500, 3000, .onFirstFetch, true⟩, verified := true }
    let bus : Simulated := {
      registers := ((((Register.Table.fill 0).set 0x28 0xAB).set 0x29 0x0A).set 0x14 0xFF).set
        0x15 0xFF
      rules := { flash := [⟨0x30, 0, .replicate 32 7⟩] } }
    let outcome := (fetch .all).run gauge.address gauge bus
    outcome.result = .ok () ∧ outcome.state.attempt = .succeeded ∧
    outcome.state.reading (.one .internalTemperature) = .ok ⟨0, -50000⟩ ∧
    outcome.state.reading (.one .averageCurrent) = .ok ⟨0, -1000⟩ ∧
    ∃ (word : UInt16) (quantity : Quantity),
      outcome.state.reading (.one .internalTemperature) = .ok quantity ∧
      quantity.toMicro.toInt = Channel.internalTemperature.micro word ∧ quantity.Normal := by
  intro gauge bus outcome
  have fetched : outcome.result = .ok () := by decide +kernel
  obtain ⟨word, quantity, _, told, micro, normal, _⟩ :=
    (fetch_all_in_units gauge bus fetched).1 .internalTemperature
  exact ⟨fetched, by decide +kernel, by decide +kernel, by decide +kernel, word, quantity, told,
    micro, normal⟩

end Gauge
end FuelGauge
