import FuelGauge.Proofs.Bus.Window
import FuelGauge.Proofs.Gauge.FirstFlaw
import FuelGauge.Proofs.Gauge.Writes

/-!
What a calibration leaves in the gauge when the bus accepts all of it. Each field
is put into the block that was loaded for it, all else in the block stays, and the
checksum committed is the one of that block. The window keeps what was written last.
-/

namespace FuelGauge

open Flash (Field Window)

namespace Flash.Field

def position (field : Field) : Nat := field.offset.toNat % blockLength

theorem position_bound (field : Field) : field.position + 1 < blockLength := by
  cases field <;> decide

theorem address_eq (field : Field) :
    field.address = Register.blockData + UInt8.ofNat field.position := by
  cases field <;> rfl

theorem address_next (field : Field) :
    field.address + 1 = Register.blockData + UInt8.ofNat (field.position + 1) := by
  cases field <;> rfl

end Flash.Field

namespace Calibration

variable {rules : Bus.Rules} {table : Register.Table UInt8} {config : Config} {address : UInt8}
  {field : Field} {window : Window}

/-- The window once the block of a field is selected: what data flash has for it,
and otherwise what was there before. -/
def reload (rules : Bus.Rules) (field : Field) (previous : Window) : Window :=
  ((rules.block? field.subclass field.block).map Flash.Block.data).getD previous

def rewrite (config : Config) (field : Field) (window : Window) : Window :=
  (window.set field.position (Word.high (config.value field))
    (Nat.lt_of_succ_lt field.position_bound)).set (field.position + 1)
      (Word.low (config.value field)) field.position_bound

theorem window_selected :
    (rules.poke (rules.poke table 0x3E field.subclass) Register.dataBlock field.block).window =
      reload rules field table.window := by
  have chosen : rules.poke table 0x3E field.subclass = table.set 0x3E field.subclass :=
    Bus.Rules.poke_of_ne _ (by decide)
  have sameClass : (table.set 0x3E field.subclass).get Register.dataClass = field.subclass := by
    rw [Register.Table.get_set]
    exact if_pos rfl
  rw [chosen, Bus.Rules.poke_dataBlock, sameClass, reload]
  cases rules.block? field.subclass field.block with
  | none =>
    rw [Option.elim_none, Register.Table.window_set_outside _ (by decide),
      Register.Table.window_set_outside _ (by decide)]
    rfl
  | some block => exact Register.Table.window_setFrom _ block.data

theorem window_written :
    (rules.replay table (writeAccesses config address field)).window =
      rewrite config field (reload rules field table.window) := by
  have first : field.address ≠ Register.dataBlock := by cases field <;> decide
  have second : field.address + 1 ≠ Register.dataBlock := by cases field <;> decide
  let selected := rules.poke (rules.poke table 0x3E field.subclass) Register.dataBlock field.block
  have poked : rules.replay table (writeAccesses config address field) =
      rules.poke (rules.poke selected field.address (Word.high (config.value field)))
        (field.address + 1) (Word.low (config.value field)) := rfl
  rw [poked, Bus.Rules.poke_of_ne _ second, Bus.Rules.poke_of_ne _ first, field.address_next,
    field.address_eq, Register.Table.window_set _ field.position_bound,
    Register.Table.window_set _ (Nat.lt_of_succ_lt field.position_bound), window_selected, rewrite]

structure Rewrites (rules : Bus.Rules) (config : Config) (field : Field)
    (previous window : Window) : Prop where
  value : ∃ high low, window[field.position]? = some high ∧
    window[field.position + 1]? = some low ∧
    256 * high.toNat + low.toNat = (config.value field).toNat
  others : ∀ index, index ≠ field.position → index ≠ field.position + 1 →
    window[index]? = (reload rules field previous)[index]?

theorem rewrites (rules : Bus.Rules) (config : Config) (field : Field) (previous : Window) :
    Rewrites rules config field previous
      (rewrite config field (reload rules field previous)) where
  value := by
    have bound := field.position_bound
    refine ⟨Word.high (config.value field), Word.low (config.value field), ?_, ?_, ?_⟩
    · simp [rewrite, Nat.lt_of_succ_lt bound]
    · simp [rewrite, bound]
    · rw [Word.toNat_high, Word.toNat_low]
      omega
  others := by
    intro index first second
    simp [rewrite, first.symm, second.symm]

theorem commitAccesses_aside (config : Config) (address : UInt8) (window : Window) :
    ∀ event ∈ commitAccesses config address window, event.Aside := by
  have outside : Register.Outside 0x60 := by decide
  cases asked : config.verifyChecksum <;> simp [commitAccesses, asked, Event.Aside, outside]

theorem window_field (shows : rules.Shows table (fieldAccesses config address field window)) :
    (rules.replay table (fieldAccesses config address field window)).window = window ∧
      Rewrites rules config field table.window window := by
  rw [fieldAccesses_eq, Bus.Rules.shows_append] at shows
  have shown := shows.2.1 (by decide)
  have whole : window = rewrite config field (reload rules field table.window) := by
    rw [← window_written]
    exact Vector.toList_inj.mp shown
  constructor
  · rw [fieldAccesses_eq, Bus.Rules.replay_append,
      Bus.Rules.window_replay (commitAccesses_aside config address window), window_written, ← whole]
  · rw [whole]
    exact rewrites rules config field table.window

/-- Each field is written into the window as the one before it left it. -/
def Programmed (rules : Bus.Rules) (config : Config) (windows : Field → Window) :
    Window → List Field → Prop
  | _, [] => True
  | previous, field :: rest =>
      Rewrites rules config field previous (windows field) ∧
        Programmed rules config windows (windows field) rest

theorem window_fields {windows : Field → Window} {fields : List Field} {previous : Window}
    (before : table.window = previous)
    (shows : rules.Shows table
      (fields.flatMap fun field => fieldAccesses config address field (windows field))) :
    (rules.replay table
        (fields.flatMap fun field => fieldAccesses config address field (windows field))).window =
        fields.foldl (fun _ field => windows field) previous ∧
      Programmed rules config windows previous fields := by
  induction fields generalizing table previous with
  | nil => exact ⟨before, trivial⟩
  | cons field rest ih =>
    rw [List.flatMap_cons, Bus.Rules.shows_append] at shows
    obtain ⟨left, rewritten⟩ := window_field shows.1
    obtain ⟨last, programmed⟩ := ih left shows.2
    rw [before] at rewritten
    rw [List.flatMap_cons, Bus.Rules.replay_append]
    exact ⟨last, rewritten, programmed⟩

theorem window_reference {windows : Field → Window}
    (shows : rules.Shows table (referenceAccesses config address windows)) :
    (rules.replay table (referenceAccesses config address windows)).window =
        windows .finalVoltage ∧
      Programmed rules config windows table.window Field.inOrder := by
  have word (code : UInt16) : ∀ event ∈ controlAccesses address code, event.Aside := by
    have low : Register.Outside 0x00 := by decide
    have high : Register.Outside 0x01 := by decide
    simp [controlAccesses, Event.Aside, low, high]
  let opening := controlAccesses address 0x0414 ++ controlAccesses address 0x3672 ++
    [.write address 0x61 0x00 true]
  let closing := controlAccesses address 0x0041 ++ [.delay 100000000] ++
    controlAccesses address 0x0020
  have openingAside : ∀ event ∈ opening, event.Aside := by
    have outside : Register.Outside 0x61 := by decide
    simp only [opening, List.forall_mem_append, List.forall_mem_singleton]
    exact ⟨⟨word _, word _⟩, by decide, outside⟩
  have closingAside : ∀ event ∈ closing, event.Aside := by
    simp only [closing, List.forall_mem_append, List.forall_mem_singleton]
    exact ⟨⟨word _, trivial⟩, word _⟩
  have parts : referenceAccesses config address windows =
      opening ++ ((Field.inOrder.flatMap fun field =>
        fieldAccesses config address field (windows field)) ++ closing) := by
    simp only [referenceAccesses, openAccesses, sealAccesses, opening, closing,
      List.append_assoc, Field.inOrder]
  rw [parts] at shows
  obtain ⟨_, later⟩ := (Bus.Rules.shows_append rules).mp shows
  obtain ⟨fieldsShow, _⟩ := (Bus.Rules.shows_append rules).mp later
  obtain ⟨last, programmed⟩ := window_fields (Bus.Rules.window_replay openingAside) fieldsShow
  rw [parts, Bus.Rules.replay_append, Bus.Rules.replay_append,
    Bus.Rules.window_replay closingAside]
  exact ⟨last, programmed⟩

/-! The other registers. -/

theorem lastWritten_reference (config : Config) (address : UInt8) (windows : Field → Window) :
    lastWritten 0x3E (referenceAccesses config address windows) = some 0x31 ∧
      lastWritten 0x3F (referenceAccesses config address windows) = some 0x00 ∧
      lastWritten 0x60 (referenceAccesses config address windows) =
        some (Flash.complement (windows .finalVoltage).toList) ∧
      lastWritten 0x61 (referenceAccesses config address windows) = some 0x00 := by
  obtain ⟨capacity, voltage, mode, verifyChecksum⟩ := config
  cases verifyChecksum <;> exact ⟨rfl, rfl, rfl, rfl⟩

end Calibration

theorem lastWritten_eq_none {address : UInt8} {register : Register} {events : List Event}
    (confined : Confined address events) (other : register ∉ writtenRegisters) :
    lastWritten register events = none := by
  rw [lastWritten]
  induction events with
  | nil => rfl
  | cons event rest ih =>
    obtain ⟨first, later⟩ := List.forall_mem_cons.mp confined
    have nothing : event.stores register none = none := by
      cases event with
      | write place target value accepted =>
        have apart : target ≠ register := fun same => other (same ▸ first.2)
        simp [Event.stores, apart]
      | _ => rfl
    rw [List.foldl_cons, nothing]
    exact ih later

theorem notMem_writtenRegisters {register : Register} (low : register ≠ 0x00)
    (high : register ≠ 0x01) (apart : register < 0x3E ∨ 0x61 < register) :
    register ∉ writtenRegisters := by
  have bounds : ∀ register ∈ writtenRegisters,
      register = 0x00 ∨ register = 0x01 ∨ 0x3E ≤ register ∧ register ≤ 0x61 := by
    simp [writtenRegisters]
  intro member
  rcases bounds register member with control | control | ⟨least, most⟩
  · exact low control
  · exact high control
  · exact apart.elim (UInt8.not_lt.mpr least) (UInt8.not_lt.mpr most)

theorem keepsWrite_of_confined {rules : Bus.Rules} {address : UInt8} {event : Event}
    (spared : ∀ override ∈ rules.overrides, override.register < 0x3E ∨ 0x61 < override.register)
    (confined : event.Confined address) : rules.KeepsWrite event := by
  cases event with
  | write place register value accepted =>
    rintro low high override member rfl
    exact notMem_writtenRegisters low high (spared override member) confined.2
  | _ => trivial

theorem flawless_of_shows {rules : Bus.Rules} {table : Register.Table UInt8}
    {events : List Event} (accepted : Accepted events) (shows : rules.Shows table events) :
    Flawless events := by
  rintro earlier event error ⟨later, rfl⟩ flaw
  cases flaw with
  | refused failure =>
    have member : event ∈ earlier ++ [event] ++ later := by simp
    exact accepted.not_failed member failure
  | @mismatch place byte found last different =>
    rw [List.append_assoc, Bus.Rules.shows_append] at shows
    have shown := shows.2.1 (by decide)
    have found_eq : found = (rules.replay table earlier).get 0x60 := by
      rw [Transfer.toList_single] at shown
      rw [List.singleton_inj.mp shown]
      exact Register.Table.get_slice _ 0x60 1 0 Nat.zero_lt_one
    rw [Bus.Rules.get_replay earlier (by decide), last] at found_eq
    exact different found_eq

namespace Gauge

open Calibration (Programmed referenceAccesses)

/-- A calibration to which the bus makes no objection. It succeeds, whether or not
the checksums are read back. -/
theorem configure_programs (gauge : Gauge) (bus : Bus.Simulated)
    (verified : gauge.verified = true)
    (spared : ∀ override ∈ bus.rules.overrides,
      override.register < 0x3E ∨ 0x61 < override.register)
    (accepted : Accepted (configure.run gauge.address gauge bus).events) :
    let outcome := configure.run gauge.address gauge bus
    let stored := outcome.bus.registers
    outcome.result = .ok () ∧ ∃ windows : Field → Window,
      traffic outcome.events = referenceAccesses gauge.config gauge.address windows ∧
      Programmed bus.rules gauge.config windows bus.registers.window Field.inOrder ∧
      stored.window = windows .finalVoltage ∧
      stored.get 0x60 = Flash.complement (windows .finalVoltage).toList ∧
      stored.get 0x3E = 0x31 ∧ stored.get 0x3F = 0x00 ∧ stored.get 0x61 = 0x00 ∧
      ∀ register, register ≠ 0x00 → register ≠ 0x01 → register < 0x3E ∨ 0x61 < register →
        stored.get register = bus.registers.get register := by
  simp only [run_configure, verified, if_true] at accepted ⊢
  have confined := (Calibration.run_course gauge.config gauge.address {} bus).confined
  obtain ⟨same, shows⟩ := (Calibration.run gauge.config).run_replays gauge.address {}
    fun event member => keepsWrite_of_confined spared (confined event member)
  have ended : ((Calibration.run gauge.config).run gauge.address {} bus).result = .ok () :=
    (Calibration.run_ok_iff_flawless ..).mpr
      (flawless_of_shows (fun event member => accepted event (List.mem_filter.mp member).1) shows)
  obtain ⟨windows, complete⟩ := Calibration.run_traffic_of_ok ended
  rw [complete] at same shows confined
  obtain ⟨last, programmed⟩ := Calibration.window_reference shows
  obtain ⟨subclass, block, checksum, control⟩ :=
    Calibration.lastWritten_reference gauge.config gauge.address windows
  -- Outside the window all registers hold what they accepted last.
  have held {register : Register} (low : register ≠ 0x00) (high : register ≠ 0x01)
      (outside : Register.Outside register) :=
    (same register low high).trans (bus.rules.get_replay _ outside)
  refine ⟨ended, windows, complete, programmed, ?_, ?_, ?_, ?_, ?_, ?_⟩
  · exact (same.slice (by decide)).trans last
  · rw [held (by decide) (by decide) (by decide), checksum, Option.getD_some]
  · rw [held (by decide) (by decide) (by decide), subclass, Option.getD_some]
  · rw [held (by decide) (by decide) (by decide), block, Option.getD_some]
  · rw [held (by decide) (by decide) (by decide), control, Option.getD_some]
  · intro register low high apart
    have outside : Register.Outside register :=
      apart.imp (fun below => UInt8.lt_trans below (by decide))
        fun above => UInt8.lt_trans (by decide) above
    rw [held low high outside,
      lastWritten_eq_none confined (notMem_writtenRegisters low high apart), Option.getD_none]

/-- One field has no block of its own, and is written into the block loaded before. -/
theorem configure_programs_blocks :
    let gauge : Gauge := { config := ⟨1500, 3000, .atInit, true⟩, verified := true }
    let bus : Bus.Simulated := {
      registers := .fill 5
      rules := {
        flash := [⟨0x30, 0, .replicate 32 7⟩, ⟨0x50, 1, .replicate 32 9⟩]
        overrides := [⟨0x10, .every, 1⟩] } }
    let outcome := configure.run gauge.address gauge bus
    let stored := outcome.bus.registers
    gauge.verified = true ∧ Accepted outcome.events ∧ outcome.result = .ok () ∧
    (∃ windows : Field → Window,
      traffic outcome.events = referenceAccesses gauge.config gauge.address windows ∧
      Programmed bus.rules gauge.config windows bus.registers.window Field.inOrder ∧
      stored.window = windows .finalVoltage) ∧
    [0x4D, 0x4E, 0x4F, 0x50, 0x57, 0x58, 0x60].map stored.get = [9, 11, 184, 9, 11, 184, 125] := by
  intro gauge bus outcome stored
  have verified : gauge.verified = true := rfl
  have spared : ∀ override ∈ bus.rules.overrides,
      override.register < 0x3E ∨ 0x61 < override.register := by decide
  have accepted : Accepted outcome.events := by
    unfold Accepted
    decide +kernel
  obtain ⟨ended, windows, complete, programmed, last, _⟩ :=
    configure_programs gauge bus verified spared accepted
  exact ⟨verified, accepted, ended, ⟨windows, complete, programmed, last⟩, by decide +kernel⟩

end Gauge
end FuelGauge
