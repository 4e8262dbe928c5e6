import FuelGauge.Proofs.Gauge.Parts

/-!
The words read from the registers of the channels, as the events show them. A
fetch is the only command that reads such a register, and what the telemetry
holds of a channel after a command is the last word read in it, if there is one.
-/

namespace FuelGauge

namespace Event

def IsReading : Event → Prop
  | .read _ register _ _ => ∃ channel : Channel, register = channel.register
  | _ => False

def reading? (channel : Channel) : Event → Option UInt16
  | .read _ register 2 (some [low, high]) =>
      if register = channel.register then some (Word.ofBytes low high) else none
  | _ => none

theorem isReading_of_reading? {channel : Channel} {event : Event} {word : UInt16}
    (told : event.reading? channel = some word) : event.IsReading := by
  unfold reading? at told
  split at told
  · split at told
    · exact ⟨channel, by assumption⟩
    · cases told
  · cases told

end Event

theorem Deviates.isReading {event found : Event} {error : Error}
    (deviates : Deviates event found error) (other : ¬ event.IsReading) : ¬ found.IsReading := by
  cases deviates with
  | write => exact id
  | read => exact other
  | mismatch => exact other

def readings (channel : Channel) (events : List Event) : List UInt16 :=
  events.filterMap (Event.reading? channel)

def lastReading? (channel : Channel) (events : List Event) : Option UInt16 :=
  (readings channel events).getLast?

theorem lastReading?_append (channel : Channel) (first second : List Event) :
    lastReading? channel (first ++ second) =
      (lastReading? channel second).or (lastReading? channel first) := by
  simp [lastReading?, readings, List.filterMap_append, List.getLast?_append]

def Unread (events : List Event) : Prop := ∀ event ∈ events, ¬ event.IsReading

theorem unread_append {first second : List Event} :
    Unread (first ++ second) ↔ Unread first ∧ Unread second :=
  List.forall_mem_append

theorem unread_traffic {events : List Event} : Unread (traffic events) ↔ Unread events :=
  forall_mem_traffic fun _ => id

theorem Unread.readings_nil {events : List Event} (unread : Unread events) (channel : Channel) :
    readings channel events = [] := by
  rw [readings, List.filterMap_eq_nil_iff]
  intro event member
  cases told : event.reading? channel with
  | none => rfl
  | some word => exact absurd (Event.isReading_of_reading? told) (unread event member)

theorem controlAccesses_unread (address : UInt8) (word : UInt16) :
    Unread (controlAccesses address word) := by
  simp [controlAccesses, Unread, Event.IsReading]

theorem channel_register_ne (register : Register) (listed : register ∈ [0x00, 0x40, 0x60])
    (channel : Channel) : register ≠ channel.register := by
  rintro rfl
  revert listed
  cases channel <;> decide

namespace Calibration

open Flash (Field Window)

theorem fieldAccesses_unread (config : Config) (address : UInt8) (field : Field)
    (window : Window) : Unread (fieldAccesses config address field window) := by
  have block := channel_register_ne 0x40 (by decide)
  have checksum := channel_register_ne 0x60 (by decide)
  have writes : ∀ event ∈ writeAccesses config address field, ¬ event.IsReading := by
    simp [writeAccesses, Event.IsReading]
  apply forall_mem_fieldAccesses writes
  case shown => simp [Event.IsReading, block]
  case readBack => simp [Event.IsReading, checksum]
  all_goals exact id

theorem openAccesses_unread (config : Config) (address : UInt8) (windows : Field → Window) :
    Unread (openAccesses config address windows) :=
  forall_mem_openAccesses (fun word _ => controlAccesses_unread address word) id
    (fun field => fieldAccesses_unread config address field _) id

theorem Course.unread {config : Config} {address : UInt8} {events : List Event}
    {result : Except Error Unit} (course : Course config address events result) :
    Unread events :=
  course.forall_mem Deviates.isReading (openAccesses_unread config address)
    (controlAccesses_unread address 0x0020)

theorem run_unread {β : Type} [Bus β] (config : Config) (address : UInt8) (progress : Progress)
    (bus : β) : Unread ((run config).run address progress bus).events :=
  unread_traffic.mp (run_course config address progress bus).unread

end Calibration

namespace Gauge

theorem Asking.unread {address : UInt8} {events : List Event} (asking : Asking address events) :
    Unread events := by
  have control := channel_register_ne 0x00 (by decide)
  have answer (low high : UInt8) : Unread [.read address 0x00 2 (some [low, high])] := by
    simp [Unread, Event.IsReading, control]
  exact unread_traffic.mp (asking.forall_mem Deviates.isReading fun code _ low high =>
    unread_append.mpr ⟨controlAccesses_unread address code, answer low high⟩)

variable {β : Type} [Bus β] (address : UInt8) (gauge : Gauge) (bus : β)

theorem configure_unread : Unread (configure.run address gauge bus).events := by
  simp only [run_configure]
  by_cases verified : gauge.verified = true
  · simp only [verified, if_true]
    exact Calibration.run_unread gauge.config address {} bus
  · simp [verified, Unread, Event.IsReading]

theorem init_unread : Unread (init.run address gauge bus).events := by
  have asked : Unread (verify.run address gauge bus).events :=
    (verify_asking address gauge bus).unread
  simp only [run_init]
  cases (verify.run address gauge bus).result with
  | error error => exact asked
  | ok done =>
    cases gauge.config.mode with
    | atInit => exact unread_append.mpr ⟨asked, configure_unread address _ _⟩
    | onFirstFetch =>
      have deferred : Unread [.log .calibrationDeferred] := by simp [Unread, Event.IsReading]
      exact unread_append.mpr ⟨asked, deferred⟩

/-- No two channels share a register, so a read is a reading of one channel. -/
theorem lastReading?_fetched (target channel : Channel) (low high : UInt8) (record : Log.Record) :
    lastReading? channel [.read address target.register 2 (some [low, high]), .log record] =
      if channel = target then some (Word.ofBytes low high) else none := by
  by_cases same : channel = target
  · simp [lastReading?, readings, List.filterMap_cons, Event.reading?, same]
  · have apart : target.register ≠ channel.register :=
      fun equal => same (Channel.register_injective equal).symm
    simp [lastReading?, readings, List.filterMap_cons, Event.reading?, same, apart]

theorem fetchEach_telemetry (channels : List Channel) (channel : Channel) :
    let outcome := (fetchEach channels).run address gauge bus
    outcome.state.telemetry.word? channel =
      (lastReading? channel outcome.events).or (gauge.telemetry.word? channel) := by
  induction channels generalizing gauge bus with
  | nil => rfl
  | cons target rest ih =>
    simp only [fetchEach, Action.run_bind, run_fetchChannel]
    cases (Bus.read bus address target.register 2).1 with
    | none => rfl
    | some bytes =>
      simp only [Action.Outcome.after, lastReading?_append, lastReading?_fetched, ih,
        Telemetry.word?_store, Option.or_assoc]
      by_cases same : channel = target
      · simp only [same, if_true, Option.some_or]
      · simp only [same, if_false, Option.none_or]

omit [Bus β] in
theorem marked_telemetry (run? : Option (Action.Outcome β Calibration.Progress Unit)) :
    (gauge.marked run?).telemetry = gauge.telemetry := by
  cases run? <;> rfl

theorem configure_telemetry :
    (configure.run address gauge bus).state.telemetry = gauge.telemetry := by
  simp only [run_configure]
  by_cases verified : gauge.verified = true
  · simp only [verified, if_true]
    rfl
  · simp only [verified]
    rfl

theorem fetch_telemetry (selection : Selection) (channel : Channel) :
    let outcome := (fetch selection).run address gauge bus
    outcome.state.telemetry.word? channel =
      (lastReading? channel outcome.events).or (gauge.telemetry.word? channel) := by
  have unread := (configure_unread address gauge bus).readings_nil channel
  have kept := configure_telemetry address gauge bus
  simp only [run_fetch]
  by_cases due : gauge.calibrationDue = true
  · simp only [due, if_true]
    cases (configure.run address gauge bus).result with
    | error error => simp [lastReading?, unread, kept]
    | ok done =>
      have nothing : lastReading? channel (configure.run address gauge bus).events = none := by
        simp [lastReading?, unread]
      simp only [Action.Outcome.after, lastReading?_append, fetchEach_telemetry, nothing, kept,
        Option.or_none]
  · simp only [due]
    exact fetchEach_telemetry address gauge bus selection.channels channel

theorem Command.unread_of_ne_fetch (command : Command)
    (other : ∀ selection, command ≠ .fetch selection) :
    let outcome := command.action.run gauge.address gauge bus
    Unread outcome.events ∧ outcome.state.telemetry = gauge.telemetry := by
  have untouched : Unread [] := by simp [Unread]
  cases command with
  | init =>
    simp only [Command.action, Action.run_map]
    exact ⟨init_unread gauge.address gauge bus, by rw [init_state, marked_telemetry]⟩
  | configure =>
    simp only [Command.action, Action.run_map]
    exact ⟨configure_unread gauge.address gauge bus, configure_telemetry gauge.address gauge bus⟩
  | deviceType =>
    simp only [Command.action, Action.run_map, Gauge.deviceType, Transfer.ask_state, and_true]
    exact (ask_asking gauge.address gauge bus .deviceType (by decide)).unread
  | firmwareVersion =>
    simp only [Command.action, Action.run_map, Gauge.firmwareVersion, Transfer.ask_state, and_true]
    exact (ask_asking gauge.address gauge bus .firmwareVersion (by decide)).unread
  | controlStatus =>
    simp only [Command.action, Action.run_map, Gauge.controlStatus, Transfer.ask_state, and_true]
    exact (ask_asking gauge.address gauge bus .controlStatus (by decide)).unread
  | fetch selection => exact absurd rfl (other selection)
  | reading selection =>
    simp only [Command.action, Action.run_map, run_inspect, and_true]
    exact untouched
  | fixedReading selection => exact ⟨untouched, rfl⟩
  | telemetry => exact ⟨untouched, rfl⟩
  | config => exact ⟨untouched, rfl⟩

theorem Command.telemetry_eq (command : Command) (channel : Channel) :
    let outcome := command.action.run gauge.address gauge bus
    outcome.state.telemetry.word? channel =
      (lastReading? channel outcome.events).or (gauge.telemetry.word? channel) := by
  by_cases fetching : ∃ selection, command = .fetch selection
  · obtain ⟨selection, rfl⟩ := fetching
    simp only [Command.action, Action.run_map]
    exact fetch_telemetry gauge.address gauge bus selection channel
  · obtain ⟨unread, kept⟩ := command.unread_of_ne_fetch gauge bus
      fun selection same => fetching ⟨selection, same⟩
    simp [lastReading?, unread.readings_nil, kept]

end Gauge
end FuelGauge
