import FuelGauge.Proofs.Gauge.Readings
import FuelGauge.Proofs.Session.History

/-!
The telemetry of a session against its history. Of every channel it holds the
word with which the channel's register was last read, and nothing before the
first such read; all questions about a channel are answered from that word.
-/

namespace FuelGauge

namespace Telemetry

def ofWords (words : Channel → Option UInt16) : Telemetry where
  voltage := words .voltage
  averageCurrent := (words .averageCurrent).map UInt16.toInt16
  standbyCurrent := (words .standbyCurrent).map UInt16.toInt16
  internalTemperature := words .internalTemperature
  stateOfCharge := words .stateOfCharge
  stateOfHealth := words .stateOfHealth
  fullChargeCapacity := words .fullChargeCapacity
  remainingCapacity := words .remainingCapacity
  nominalAvailableCapacity := words .nominalAvailableCapacity
  fullAvailableCapacity := words .fullAvailableCapacity

theorem word?_ofWords (words : Channel → Option UInt16) (channel : Channel) :
    (ofWords words).word? channel = words channel := by
  have signed (word? : Option UInt16) :
      (word?.map UInt16.toInt16).map Int16.toUInt16 = word? := by
    cases word? <;> rfl
  cases channel with
  | averageCurrent => exact signed _
  | standbyCurrent => exact signed _
  | _ => rfl

end Telemetry

namespace Session

variable {β κ : Type} [Bus β] [Adjustable β κ]

theorem step_telemetry (session : Session β) (request : Request κ) (channel : Channel) :
    (session.step request).2.gauge.telemetry.word? channel =
      (lastReading? channel (session.step request).1.events).or
        (session.gauge.telemetry.word? channel) := by
  cases request with
  | adjust change => rfl
  | command command => exact command.telemetry_eq session.gauge session.bus channel

theorem run_telemetry (config : Config) (address : UInt8) (bus : β) (requests : List (Request κ))
    (channel : Channel) :
    ((start config address bus).run requests).2.gauge.telemetry.word? channel =
      lastReading? channel ((start config address bus).history requests) := by
  induction requests using List.reverseRecOn with
  | nil => exact Telemetry.word?_empty channel
  | append_singleton requests request ih =>
    rw [run_snoc, history_snoc, lastReading?_append, step_telemetry, ih]

theorem step_telemetry_of_ne_fetch (session : Session β) (request : Request κ)
    (other : ∀ selection, request ≠ .command (.fetch selection)) :
    (session.step request).2.gauge.telemetry = session.gauge.telemetry := by
  cases request with
  | adjust change => rfl
  | command command =>
    have notFetch : ∀ selection, command ≠ .fetch selection := by
      rintro selection rfl
      exact other selection rfl
    exact (command.unread_of_ne_fetch session.gauge session.bus notFetch).2

theorem step_reading (session : Session β) (selection : Selection) :
    (session.step (.command (.reading selection) : Request κ)).1.result =
      (session.gauge.reading selection).map .reading := by
  simp only [step, perform, reply, Gauge.Command.action, Action.run_map, Gauge.run_inspect]

theorem step_fixedReading (session : Session β) (selection : Selection) :
    (session.step (.command (.fixedReading selection) : Request κ)).1.result =
      .ok (.fixedReading (session.gauge.telemetry.fixed? selection)) := by
  simp only [step, perform, reply, Gauge.Command.action, Gauge.run_inspect]

/-- After any session. A refused read is no reading, and leaves what was read before. -/
theorem run_telemetry_last_readings (config : Config) (address : UInt8) (bus : β)
    (requests : List (Request κ)) :
    let initial := start config address bus
    let session := (initial.run requests).2
    let last := fun channel => lastReading? channel (initial.history requests)
    let answer := fun command => (session.step (.command command : Request κ)).1.result
    session.gauge.telemetry = Telemetry.ofWords last ∧
    (∀ channel, answer (.reading (.one channel)) =
      match last channel with
      | none => .error .unsupportedChannel
      | some word => .ok (.reading (channel.quantity word))) ∧
    answer (.reading .all) = .error .unsupportedChannel ∧
    (∀ selection, answer (.fixedReading selection) =
      match answer (.reading selection) with
      | .ok (.reading quantity) => .ok (.fixedReading (some (Fixed.ofQuantity quantity)))
      | _ => .ok (.fixedReading none)) ∧
    (∀ (request : Request κ) (channel : Channel),
      readings channel (session.step request).1.events = [] →
      (session.step request).2.gauge.telemetry.word? channel =
        session.gauge.telemetry.word? channel) ∧
    (∀ request : Request κ, (∀ selection, request ≠ .command (.fetch selection)) →
      (session.step request).2.gauge.telemetry = session.gauge.telemetry) := by
  intro initial session last answer
  have words : ∀ channel, session.gauge.telemetry.word? channel = last channel :=
    run_telemetry config address bus requests
  refine ⟨?_, ?_, ?_, ?_, ?_, step_telemetry_of_ne_fetch session⟩
  · apply Telemetry.eq_of_word?
    intro channel
    rw [words, Telemetry.word?_ofWords]
  · intro channel
    have read := step_reading (κ := κ) session (.one channel)
    simp only [Gauge.reading, Telemetry.quantity?, words] at read
    cases told : last channel with
    | none =>
      rw [told] at read
      exact read
    | some word =>
      rw [told] at read
      exact read
  · exact step_reading session .all
  · intro selection
    simp only [answer, step_fixedReading, step_reading, Gauge.reading, Telemetry.fixed?]
    cases session.gauge.telemetry.quantity? selection with
    | none => rfl
    | some quantity => rfl
  · intro request channel nothing
    rw [step_telemetry, lastReading?, nothing]
    rfl

end Session
end FuelGauge
