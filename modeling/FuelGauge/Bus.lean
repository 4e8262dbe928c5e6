import FuelGauge.Log

/-!
What a gauge is reached through: byte registers behind an address, any access
to which may be refused, and the record of what passed over it.
-/

namespace FuelGauge

/-- A bus answers a write by accepting it or not, and a read by the bytes or by
nothing. How it does so, and how each access changes it, is its own affair. -/
class Bus (β : Type) where
  write (bus : β) (address register value : UInt8) : Bool × β
  read (bus : β) (address register : UInt8) (length : Nat) : Option (Vector UInt8 length) × β

/-- A bus that something other than its user can change between two accesses. -/
class Adjustable (β : Type) (κ : outParam Type) where
  adjust (bus : β) (change : κ) : β

inductive Event where
  | write (address register value : UInt8) (accepted : Bool)
  | read (address register : UInt8) (length : Nat) (answer : Option (List UInt8))
  | delay (nanoseconds : Nat)
  | log (record : Log.Record)
  deriving DecidableEq, Repr

namespace Event

def isLog : Event → Bool
  | .log _ => true
  | _ => false

def isFailure : Event → Bool
  | .write _ _ _ accepted => !accepted
  | .read _ _ _ answer => answer.isNone
  | _ => false

end Event

def traffic (events : List Event) : List Event := events.filter (!·.isLog)

theorem traffic_append (first second : List Event) :
    traffic (first ++ second) = traffic first ++ traffic second :=
  List.filter_append ..

end FuelGauge
