import FuelGauge.Flash.Block
import FuelGauge.Word

/-!
How a simulated gauge behaves beyond keeping its registers: what it answers to
control words, what its data flash holds, and which accesses go wrong.
-/

namespace FuelGauge.Bus

inductive Occurrence where
  | every
  /-- Counted from one. -/
  | nth (number : Nat)
  deriving DecidableEq, Repr

namespace Occurrence

/-- Whether the access that brings a count to `count` is meant. -/
def isMet (occurrence : Occurrence) (count : Nat) : Bool :=
  match occurrence with
  | .every => true
  | .nth number => number = count

end Occurrence

structure Response where
  word : UInt16
  answer : UInt16
  deriving DecidableEq, Repr

structure Fault where
  register : Register
  occurrence : Occurrence
  deriving DecidableEq, Repr

def Fault.isMet (fault : Fault) (register : Register) (count : Nat) : Bool :=
  fault.register = register && fault.occurrence.isMet count

/-- Writes after which the register holds another value than the one written. -/
structure Override where
  register : Register
  occurrence : Occurrence
  value : UInt8
  deriving DecidableEq, Repr

def Override.isMet (override : Override) (register : Register) (count : Nat) : Bool :=
  override.register = register && override.occurrence.isMet count

/-- Of several entries that fit, the first is taken. -/
structure Rules where
  responses : List Response := []
  flash : List Flash.Block := []
  overrides : List Override := []
  failingWrites : List Fault := []
  failingReads : List Fault := []
  failingTransactions : List Nat := []
  /-- Where the gauge answers; anywhere, if none is given. -/
  address : Option UInt8 := none
  deriving DecidableEq, Repr

namespace Rules

def answers (rules : Rules) (address : UInt8) : Bool :=
  rules.address.all (· = address)

def refuses (rules : Rules) (faults : List Fault) (address : UInt8) (register : Register)
    (transaction count : Nat) : Bool :=
  !rules.answers address || rules.failingTransactions.contains transaction ||
    faults.any (·.isMet register count)

def stored (rules : Rules) (register : Register) (count : Nat) (value : UInt8) : UInt8 :=
  ((rules.overrides.find? (·.isMet register count)).map Override.value).getD value

def answer? (rules : Rules) (word : UInt16) : Option UInt16 :=
  (rules.responses.find? (·.word = word)).map Response.answer

def block? (rules : Rules) (subclass index : UInt8) : Option Flash.Block :=
  rules.flash.find? fun block => block.subclass = subclass && block.index = index

end Rules
end FuelGauge.Bus
