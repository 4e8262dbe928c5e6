import FuelGauge.Bus.Simulated

/-!
Changes made to a simulated bus from outside. An adjustment changes what it
names and nothing else; what was counted so far stays counted.
-/

namespace FuelGauge.Bus

structure Adjustment where
  registers : List (Register × UInt8) := []
  /-- Stored after the single registers, low byte first. -/
  words : List (Register × UInt16) := []
  responses : Option (List Response) := none
  flash : Option (List Flash.Block) := none
  overrides : Option (List Override) := none
  failingWrites : Option (List Fault) := none
  failingReads : Option (List Fault) := none
  failingTransactions : Option (List Nat) := none
  address : Option (Option UInt8) := none
  deriving DecidableEq, Repr

namespace Adjustment

def storeWord (table : Register.Table UInt8) (entry : Register × UInt16) :
    Register.Table UInt8 :=
  (table.set entry.1 (Word.low entry.2)).set (entry.1 + 1) (Word.high entry.2)

def applyRegisters (adjustment : Adjustment) (table : Register.Table UInt8) :
    Register.Table UInt8 :=
  adjustment.words.foldl storeWord
    (adjustment.registers.foldl (fun table entry => table.set entry.1 entry.2) table)

def applyRules (adjustment : Adjustment) (rules : Rules) : Rules where
  responses := adjustment.responses.getD rules.responses
  flash := adjustment.flash.getD rules.flash
  overrides := adjustment.overrides.getD rules.overrides
  failingWrites := adjustment.failingWrites.getD rules.failingWrites
  failingReads := adjustment.failingReads.getD rules.failingReads
  failingTransactions := adjustment.failingTransactions.getD rules.failingTransactions
  address := adjustment.address.getD rules.address

end Adjustment

instance : Adjustable Simulated Adjustment where
  adjust bus adjustment :=
    { bus with
      rules := adjustment.applyRules bus.rules
      registers := adjustment.applyRegisters bus.registers }

def Simulated.ofAdjustment (adjustment : Adjustment) : Simulated :=
  Adjustable.adjust {} adjustment

end FuelGauge.Bus
