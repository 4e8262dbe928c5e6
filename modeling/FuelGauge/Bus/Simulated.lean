import FuelGauge.Bus
import FuelGauge.Bus.Rules
import FuelGauge.Register.Table

/-!
A simulated bus with one gauge on it. Refused accesses are counted but change
nothing. A control word is executed by its high byte, together with the low byte
that was last accepted; selecting a block of data flash copies it to the window.
-/

namespace FuelGauge.Bus

structure Simulated where
  rules : Rules := {}
  registers : Register.Table UInt8 := .fill 0
  /-- The low byte of the next control word. -/
  pendingLow : UInt8 := 0
  /-- All accesses so far, refused ones included. -/
  transactions : Nat := 0
  writes : Register.Table Nat := .fill 0
  reads : Register.Table Nat := .fill 0
  deriving DecidableEq, Repr

namespace Simulated

/-- The high byte of a control word puts the answer, if there is one, into the
control register. -/
def respond (bus : Simulated) (high : UInt8) : Simulated :=
  match bus.rules.answer? (Word.ofBytes bus.pendingLow high) with
  | none => bus
  | some answer =>
      let registers := bus.registers.set Register.controlLow (Word.low answer)
      { bus with registers := registers.set Register.controlHigh (Word.high answer) }

def loadBlock (bus : Simulated) (index : UInt8) : Simulated :=
  match bus.rules.block? (bus.registers.get Register.dataClass) index with
  | none => bus
  | some block =>
      { bus with registers := bus.registers.setFrom Register.blockData block.data.toList }

def react (bus : Simulated) (register : Register) (value : UInt8) : Simulated :=
  if register = Register.controlLow then { bus with pendingLow := value }
  else if register = Register.controlHigh then bus.respond value
  else if register = Register.dataBlock then bus.loadBlock value
  else bus

def accept (bus : Simulated) (register : Register) (value : UInt8) : Simulated :=
  let stored := bus.rules.stored register (bus.writes.get register) value
  react { bus with registers := bus.registers.set register stored } register value

def countWrite (bus : Simulated) (register : Register) : Simulated :=
  { bus with
    transactions := bus.transactions + 1
    writes := bus.writes.set register (bus.writes.get register + 1) }

def countRead (bus : Simulated) (register : Register) : Simulated :=
  { bus with
    transactions := bus.transactions + 1
    reads := bus.reads.set register (bus.reads.get register + 1) }

/-- The outcome of the write that was counted last. -/
def refusesWrite (bus : Simulated) (address : UInt8) (register : Register) : Bool :=
  bus.rules.refuses bus.rules.failingWrites address register bus.transactions
    (bus.writes.get register)

def refusesRead (bus : Simulated) (address : UInt8) (register : Register) : Bool :=
  bus.rules.refuses bus.rules.failingReads address register bus.transactions
    (bus.reads.get register)

instance : Bus Simulated where
  write bus address register value :=
    let counted := bus.countWrite register
    if counted.refusesWrite address register then (false, counted)
    else (true, counted.accept register value)
  read bus address register length :=
    let counted := bus.countRead register
    if counted.refusesRead address register then (none, counted)
    else (some (counted.registers.slice register length), counted)

def nonzero (bus : Simulated) : List (Register × UInt8) :=
  (Register.all.map fun register => (register, bus.registers.get register)).filter (·.2 ≠ 0)

theorem respond_rules (bus : Simulated) (high : UInt8) : (bus.respond high).rules = bus.rules := by
  unfold respond
  split <;> rfl

theorem loadBlock_rules (bus : Simulated) (index : UInt8) :
    (bus.loadBlock index).rules = bus.rules := by
  unfold loadBlock
  split <;> rfl

theorem react_rules (bus : Simulated) (register : Register) (value : UInt8) :
    (bus.react register value).rules = bus.rules := by
  unfold react
  split
  · rfl
  · split
    · exact respond_rules bus value
    · split
      · exact loadBlock_rules bus value
      · rfl

theorem write_rules (bus : Simulated) (address : UInt8) (register : Register) (value : UInt8) :
    (Bus.write bus address register value).2.rules = bus.rules := by
  simp only [Bus.write]
  split
  · rfl
  · exact react_rules ..

theorem read_rules (bus : Simulated) (address : UInt8) (register : Register) (length : Nat) :
    (Bus.read bus address register length).2.rules = bus.rules := by
  simp only [Bus.read]
  split <;> rfl

theorem read_registers (bus : Simulated) (address : UInt8) (register : Register) (length : Nat) :
    (Bus.read bus address register length).2.registers = bus.registers := by
  simp only [Bus.read]
  split <;> rfl

end Simulated
end FuelGauge.Bus
