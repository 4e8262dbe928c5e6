import FuelGauge.Register
import FuelGauge.Text

/-!
Data flash as seen through its 32-byte window: where an offset lies, and the
checksum that must follow every change of the window.
-/

namespace FuelGauge.Flash

def blockLength : Nat := 32

abbrev Window := Vector UInt8 blockLength

def Window.checksum (window : Window) : UInt8 :=
  255 - window.toList.foldl (· + ·) 0

structure Block where
  subclass : UInt8
  index : UInt8
  data : Window
  deriving DecidableEq, Repr

namespace Block

def checksum (block : Block) : UInt8 := block.data.checksum

def text (block : Block) : String :=
  Text.record "DataFlashBlock" [
    ("subclass", toString block.subclass.toNat),
    ("block", toString block.index.toNat),
    ("data", Text.list (block.data.toList.map fun byte => toString byte.toNat))]

end Block

/-- Blocks hold 32 bytes and only the first two of a subclass are addressed. -/
def blockIndex (offset : UInt8) : UInt8 :=
  if offset.toNat < blockLength then 0 else 1

/-- The window register that holds the byte at an offset of its subclass. -/
def address (offset : UInt8) : Register :=
  Register.blockData + offset % 32

end FuelGauge.Flash
