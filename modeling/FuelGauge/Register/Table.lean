import FuelGauge.Register

/-!
One entry for each of the 256 registers. `get` determines a table, so a change is
known by what `get` sees after it. Runs of registers wrap from the last to the
first.
-/

namespace FuelGauge.Register

def all : List Register := (List.range 256).map UInt8.ofNat

theorem mem_all (register : Register) : register ∈ all :=
  List.mem_map.mpr ⟨register.toNat, List.mem_range.mpr register.toNat_lt, UInt8.ofNat_toNat⟩

structure Table (α : Type) where
  cells : Vector α 256
  deriving DecidableEq, Repr

namespace Table

variable {α : Type}

def fill (value : α) : Table α := ⟨.replicate 256 value⟩

def get (table : Table α) (register : Register) : α := table.cells[register.toFin]

def set (table : Table α) (register : Register) (value : α) : Table α :=
  ⟨table.cells.set register.toNat value register.toNat_lt⟩

/-- Stores a list in successive registers. -/
def setFrom (table : Table α) (start : Register) : List α → Table α
  | [] => table
  | value :: rest => (table.set start value).setFrom (start + 1) rest

def slice (table : Table α) (start : Register) (length : Nat) : Vector α length :=
  .ofFn fun index => table.get (start + UInt8.ofNat index)

theorem get_set (table : Table α) (target register : Register) (value : α) :
    (table.set target value).get register =
      if register = target then value else table.get register := by
  simp only [get, set, Fin.getElem_fin, Vector.getElem_set, UInt8.toFin_val]
  by_cases same : register = target
  · subst same
    simp
  · have apart : target.toNat ≠ register.toNat := fun h => same (UInt8.toNat_inj.mp h).symm
    simp [same, apart]

theorem eq_of_get {left right : Table α}
    (same : ∀ register, left.get register = right.get register) : left = right := by
  rcases left with ⟨left⟩
  rcases right with ⟨right⟩
  congr
  ext index bound
  have entry := same (UInt8.ofNatLT index bound)
  simpa [get] using entry

theorem get_slice (table : Table α) (start : Register) (length index : Nat)
    (bound : index < length) :
    (table.slice start length)[index] = table.get (start + UInt8.ofNat index) := by
  simp [slice]

end Table
end FuelGauge.Register
