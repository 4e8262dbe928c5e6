import FuelGauge.Flash.Block

/-!
The checksum in exact arithmetic. Eight-bit addition wraps, so a byte sum is
known by its remainder; the complement of a remainder never wraps. A byte that
changes moves the checksum the other way by as much, so a single change always
shows, two changes hide each other where they cancel, and the order of the bytes
does not matter.
-/

namespace FuelGauge.Flash

def byteSum : List UInt8 → Nat
  | [] => 0
  | byte :: rest => byte.toNat + byteSum rest

theorem toNat_foldl_add (bytes : List UInt8) (start : UInt8) :
    (bytes.foldl (· + ·) start).toNat = (start.toNat + byteSum bytes) % 256 := by
  induction bytes generalizing start with
  | nil =>
    have start_lt := start.toNat_lt
    simp only [List.foldl_nil, byteSum]
    omega
  | cons byte rest ih =>
    rw [List.foldl_cons, ih, byteSum, UInt8.toNat_add]
    omega

def complement (bytes : List UInt8) : UInt8 := .ofNat (255 - byteSum bytes % 256)

theorem toNat_complement (bytes : List UInt8) :
    (complement bytes).toNat = 255 - byteSum bytes % 256 := by
  rw [complement, UInt8.toNat_ofNat']
  omega

theorem checksum_eq_complement (window : Window) :
    window.checksum = complement window.toList := by
  apply UInt8.toNat_inj.mp
  have remainder := toNat_foldl_add window.toList 0
  have zero : (0 : UInt8).toNat = 0 := rfl
  have top : (255 : UInt8).toNat = 255 := rfl
  rw [zero, Nat.zero_add] at remainder
  rw [toNat_complement, Window.checksum, UInt8.toNat_sub, remainder, top]
  omega

theorem toNat_checksum (window : Window) :
    window.checksum.toNat = 255 - byteSum window.toList % 256 := by
  rw [checksum_eq_complement, toNat_complement]

/-! What becomes of the sum when bytes are replaced or change places. -/

theorem byteSum_set (bytes : List UInt8) (index : Nat) (inside : index < bytes.length)
    (byte : UInt8) :
    byteSum (bytes.set index byte) + bytes[index].toNat = byteSum bytes + byte.toNat := by
  induction bytes generalizing index with
  | nil => cases inside
  | cons first rest ih =>
    cases index with
    | zero =>
      simp only [List.set_cons_zero, List.getElem_cons_zero, byteSum]
      omega
    | succ index =>
      have later := ih index (Nat.lt_of_succ_lt_succ inside)
      simp only [List.set_cons_succ, List.getElem_cons_succ, byteSum]
      omega

theorem byteSum_perm {bytes other : List UInt8} (rearranged : bytes.Perm other) :
    byteSum bytes = byteSum other := by
  induction rearranged with
  | nil => rfl
  | cons byte _ ih => rw [byteSum, byteSum, ih]
  | swap first second rest =>
    simp only [byteSum]
    omega
  | trans _ _ first second => exact first.trans second

theorem checksum_set (window : Window) (index : Fin blockLength) (byte : UInt8) :
    Window.checksum (window.set index byte) = window.checksum + (window[index] - byte) := by
  have inside : index.val < window.toList.length := by
    rw [Vector.length_toList]
    exact index.isLt
  have replaced := byteSum_set window.toList index inside byte
  have held : window.toList[index.val] = window[index] := Vector.getElem_toList inside
  have held_lt := window[index].toNat_lt
  have byte_lt := byte.toNat_lt
  apply UInt8.toNat_inj.mp
  rw [UInt8.toNat_add, UInt8.toNat_sub, toNat_checksum, toNat_checksum, Vector.toList_set]
  rw [held] at replaced
  omega

theorem checksum_set_set (window : Window) {first second : Fin blockLength}
    (apart : first ≠ second) (left right : UInt8) :
    Window.checksum ((window.set first left).set second right) =
      window.checksum + ((window[first] - left) + (window[second] - right)) := by
  have kept : (window.set first left)[second] = window[second] :=
    Vector.getElem_set_ne first.isLt second.isLt (Fin.val_ne_of_ne apart)
  rw [checksum_set, checksum_set, kept, UInt8.add_assoc]

theorem checksum_perm {window other : Window} (rearranged : other.toList.Perm window.toList) :
    other.checksum = window.checksum := by
  apply UInt8.toNat_inj.mp
  rw [toNat_checksum, toNat_checksum, byteSum_perm rearranged]

/-- The checksum by the exact sum of the bytes, and which changes it shows. -/
theorem checksum_reveals_changes (window : Window) :
    let sum := byteSum window.toList
    let folded := window.toList.foldl (· + ·) (0 : UInt8)
    window.checksum.toNat = 255 - sum % 256 ∧
    folded.toNat + window.checksum.toNat = 255 ∧
    (sum + window.checksum.toNat) % 256 = 255 ∧
    (∀ (index : Fin blockLength) (byte : UInt8),
      Window.checksum (window.set index byte) = window.checksum + (window[index] - byte) ∧
      (Window.checksum (window.set index byte) = window.checksum ↔ byte = window[index])) ∧
    (∀ (first second : Fin blockLength) (left right : UInt8), first ≠ second →
      (Window.checksum ((window.set first left).set second right) = window.checksum ↔
        (window[first] - left) + (window[second] - right) = 0)) ∧
    ∀ other : Window, other.toList.Perm window.toList → other.checksum = window.checksum := by
  have complement := toNat_checksum window
  have remainder := toNat_foldl_add window.toList 0
  rw [UInt8.toNat_zero, Nat.zero_add] at remainder
  refine ⟨complement, by omega, by omega, ?_, ?_, fun other => checksum_perm⟩
  · intro index byte
    refine ⟨checksum_set window index byte, ?_⟩
    rw [checksum_set, UInt8.add_eq_left, UInt8.sub_eq_iff_eq_add, UInt8.zero_add]
    exact eq_comm
  · intro first second left right apart
    rw [checksum_set_set window apart, UInt8.add_eq_left]

/-- A byte that gains what another one loses hides the loss. -/
theorem checksum_reveals_changes_hidden :
    let window : Window := .ofFn fun index => UInt8.ofNat (index + 230)
    let first : Fin blockLength := ⟨3, by decide⟩
    let second : Fin blockLength := ⟨31, by decide⟩
    first ≠ second ∧ window.toList.reverse.Perm window.toList ∧
    window.checksum = 79 ∧
    Window.checksum (window.set first 0) ≠ window.checksum ∧
    Window.checksum ((window.set first 0).set second 238) = window.checksum ∧
    Window.checksum window.reverse = window.checksum := by
  intro window first second
  have apart : first ≠ second := by decide
  obtain ⟨_, _, _, single, double, rearranged⟩ := checksum_reveals_changes window
  have shown : (0 : UInt8) ≠ window[first] := by decide
  have cancel : (window[first] - 0) + (window[second] - 238) = 0 := by decide
  have reversed := List.reverse_perm window.toList
  have listed : (Vector.reverse window).toList = window.toList.reverse := Vector.toList_reverse
  refine ⟨apart, reversed, by decide, ?_, ?_, ?_⟩
  · exact fun same => shown ((single first 0).2.mp same)
  · exact (double first second 0 238 apart).mpr cancel
  · exact rearranged _ (listed ▸ reversed)

end FuelGauge.Flash
