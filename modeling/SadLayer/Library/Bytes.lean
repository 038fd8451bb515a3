import Mathlib.Algebra.Order.Ring.Nat

/-! Byte memories: little-endian words and block copies, and what a write
leaves of what was there. -/
namespace SadLayer.Library

/-- The `width` bytes from `offset` on as a number, the least significant first. -/
def loadLe (bytes : Nat → UInt8) (offset : Nat) : Nat → Nat
  | 0 => 0
  | width + 1 => (bytes offset).toNat + 256 * loadLe bytes (offset + 1) width

/-- Writes the low `width` bytes of a number, the least significant first. -/
def storeLe (bytes : Nat → UInt8) (offset width value : Nat) : Nat → UInt8 := fun index =>
  if offset ≤ index ∧ index < offset + width then UInt8.ofNat (value / 256 ^ (index - offset))
  else bytes index

/-- Copies `length` bytes of another memory. -/
def copyBytes (bytes : Nat → UInt8) (offset : Nat) (source : Nat → UInt8) (start length : Nat) :
    Nat → UInt8 := fun index =>
  if offset ≤ index ∧ index < offset + length then source (start + (index - offset))
  else bytes index

variable {bytes other source : Nat → UInt8} {offset width value index start length : Nat}

theorem load_le_lt (bytes : Nat → UInt8) (offset width : Nat) :
    loadLe bytes offset width < 256 ^ width := by
  induction width generalizing offset with
  | zero => exact Nat.one_pos
  | succ width ih =>
    have tail := ih (offset + 1)
    have byte := (bytes offset).toNat_lt
    rw [loadLe, pow_succ]
    omega

/-- A load depends on the bytes it reads only. -/
theorem load_le_congr (same : ∀ index, offset ≤ index → index < offset + width →
    bytes index = other index) : loadLe bytes offset width = loadLe other offset width := by
  induction width generalizing offset with
  | zero => rfl
  | succ width ih =>
    rw [loadLe, loadLe, same offset (Nat.le_refl _) (by omega),
      ih fun index above below => same index (by omega) (by omega)]

theorem store_le_outside (outside : index < offset ∨ offset + width ≤ index) :
    storeLe bytes offset width value index = bytes index := by
  unfold storeLe
  rw [if_neg (by omega)]

theorem store_le_inside (above : offset ≤ index) (below : index < offset + width) :
    storeLe bytes offset width value index = UInt8.ofNat (value / 256 ^ (index - offset)) := by
  unfold storeLe
  rw [if_pos ⟨above, below⟩]

/-- A store leaves the words beside it alone. -/
theorem load_le_store_le_disjoint {at' width' : Nat}
    (apart : at' + width' ≤ offset ∨ offset + width ≤ at') :
    loadLe (storeLe bytes offset width value) at' width' = loadLe bytes at' width' :=
  load_le_congr fun index above below => store_le_outside (by omega)

/-- What was stored is loaded again. -/
theorem load_le_store_le : loadLe (storeLe bytes offset width value) offset width =
    value % 256 ^ width := by
  induction width generalizing offset value with
  | zero => simp [loadLe, Nat.mod_one]
  | succ width ih =>
    have tail : loadLe (storeLe bytes offset (width + 1) value) (offset + 1) width =
        loadLe (storeLe bytes (offset + 1) width (value / 256)) (offset + 1) width := by
      apply load_le_congr
      intro index above below
      rw [store_le_inside (by omega) (by omega), store_le_inside above (by omega),
        Nat.div_div_eq_div_mul, ← pow_succ', show index - (offset + 1) + 1 = index - offset by omega]
    have byte : (UInt8.ofNat value).toNat = value % 256 := UInt8.toNat_ofNat'
    rw [loadLe, tail, ih, store_le_inside (Nat.le_refl _) (by omega), Nat.sub_self, pow_zero,
      Nat.div_one, byte, pow_succ' 256 width]
    exact Nat.mod_mul.symm

/-- The byte at a place of the number that was loaded. -/
theorem load_le_byte (above : offset ≤ index) (below : index < offset + width) :
    UInt8.ofNat (loadLe bytes offset width / 256 ^ (index - offset)) = bytes index := by
  induction width generalizing offset with
  | zero => omega
  | succ width ih =>
    have byte := (bytes offset).toNat_lt
    rw [loadLe]
    rcases Nat.eq_or_lt_of_le above with rfl | later
    · rw [Nat.sub_self, pow_zero, Nat.div_one]
      apply UInt8.toNat_inj.mp
      rw [UInt8.toNat_ofNat']
      omega
    · have tail : ((bytes offset).toNat + 256 * loadLe bytes (offset + 1) width) / 256 =
          loadLe bytes (offset + 1) width := by
        omega
      rw [show index - offset = index - (offset + 1) + 1 by omega, pow_succ', ← Nat.div_div_eq_div_mul,
        tail]
      exact ih later (by omega)

/-- Storing what is there changes nothing. -/
theorem store_le_load_le : storeLe bytes offset width (loadLe bytes offset width) = bytes := by
  funext index
  unfold storeLe
  split
  · rename_i inside
    exact load_le_byte inside.1 inside.2
  · rfl

/-- The second of two stores to one place stays. -/
theorem store_le_store_le {first second : Nat} :
    storeLe (storeLe bytes offset width first) offset width second =
      storeLe bytes offset width second := by
  funext index
  unfold storeLe
  split
  · rfl
  · rfl

/-- Stores to places that do not overlap can be made in either order. -/
theorem store_le_comm {at' width' first second : Nat}
    (apart : at' + width' ≤ offset ∨ offset + width ≤ at') :
    storeLe (storeLe bytes offset width first) at' width' second =
      storeLe (storeLe bytes at' width' second) offset width first := by
  funext index
  by_cases inside : offset ≤ index ∧ index < offset + width
  · rw [store_le_outside (by omega), store_le_inside inside.1 inside.2,
      store_le_inside inside.1 inside.2]
  · have outside : index < offset ∨ offset + width ≤ index := by omega
    rw [@store_le_outside (storeLe bytes at' width' second) _ _ _ _ outside]
    unfold storeLe
    simp only [if_neg inside]

theorem copy_bytes_inside (above : offset ≤ index) (below : index < offset + length) :
    copyBytes bytes offset source start length index = source (start + (index - offset)) := by
  unfold copyBytes
  rw [if_pos ⟨above, below⟩]

theorem copy_bytes_outside (outside : index < offset ∨ offset + length ≤ index) :
    copyBytes bytes offset source start length index = bytes index := by
  unfold copyBytes
  rw [if_neg (by omega)]

end SadLayer.Library
