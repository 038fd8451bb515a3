import Mathlib.Algebra.Order.Ring.Nat
import Mathlib.Data.List.Basic

/-! Records of little-endian fields, one after the other. -/
namespace SadLayer.Library

/-- The bytes of a number in a field of this width. -/
def leBytes : Nat → Nat → List UInt8
  | 0, _ => []
  | width + 1, value => .ofNat value :: leBytes width (value / 256)

def leValue : List UInt8 → Nat
  | [] => 0
  | byte :: bytes => byte.toNat + 256 * leValue bytes

/-- Fields as pairs of a width and a value. -/
def encodeFields (fields : List (Nat × Nat)) : List UInt8 :=
  fields.flatMap fun field => leBytes field.1 field.2

def decodeFields : List Nat → List UInt8 → List Nat
  | [], _ => []
  | width :: widths, bytes => leValue (bytes.take width) :: decodeFields widths (bytes.drop width)

variable {width value : Nat} {fields : List (Nat × Nat)}

@[simp] theorem length_le_bytes : (leBytes width value).length = width := by
  induction width generalizing value with
  | zero => rfl
  | succ width ih => rw [leBytes, List.length_cons, ih]

theorem le_value_le_bytes : leValue (leBytes width value) = value % 256 ^ width := by
  induction width generalizing value with
  | zero => rw [leBytes, leValue, pow_zero, Nat.mod_one]
  | succ width ih =>
    have grown : 256 ^ (width + 1) = 256 * 256 ^ width := by rw [Nat.pow_succ, Nat.mul_comm]
    rw [leBytes, leValue, ih, UInt8.toNat_ofNat', grown]
    exact Nat.mod_mul.symm

theorem length_encode_fields :
    (encodeFields fields).length = (fields.map Prod.fst).sum := by
  rw [encodeFields, List.length_flatMap]
  simp

/-- Fields that fit their widths are read back. -/
theorem decode_encode_fields (fits : ∀ field ∈ fields, field.2 < 256 ^ field.1) :
    decodeFields (fields.map Prod.fst) (encodeFields fields) = fields.map Prod.snd := by
  induction fields with
  | nil => rfl
  | cons field fields ih =>
    have here := fits field List.mem_cons_self
    have later := ih fun other member => fits other (List.mem_cons_of_mem _ member)
    unfold encodeFields at later ⊢
    rw [List.map_cons, List.flatMap_cons, decodeFields, List.map_cons]
    rw [List.take_left' length_le_bytes, List.drop_left' length_le_bytes, later, le_value_le_bytes,
      Nat.mod_eq_of_lt here]

end SadLayer.Library
