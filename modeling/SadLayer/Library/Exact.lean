/-! Arithmetic on words that stops where a result would wrap. A program that
never stops so computes what it computes on unbounded numbers. -/
namespace SadLayer.Library

/-- Why a computation has no value: it fails of itself, or its arithmetic has wrapped. -/
inductive Halt (ε : Type) where
  | failed (error : ε)
  | wrapped

/-- A computation whose arithmetic is not watched. -/
def exactly : Except ε α → Except (Halt ε) α
  | .ok value => .ok value
  | .error error => .error (.failed error)

/-- The sum, when a word below the limit holds it. -/
def exactAdd (limit left right : Nat) : Except (Halt ε) Nat :=
  if left + right < limit then .ok (left + right) else .error .wrapped

def exactMul (limit left right : Nat) : Except (Halt ε) Nat :=
  if left * right < limit then .ok (left * right) else .error .wrapped

/-- The difference, when it is not negative. -/
def exactSub (left right : Nat) : Except (Halt ε) Nat :=
  if right ≤ left then .ok (left - right) else .error .wrapped

/-- The sum of words with a sign, whose values reach from `-limit` up to the limit. -/
def exactAddSigned (limit : Nat) (left right : Int) : Except (Halt ε) Int :=
  if -(limit : Int) ≤ left + right ∧ left + right < limit then .ok (left + right)
  else .error .wrapped

/-- A word without a sign, when the value is not negative. -/
def exactUnsigned (value : Int) : Except (Halt ε) Nat :=
  if 0 ≤ value then .ok value.toNat else .error .wrapped

variable {limit left right : Nat} {computation : Except ε α}

@[simp] theorem exactly_ok (value : α) : exactly (Except.ok value : Except ε α) = .ok value := rfl

@[simp] theorem exactly_error (error : ε) :
    exactly (Except.error error : Except ε α) = .error (.failed error) := rfl

@[simp] theorem ok_bind (value : α) (next : α → Except ε β) :
    (Except.ok value >>= next) = next value := rfl

theorem exactly_bind (first : Except ε α) (next : α → Except ε β) :
    exactly (first >>= next) = exactly first >>= fun middle => exactly (next middle) := by
  cases first <;> rfl

theorem exactly_ne_wrapped : exactly computation ≠ .error .wrapped := by
  cases computation <;> simp

@[simp] theorem exact_add_fits (fits : left + right < limit) :
    exactAdd (ε := ε) limit left right = .ok (left + right) := if_pos fits

@[simp] theorem exact_mul_fits (fits : left * right < limit) :
    exactMul (ε := ε) limit left right = .ok (left * right) := if_pos fits

@[simp] theorem exact_sub_fits (fits : right ≤ left) :
    exactSub (ε := ε) left right = .ok (left - right) := if_pos fits

@[simp] theorem exact_add_signed_fits {left right : Int}
    (fits : -(limit : Int) ≤ left + right ∧ left + right < limit) :
    exactAddSigned (ε := ε) limit left right = .ok (left + right) := if_pos fits

@[simp] theorem exact_unsigned_fits {value : Int} (fits : 0 ≤ value) :
    exactUnsigned (ε := ε) value = .ok value.toNat := if_pos fits

end SadLayer.Library
