import Mathlib.Data.List.Basic

/-! The search loop `for index < count` that stops at the first index a test
accepts. -/
namespace SadLayer.Library

/-- The first index below `count` that the test accepts. -/
def firstIndex (test : Nat → Bool) (count : Nat) : Option Nat :=
  (List.range count).find? test

variable {test other : Nat → Bool} {count index more : Nat}

theorem first_index_eq_some : firstIndex test count = some index ↔
    index < count ∧ test index = true ∧ ∀ earlier < index, test earlier = false := by
  unfold firstIndex
  rw [List.find?_range_eq_some]
  simp only [List.mem_range, Bool.not_eq_true']
  tauto

theorem first_index_eq_none : firstIndex test count = none ↔
    ∀ index < count, test index = false := by
  simp [firstIndex]

/-- Where the test accepts one index at most, the search finds it. -/
theorem first_index_unique (one : ∀ first < count, ∀ second < count, test first = true →
    test second = true → first = second) :
    firstIndex test count = some index ↔ index < count ∧ test index = true := by
  rw [first_index_eq_some]
  constructor
  · exact fun ⟨inside, accepted, _⟩ => ⟨inside, accepted⟩
  · rintro ⟨inside, accepted⟩
    refine ⟨inside, accepted, fun earlier before => ?_⟩
    by_contra also
    have same := one earlier (by omega) index inside (by simpa using also) accepted
    omega

end SadLayer.Library
