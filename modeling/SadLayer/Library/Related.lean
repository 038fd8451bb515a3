import Mathlib.Data.List.Basic
import Mathlib.Data.Option.Basic

/-! Computations that may fail, run side by side: from related values they fail
together, or come to related values. -/
namespace SadLayer.Library

theorem rel_cases {R : α → β → Prop} {one : Option α} {other : Option β}
    (related : Option.Rel R one other) :
    (one = none ∧ other = none) ∨ ∃ a b, one = some a ∧ other = some b ∧ R a b := by
  cases related with
  | none => exact .inl ⟨rfl, rfl⟩
  | some here => exact .inr ⟨_, _, rfl, rfl, here⟩

end SadLayer.Library
