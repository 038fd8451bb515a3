import Mathlib.Algebra.BigOperators.Group.Finset.Basic
import Mathlib.Algebra.BigOperators.Group.List.Basic
import Mathlib.Algebra.Order.BigOperators.Group.Finset
import Mathlib.Algebra.Order.Ring.Nat

/-! Weights summed over the cells of an indexed store or the entries of a list.
Changing one cell changes the sum by exactly the difference of its weights,
which is how a counter is balanced against the places it counts. -/
namespace SadLayer.Library

/-- The weight of the first `n` cells of a store. -/
def tally (weight : α → Nat) (cells : Nat → α) (n : Nat) : Nat :=
  ∑ index ∈ Finset.range n, weight (cells index)

@[simp] theorem tally_zero (weight : α → Nat) (cells : Nat → α) : tally weight cells 0 = 0 := rfl

theorem tally_succ (weight : α → Nat) (cells : Nat → α) (n : Nat) :
    tally weight cells (n + 1) = tally weight cells n + weight (cells n) :=
  Finset.sum_range_succ _ _

theorem tally_congr (same : ∀ index < n, weight (first index) = weight (second index)) :
    tally weight first n = tally weight second n :=
  Finset.sum_congr rfl fun index member => same index (Finset.mem_range.mp member)

/-- A write outside the counted cells leaves the tally alone. -/
theorem tally_update_outside (outside : n ≤ index) :
    tally weight (Function.update cells index value) n = tally weight cells n :=
  tally_congr fun other inside => by rw [Function.update_of_ne (by omega)]

/-- One write trades the old weight of its cell for the new one. -/
theorem tally_update (weight : α → Nat) (cells : Nat → α) (value : α) (inside : index < n) :
    tally weight (Function.update cells index value) n + weight (cells index) =
      tally weight cells n + weight value := by
  induction n with
  | zero => omega
  | succ n ih =>
    rw [tally_succ, tally_succ]
    by_cases last : index = n
    · subst last
      rw [tally_update_outside (Nat.le_refl index), Function.update_self]
      omega
    · have earlier := ih (by omega)
      rw [Function.update_of_ne (Ne.symm last)]
      omega

/-- A cell weighs no more than the whole store. -/
theorem weight_le_tally (weight : α → Nat) (cells : Nat → α) (inside : index < n) :
    weight (cells index) ≤ tally weight cells n := by
  have each : ∀ i ∈ Finset.range n, 0 ≤ (fun i => weight (cells i)) i := fun _ _ => Nat.zero_le _
  exact Finset.single_le_sum each (Finset.mem_range.mpr inside)

theorem tally_eq_zero : tally weight cells n = 0 ↔ ∀ index < n, weight (cells index) = 0 := by
  simp [tally, Finset.sum_eq_zero_iff]

/-- The weight of a list. -/
def total (weight : α → Nat) (entries : List α) : Nat :=
  (entries.map weight).sum

@[simp] theorem total_nil (weight : α → Nat) : total weight [] = 0 := rfl

@[simp] theorem total_cons (weight : α → Nat) (entry : α) (rest : List α) :
    total weight (entry :: rest) = weight entry + total weight rest := by
  simp [total]

@[simp] theorem total_append (weight : α → Nat) (first second : List α) :
    total weight (first ++ second) = total weight first + total weight second := by
  simp [total]

/-- Replacing one entry trades its weight. -/
theorem total_set {entries : List α} {index : Nat} (weight : α → Nat) (replacement : α)
    (old : entries[index]? = some entry) :
    total weight (entries.set index replacement) + weight entry =
      total weight entries + weight replacement := by
  induction entries generalizing index with
  | nil => simp at old
  | cons head rest ih =>
    cases index with
    | zero =>
      simp only [List.getElem?_cons_zero, Option.some.injEq] at old
      subst old
      simp only [List.set_cons_zero, total_cons]
      omega
    | succ index =>
      have tail := ih (by simpa using old)
      simp only [List.set_cons_succ, total_cons]
      omega

/-- Removing one entry takes its weight. -/
theorem total_eraseIdx {entries : List α} {index : Nat} (weight : α → Nat)
    (old : entries[index]? = some entry) :
    total weight (entries.eraseIdx index) + weight entry = total weight entries := by
  induction entries generalizing index with
  | nil => simp at old
  | cons head rest ih =>
    cases index with
    | zero =>
      simp only [List.getElem?_cons_zero, Option.some.injEq] at old
      subst old
      simp only [List.eraseIdx_zero, List.tail_cons, total_cons]
      omega
    | succ index =>
      have tail := ih (by simpa using old)
      simp only [List.eraseIdx_cons_succ, total_cons]
      omega

theorem total_eq_zero : total weight entries = 0 ↔ ∀ entry ∈ entries, weight entry = 0 := by
  simp [total, List.sum_eq_zero_iff]

/-- Where the keys are distinct, filtering out one of them takes one entry away. -/
theorem perm_cons_filter_ne [DecidableEq β] {key : α → β} {entries : List α} {entry : α}
    (distinct : (entries.map key).Nodup) (member : entry ∈ entries) :
    entries.Perm (entry :: entries.filter fun other => key other ≠ key entry) := by
  induction entries with
  | nil => cases member
  | cons first rest ih =>
    rw [List.map_cons, List.nodup_cons] at distinct
    obtain ⟨alone, distinct⟩ := distinct
    rcases List.mem_cons.mp member with rfl | behind
    · rw [List.filter_cons_of_neg (by simp), List.filter_eq_self.mpr]
      intro other listed
      rw [decide_eq_true_iff]
      exact fun same => alone (same ▸ List.mem_map_of_mem listed)
    · have apart : key first ≠ key entry := fun same => alone (same ▸ List.mem_map_of_mem behind)
      rw [List.filter_cons_of_pos (p := fun other => key other ≠ key entry)
        (decide_eq_true apart)]
      exact ((ih distinct behind).cons first).trans (.swap entry first _)

end SadLayer.Library
