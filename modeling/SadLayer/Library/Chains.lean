import Mathlib.Data.List.Nodup
import Mathlib.Tactic.Common

/-! Cells chained by a link from each to the next, and a search along them that
is cut off after so many cells. -/
namespace SadLayer.Library

/-- Following the links from a start visits these cells and then ends. -/
inductive Chain (next : α → Option α) : Option α → List α → Prop where
  | nil : Chain next none []
  | cons (cell : α) (rest : Chain next (next cell) cells) : Chain next (some cell) (cell :: cells)

/-- Whether a cell is among those from a start on, or `none` when the search was cut off. -/
def searchChain [DecidableEq α] (next : α → Option α) (wanted : α) : Nat → Option α → Option Bool
  | _, none => some false
  | 0, some _ => none
  | fuel + 1, some cell =>
    if cell = wanted then some true else searchChain next wanted fuel (next cell)

variable {next other : α → Option α} {start : Option α} {cells : List α}

theorem Chain.unique {more : List α} (chain : Chain next start cells)
    (again : Chain next start more) : cells = more := by
  induction chain generalizing more with
  | nil =>
    cases again
    rfl
  | cons cell _ ih =>
    cases again with
    | cons _ rest => rw [ih rest]

theorem Chain.from_cell {cell : α} (chain : Chain next start cells) (member : cell ∈ cells) :
    ∃ rest, Chain next (some cell) (cell :: rest) ∧ (cell :: rest).length ≤ cells.length := by
  induction chain with
  | nil => cases member
  | @cons cells first rest ih =>
    rcases List.mem_cons.mp member with rfl | behind
    · exact ⟨cells, .cons cell rest, Nat.le_refl _⟩
    · obtain ⟨tail, chained, short⟩ := ih behind
      exact ⟨tail, chained, Nat.le_succ_of_le short⟩

/-- A chain that ends comes to no cell twice. -/
theorem Chain.nodup (chain : Chain next start cells) : cells.Nodup := by
  induction chain with
  | nil => exact List.nodup_nil
  | @cons cells cell rest ih =>
    refine List.nodup_cons.mpr ⟨?_, ih⟩
    intro member
    obtain ⟨tail, again, short⟩ := rest.from_cell member
    have same := again.unique (.cons cell rest)
    rw [same] at short
    exact Nat.not_succ_le_self _ short

/-- A search with fuel for all cells finds exactly the cells of the chain. -/
theorem search_chain [DecidableEq α] (chain : Chain next start cells) (wanted : α) {fuel : Nat}
    (enough : cells.length ≤ fuel) :
    searchChain next wanted fuel start = some (decide (wanted ∈ cells)) := by
  induction chain generalizing fuel with
  | nil => cases fuel <;> rfl
  | @cons cells cell _ ih =>
    cases fuel with
    | zero => cases enough
    | succ fuel =>
      rw [searchChain]
      by_cases found : cell = wanted
      · rw [if_pos found, decide_eq_true (List.mem_cons.mpr (.inl found.symm))]
      · rw [if_neg found, ih (Nat.le_of_succ_le_succ enough)]
        congr 1
        exact decide_eq_decide.mpr ⟨List.mem_cons_of_mem cell, fun member =>
          (List.mem_cons.mp member).resolve_left (Ne.symm found)⟩

end SadLayer.Library
