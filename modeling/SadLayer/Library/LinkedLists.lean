import Mathlib.Logic.Function.Basic
import SadLayer.Library.Chains

/-! Singly linked lists that are changed in place. A link is read and written where it is kept:
in the head of the list or in a cell, which is that of the last cell before it. -/
namespace SadLayer.Library

/-- The head of a list, and the link of each cell. -/
structure Links (Cell : Type) where
  head : Option Cell
  next : Cell → Option Cell

namespace Links
variable {Cell : Type} {links : Links Cell} {cells before after : List Cell} {cell : Cell}

def read (links : Links Cell) : Option Cell → Option Cell
  | none => links.head
  | some cell => links.next cell

def write [DecidableEq Cell] (links : Links Cell) (value : Option Cell) : Option Cell → Links Cell
  | none => { links with head := value }
  | some cell => { links with next := Function.update links.next cell value }

/-- These are the cells of the list, in order. -/
def Lists (links : Links Cell) (cells : List Cell) : Prop := Chain links.next links.head cells

theorem chain_read {next : Cell → Option Cell} {start : Option Cell}
    (chain : Chain next start (before ++ after)) :
    before.getLast?.elim start next = after.head? := by
  induction before generalizing start with
  | nil =>
    cases chain with
    | nil => rfl
    | cons cell _ => rfl
  | cons first before ih =>
    cases chain with
    | cons _ rest =>
      rw [← ih rest, List.getLast?_cons]
      cases before.getLast? <;> rfl

/-- The link of the last cell before it leads to a cell. -/
theorem lists_read (lists : links.Lists (before ++ after)) :
    links.read before.getLast? = after.head? := by
  rw [← chain_read lists]
  cases before.getLast? <;> rfl

theorem chain_congr {next other : Cell → Option Cell} {start : Option Cell}
    (chain : Chain next start cells) (same : ∀ cell ∈ cells, other cell = next cell) :
    Chain other start cells := by
  induction chain with
  | nil => exact .nil
  | cons first _ ih =>
    refine .cons first ?_
    rw [same first List.mem_cons_self]
    exact ih fun cell inside => same cell (List.mem_cons_of_mem first inside)

/-- A list is what its head and the links of its cells are. -/
theorem lists_congr {more : Links Cell} (lists : links.Lists cells) (head : more.head = links.head)
    (same : ∀ cell ∈ cells, more.next cell = links.next cell) : more.Lists cells := by
  unfold Lists
  rw [head]
  exact chain_congr lists same

theorem chain_tail {next : Cell → Option Cell} {start : Option Cell}
    (chain : Chain next start (cell :: cells)) : Chain next (next cell) cells := by
  cases chain with
  | cons _ rest => exact rest

variable [DecidableEq Cell] {value : Option Cell}

theorem chain_write_elsewhere {next : Cell → Option Cell} {start : Option Cell}
    (chain : Chain next start cells) (elsewhere : cell ∉ cells) :
    Chain (Function.update next cell value) start cells := by
  refine chain_congr chain fun asked inside => Function.update_of_ne ?_ _ _
  rintro rfl
  exact elsewhere inside

/-- A cell whose link is the head is put in front by making it the head. -/
theorem lists_push (lists : links.Lists cells) (linked : links.next cell = links.head) :
    (links.write (some cell) none).Lists (cell :: cells) := by
  refine .cons cell ?_
  rw [show (links.write (some cell) none).next cell = links.head from linked]
  exact lists

theorem chain_unlink {next : Cell → Option Cell} {start : Option Cell}
    (chain : Chain next start (before ++ cell :: after)) :
    Chain (before.getLast?.elim next fun last => Function.update next last (next cell))
      (before.getLast?.elim (next cell) fun _ => start) (before ++ after) := by
  have once := chain.nodup
  induction before generalizing start with
  | nil =>
    cases chain with
    | cons _ rest => exact rest
  | cons first before ih =>
    cases chain with
    | cons _ rest =>
      have apart := List.nodup_cons.mp once
      cases before with
      | nil =>
        refine .cons first (chain_write_elsewhere ?_ fun inside =>
          apart.1 (List.mem_cons_of_mem cell inside))
        rw [List.getLast?_singleton, Option.elim_some, Function.update_self]
        exact chain_tail rest
      | cons second before =>
        have kept := ih rest apart.2
        rw [List.getLast?_cons] at kept
        rw [List.getLast?_cons, List.getLast?_cons, Option.getD_some]
        refine .cons first ?_
        have other : first ≠ before.getLast?.getD second := by
          intro same
          refine apart.1 (List.mem_append_left _ (List.mem_of_getLast? ?_))
          rw [List.getLast?_cons, same]
        rw [Option.elim_some, Function.update_of_ne other]
        exact kept

/-- A cell leaves the list when the link that leads to it is set to its own. -/
theorem lists_unlink (lists : links.Lists (before ++ cell :: after)) :
    (links.write (links.next cell) before.getLast?).Lists (before ++ after) := by
  have kept := chain_unlink lists
  unfold Lists
  cases last : before.getLast? <;> rw [last] at kept <;> exact kept

end Links

end SadLayer.Library
