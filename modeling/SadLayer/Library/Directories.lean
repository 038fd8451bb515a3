import SadLayer.Library.Segments

/-! Trees of directories. A path that goes up and down means the same as the one
without dots that its segments resolve to. -/
namespace SadLayer.Library

/-- What a name stands for in a directory. -/
inductive Entry (δ : Type) where
  | directory (below : δ)
  | link (target : Option δ)
  | other

/-- The entries of every directory, and the directory above it. -/
structure DirectoryTree (α δ : Type) where
  entry : δ → List α → Option (Entry δ)
  above : δ → δ
  above_entry : ∀ {here : δ} {name : List α} {below : δ},
    entry here name = some (.directory below) → above below = here

variable {α δ : Type} {tree : DirectoryTree α δ} {here there : δ} {name : List α}
  {names : List (List α)}

/-- The directory of a name, not through a link. -/
def DirectoryTree.enter (tree : DirectoryTree α δ) (here : δ) (name : List α) : Option δ :=
  match tree.entry here name with
  | some (.directory below) => some below
  | _ => none

/-- The directory that names lead to from another, each one looked up in the tree of its turn. -/
def followOver (trees : Nat → DirectoryTree α δ) (turn : Nat) (here : δ) : List (List α) → Option δ
  | [] => some here
  | name :: names => ((trees turn).enter here name).bind fun below =>
    followOver trees (turn + 1) below names

variable [DecidableEq α] {dot : α} {segments stack : List (List α)}

/-- Where a segment leads that may be empty or dotted. -/
def DirectoryTree.segment (tree : DirectoryTree α δ) (dot : α) (here : δ) (segment : List α) :
    Option δ :=
  if segment = [] ∨ segment = [dot] then some here
  else if segment = [dot, dot] then some (tree.above here)
  else tree.enter here segment

end SadLayer.Library
