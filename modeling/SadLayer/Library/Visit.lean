import Mathlib.Tactic.Common

/-! Visitors that are offered items one after the other and may decline to go
on. An enumeration that calls a visitor is known by the items it offers and by
its answer at their end. -/
namespace SadLayer.Library

variable {Item State Answer : Type} {visitor : Item → State → State × Bool}

/-- Offers the items in order, up to the first that the visitor declines to go on after. -/
def visitAll (visitor : Item → State → State × Bool) : List Item → State → State × Bool
  | [], state => (state, true)
  | item :: rest, state =>
    match visitor item state with
    | (next, true) => visitAll visitor rest next
    | (next, false) => (next, false)

/-- The answer of an enumeration: its own at the end of the items, the other when the visitor
declines. -/
def visitThen (finished stopped : Answer) (visitor : Item → State → State × Bool)
    (items : List Item) (state : State) : Answer × State × Bool :=
  match visitAll visitor items state with
  | (last, true) => (finished, last, true)
  | (last, false) => (stopped, last, false)

theorem visit_then_nil (finished stopped : Answer) (state : State) :
    visitThen finished stopped visitor [] state = (finished, state, true) := rfl

theorem visit_then_cons (finished stopped : Answer) (item : Item) (rest : List Item)
    (state : State) : visitThen finished stopped visitor (item :: rest) state =
      match visitor item state with
      | (next, true) => visitThen finished stopped visitor rest next
      | (next, false) => (stopped, next, false) := by
  rw [visitThen, visitAll]
  rcases visitor item state with ⟨next, _ | _⟩ <;> rfl

/-- One enumeration after another that ended well. -/
theorem visit_then_append (finished middle stopped : Answer) (items more : List Item)
    (state : State) : visitThen finished stopped visitor (items ++ more) state =
      match visitThen middle stopped visitor items state with
      | (_, next, true) => visitThen finished stopped visitor more next
      | (_, next, false) => (stopped, next, false) := by
  induction items generalizing state with
  | nil => rfl
  | cons item rest ih =>
    rw [List.cons_append, visit_then_cons, visit_then_cons]
    rcases visitor item state with ⟨next, _ | _⟩
    · rfl
    · exact ih next

/-- The visitor that keeps every item it is offered. -/
def collect (item : Item) (items : List Item) : List Item × Bool :=
  (items ++ [item], true)

theorem visit_all_collect (items start : List Item) :
    visitAll collect items start = (start ++ items, true) := by
  induction items generalizing start with
  | nil => simp [visitAll]
  | cons item rest ih =>
    rw [visitAll, collect]
    exact (ih (start ++ [item])).trans (by rw [List.append_assoc, List.singleton_append])

theorem visit_then_collect (finished stopped : Answer) (items : List Item) :
    visitThen finished stopped collect items [] = (finished, items, true) := by
  rw [visitThen, visit_all_collect]
  rfl

end SadLayer.Library
