import Mathlib.Order.Basic
import Mathlib.Data.Nat.Init

/-! Walks along an array, each round of which looks at cells from its place on
and then strides further. Looks behind the end and strides of nothing are caught. -/
namespace SadLayer.Library

/-- Where a walk goes astray: it looks outside, or it stays where it is for ever. -/
inductive Stray where
  | outside
  | endless
  deriving DecidableEq, Repr

/-- What a round comes to. -/
inductive Stride (σ α : Type*) where
  | stop (answer : α)
  | onward (cells : Nat) (state : σ)

section
variable {γ : Type*}

def lookAt (cells : List γ) (index : Nat) : Except Stray γ :=
  match cells[index]? with
  | some cell => .ok cell
  | none => .error .outside

def lookAtRange (cells : List γ) (index count : Nat) : Except Stray (List γ) :=
  if index + count ≤ cells.length then .ok ((cells.drop index).take count) else .error .outside

@[simp] theorem look_at_inside {cells : List γ} {index : Nat} (inside : index < cells.length) :
    lookAt cells index = .ok cells[index] := by
  unfold lookAt
  rw [List.getElem?_eq_getElem inside]

theorem look_at_range_inside {cells : List γ} {index count : Nat}
    (inside : index + count ≤ cells.length) :
    lookAtRange cells index count = .ok ((cells.drop index).take count) := if_pos inside

end

/-! ### The walk -/

section
variable {σ α : Type*}

/-- The walk from a place on: where its rounds stood, and what it comes to. -/
def strideFrom (count : Nat) (round : Nat → σ → Except Stray (Stride σ α)) (finish : Nat → σ → α)
    (index : Nat) (state : σ) : List Nat × Except Stray α :=
  if index < count then
    match round index state with
    | .error stray => ([index], .error stray)
    | .ok (.stop answer) => ([index], .ok answer)
    | .ok (.onward 0 _) => ([index], .error .endless)
    | .ok (.onward (cells + 1) next) =>
      let rest := strideFrom count round finish (index + (cells + 1)) next
      (index :: rest.1, rest.2)
  else ([], .ok (finish index state))
termination_by count - index

variable {count index cells : Nat} {round : Nat → σ → Except Stray (Stride σ α)}
  {finish : Nat → σ → α} {state next : σ} {answer : α}

theorem stride_finish (ended : count ≤ index) :
    strideFrom count round finish index state = ([], .ok (finish index state)) := by
  rw [strideFrom, if_neg (by omega)]

theorem stride_stop (inside : index < count) (stops : round index state = .ok (.stop answer)) :
    strideFrom count round finish index state = ([index], .ok answer) := by
  rw [strideFrom, if_pos inside, stops]

theorem stride_onward (inside : index < count) (filled : 0 < cells)
    (goes : round index state = .ok (.onward cells next)) :
    strideFrom count round finish index state =
      (index :: (strideFrom count round finish (index + cells) next).1,
        (strideFrom count round finish (index + cells) next).2) := by
  obtain ⟨cells, rfl⟩ := Nat.exists_eq_succ_of_ne_zero (Nat.pos_iff_ne_zero.mp filled)
  rw [strideFrom, if_pos inside, goes]

/-- A round that does what a function of the place and the state does, and strides no further than
it may. -/
inductive Keeps (round : Nat → σ → Except Stray (Stride σ α)) (value : Nat → σ → α)
    (allowed : Nat → Prop) (index : Nat) (state : σ) : Prop where
  | stop (stops : round index state = .ok (.stop (value index state)))
  | onward (cells : Nat) (next : σ) (goes : round index state = .ok (.onward cells next))
      (may : allowed cells) (same : value index state = value (index + cells) next)

/-- A walk whose rounds do what a function does comes to its value. -/
theorem stride_keeps (value : Nat → σ → α)
    (ends : ∀ index state, count ≤ index → value index state = finish index state)
    (rounds : ∀ index state, index < count → Keeps round value (0 < ·) index state) :
    (strideFrom count round finish index state).2 = .ok (value index state) := by
  induction left : count - index using Nat.strong_induction_on generalizing index state with
  | _ left ih =>
    by_cases inside : index < count
    · cases rounds index state inside with
      | stop stops => rw [stride_stop inside stops]
      | onward cells next goes filled same =>
        rw [stride_onward inside filled goes, same]
        exact ih (count - (index + cells)) (by omega) rfl
    · rw [stride_finish (by omega), ends index state (by omega)]

/-! ### Tilings -/

/-- Stops that tile a range, each with the cells behind it up to the next. -/
inductive Tiled (width : Nat → Nat) : Nat → List Nat → Nat → Prop where
  | nil (stop : Nat) : Tiled width stop [] stop
  | cons (filled : 0 < width start) (rest : Tiled width (start + width start) stops stop) :
      Tiled width start (start :: stops) stop

variable {width : Nat → Nat} {start middle stop place : Nat} {stops more : List Nat}

theorem Tiled.le (tiled : Tiled width start stops stop) : start ≤ stop := by
  induction tiled with
  | nil => exact Nat.le_refl _
  | cons filled rest ih => omega

theorem Tiled.append (tiled : Tiled width start stops middle) (behind : Tiled width middle more stop) :
    Tiled width start (stops ++ more) stop := by
  induction tiled with
  | nil => exact behind
  | cons filled rest ih => exact .cons filled (ih behind)

theorem Tiled.behind (tiled : Tiled width start stops stop) (member : place ∈ stops) :
    0 < width place ∧ place + width place ≤ stop := by
  induction tiled with
  | nil => cases member
  | @cons start stops stop filled rest ih =>
    rcases List.mem_cons.mp member with rfl | member
    · exact ⟨filled, rest.le⟩
    · exact ih member

/-- A walk that strides from stop to stop as a function does comes to its value, and passes over
all of them unless it stops. -/
theorem Tiled.walk (tiled : Tiled width start stops count)
    (round : Nat → σ → Except Stray (Stride σ α)) (finish value : Nat → σ → α) (state : σ)
    (ends : ∀ state, value count state = finish count state)
    (rounds : ∀ place state, place ∈ stops → Keeps round value (· = width place) place state) :
    (strideFrom count round finish start state).2 = .ok (value start state) ∧
      (strideFrom count round finish start state).1 <+: stops ∧
      ((∀ place other, place ∈ stops → round place other ≠ .ok (.stop (value start state))) →
        (strideFrom count round finish start state).1 = stops) := by
  induction tiled generalizing state with
  | nil =>
    rw [stride_finish (Nat.le_refl _), ends]
    exact ⟨rfl, List.prefix_refl _, fun _ => rfl⟩
  | @cons start stops stop filled rest ih =>
    have inside : start < stop := by
      have le := rest.le
      omega
    cases rounds start state (by simp) with
    | stop stops =>
      rw [stride_stop inside stops]
      exact ⟨rfl, by simp, fun passes => absurd stops (passes start state (by simp))⟩
    | onward cells next goes may same =>
      subst may
      obtain ⟨outcome, visits, whole⟩ := ih next ends
        fun place other member => rounds place other (by simp [member])
      rw [stride_onward inside filled goes, same]
      refine ⟨outcome, ?_, fun passes => ?_⟩
      · simpa using visits
      · rw [whole fun place other member => passes place other (by simp [member])]

/-- Cells that are strode over two at a time. -/
theorem Tiled.pairs {pairs : Nat} (two : ∀ index < 2 * pairs, width index = 2) :
    Tiled width 0 ((List.range pairs).map (2 * ·)) (2 * pairs) := by
  induction pairs with
  | zero => exact .nil 0
  | succ pairs ih =>
    rw [List.range_succ, List.map_append]
    have last : width (2 * pairs) = 2 := two _ (by omega)
    refine (ih fun index below => two index (by omega)).append (.cons (by omega) ?_)
    rw [last]
    exact .nil _

/-- A walk that does not stop on its way tiles what it walks over. -/
theorem stride_tiles {visited : List Nat} (le : index ≤ count)
    (rounds : ∀ index state cells next, index < count →
      round index state = .ok (.onward cells next) → cells = width index ∧ index + cells ≤ count)
    (passes : ∀ index state, index < count → round index state ≠ .ok (.stop answer))
    (walks : strideFrom count round finish index state = (visited, .ok answer)) :
    Tiled width index visited count := by
  induction left : count - index using Nat.strong_induction_on
    generalizing index state visited with
  | _ left ih =>
    by_cases inside : index < count
    · cases goes : round index state with
      | error stray =>
        rw [strideFrom, if_pos inside, goes] at walks
        cases walks
      | ok stride =>
        cases stride with
        | stop other =>
          rw [stride_stop inside goes] at walks
          cases walks
          exact absurd goes (passes index state inside)
        | onward cells next =>
          obtain ⟨rfl, fits⟩ := rounds index state cells next inside goes
          rcases Nat.eq_zero_or_pos (width index) with nothing | filled
          · rw [strideFrom, if_pos inside, goes, nothing] at walks
            cases walks
          · rw [stride_onward inside filled goes] at walks
            injection walks with visits outcome
            subst visits
            exact .cons filled (ih _ (by omega) fits (Prod.ext rfl outcome) rfl)
    · rw [stride_finish (by omega)] at walks
      cases walks
      have same : index = count := by omega
      rw [same]
      exact .nil count

end

end SadLayer.Library
