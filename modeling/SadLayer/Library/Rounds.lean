import Mathlib.Order.Basic

/-! A loop that makes a bounded number of rounds: each either goes on with another
state or ends the loop. What one round keeps, a run of rounds keeps; two loops
whose rounds correspond end in corresponding results. -/
namespace SadLayer.Library

/-- What one round comes to. -/
inductive Round (σ ρ : Type*) where
  | next (state : σ)
  | done (result : ρ)

section
variable {σ ρ : Type*} (step : σ → Round σ ρ) (exhausted : σ → ρ)

/-- A loop of at most so many rounds. -/
def rounds : Nat → σ → ρ
  | 0, state => exhausted state
  | depth + 1, state =>
    match step state with
    | .next state => rounds depth state
    | .done result => result

/-- So many rounds lead from one state to another. -/
inductive Reaches : Nat → σ → σ → Prop where
  | here (state : σ) : Reaches 0 state state
  | next {count : Nat} {state after last : σ} : step state = .next after →
      Reaches count after last → Reaches (count + 1) state last

end

variable {σ ρ : Type*} {step : σ → Round σ ρ} {exhausted : σ → ρ}

theorem rounds_next {depth : Nat} {state after : σ} (stepped : step state = .next after) :
    rounds step exhausted (depth + 1) state = rounds step exhausted depth after := by
  rw [rounds, stepped]

theorem rounds_done {depth : Nat} {state : σ} {result : ρ} (stepped : step state = .done result) :
    rounds step exhausted (depth + 1) state = result := by
  rw [rounds, stepped]

theorem Reaches.rounds {count : Nat} {start last : σ} (reached : Reaches step count start last)
    (exhausted : σ → ρ) (depth : Nat) : rounds step exhausted (count + depth) start =
      Library.rounds step exhausted depth last := by
  induction reached with
  | here => rw [Nat.zero_add]
  | @next count state after last stepped _ ih =>
    rw [show count + 1 + depth = count + depth + 1 by omega, rounds_next stepped, ih]

theorem Reaches.concat {count : Nat} {start last after : σ}
    (reached : Reaches step count start last) (stepped : step last = .next after) :
    Reaches step (count + 1) start after := by
  induction reached with
  | here => exact .next stepped (.here after)
  | next first _ ih => exact .next first (ih stepped)

/-- A loop ends with a round that ends it or runs out of rounds. -/
theorem rounds_end (step : σ → Round σ ρ) (exhausted : σ → ρ) (depth : Nat) (start : σ) :
    (∃ count last result, count < depth ∧ Reaches step count start last ∧
      step last = .done result ∧ rounds step exhausted depth start = result) ∨
    ∃ last, Reaches step depth start last ∧
      rounds step exhausted depth start = exhausted last := by
  induction depth generalizing start with
  | zero => exact .inr ⟨start, .here start, rfl⟩
  | succ depth ih =>
    cases stepped : step start with
    | done result =>
      exact .inl ⟨0, start, result, Nat.succ_pos depth, .here start, stepped, rounds_done stepped⟩
    | next after =>
      rw [rounds_next stepped]
      obtain ⟨count, last, result, bound, reached, ended, run⟩ | ⟨last, reached, run⟩ := ih after
      · exact .inl ⟨count + 1, last, result, by omega, .next stepped reached, ended, run⟩
      · exact .inr ⟨last, .next stepped reached, run⟩

/-- Two rounds that correspond: both go on in related states, or both end with related results. -/
inductive RoundsAgree {σ' ρ' : Type*} (R : σ → σ' → Prop) (Q : ρ → ρ' → Prop) :
    Round σ ρ → Round σ' ρ' → Prop where
  | next {state : σ} {state' : σ'} : R state state' → RoundsAgree R Q (.next state) (.next state')
  | done {result : ρ} {result' : ρ'} : Q result result' →
      RoundsAgree R Q (.done result) (.done result')

/-- Loops whose rounds correspond end in related results. -/
theorem rounds_simulate {σ' ρ' : Type*} {step' : σ' → Round σ' ρ'} {exhausted' : σ' → ρ'}
    {R : σ → σ' → Prop} {Q : ρ → ρ' → Prop}
    (steps : ∀ state state', R state state' → RoundsAgree R Q (step state) (step' state'))
    (exhausts : ∀ state state', R state state' → Q (exhausted state) (exhausted' state'))
    (depth : Nat) {start : σ} {start' : σ'} (related : R start start') :
    Q (rounds step exhausted depth start) (rounds step' exhausted' depth start') := by
  induction depth generalizing start start' with
  | zero => exact exhausts start start' related
  | succ depth ih =>
    have agree := steps start start' related
    cases stepped : step start with
    | next after =>
      cases stepped' : step' start' with
      | next after' =>
        rw [stepped, stepped'] at agree
        cases agree with
        | next related =>
          rw [rounds_next stepped, rounds_next stepped']
          exact ih related
      | done result' =>
        rw [stepped, stepped'] at agree
        cases agree
    | done result =>
      cases stepped' : step' start' with
      | next after' =>
        rw [stepped, stepped'] at agree
        cases agree
      | done result' =>
        rw [stepped, stepped'] at agree
        cases agree with
        | done related =>
          rw [rounds_done stepped, rounds_done stepped']
          exact related

end SadLayer.Library
