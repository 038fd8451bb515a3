import Mathlib.Data.List.Forall2
import Mathlib.Tactic.Common

/-! Matching with one backtracking point. The loop takes symbols as long as the
pattern accepts them, opens a star where it has to, and when it is stuck lets the
star it opened last take one symbol more. It never goes back behind that star. -/
namespace SadLayer.Library

variable {Token Symbol : Type} (accepts : Token → Symbol → Bool) (isStar : Token → Bool)

/-- The longer of the pattern and what is behind the open star. -/
def openLength (pattern : List Token) : Option (List Token × List Symbol) → Nat
  | none => pattern.length + 1
  | some (behind, _) => max pattern.length behind.length

/-- What the open star may still give back. -/
def openRoom : Option (List Token × List Symbol) → Nat
  | none => 0
  | some (_, start) => start.length

/-- The loop at a pattern and a name. An open star is what is behind it in the pattern, and the
place in the name from which that was tried last. -/
def greedyMatch (pattern : List Token) (name : List Symbol)
    (star : Option (List Token × List Symbol)) : Bool :=
  match name, pattern with
  | [], pattern => pattern.all isStar
  | symbol :: rest, token :: behind =>
    if accepts token symbol then greedyMatch behind rest star
    else if isStar token then greedyMatch behind (symbol :: rest) (some (behind, symbol :: rest))
    else match star with
      | some (behind, _ :: start) => greedyMatch behind start (some (behind, start))
      | _ => false
  | _ :: _, [] =>
    match star with
    | some (behind, _ :: start) => greedyMatch behind start (some (behind, start))
    | _ => false
termination_by (openLength pattern star, openRoom star, name.length)
decreasing_by
  · cases star with
    | none => exact Prod.Lex.left _ _ (by simp [openLength])
    | some star =>
      exact Prod.Lex.right' _ (by simp only [openLength, List.length_cons]; omega)
        (Prod.Lex.right' _ (Nat.le_refl _) (by simp))
  · cases star with
    | none => exact Prod.Lex.left _ _ (by simp only [openLength, List.length_cons]; omega)
    | some star => exact Prod.Lex.left _ _ (by simp only [openLength, List.length_cons]; omega)
  · exact Prod.Lex.right' _ (by simp only [openLength]; omega)
      (Prod.Lex.left _ _ (by simp [openRoom]))
  · exact Prod.Lex.right' _ (by simp only [openLength]; omega)
      (Prod.Lex.left _ _ (by simp [openRoom]))

/-- The name can be split along the pattern: a star stands for any number of symbols, or for just
the next one where it accepts that. -/
inductive Splits : List Token → List Symbol → Prop where
  | done : Splits [] []
  | accepted (taken : accepts token symbol = true) (rest : Splits pattern name) :
      Splits (token :: pattern) (symbol :: name)
  | opened (isOpened : isStar token = true)
      (refused : ∀ symbol ∈ name.head?, accepts token symbol = false) (taken : Nat)
      (rest : Splits pattern (name.drop taken)) : Splits (token :: pattern) name

variable {accepts : Token → Symbol → Bool} {isStar : Token → Bool}
variable {pattern behind tokens : List Token} {name start symbols : List Symbol} {token : Token}
  {symbol : Symbol}

/-- At the end of the name only stars may be left. -/
theorem splits_nil : Splits accepts isStar pattern [] ↔ pattern.all isStar = true := by
  induction pattern with
  | nil => exact iff_of_true .done rfl
  | cons token pattern ih =>
    rw [List.all_cons, Bool.and_eq_true, ← ih]
    constructor
    · intro splits
      cases splits with
      | opened isOpened refused taken rest => exact ⟨isOpened, by simpa using rest⟩
    · rintro ⟨isOpened, rest⟩
      exact .opened isOpened nofun 0 rest

theorem not_splits_end : ¬ Splits accepts isStar [] (symbol :: name) := by
  intro splits
  cases splits

/-- The tokens behind the first are split from a later place on. -/
theorem Splits.passes_first {later : Nat}
    (splits : Splits accepts isStar (token :: pattern) (name.drop later)) :
    ∃ later, Splits accepts isStar pattern (name.drop later) := by
  generalize found : name.drop later = remaining at splits
  cases splits with
  | @accepted _ _ _ remaining taken rest =>
    refine ⟨later + 1, ?_⟩
    rwa [← List.drop_drop, found, List.drop_one, List.tail_cons]
  | opened isOpened refused taken rest =>
    rw [← found, List.drop_drop] at rest
    exact ⟨later + taken, rest⟩

theorem splits_accepted (taken : accepts token symbol = true) :
    Splits accepts isStar (token :: pattern) (symbol :: name) ↔
      Splits accepts isStar pattern name := by
  constructor
  · intro splits
    cases splits with
    | accepted taken rest => exact rest
    | opened isOpened refused => rw [refused symbol rfl] at taken; contradiction
  · exact .accepted taken

theorem not_splits_of_stuck (refused : ¬ accepts token symbol = true)
    (plain : ¬ isStar token = true) :
    ¬ Splits accepts isStar (token :: pattern) (symbol :: name) := by
  intro splits
  cases splits with
  | accepted taken => exact refused taken
  | opened isOpened => exact plain isOpened

/-- Where a run of symbols was accepted, a split from any later place passes the same tokens no
earlier than that run did. -/
theorem splits_behind_run
    (run : List.Forall₂ (fun token symbol => accepts token symbol = true) tokens symbols)
    {later : Nat}
    (splits : Splits accepts isStar (tokens ++ pattern) ((symbols ++ name).drop later)) :
    ∃ later, Splits accepts isStar pattern (name.drop later) := by
  induction run generalizing later with
  | nil => exact ⟨later, splits⟩
  | @cons token symbol tokens symbols accepted run ih =>
    cases later with
    | zero =>
      cases splits with
      | accepted taken rest => exact @ih 0 rest
      | opened isOpened refused taken rest =>
        rw [refused symbol rfl] at accepted
        contradiction
    | succ later =>
      rw [List.cons_append, List.cons_append, List.drop_succ_cons] at splits
      obtain ⟨later, rest⟩ := splits.passes_first
      exact ih rest

/-- What the loop still has to decide: the rest of the name along the rest of the pattern, or a
later try of the open star. -/
def Decides (accepts : Token → Symbol → Bool) (isStar : Token → Bool) (pattern : List Token)
    (name : List Symbol) (star : Option (List Token × List Symbol)) : Prop :=
  Splits accepts isStar pattern name ∨
    ∃ behind start later, star = some (behind, start) ∧
      Splits accepts isStar behind (start.drop (later + 1))

/-- The pattern and the name are where a run of accepted symbols from the open star has led. -/
def Tried (accepts : Token → Symbol → Bool) (pattern : List Token) (name : List Symbol)
    (star : Option (List Token × List Symbol)) : Prop :=
  ∀ behind start, star = some (behind, start) → ∃ tokens symbols,
    List.Forall₂ (fun token symbol => accepts token symbol = true) tokens symbols ∧
      behind = tokens ++ pattern ∧ start = symbols ++ name

theorem Tried.passes {star : Option (List Token × List Symbol)}
    (tried : Tried accepts pattern name star) {behind : List Token} {start : List Symbol}
    (isOpen : star = some (behind, start)) {later : Nat}
    (splits : Splits accepts isStar behind (start.drop later)) :
    ∃ later, Splits accepts isStar pattern (name.drop later) := by
  obtain ⟨tokens, symbols, run, rfl, rfl⟩ := tried behind start isOpen
  exact splits_behind_run run splits

theorem Tried.accepted {star : Option (List Token × List Symbol)}
    (tried : Tried accepts (token :: pattern) (symbol :: name) star)
    (taken : accepts token symbol = true) : Tried accepts pattern name star := by
  intro behind start isOpen
  obtain ⟨tokens, symbols, run, rfl, rfl⟩ := tried behind start isOpen
  exact ⟨tokens ++ [token], symbols ++ [symbol],
    List.rel_append run (.cons taken .nil), by simp, by simp⟩

theorem tried_again : Tried accepts behind start (some (behind, start)) := by
  rintro behind start ⟨⟩
  exact ⟨[], [], .nil, rfl, rfl⟩

/-- Once nothing fits here, the open star is tried one place later. -/
theorem decides_retry (stuck : ¬ Splits accepts isStar pattern name) :
    Decides accepts isStar pattern name (some (behind, symbol :: start)) ↔
      Decides accepts isStar behind start (some (behind, start)) := by
  constructor
  · rintro (splits | ⟨behind, _, later, ⟨⟩, splits⟩)
    · exact absurd splits stuck
    · rw [List.drop_succ_cons] at splits
      cases later with
      | zero => exact .inl splits
      | succ later => exact .inr ⟨_, _, later, rfl, splits⟩
  · rintro (splits | ⟨behind, start, later, ⟨⟩, splits⟩)
    · exact .inr ⟨_, _, 0, rfl, splits⟩
    · exact .inr ⟨_, _, later + 1, rfl, splits⟩

theorem decides_stuck (stuck : ¬ Splits accepts isStar pattern name)
    {star : Option (List Token × List Symbol)} (tried : Tried accepts pattern name star)
    (unread : name ≠ [])
    (exhausted : ∀ behind symbol start, star ≠ some (behind, symbol :: start)) :
    ¬ Decides accepts isStar pattern name star := by
  rintro (splits | ⟨behind, start, later, isOpen, splits⟩)
  · exact stuck splits
  · obtain ⟨tokens, symbols, run, rfl, rfl⟩ := tried behind start isOpen
    cases whole : symbols ++ name with
    | nil => exact unread (List.append_eq_nil_iff.mp whole).2
    | cons symbol start => exact exhausted _ symbol start (by rw [isOpen, whole])

/-- The loop decides what is left. A star that is opened later makes all further tries of the one
before it superfluous: a split behind such a try passes the new star no earlier. -/
theorem greedy_match_decides (pattern : List Token) (name : List Symbol)
    (star : Option (List Token × List Symbol)) (tried : Tried accepts pattern name star) :
    greedyMatch accepts isStar pattern name star = true ↔
      Decides accepts isStar pattern name star := by
  fun_induction greedyMatch accepts isStar pattern name star with
  | case1 star pattern =>
    rw [← @splits_nil _ _ accepts]
    constructor
    · exact .inl
    · rintro (splits | ⟨behind, start, later, isOpen, splits⟩)
      · exact splits
      · obtain ⟨later, splits⟩ := tried.passes isOpen splits
        simpa using splits
  | case2 star symbol rest token behind taken ih =>
    rw [ih (tried.accepted taken), Decides, Decides, splits_accepted taken]
  | case3 star symbol rest token behind refused isOpened ih =>
    rw [ih tried_again]
    have opens (taken : Nat) (splits : Splits accepts isStar behind ((symbol :: rest).drop taken)) :
        Splits accepts isStar (token :: behind) (symbol :: rest) :=
      .opened isOpened (by simpa using refused) taken splits
    constructor
    · rintro (splits | ⟨_, _, later, ⟨⟩, splits⟩)
      · exact .inl (opens 0 splits)
      · exact .inl (opens (later + 1) splits)
    · intro decides
      have here : ∃ later,
          Splits accepts isStar (token :: behind) ((symbol :: rest).drop later) := by
        rcases decides with splits | ⟨_, _, later, isOpen, splits⟩
        · exact ⟨0, splits⟩
        · exact tried.passes isOpen splits
      obtain ⟨later, splits⟩ := here
      obtain ⟨later, splits⟩ := splits.passes_first
      cases later with
      | zero => exact .inl splits
      | succ later => exact .inr ⟨_, _, later, rfl, splits⟩
  | case4 symbol rest token _ refused plain behind _ start ih =>
    rw [ih tried_again, decides_retry (not_splits_of_stuck refused plain)]
  | case5 star symbol rest token _ refused plain exhausted =>
    exact iff_of_false nofun
      (decides_stuck (not_splits_of_stuck refused plain) tried nofun exhausted)
  | case6 _ _ behind _ start ih => rw [ih tried_again, decides_retry not_splits_end]
  | case7 star _ _ exhausted =>
    exact iff_of_false nofun (decides_stuck not_splits_end tried nofun exhausted)

/-- The loop decides whether the name can be split along the pattern. -/
theorem greedy_match_iff :
    greedyMatch accepts isStar pattern name none = true ↔ Splits accepts isStar pattern name := by
  rw [greedy_match_decides pattern name none nofun, Decides]
  exact or_iff_left (by rintro ⟨_, _, _, ⟨⟩, _⟩)

end SadLayer.Library
