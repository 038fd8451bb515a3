import SadLayer.Library.Wildcard

/-! Matching a file name against a search pattern, case folded or not. A name is
whatever the file system holds, so `*` and `?` may stand in it as well. -/
namespace SadLayer.Search
open SadLayer.Library

def starUnit : UInt16 := 0x2a
def dotUnit : UInt16 := 0x2e
def questionUnit : UInt16 := 0x3f

def foldAscii (unit : UInt16) : UInt16 :=
  if 0x41 ≤ unit ∧ unit ≤ 0x5a then unit - 0x41 + 0x61 else unit

def unitsEqual (first second : UInt16) (caseSensitive : Bool) : Bool :=
  if caseSensitive then first == second else foldAscii first == foldAscii second

/-- The pattern unit is consumed together with the name unit. -/
def consumes (caseSensitive : Bool) (unit nameUnit : UInt16) : Bool :=
  unit == questionUnit || unitsEqual unit nameUnit caseSensitive

/-- `wildcard_matches`; the loop is `greedyMatch`, which asks for a star only where the units did
not match. -/
def wildcardMatches (pattern name : List UInt16) (caseSensitive : Bool) : Bool :=
  if pattern = [starUnit, dotUnit, starUnit] then true
  else greedyMatch (consumes caseSensitive) (· == starUnit) pattern name none

/-! ### What a pattern means -/

/-- The name can be split along the pattern: a `*` stands for any units, a `?` for one, and any
other unit for an equal one. -/
inductive WildcardRelation (caseSensitive : Bool) : List UInt16 → List UInt16 → Prop where
  | done : WildcardRelation caseSensitive [] []
  | star (units : List UInt16) (rest : WildcardRelation caseSensitive pattern name) :
      WildcardRelation caseSensitive (starUnit :: pattern) (units ++ name)
  | question (nameUnit : UInt16) (rest : WildcardRelation caseSensitive pattern name) :
      WildcardRelation caseSensitive (questionUnit :: pattern) (nameUnit :: name)
  | unit (plain : unit ≠ starUnit ∧ unit ≠ questionUnit)
      (equal : unitsEqual unit nameUnit caseSensitive = true)
      (rest : WildcardRelation caseSensitive pattern name) :
      WildcardRelation caseSensitive (unit :: pattern) (nameUnit :: name)

/-- The name can be split so that every `*` of the pattern whose share would begin at a `*` of the
name stands for just that unit. -/
inductive SplitsAtStars (caseSensitive : Bool) : List UInt16 → List UInt16 → Prop where
  | done : SplitsAtStars caseSensitive [] []
  | literal (rest : SplitsAtStars caseSensitive pattern name) :
      SplitsAtStars caseSensitive (starUnit :: pattern) (starUnit :: name)
  | star (units : List UInt16) (apart : (units ++ name).head? ≠ some starUnit)
      (rest : SplitsAtStars caseSensitive pattern name) :
      SplitsAtStars caseSensitive (starUnit :: pattern) (units ++ name)
  | question (nameUnit : UInt16) (rest : SplitsAtStars caseSensitive pattern name) :
      SplitsAtStars caseSensitive (questionUnit :: pattern) (nameUnit :: name)
  | unit (plain : unit ≠ starUnit ∧ unit ≠ questionUnit)
      (equal : unitsEqual unit nameUnit caseSensitive = true)
      (rest : SplitsAtStars caseSensitive pattern name) :
      SplitsAtStars caseSensitive (unit :: pattern) (nameUnit :: name)

theorem SplitsAtStars.relation {caseSensitive : Bool}
    (splits : SplitsAtStars caseSensitive pattern name) :
    WildcardRelation caseSensitive pattern name := by
  induction splits with
  | done => exact .done
  | literal rest ih => exact .star [starUnit] ih
  | star units apart rest ih => exact .star units ih
  | question nameUnit rest ih => exact .question nameUnit ih
  | unit plain equal rest ih => exact .unit plain equal ih

/-- Folding moves no unit onto a star and leaves the star alone. -/
theorem fold_ascii_star {unit : UInt16} :
    foldAscii unit = foldAscii starUnit ↔ unit = starUnit := by
  have same : foldAscii starUnit = starUnit := by decide
  rw [same]
  unfold foldAscii starUnit
  split
  · rename_i capital
    rw [UInt16.le_iff_toNat_le, UInt16.le_iff_toNat_le] at capital
    simp only [← UInt16.toNat_inj, UInt16.toNat_add, UInt16.toNat_sub, UInt16.reduceToNat] at *
    omega
  · rfl

theorem consumes_star {caseSensitive : Bool} {nameUnit : UInt16} :
    consumes caseSensitive starUnit nameUnit = true ↔ nameUnit = starUnit := by
  have star : (starUnit == questionUnit) = false := by decide
  rw [consumes, star, Bool.false_or, unitsEqual]
  cases caseSensitive with
  | true => rw [if_pos rfl, beq_iff_eq, eq_comm]
  | false => rw [if_neg Bool.false_ne_true, beq_iff_eq, eq_comm, fold_ascii_star]

/-- The splits that the loop looks for are those that take the stars of the name literally. -/
theorem splits_at_stars_iff {caseSensitive : Bool} {pattern name : List UInt16} :
    Splits (consumes caseSensitive) (· == starUnit) pattern name ↔
      SplitsAtStars caseSensitive pattern name := by
  constructor
  · intro splits
    induction splits with
    | done => exact .done
    | @accepted unit nameUnit pattern name taken rest ih =>
      by_cases star : unit = starUnit
      · subst star
        rw [consumes_star.mp taken]
        exact .literal ih
      by_cases question : unit = questionUnit
      · subst question
        exact .question nameUnit ih
      · have equal : unitsEqual unit nameUnit caseSensitive = true := by
          simpa [consumes, question] using taken
        exact .unit ⟨star, question⟩ equal ih
    | @opened unit pattern name isOpened refused taken rest ih =>
      rw [beq_iff_eq] at isOpened
      subst isOpened
      have apart : (name.take taken ++ name.drop taken).head? ≠ some starUnit := by
        rw [List.take_append_drop]
        intro first
        have literal := refused starUnit first
        rw [consumes_star.mpr rfl] at literal
        contradiction
      have split := SplitsAtStars.star _ apart ih
      rwa [List.take_append_drop] at split
  · intro splits
    induction splits with
    | done => exact .done
    | literal rest ih => exact .accepted (consumes_star.mpr rfl) ih
    | @star pattern name units apart rest ih =>
      refine .opened (beq_self_eq_true _) ?_ units.length (by rwa [List.drop_left])
      intro first found
      rw [← Bool.not_eq_true, consumes_star]
      rintro rfl
      exact apart found
    | question nameUnit rest ih => exact .accepted (by simp [consumes]) ih
    | unit plain equal rest ih => exact .accepted (by simp [consumes, equal]) ih

theorem wildcard_matches_iff {pattern name : List UInt16} {caseSensitive : Bool} :
    wildcardMatches pattern name caseSensitive = true ↔
      pattern = [starUnit, dotUnit, starUnit] ∨ SplitsAtStars caseSensitive pattern name := by
  unfold wildcardMatches
  split
  · rename_i everything
    exact iff_of_true rfl (.inl everything)
  · rename_i other
    rw [greedy_match_iff, splits_at_stars_iff, or_iff_right other]

/-- The matcher decides the wildcard relation of a pattern and a name exactly when a name that can
be split at all can be split with the stars of the name taken literally. -/
theorem wildcard_relation_decided_iff (pattern name : List UInt16) (caseSensitive : Bool) :
    (wildcardMatches pattern name caseSensitive = true ↔
      pattern = [starUnit, dotUnit, starUnit] ∨ WildcardRelation caseSensitive pattern name) ↔
    (pattern = [starUnit, dotUnit, starUnit] ∨
      (WildcardRelation caseSensitive pattern name → SplitsAtStars caseSensitive pattern name)) := by
  rw [wildcard_matches_iff]
  have sound : SplitsAtStars caseSensitive pattern name →
      WildcardRelation caseSensitive pattern name := SplitsAtStars.relation
  tauto

/-- A lone star matches every name but one that begins with a star and goes on. -/
theorem lone_star_misses_starred_name :
    ¬ ∀ (pattern name : List UInt16) (caseSensitive : Bool),
      wildcardMatches pattern name caseSensitive = true ↔
        pattern = [starUnit, dotUnit, starUnit] ∨ WildcardRelation caseSensitive pattern name := by
  intro decided
  have everything : WildcardRelation true [starUnit] ([starUnit, 0x61] ++ []) := .star _ .done
  have found := (decided [starUnit] [starUnit, 0x61] true).mpr (.inr everything)
  have missed : wildcardMatches [starUnit] [starUnit, 0x61] true = false := by
    simp [wildcardMatches, greedyMatch, consumes, unitsEqual, starUnit, dotUnit, questionUnit]
  rw [missed] at found
  contradiction

/-- Where no star stands in the pattern or none in the name, the matcher decides the relation. -/
theorem wildcard_relation_decided (pattern name : List UInt16) (caseSensitive : Bool)
    (apart : starUnit ∉ pattern ∨ starUnit ∉ name) :
    wildcardMatches pattern name caseSensitive = true ↔
      pattern = [starUnit, dotUnit, starUnit] ∨ WildcardRelation caseSensitive pattern name := by
  rw [wildcard_matches_iff]
  refine or_congr_right ⟨SplitsAtStars.relation, fun splits => ?_⟩
  induction splits with
  | done => exact .done
  | @star pattern name units rest ih =>
    have starless : starUnit ∉ units ++ name := by
      simpa only [List.mem_cons, true_or, not_true_eq_false, false_or] using apart
    refine .star units ?_ (ih (.inr fun inside => starless (List.mem_append_right _ inside)))
    exact fun first => starless (List.mem_of_mem_head? first)
  | question nameUnit rest ih =>
    exact .question nameUnit (ih (apart.imp List.not_mem_of_not_mem_cons
      List.not_mem_of_not_mem_cons))
  | unit plain equal rest ih =>
    exact .unit plain equal (ih (apart.imp List.not_mem_of_not_mem_cons
      List.not_mem_of_not_mem_cons))

end SadLayer.Search
