import Mathlib.Tactic.Common

/-! Walks from place to place, each of which stops the walk, fails it or sends it
on, with a bound on how often it may be sent on. -/
namespace SadLayer.Library

/-- What a walk finds at one place. -/
inductive Found (Place Result Error : Type) where
  | stop (result : Result)
  | stuck (error : Error)
  | onward (next : Place)

variable {Place Result Error : Type} {look : Place → Found Place Result Error}

/-- The walk itself: `hops` more may be made, `depth` have been. -/
def walk (look : Place → Found Place Result Error) (exhausted : Error) :
    Nat → Nat → Place → Except Error (Nat × Result)
  | hops, depth, place =>
    match look place with
    | .stop result => .ok (depth, result)
    | .stuck error => .error error
    | .onward next =>
      match hops with
      | 0 => .error exhausted
      | hops + 1 => walk look exhausted hops (depth + 1) next

/-- Following this many hops leads from one place to another. -/
inductive Leads (look : Place → Found Place Result Error) : Nat → Place → Place → Prop where
  | here : Leads look 0 place place
  | onward (sent : look place = .onward next) (rest : Leads look hops next last) :
      Leads look (hops + 1) place last

theorem Leads.trans {more hops : Nat} {place middle last : Place}
    (first : Leads look hops place middle) (second : Leads look more middle last) :
    Leads look (hops + more) place last := by
  induction first with
  | here => simpa using second
  | @onward place next hops middle sent rest ih =>
    have onward := Leads.onward sent (ih second)
    rwa [show hops + 1 + more = hops + more + 1 by omega]

/-- A walk of some hops has every shorter walk in it. -/
theorem Leads.shorten {hops more : Nat} {place last : Place}
    (leads : Leads look (hops + more) place last) : ∃ middle, Leads look hops place middle := by
  induction hops generalizing place with
  | zero => exact ⟨place, .here⟩
  | succ hops ih =>
    rw [show hops + 1 + more = hops + more + 1 by omega] at leads
    cases leads with
    | onward sent rest =>
      obtain ⟨middle, leads⟩ := ih rest
      exact ⟨middle, .onward sent leads⟩

/-- Around a cycle a walk goes on for ever. -/
theorem Leads.cycle {hops around : Nat} {place turn : Place} (enters : Leads look hops place turn)
    (returns : Leads look (around + 1) turn turn) (more : Nat) :
    ∃ last, Leads look more place last := by
  have rounds (times : Nat) : Leads look (hops + times * (around + 1)) place turn := by
    induction times with
    | zero => simpa using enters
    | succ times ih =>
      have further := ih.trans returns
      rwa [Nat.add_mul, Nat.one_mul, ← Nat.add_assoc]
  have enough : more ≤ hops + more * (around + 1) := by
    have grows : more ≤ more * (around + 1) := Nat.le_mul_of_pos_right more (Nat.succ_pos around)
    omega
  have long := rounds more
  rw [show hops + more * (around + 1) = more + (hops + more * (around + 1) - more) by omega] at long
  exact long.shorten

/-- This many hops lead to a place that stops the walk. -/
def Arrives (look : Place → Found Place Result Error) (made : Nat) (place : Place)
    (result : Result) : Prop :=
  ∃ last, Leads look made place last ∧ look last = .stop result

variable {made : Nat} {place next : Place} {result here : Result} {error : Error}

theorem arrives_of_stop (found : look place = .stop here) :
    Arrives look made place result ↔ made = 0 ∧ here = result := by
  constructor
  · rintro ⟨last, leads, stops⟩
    cases leads with
    | here =>
      rw [found, Found.stop.injEq] at stops
      exact ⟨rfl, stops⟩
    | onward sent rest =>
      rw [found] at sent
      contradiction
  · rintro ⟨rfl, rfl⟩
    exact ⟨place, .here, found⟩

theorem not_arrives_of_stuck (found : look place = .stuck error) :
    ¬ Arrives look made place result := by
  rintro ⟨last, leads, stops⟩
  cases leads with
  | here =>
    rw [found] at stops
    contradiction
  | onward sent rest =>
    rw [found] at sent
    contradiction

theorem arrives_of_onward (found : look place = .onward next) :
    Arrives look made place result ↔ ∃ rest, made = rest + 1 ∧ Arrives look rest next result := by
  constructor
  · rintro ⟨last, leads, stops⟩
    cases leads with
    | here =>
      rw [found] at stops
      contradiction
    | @onward _ _ rest _ sent leads =>
      rw [found, Found.onward.injEq] at sent
      subst sent
      exact ⟨rest, rfl, last, leads, stops⟩
  · rintro ⟨rest, rfl, last, leads, stops⟩
    exact ⟨last, .onward found leads, stops⟩

/-- A bounded walk succeeds exactly when a place within the bound stops it. -/
theorem walk_ok_iff {exhausted : Error} {hops depth reached : Nat} :
    walk look exhausted hops depth place = .ok (reached, result) ↔
      ∃ made ≤ hops, reached = depth + made ∧ Arrives look made place result := by
  induction hops generalizing depth place with
  | zero =>
    unfold walk
    cases found : look place with
    | stop here =>
      simp only [arrives_of_stop found, Except.ok.injEq, Prod.mk.injEq]
      constructor
      · rintro ⟨rfl, rfl⟩
        exact ⟨0, Nat.le_refl 0, rfl, rfl, rfl⟩
      · rintro ⟨made, -, reachedIs, rfl, same⟩
        exact ⟨reachedIs.symm, same⟩
    | stuck error => simp [not_arrives_of_stuck found]
    | onward next =>
      simp only [arrives_of_onward found, reduceCtorEq, false_iff]
      rintro ⟨made, bound, -, rest, more, -⟩
      omega
  | succ hops ih =>
    unfold walk
    cases found : look place with
    | stop here =>
      simp only [arrives_of_stop found, Except.ok.injEq, Prod.mk.injEq]
      constructor
      · rintro ⟨rfl, rfl⟩
        exact ⟨0, Nat.zero_le _, rfl, rfl, rfl⟩
      · rintro ⟨made, -, reachedIs, rfl, same⟩
        exact ⟨reachedIs.symm, same⟩
    | stuck error => simp [not_arrives_of_stuck found]
    | onward next =>
      simp only [ih, arrives_of_onward found]
      constructor
      · rintro ⟨made, bound, reachedIs, arrives⟩
        exact ⟨made + 1, by omega, by omega, made, rfl, arrives⟩
      · rintro ⟨_, bound, reachedIs, made, rfl, arrives⟩
        exact ⟨made, by omega, by omega, arrives⟩

/-- A walk that is sent on once more than it may is exhausted. -/
theorem walk_exhausted {exhausted : Error} {hops depth : Nat} {last : Place}
    (leads : Leads look (hops + 1) place last) :
    walk look exhausted hops depth place = .error exhausted := by
  induction hops generalizing depth place with
  | zero =>
    cases leads with
    | onward sent rest => rw [walk, sent]
  | succ hops ih =>
    cases leads with
    | onward sent rest =>
      rw [walk, sent]
      exact ih rest

end SadLayer.Library
