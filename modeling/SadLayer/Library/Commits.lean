import Mathlib.Data.List.Perm.Basic
import Mathlib.Tactic.Common

/-! Calls that several threads make on one object, and the moments at which they take place for all
of them. A call commits once, between its beginning and its answer, and the answers of a thread are
what it committed, up to what it is about to answer. -/
namespace SadLayer.Library

variable {Thread State Commit Answer Entry : Type} {told : Answer → Option Commit}

/-- What the object is after these commits, each of which was allowed where it stands. -/
inductive Follows (allowed : State → Commit → Prop) (apply : State → Commit → State)
    (start : State) : List Commit → State → Prop where
  | start : Follows allowed apply start [] start
  | commit {commits : List Commit} {state : State} {commit : Commit}
      (before : Follows allowed apply start commits state) (here : allowed state commit) :
      Follows allowed apply start (commits ++ [commit]) (apply state commit)

/-! ### Entries by thread -/

/-- The answers as what they say was committed. -/
def committedOf (told : Answer → Option Commit) (answers : List (Thread × Answer)) :
    List (Thread × Commit) :=
  answers.filterMap fun answer => (told answer.2).map (answer.1, ·)

theorem committed_cons (thread : Thread) (answer : Answer) (answers : List (Thread × Answer)) :
    committedOf told ((thread, answer) :: answers) =
      (told answer).toList.map (thread, ·) ++ committedOf told answers := by
  unfold committedOf
  rw [List.filterMap_cons]
  cases told answer <;> rfl

variable [DecidableEq Thread] {thread other : Thread}

def ofThread (thread : Thread) (entries : List (Thread × Entry)) : List Entry :=
  entries.filterMap fun entry => if entry.1 = thread then some entry.2 else none

theorem of_thread_same (thread : Thread) (entries : List Entry) :
    ofThread thread (entries.map (thread, ·)) = entries := by
  simp [ofThread, List.filterMap_map]

theorem of_thread_other (apart : other ≠ thread) (entries : List Entry) :
    ofThread other (entries.map (thread, ·)) = [] := by
  simp [ofThread, List.filterMap_map, apart.symm]

theorem of_thread_append (entries more : List (Thread × Entry)) :
    ofThread thread (entries ++ more) = ofThread thread entries ++ ofThread thread more :=
  List.filterMap_append

theorem count_of_thread [DecidableEq Entry] (entries : List (Thread × Entry)) (thread : Thread)
    (entry : Entry) : entries.count (thread, entry) = (ofThread thread entries).count entry := by
  induction entries with
  | nil => rfl
  | cons first rest ih =>
    obtain ⟨other, held⟩ := first
    unfold ofThread at ih
    by_cases same : other = thread <;> by_cases also : held = entry <;>
      simp [ofThread, same, also, ih]

/-- Entries that are the same by thread are the same up to their order. -/
theorem perm_of_threads [DecidableEq Entry] {entries more : List (Thread × Entry)}
    (same : ∀ thread, ofThread thread entries = ofThread thread more) : entries.Perm more :=
  List.perm_iff_count.mpr fun entry => by
    rw [count_of_thread entries, count_of_thread more, same]

/-! ### Answers -/

variable {pending after : Thread → Option Commit} {commits : List (Thread × Commit)}
  {answers : List (Thread × Answer)}

/-- Each thread has answered what it committed, but for what is pending. -/
def InOrder (told : Answer → Option Commit) (pending : Thread → Option Commit)
    (commits : List (Thread × Commit)) (answers : List (Thread × Answer)) : Prop :=
  ∀ thread, ofThread thread commits =
    (ofThread thread answers).filterMap told ++ (pending thread).toList

/-- A thread commits, or answers, or both. -/
theorem InOrder.extend {commit : Option Commit} {answer : Option Answer}
    (order : InOrder told pending commits answers)
    (here : (pending thread).toList ++ commit.toList =
      (answer.bind told).toList ++ (after thread).toList)
    (others : ∀ other ≠ thread, after other = pending other) :
    InOrder told after (commits ++ commit.toList.map (thread, ·))
      (answers ++ answer.toList.map (thread, ·)) := by
  intro asked
  rw [of_thread_append, of_thread_append, order asked]
  by_cases same : asked = thread
  · subst same
    rw [of_thread_same, of_thread_same, List.append_assoc, here, List.filterMap_append,
      List.append_assoc]
    congr 2
    cases answer with
    | none => rfl
    | some answer => cases said : told answer <;> simp [said]
  · rw [of_thread_other same, of_thread_other same, others asked same]
    simp

theorem of_thread_committed (answers : List (Thread × Answer)) :
    ofThread thread (committedOf told answers) = (ofThread thread answers).filterMap told := by
  induction answers with
  | nil => rfl
  | cons first rest ih =>
    obtain ⟨other, answer⟩ := first
    rw [committed_cons, of_thread_append, ih]
    by_cases same : other = thread
    · subst same
      rw [of_thread_same]
      simp only [ofThread, List.filterMap_cons, if_pos]
      cases told answer <;> rfl
    · rw [of_thread_other (Ne.symm same), List.nil_append]
      simp [ofThread, same]

/-- With nothing pending, what was committed is what was answered. -/
theorem InOrder.at_rest [DecidableEq Commit] (order : InOrder told pending commits answers)
    (rest : ∀ thread, pending thread = none) : commits.Perm (committedOf told answers) := by
  refine perm_of_threads fun thread => ?_
  rw [order thread, rest, of_thread_committed]
  exact List.append_nil _

end SadLayer.Library
