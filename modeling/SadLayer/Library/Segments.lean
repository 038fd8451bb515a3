import Mathlib.Algebra.Order.Ring.Nat
import Mathlib.Data.List.Induction

/-! Paths as segments between separators: joining them, resolving the dotted ones
against a stack, and what an encoding of the letters does to both. -/
namespace SadLayer.Library

variable {α β : Type} [DecidableEq α] [DecidableEq β] {dot : α} {separator letter : α}
  {separates : α → Bool} {stack after : List (List α)} {segment rest : List α}

/-! ### Joining -/

/-- Segments with a separator between any two. -/
def joinSegments (separator : α) (segments : List (List α)) : List α :=
  [separator].intercalate segments

omit [DecidableEq α] in
theorem join_nil (separator : α) : joinSegments separator [] = [] := rfl

omit [DecidableEq α] in
theorem join_concat (separator : α) (stack : List (List α)) (segment : List α) :
    joinSegments separator (stack ++ [segment]) =
      if stack = [] then segment else joinSegments separator stack ++ separator :: segment := by
  unfold joinSegments
  induction stack with
  | nil => simp [List.intercalate_singleton]
  | cons first others ih =>
    rw [if_neg (List.cons_ne_nil _ _)]
    cases others with
    | nil => simp [List.intercalate_cons_cons, List.intercalate_singleton]
    | cons second more =>
      rw [if_neg (List.cons_ne_nil _ _)] at ih
      rw [List.cons_append, List.cons_append, List.intercalate_cons_cons, ← List.cons_append, ih,
        List.intercalate_cons_cons]
      simp only [List.append_assoc]

omit [DecidableEq α] in
/-- A join is made of separators and of the letters of its segments. -/
theorem mem_join (member : letter ∈ joinSegments separator stack) :
    letter = separator ∨ ∃ segment ∈ stack, letter ∈ segment := by
  induction stack with
  | nil => contradiction
  | cons first others ih =>
    unfold joinSegments at member ih
    cases others with
    | nil =>
      rw [List.intercalate_singleton] at member
      exact .inr ⟨first, List.mem_cons_self, member⟩
    | cons second more =>
      rw [List.intercalate_cons_cons, List.append_assoc, List.mem_append] at member
      rcases member with here | later
      · exact .inr ⟨first, List.mem_cons_self, here⟩
      · rcases List.mem_append.mp later with between | later
        · exact .inl (List.mem_singleton.mp between)
        · rcases ih later with same | ⟨segment, among, inside⟩
          · exact .inl same
          · exact .inr ⟨segment, List.mem_cons_of_mem _ among, inside⟩

/-! ### Splitting -/

omit [DecidableEq α] in
/-- Letters that separate nothing join the first segment of what follows. -/
theorem split_append (plain : ∀ letter ∈ segment, separates letter = false) (rest : List α) :
    (segment ++ rest).splitOnP separates =
      (rest.splitOnP separates).modifyHead (segment ++ ·) := by
  induction segment with
  | nil =>
    rw [List.nil_append]
    cases rest.splitOnP separates <;> rfl
  | cons letter others ih =>
    have here := plain letter List.mem_cons_self
    rw [List.cons_append, List.splitOnP_cons_eq_if_modifyHead, here,
      ih fun other member => plain other (List.mem_cons_of_mem _ member)]
    cases rest.splitOnP separates <;> rfl

omit [DecidableEq α] in
theorem mem_segment_of_split {letters : List α} (member : segment ∈ letters.splitOnP separates) :
    ∀ letter ∈ segment, separates letter = false ∧ letter ∈ letters := by
  induction letters generalizing segment with
  | nil =>
    rw [List.splitOnP_nil, List.mem_singleton] at member
    intro letter inside
    rw [member] at inside
    contradiction
  | cons first others ih =>
    intro letter inside
    rw [List.splitOnP_cons_eq_if_modifyHead] at member
    split at member
    · rcases List.mem_cons.mp member with rfl | later
      · contradiction
      · obtain ⟨plain, among⟩ := ih later letter inside
        exact ⟨plain, List.mem_cons_of_mem _ among⟩
    · rename_i plain
      obtain ⟨head, tail, split⟩ :=
        List.exists_cons_of_ne_nil (List.splitOnP_ne_nil separates others)
      rw [split, List.modifyHead_cons] at member
      rcases List.mem_cons.mp member with rfl | later
      · rcases List.mem_cons.mp inside with rfl | among
        · exact ⟨by simpa using plain, List.mem_cons_self⟩
        · obtain ⟨plain, among⟩ := ih (split ▸ List.mem_cons_self) letter among
          exact ⟨plain, List.mem_cons_of_mem _ among⟩
      · obtain ⟨plain, among⟩ := ih (split ▸ List.mem_cons_of_mem _ later) letter inside
        exact ⟨plain, List.mem_cons_of_mem _ among⟩

omit [DecidableEq α] in
/-- A letter that separates nothing is in a segment. -/
theorem exists_segment_of_mem {letters : List α} (plain : separates letter = false)
    (member : letter ∈ letters) : ∃ segment ∈ letters.splitOnP separates, letter ∈ segment := by
  induction letters with
  | nil => contradiction
  | cons first others ih =>
    rw [List.splitOnP_cons_eq_if_modifyHead]
    obtain ⟨head, tail, split⟩ :=
      List.exists_cons_of_ne_nil (List.splitOnP_ne_nil separates others)
    rcases List.mem_cons.mp member with rfl | later
    · rw [if_neg (by simp [plain]), split, List.modifyHead_cons]
      exact ⟨letter :: head, List.mem_cons_self, List.mem_cons_self⟩
    · obtain ⟨segment, among, inside⟩ := ih later
      split
      · exact ⟨segment, List.mem_cons_of_mem _ among, inside⟩
      · rw [split] at among ⊢
        rcases List.mem_cons.mp among with rfl | tail
        · exact ⟨first :: segment, List.mem_cons_self, List.mem_cons_of_mem _ inside⟩
        · exact ⟨segment, List.mem_cons_of_mem _ tail, inside⟩

omit [DecidableEq α] in
theorem split_concat (front : List α) (separating : separates separator = true) :
    (front ++ [separator]).splitOnP separates = front.splitOnP separates ++ [[]] := by
  rw [List.splitOnP_append_cons front [] separating, List.splitOnP_nil]

omit [DecidableEq α] in
/-- Letters up to and with their last separator, and the segment after it. -/
theorem split_last (separates : α → Bool) (letters : List α) :
    ∃ before leaf segments, letters = before ++ leaf ∧
      (∀ letter ∈ leaf, separates letter = false) ∧
      (before = [] ∨ ∃ front separator, before = front ++ [separator] ∧
        separates separator = true) ∧
      letters.splitOnP separates = segments ++ [leaf] ∧
      before.splitOnP separates = segments ++ [[]] := by
  induction letters using List.reverseRecOn with
  | nil => exact ⟨[], [], [], rfl, by simp, .inl rfl, rfl, rfl⟩
  | append_singleton letters letter ih =>
    cases kind : separates letter with
    | true =>
      exact ⟨letters ++ [letter], [], letters.splitOnP separates, by simp, by simp,
        .inr ⟨letters, letter, rfl, kind⟩, split_concat letters kind, split_concat letters kind⟩
    | false =>
      obtain ⟨before, leaf, segments, split, plain, ends, here, there⟩ := ih
      have longer : ∀ other ∈ leaf ++ [letter], separates other = false := by
        intro other member
        rcases List.mem_append.mp member with inside | last
        · exact plain other inside
        · exact List.mem_singleton.mp last ▸ kind
      refine ⟨before, leaf ++ [letter], segments, by rw [split, List.append_assoc], longer, ends, ?_,
        there⟩
      rcases ends with rfl | ⟨front, separator, rfl, separating⟩
      · have none' : segments = [] := by
          rw [List.splitOnP_nil] at there
          exact (List.append_eq_singleton_iff.mp there.symm).elim And.left fun other =>
            absurd other.2 (List.cons_ne_nil _ _)
        rw [split, none', List.nil_append, List.nil_append, List.splitOnP_eq_singleton longer]
      · have cut : front.splitOnP separates = segments :=
          List.append_cancel_right ((split_concat front separating).symm.trans there)
        rw [split, List.append_assoc, List.append_assoc, List.singleton_append,
          List.splitOnP_append_cons front _ separating, cut, List.splitOnP_eq_singleton longer]

omit [DecidableEq α] in
/-- Splitting undoes joining. -/
theorem split_join (separating : separates separator = true) (filled : stack ≠ [])
    (plain : ∀ segment ∈ stack, ∀ letter ∈ segment, separates letter = false) :
    (joinSegments separator stack).splitOnP separates = stack := by
  unfold joinSegments
  induction stack with
  | nil => contradiction
  | cons first others ih =>
    have here := plain first List.mem_cons_self
    cases others with
    | nil => rw [List.intercalate_singleton, List.splitOnP_eq_singleton here]
    | cons second more =>
      rw [List.intercalate_cons_cons, List.append_assoc, List.singleton_append,
        List.splitOnP_append_cons_of_forall_mem here separator separating,
        ih (List.cons_ne_nil _ _) fun other member => plain other (List.mem_cons_of_mem _ member)]

/-! ### Resolving -/

/-- Puts a segment on a stack: an empty one and a dot change nothing, two dots take the last one
off, if there is one. -/
def resolveSegment (dot : α) (stack : List (List α)) (segment : List α) : Option (List (List α)) :=
  if segment = [] ∨ segment = [dot] then some stack
  else if segment = [dot, dot] then if stack = [] then none else some stack.dropLast
  else some (stack ++ [segment])

def resolveSegments (dot : α) (stack segments : List (List α)) : Option (List (List α)) :=
  segments.foldlM (resolveSegment dot) stack

theorem resolve_cons (dot : α) (stack : List (List α)) (segment : List α)
    (segments : List (List α)) : resolveSegments dot stack (segment :: segments) =
      (resolveSegment dot stack segment).bind fun next => resolveSegments dot next segments := by
  rfl

theorem resolve_empty (dot : α) (stack segments : List (List α)) :
    resolveSegments dot stack ([] :: segments) = resolveSegments dot stack segments := by
  rw [resolve_cons, resolveSegment, if_pos (.inl rfl), Option.bind_some]

/-- An empty segment at the end changes nothing. -/
theorem resolve_concat_empty (dot : α) (stack segments : List (List α)) :
    resolveSegments dot stack (segments ++ [[]]) = resolveSegments dot stack segments := by
  induction segments generalizing stack with
  | nil => exact resolve_empty dot stack []
  | cons segment others ih =>
    rw [List.cons_append, resolve_cons, resolve_cons]
    cases resolveSegment dot stack segment with
    | none => rfl
    | some next => exact ih next

/-- Resolving fails just where two dots meet an empty stack. -/
theorem resolve_eq_none {segments : List (List α)} :
    resolveSegments dot stack segments = none ↔
      ∃ before after, segments = before ++ [dot, dot] :: after ∧
        resolveSegments dot stack before = some [] := by
  induction segments generalizing stack with
  | nil =>
    constructor
    · intro failed
      contradiction
    · rintro ⟨before, after, split, -⟩
      simp at split
  | cons segment others ih =>
    rw [resolve_cons]
    cases here : resolveSegment dot stack segment with
    | none =>
      constructor
      · intro failed
        unfold resolveSegment at here
        split at here
        · contradiction
        split at here
        · split at here
          · rename_i dots bottom
            exact ⟨[], others, by rw [dots, List.nil_append], by rw [bottom]; rfl⟩
          · contradiction
        · contradiction
      · intro found
        rfl
    | some next =>
      rw [Option.bind_some, ih]
      constructor
      · rintro ⟨before, after, rfl, bottom⟩
        exact ⟨segment :: before, after, rfl, by rw [resolve_cons, here]; exact bottom⟩
      · rintro ⟨before, after, split, bottom⟩
        cases before with
        | nil =>
          have same := (List.cons.inj split).1
          have empty : stack = [] := Option.some.inj bottom
          rw [same, empty, resolveSegment] at here
          simp at here
        | cons first front =>
          obtain ⟨same, rest⟩ := List.cons.inj split
          rw [← same, resolve_cons, here] at bottom
          exact ⟨front, after, rest, bottom⟩

/-- A stack holds plain names: not empty, not dotted, without a separator. -/
def PlainNames (dot : α) (separates : α → Bool) (stack : List (List α)) : Prop :=
  ∀ segment ∈ stack, segment ≠ [] ∧ segment ≠ [dot] ∧ segment ≠ [dot, dot] ∧
    ∀ letter ∈ segment, separates letter = false

theorem resolve_segment_plain (plain : PlainNames dot separates stack)
    (unseparated : ∀ letter ∈ segment, separates letter = false)
    (resolved : resolveSegment dot stack segment = some after) :
    PlainNames dot separates after := by
  unfold resolveSegment at resolved
  split at resolved
  · exact Option.some.inj resolved ▸ plain
  rename_i proper
  split at resolved
  · split at resolved
    · contradiction
    · rw [← Option.some.inj resolved]
      exact fun other member => plain other ((List.dropLast_sublist _).subset member)
  · rename_i undotted
    rw [← Option.some.inj resolved]
    intro other member
    rcases List.mem_append.mp member with earlier | last
    · exact plain other earlier
    · rw [List.mem_singleton.mp last]
      exact ⟨fun empty => proper (.inl empty), fun single => proper (.inr single), undotted,
        unseparated⟩

theorem resolve_segments_plain {segments : List (List α)} (plain : PlainNames dot separates stack)
    (unseparated : ∀ segment ∈ segments, ∀ letter ∈ segment, separates letter = false)
    (resolved : resolveSegments dot stack segments = some after) :
    PlainNames dot separates after := by
  induction segments generalizing stack with
  | nil => exact Option.some.inj resolved ▸ plain
  | cons segment others ih =>
    rw [resolve_cons] at resolved
    obtain ⟨next, here, later⟩ := Option.bind_eq_some_iff.mp resolved
    exact ih (resolve_segment_plain plain (unseparated segment List.mem_cons_self) here)
      (fun other member => unseparated other (List.mem_cons_of_mem _ member)) later

/-- Names on the resolved stack are among the segments. -/
theorem mem_resolved {segments : List (List α)}
    (resolved : resolveSegments dot stack segments = some after) :
    ∀ segment ∈ after, segment ∈ stack ∨ segment ∈ segments := by
  induction segments generalizing stack with
  | nil => exact Option.some.inj resolved ▸ fun segment member => .inl member
  | cons first others ih =>
    rw [resolve_cons] at resolved
    obtain ⟨next, here, later⟩ := Option.bind_eq_some_iff.mp resolved
    intro segment member
    rcases ih later segment member with earlier | among
    · unfold resolveSegment at here
      split at here
      · exact .inl (Option.some.inj here ▸ earlier)
      split at here
      · split at here
        · contradiction
        · rw [← Option.some.inj here] at earlier
          exact .inl ((List.dropLast_sublist _).subset earlier)
      · rw [← Option.some.inj here] at earlier
        rcases List.mem_append.mp earlier with old | new
        · exact .inl old
        · exact .inr (List.mem_singleton.mp new ▸ List.mem_cons_self)
    · exact .inr (List.mem_cons_of_mem _ among)

/-! ### Encodings -/

/-- An encoding that keeps separators: they and nothing else become single separating letters. -/
structure KeepsSeparators (encode : α → List β) (separates : α → Bool) (separates' : β → Bool) :
    Prop where
  separator : ∀ letter, separates letter = true →
    ∃ encoded, encode letter = [encoded] ∧ separates' encoded = true
  plain : ∀ letter, separates letter = false →
    ∀ encoded ∈ encode letter, separates' encoded = false

omit [DecidableEq α] [DecidableEq β] in
/-- Splitting an encoding is encoding the segments. -/
theorem split_encode {encode : α → List β} {separates' : β → Bool}
    (keeps : KeepsSeparators encode separates separates') (letters : List α) :
    (letters.flatMap encode).splitOnP separates' =
      (letters.splitOnP separates).map (·.flatMap encode) := by
  induction letters with
  | nil => simp [List.splitOnP_nil]
  | cons letter others ih =>
    rw [List.flatMap_cons, List.splitOnP_cons_eq_if_modifyHead]
    cases kind : separates letter with
    | true =>
      obtain ⟨encoded, same, separating⟩ := keeps.separator letter kind
      rw [same, List.singleton_append, List.splitOnP_cons_eq_if_modifyHead, if_pos separating, ih,
        if_pos rfl, List.map_cons, List.flatMap_nil]
    | false =>
      rw [split_append (keeps.plain letter kind), ih, if_neg (by simp)]
      obtain ⟨head, tail, split⟩ :=
        List.exists_cons_of_ne_nil (List.splitOnP_ne_nil separates others)
      rw [split, List.map_cons, List.modifyHead_cons, List.modifyHead_cons, List.map_cons,
        List.flatMap_cons]

/-- A way to write segments that tells empty and dotted ones from the rest. -/
structure KeepsDots (write : List α → List β) (dot : α) (dot' : β) : Prop where
  empty : ∀ segment, write segment = [] ↔ segment = []
  single : ∀ segment, write segment = [dot'] ↔ segment = [dot]
  double : ∀ segment, write segment = [dot', dot'] ↔ segment = [dot, dot]

theorem resolve_segments_map {write : List α → List β} {dot' : β}
    (keeps : KeepsDots write dot dot') (stack segments : List (List α)) :
    resolveSegments dot' (stack.map write) (segments.map write) =
      (resolveSegments dot stack segments).map (·.map write) := by
  induction segments generalizing stack with
  | nil => rfl
  | cons segment others ih =>
    rw [List.map_cons, resolve_cons, resolve_cons]
    have here : resolveSegment dot' (stack.map write) (write segment) =
        (resolveSegment dot stack segment).map (·.map write) := by
      unfold resolveSegment
      simp only [keeps.empty, keeps.single, keeps.double, List.map_eq_nil_iff]
      split
      · rfl
      split
      · split
        · rfl
        · rw [Option.map_some, List.map_dropLast]
      · rw [Option.map_some, List.map_append, List.map_singleton]
    rw [here]
    cases resolveSegment dot stack segment with
    | none => rfl
    | some next => exact ih next

omit [DecidableEq α] [DecidableEq β] in
/-- A join is encoded segment by segment. -/
theorem join_encode {encode : α → List β} {separator' : β}
    (same : encode separator = [separator']) (segments : List (List α)) :
    (joinSegments separator segments).flatMap encode =
      joinSegments separator' (segments.map (·.flatMap encode)) := by
  unfold joinSegments
  induction segments with
  | nil => rfl
  | cons first others ih =>
    cases others with
    | nil => rw [List.map_singleton, List.intercalate_singleton, List.intercalate_singleton]
    | cons second more =>
      rw [List.map_cons, List.map_cons, List.intercalate_cons_cons, List.intercalate_cons_cons,
        List.flatMap_append, List.flatMap_append, List.flatMap_singleton, same, ih, List.map_cons]

end SadLayer.Library
