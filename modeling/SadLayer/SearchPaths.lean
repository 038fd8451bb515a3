import Mathlib.Data.List.Induction
import Mathlib.Data.List.TakeWhile
import SadLayer.Library.Segments
import SadLayer.Search
import SadLayer.UnicodeFacts

/-! Search paths stay below the root. The buffer that `normalize_pattern` moves
back and forth in is a stack of names, and the path it ends with is the stack
that the components of the pattern resolve to. -/
namespace SadLayer.Search
open SadLayer.Library SadLayer.Unicode

variable {directory buffer remaining component : List UInt8} {output size : Nat}
  {stack front : List (List UInt8)}

def isSlash (byte : UInt8) : Bool := byte == slash

/-- The components of encoded bytes. -/
def components (bytes : List UInt8) : List (List UInt8) := bytes.splitOnP isSlash

def HasWildcard (bytes : List UInt8) : Prop := star ∈ bytes ∨ question ∈ bytes

instance (bytes : List UInt8) : Decidable (HasWildcard bytes) := by
  unfold HasWildcard
  infer_instance

theorem is_slash_slash : isSlash slash = true := rfl

theorem is_slash_iff {byte : UInt8} : isSlash byte = true ↔ byte = slash := beq_iff_eq

theorem plain_iff {bytes : List UInt8} :
    (∀ byte ∈ bytes, isSlash byte = false) ↔ slash ∉ bytes := by
  constructor
  · intro plain member
    exact absurd (plain slash member) (by decide)
  · intro plain byte member
    cases kind : isSlash byte with
    | false => rfl
    | true => exact absurd (is_slash_iff.mp kind ▸ member) plain

/-! ### The buffer -/

/-- The loop stops just after the last slash. -/
theorem back_to_slash_eq {before leaf : List UInt8} (rest : List UInt8) (plain : slash ∉ leaf)
    (ends : before = [] ∨ ∃ front, before = front ++ [slash]) :
    backToSlash (before ++ leaf ++ rest) (before.length + leaf.length) = before.length := by
  induction leaf using List.reverseRecOn generalizing rest with
  | nil =>
    rcases ends with rfl | ⟨front, rfl⟩
    · rfl
    · have last : (front ++ [slash] ++ [] ++ rest).getD front.length 0 = slash := by simp
      rw [List.length_append, List.length_singleton, List.length_nil, Nat.add_zero, backToSlash,
        last]
      exact if_neg (not_not.mpr rfl)
  | append_singleton leaf byte ih =>
    have last : (before ++ (leaf ++ [byte]) ++ rest).getD (before.length + leaf.length) 0 = byte := by
      rw [List.getD_eq_getElem?_getD, List.append_assoc, List.getElem?_append_right (by omega)]
      simp
    have other : byte ≠ slash := fun same => plain (by simp [same])
    rw [List.length_append, List.length_singleton, ← Nat.add_assoc, backToSlash, last, if_pos other,
      ← List.append_assoc, List.append_assoc (before ++ leaf)]
    exact ih ([byte] ++ rest) fun member => plain (List.mem_append_left _ member)

theorem write_bytes_ok {offset : Nat} {bytes : List UInt8}
    (room : offset + bytes.length ≤ buffer.length) :
    ∃ after, writeBytes buffer offset bytes = some after ∧ after.length = buffer.length ∧
      after.take (offset + bytes.length) = buffer.take offset ++ bytes := by
  refine ⟨_, if_neg (by omega), ?_, ?_⟩
  · simp only [List.length_append, List.length_take, List.length_drop]
    omega
  · have length : (buffer.take offset ++ bytes).length = offset + bytes.length := by
      rw [List.length_append, List.length_take, Nat.min_eq_left (by omega)]
    rw [← length]
    exact List.take_left

/-- A buffer of this size has a stack of names joined in the part in use. -/
structure Holds (size : Nat) (directory : List UInt8) (output : Nat)
    (stack : List (List UInt8)) : Prop where
  length : directory.length = size
  content : directory.take output = joinSegments slash stack
  inUse : output = (joinSegments slash stack).length
  plain : PlainNames dot isSlash stack

theorem Holds.empty_iff (holds : Holds size directory output stack) : output = 0 ↔ stack = [] := by
  rw [holds.inUse, List.length_eq_zero_iff]
  constructor
  · intro empty
    rcases List.eq_nil_or_concat stack with none' | ⟨front, last, rfl⟩
    · exact none'
    · have proper := (holds.plain last (by simp)).1
      rw [List.concat_eq_append, join_concat] at empty
      split at empty
      · exact absurd empty proper
      · simp at empty
  · rintro rfl
    rfl

/-- Two dots take the last name out of the part in use. -/
theorem Holds.pop {last : List UInt8} (holds : Holds size directory output (front ++ [last])) :
    Holds size directory (backToSlash directory output - 1) front := by
  have whole := List.take_append_drop output directory
  have plain : slash ∉ last := plain_iff.mp (holds.plain last (by simp)).2.2.2
  have content := holds.content
  have inUse := holds.inUse
  rw [join_concat] at content inUse
  have kept : PlainNames dot isSlash front :=
    fun segment member => holds.plain segment (List.mem_append_left _ member)
  by_cases bottom : front = []
  · rw [if_pos bottom] at content inUse
    have moved : backToSlash directory output = 0 := by
      have back := @back_to_slash_eq [] last (directory.drop output) plain (.inl rfl)
      rwa [List.nil_append, List.length_nil, Nat.zero_add, ← inUse, ← content, whole] at back
    rw [moved]
    subst bottom
    exact { length := holds.length, content := rfl, inUse := rfl, plain := kept }
  · rw [if_neg bottom] at content inUse
    have moved : backToSlash directory output = (joinSegments slash front ++ [slash]).length := by
      have back := @back_to_slash_eq (joinSegments slash front ++ [slash]) last
        (directory.drop output) plain (.inr ⟨_, rfl⟩)
      have same : joinSegments slash front ++ [slash] ++ last = directory.take output := by
        rw [content]
        simp
      rw [same, whole, show (joinSegments slash front ++ [slash]).length + last.length = output by
        rw [inUse]; simp; omega] at back
      exact back
    rw [moved, List.length_append, List.length_singleton, Nat.add_sub_cancel]
    refine { length := holds.length, content := ?_, inUse := rfl, plain := kept }
    have short : (joinSegments slash front).length ≤ output := by
      rw [inUse]
      simp
    rw [← Nat.min_eq_left short, ← List.take_take, content, List.take_left]

theorem Holds.pop_le {last : List UInt8} (holds : Holds size directory output (front ++ [last])) :
    backToSlash directory output - 1 ≤ output := by
  rw [holds.pop.inUse, holds.inUse, join_concat]
  split
  · rename_i bottom
    rw [bottom, join_nil]
    exact Nat.zero_le _
  · simp

/-- A name enters the part in use, after a slash unless it is the first. -/
theorem Holds.push (holds : Holds size directory output stack) (proper : component ≠ [])
    (single : component ≠ [dot]) (double : component ≠ [dot, dot]) (plain : slash ∉ component)
    (room : (if output ≠ 0 then output + 1 else output) + component.length ≤ size) :
    ∃ between after,
      (if output ≠ 0 then writeBytes directory output [slash] else some directory) = some between ∧
      writeBytes between (if output ≠ 0 then output + 1 else output) component = some after ∧
      Holds size after ((if output ≠ 0 then output + 1 else output) + component.length)
        (stack ++ [component]) := by
  have kept : PlainNames dot isSlash (stack ++ [component]) := by
    intro segment member
    rcases List.mem_append.mp member with earlier | last
    · exact holds.plain segment earlier
    · rw [List.mem_singleton.mp last]
      exact ⟨proper, single, double, plain_iff.mpr plain⟩
  have length := holds.length
  have content := holds.content
  by_cases first : output = 0
  · have bottom : stack = [] := holds.empty_iff.mp first
    have start : (if output ≠ 0 then output + 1 else output) = output := if_neg (by simp [first])
    rw [start] at room ⊢
    obtain ⟨after, written, sameLength, taken⟩ := @write_bytes_ok directory output component (by omega)
    refine ⟨directory, after, if_neg (by simp [first]), written, ?_⟩
    subst bottom
    exact {
      length := by rw [sameLength, length]
      content := by rw [taken, content, join_concat, if_pos rfl]; rfl
      inUse := by rw [join_concat, if_pos rfl, first, Nat.zero_add]
      plain := kept }
  · have filled : stack ≠ [] := fun none' => first (holds.empty_iff.mpr none')
    have start : (if output ≠ 0 then output + 1 else output) = output + 1 := if_pos first
    rw [start] at room ⊢
    obtain ⟨between, separated, betweenLength, betweenTaken⟩ :=
      @write_bytes_ok directory output [slash] (by rw [List.length_singleton]; omega)
    obtain ⟨after, written, sameLength, taken⟩ :=
      @write_bytes_ok between (output + 1) component (by omega)
    rw [List.length_singleton] at betweenTaken
    refine ⟨between, after, (if_pos first).trans separated, written, {
      length := by rw [sameLength, betweenLength, length]
      content := ?_
      inUse := ?_
      plain := kept }⟩
    · rw [taken, betweenTaken, content, join_concat, if_neg filled]
      simp
    · rw [join_concat, if_neg filled, List.length_append, List.length_cons, ← holds.inUse]
      omega

/-! ### The components -/

/-- What the loop reads next: slashes, then a component without one, then nothing or a slash. -/
theorem next_component (remaining : List UInt8) :
    ∃ slashes component, (∀ byte ∈ slashes, byte = slash) ∧ slash ∉ component ∧
      (remaining.dropWhile (· == slash)).takeWhile (· != slash) = component ∧
      remaining = slashes ++ component ++ afterComponent remaining ∧
      (afterComponent remaining = [] ∨ ∃ rest, afterComponent remaining = slash :: rest) := by
  refine ⟨remaining.takeWhile (· == slash), _, ?_, ?_, rfl, ?_, ?_⟩
  · intro byte member
    have kept := List.mem_takeWhile_imp member
    exact beq_iff_eq.mp kept
  · intro member
    have kept := List.mem_takeWhile_imp member
    exact bne_iff_ne.mp kept rfl
  · rw [List.append_assoc, afterComponent, List.takeWhile_append_dropWhile,
      List.takeWhile_append_dropWhile]
  · cases left : afterComponent remaining with
    | nil => exact .inl rfl
    | cons byte rest =>
      have stopped := List.head?_dropWhile_not (· != slash) (remaining.dropWhile (· == slash))
      unfold afterComponent at left
      rw [left, List.head?_cons] at stopped
      exact .inr ⟨rest, by rw [bne_eq_false_iff_eq.mp stopped]⟩

/-- Leading slashes resolve to nothing. -/
theorem resolve_slashes {slashes : List UInt8} (all : ∀ byte ∈ slashes, byte = slash)
    (rest : List UInt8) (stack : List (List UInt8)) :
    resolveSegments dot stack (components (slashes ++ rest)) =
      resolveSegments dot stack (components rest) := by
  induction slashes with
  | nil => rfl
  | cons byte others ih =>
    rw [components, List.cons_append, List.splitOnP_cons_eq_if_modifyHead,
      all byte List.mem_cons_self, if_pos is_slash_slash, resolve_empty]
    exact ih fun other member => all other (List.mem_cons_of_mem _ member)

/-- The components of what is left are its first one and those after it. -/
theorem resolve_component {after : List UInt8} (plain : slash ∉ component)
    (ends : after = [] ∨ ∃ rest, after = slash :: rest) (stack : List (List UInt8)) :
    resolveSegments dot stack (components (component ++ after)) =
      (resolveSegment dot stack component).bind fun next =>
        resolveSegments dot next (components after) := by
  rcases ends with rfl | ⟨rest, rfl⟩
  · rw [List.append_nil, components, List.splitOnP_eq_singleton (plain_iff.mpr plain), components,
      List.splitOnP_nil, resolve_cons]
    simp only [resolve_empty]
  · rw [components, List.splitOnP_append_cons_of_forall_mem (plain_iff.mpr plain) slash
      is_slash_slash, components, List.splitOnP_cons_eq_if_modifyHead, if_pos is_slash_slash,
      resolve_cons]
    simp only [resolve_empty]

/-- What the loop may come to from a stack: an invalid path for a wildcard or a parent that is not
there, or the stack that the components resolve to, joined in the buffer. -/
inductive Resolution (size : Nat) (stack : List (List UInt8)) (remaining : List UInt8) :
    Option (SearchResult × List UInt8 × Nat) → Prop where
  | invalid (directory : List UInt8) (output : Nat)
      (bad : HasWildcard remaining ∨ resolveSegments dot stack (components remaining) = none) :
      Resolution size stack remaining (some (.invalidPath, directory, output))
  | done {directory : List UInt8} {output : Nat} {after : List (List UInt8)}
      (resolved : resolveSegments dot stack (components remaining) = some after)
      (tame : ¬ HasWildcard remaining) (holds : Holds size directory output after)
      (room : output < size) : Resolution size stack remaining (some (.ok, directory, output))

/-- A component without wildcards goes before what is left. -/
theorem Resolution.before {slashes after : List UInt8} {next : List (List UInt8)}
    {answer : Option (SearchResult × List UInt8 × Nat)}
    (all : ∀ byte ∈ slashes, byte = slash) (plain : slash ∉ component)
    (ends : after = [] ∨ ∃ rest, after = slash :: rest) (tame : ¬ HasWildcard component)
    (here : resolveSegment dot stack component = some next)
    (later : Resolution size next after answer) :
    Resolution size stack (slashes ++ component ++ after) answer := by
  have resolved : resolveSegments dot stack (components (slashes ++ component ++ after)) =
      resolveSegments dot next (components after) := by
    rw [List.append_assoc, resolve_slashes all, resolve_component plain ends, here,
      Option.bind_some]
  have wild : HasWildcard (slashes ++ component ++ after) ↔ HasWildcard after := by
    have noStar : star ∉ slashes := fun member => absurd (all star member) (by decide)
    have noQuestion : question ∉ slashes := fun member => absurd (all question member) (by decide)
    unfold HasWildcard at tame ⊢
    simp only [List.mem_append, noStar, noQuestion, false_or]
    tauto
  cases later with
  | invalid directory output bad =>
    refine .invalid directory output ?_
    rwa [resolved, wild]
  | done resolvedAfter tameAfter holds room =>
    exact .done (resolved.trans resolvedAfter) (wild.not.mpr tameAfter) holds room

/-- The slash before a component takes no more room than the slashes that were read for it. -/
theorem Holds.gap {slashes after : List UInt8} (holds : Holds size directory output stack)
    (between : stack ≠ [] → slashes ++ component ++ after = [] ∨
      ∃ rest, slashes ++ component ++ after = slash :: rest)
    (proper : component ≠ []) (plain : slash ∉ component) :
    (if output ≠ 0 then output + 1 else output) ≤ output + slashes.length := by
  split
  · rename_i used
    have filled : stack ≠ [] := fun none' => used (holds.empty_iff.mpr none')
    have separated : slashes ≠ [] := by
      rintro rfl
      obtain ⟨first, others, rfl⟩ := List.exists_cons_of_ne_nil proper
      rcases between filled with empty | ⟨rest, starts⟩
      · simp at empty
      · simp only [List.nil_append, List.cons_append, List.cons.injEq] at starts
        exact plain (by simp [starts.1])
    have longer := List.length_pos_iff.mpr separated
    omega
  · omega

/-- The loop resolves the components that are left, and never writes outside its buffer. -/
theorem normalize_components_resolution (holds : Holds size directory output stack)
    (room : output + remaining.length < size)
    (between : stack ≠ [] → remaining = [] ∨ ∃ rest, remaining = slash :: rest) :
    Resolution size stack remaining (normalizeComponents remaining directory output) := by
  induction left : remaining.length using Nat.strong_induction_on
    generalizing remaining directory output stack with
  | _ left' ih =>
    cases remaining with
    | nil =>
      rw [normalizeComponents]
      have nothing : resolveSegments dot stack (components []) = some stack := by
        rw [components, List.splitOnP_nil, resolve_empty]
        rfl
      exact .done nothing (by simp [HasWildcard]) holds (by simpa using room)
    | cons byte rest =>
      have shorter := after_component_shorter byte rest
      obtain ⟨slashes, component, all, plain, read, split, ends⟩ := next_component (byte :: rest)
      rw [normalizeComponents]
      simp only [read]
      generalize afterComponent (byte :: rest) = after at *
      rw [split] at room between
      rw [split]
      simp only [List.length_append] at room
      have tail {directory : List UInt8} {output : Nat} {stack : List (List UInt8)}
          (holds : Holds size directory output stack) (room : output + after.length < size) :
          Resolution size stack after (normalizeComponents after directory output) :=
        ih _ (by omega) holds room (fun _ => ends) rfl
      by_cases skip : component.length = 0 ∨ componentIs component [dot] = true
      · rw [if_pos skip]
        have skipped : component = [] ∨ component = [dot] :=
          skip.imp List.length_eq_zero_iff.mp beq_iff_eq.mp
        have tame : ¬ HasWildcard component := by
          rcases skipped with rfl | rfl <;> decide
        exact (tail holds (by omega)).before all plain ends tame (if_pos skipped)
      rw [if_neg skip]
      have proper : ¬ (component = [] ∨ component = [dot]) := fun skipped =>
        skip (skipped.imp List.length_eq_zero_iff.mpr beq_iff_eq.mpr)
      by_cases parent : componentIs component [dot, dot] = true
      · rw [if_pos parent]
        have dots : component = [dot, dot] := beq_iff_eq.mp parent
        by_cases bottom : output = 0
        · rw [if_pos bottom]
          refine .invalid directory output (.inr ?_)
          rw [List.append_assoc, resolve_slashes all, resolve_component plain ends, resolveSegment,
            if_neg proper, if_pos dots, if_pos (holds.empty_iff.mp bottom), Option.bind_none]
        · rw [if_neg bottom]
          have filled : stack ≠ [] := fun none' => bottom (holds.empty_iff.mpr none')
          obtain ⟨front, last, rfl⟩ := (List.eq_nil_or_concat stack).resolve_left filled
          rw [List.concat_eq_append] at holds filled ⊢
          have lower := holds.pop_le
          have here : resolveSegment dot (front ++ [last]) component = some front := by
            rw [resolveSegment, if_neg proper, if_pos dots, if_neg filled, List.dropLast_concat]
          exact (tail holds.pop (by omega)).before all plain ends (by rw [dots]; decide) here
      · rw [if_neg parent]
        have undotted : component ≠ [dot, dot] := fun dots => parent (beq_iff_eq.mpr dots)
        by_cases wild : star ∈ component ∨ question ∈ component
        · rw [if_pos wild]
          refine .invalid directory output (.inl ?_)
          unfold HasWildcard
          simp only [List.mem_append]
          tauto
        · rw [if_neg wild]
          have gap := holds.gap between (fun empty => proper (.inl empty)) plain
          obtain ⟨middle, final, separated, written, pushed⟩ := holds.push
            (fun empty => proper (.inl empty)) (fun single => proper (.inr single)) undotted plain
            (by omega)
          simp only [separated, written]
          have here : resolveSegment dot stack component = some (stack ++ [component]) := by
            rw [resolveSegment, if_neg proper, if_neg undotted]
          exact (tail pushed (by omega)).before all plain ends wild here

/-! ### Characters -/

/-- The separators of a Windows path. -/
def isSeparator (char : Char) : Bool := char == '/' || char == '\\'

/-- The components of a path, the leaf last. -/
def pathSegments (chars : List Char) : List (List Char) := chars.splitOnP isSeparator

/-- The bytes of a character once backslashes are slashes. -/
def slashBytes (char : Char) : List UInt8 :=
  if char = '\\' then [slash] else String.utf8EncodeChar char

theorem replace_separators_eq (bytes : List UInt8) : replaceSeparators bytes =
    if colon ∈ bytes then none
    else some (bytes.map fun byte => if byte = backslash then slash else byte) := by
  induction bytes with
  | nil => rfl
  | cons byte rest ih =>
    rw [replaceSeparators, ih]
    by_cases back : byte = backslash
    · subst back
      have other : ¬ colon = backslash := by decide
      by_cases inside : colon ∈ rest <;> simp [inside, other]
    · by_cases here : byte = colon
      · subst here
        rw [if_neg back, if_pos rfl, if_pos List.mem_cons_self]
      · have other : ¬ colon = byte := Ne.symm here
        by_cases inside : colon ∈ rest <;> simp [inside, other, here, back]

theorem map_slash_bytes (char : Char) :
    (String.utf8EncodeChar char).map (fun byte => if byte = backslash then slash else byte) =
      slashBytes char := by
  unfold slashBytes
  by_cases back : char = '\\'
  · rw [if_pos back, back]
    decide
  · rw [if_neg back]
    refine (List.map_congr_left fun byte member => ?_).trans (List.map_id _)
    refine if_neg fun same => back ?_
    have inside : UInt8.ofNat '\\'.toNat ∈ encodeUtf8 [char] := by
      have back : byte = UInt8.ofNat '\\'.toNat := same
      rw [encodeUtf8, List.flatMap_singleton, ← back]
      exact member
    exact (List.mem_singleton.mp ((ascii_mem_utf8 (by decide)).mp inside)).symm

/-- The replaced buffer is the text with its backslashes turned. -/
theorem replace_separators_text {chars : List Char} (noColon : ':' ∉ chars) :
    replaceSeparators (encodeUtf8 chars) = some (chars.flatMap slashBytes) := by
  have absent : colon ∉ encodeUtf8 chars := (ascii_mem_utf8 (by decide)).not.mpr noColon
  rw [replace_separators_eq, if_neg absent, encodeUtf8, List.map_flatMap]
  simp only [map_slash_bytes]

theorem keeps_slashes : KeepsSeparators slashBytes isSeparator isSlash where
  separator := by
    intro char separates
    unfold isSeparator at separates
    simp only [Bool.or_eq_true, beq_iff_eq] at separates
    rcases separates with rfl | rfl
    · exact ⟨slash, by decide, rfl⟩
    · exact ⟨slash, by decide, rfl⟩
  plain := by
    intro char plain byte member
    have other : char ≠ '/' ∧ char ≠ '\\' := by simpa [isSeparator] using plain
    unfold slashBytes at member
    rw [if_neg other.2] at member
    cases kind : isSlash byte with
    | false => rfl
    | true =>
      have inside : UInt8.ofNat '/'.toNat ∈ encodeUtf8 [char] := by
        have forward : byte = UInt8.ofNat '/'.toNat := is_slash_iff.mp kind
        rw [encodeUtf8, List.flatMap_singleton, ← forward]
        exact member
      have same := List.mem_singleton.mp ((ascii_mem_utf8 (by decide)).mp inside)
      exact absurd same.symm other.1

/-- A component without separators is encoded as it is. -/
theorem slash_bytes_plain {segment : List Char}
    (plain : ∀ char ∈ segment, isSeparator char = false) :
    segment.flatMap slashBytes = encodeUtf8 segment := by
  unfold encodeUtf8
  refine List.flatMap_congr fun char member => if_neg ?_
  rintro rfl
  exact absurd (plain _ member) (by decide)

theorem components_slash_bytes (chars : List Char) :
    components (chars.flatMap slashBytes) = (pathSegments chars).map encodeUtf8 := by
  rw [components, split_encode keeps_slashes]
  refine List.map_congr_left fun segment member => slash_bytes_plain fun char inside => ?_
  exact (mem_segment_of_split member char inside).1

theorem keeps_dots : KeepsDots encodeUtf8 '.' dot where
  empty segment := by
    constructor
    · intro same
      exact @Decodes.injective _ _ _ decodes_utf8 segment [] same
    · rintro rfl
      rfl
  single segment := by
    constructor
    · intro same
      exact @Decodes.injective _ _ _ decodes_utf8 segment ['.'] same
    · rintro rfl
      rfl
  double segment := by
    constructor
    · intro same
      exact @Decodes.injective _ _ _ decodes_utf8 segment ['.', '.'] same
    · rintro rfl
      rfl

/-! ### Whole patterns -/

/-- A non-empty well-formed UTF-16 pattern, in an array no larger than an object can be. -/
structure PathPattern where
  chars : List Char
  nonempty : chars ≠ []
  inMemory : 2 * (encodeUtf16 chars).length < 2 ^ 63

def PathPattern.units (pattern : PathPattern) : List UInt16 := encodeUtf16 pattern.chars

/-- The components of the directory a path leads to. -/
def directorySegments (chars : List Char) : List (List Char) := (pathSegments chars).dropLast

def leafSegment (chars : List Char) : List Char := (pathSegments chars).getLastD []

/-- The paths that are not searched. -/
inductive Rejected (chars : List Char) : Prop where
  | nul (member : '\x00' ∈ chars)
  | colon (member : ':' ∈ chars)
  | absolute (char : Char) (first : chars.head? = some char) (separates : isSeparator char = true)
  | trailing (char : Char) (last : chars.getLast? = some char) (separates : isSeparator char = true)
  | dotLeaf (dots : leafSegment chars = ['.'] ∨ leafSegment chars = ['.', '.'])
  | wildcard (segment : List Char) (member : segment ∈ directorySegments chars)
      (wild : '*' ∈ segment ∨ '?' ∈ segment)
  | escape (before after : List (List Char))
      (split : directorySegments chars = before ++ ['.', '.'] :: after)
      (bottom : resolveSegments '.' [] before = some [])

/-- A relative path that names a directory below the root. -/
structure SafePath (path : List Char) : Prop where
  components : path = [] ∨ ∀ name ∈ path.splitOnP isSeparator,
    name ≠ [] ∧ name ≠ ['.'] ∧ name ≠ ['.', '.']
  letters : ':' ∉ path ∧ '*' ∉ path ∧ '?' ∉ path
  leading : ∀ char, path.head? = some char → isSeparator char = false
  trailing : ∀ char, path.getLast? = some char → isSeparator char = false

theorem slash_bytes_ne_nil (char : Char) : slashBytes char ≠ [] := by
  unfold slashBytes
  split
  · simp
  · exact utf8_ne_nil char

theorem slash_bytes_head (chars : List Char) :
    (chars.flatMap slashBytes).head? = some slash ↔
      ∃ char, chars.head? = some char ∧ isSeparator char = true := by
  cases chars with
  | nil => simp
  | cons char rest =>
    rw [List.flatMap_cons, List.head?_cons]
    cases kind : isSeparator char with
    | true =>
      obtain ⟨byte, same, separates⟩ := keeps_slashes.separator char kind
      rw [same, is_slash_iff.mp separates]
      simp [kind]
    | false =>
      obtain ⟨byte, more, split⟩ := List.exists_cons_of_ne_nil (slash_bytes_ne_nil char)
      have other := keeps_slashes.plain char kind byte (by rw [split]; exact List.mem_cons_self)
      rw [split, List.cons_append, List.head?_cons]
      constructor
      · intro same
        rw [Option.some.inj same] at other
        contradiction
      · rintro ⟨first, same, separates⟩
        rw [← Option.some.inj same, kind] at separates
        contradiction

theorem slash_bytes_last (chars : List Char) :
    (chars.flatMap slashBytes).getLast? = some slash ↔
      ∃ char, chars.getLast? = some char ∧ isSeparator char = true := by
  rcases List.eq_nil_or_concat chars with rfl | ⟨front, char, rfl⟩
  · simp
  · rw [List.concat_eq_append, List.flatMap_append, List.flatMap_singleton]
    cases kind : isSeparator char with
    | true =>
      obtain ⟨byte, same, separates⟩ := keeps_slashes.separator char kind
      rw [same, is_slash_iff.mp separates]
      simp [kind]
    | false =>
      obtain ⟨bytes, byte, split⟩ :=
        (List.eq_nil_or_concat (slashBytes char)).resolve_left (slash_bytes_ne_nil char)
      rw [List.concat_eq_append] at split
      have other := keeps_slashes.plain char kind byte (by rw [split]; simp)
      rw [split, ← List.append_assoc, List.getLast?_concat, List.getLast?_concat]
      constructor
      · intro same
        rw [Option.some.inj same] at other
        contradiction
      · rintro ⟨last, same, separates⟩
        rw [← Option.some.inj same, kind] at separates
        contradiction

/-- The join of plain names is a safe path. -/
theorem safe_path_of_stack {names : List (List Char)} (plain : PlainNames '.' isSeparator names)
    (letters : ∀ name ∈ names, ':' ∉ name ∧ '*' ∉ name ∧ '?' ∉ name) :
    SafePath (joinSegments '/' names) := by
  have unseparated : ∀ name ∈ names, ∀ char ∈ name, isSeparator char = false :=
    fun name member => (plain name member).2.2.2
  have proper : joinSegments '/' names = [] ∨
      ∀ name ∈ (joinSegments '/' names).splitOnP isSeparator,
        name ≠ [] ∧ name ≠ ['.'] ∧ name ≠ ['.', '.'] := by
    by_cases none' : names = []
    · exact .inl (by rw [none', join_nil])
    · right
      rw [split_join rfl none' unseparated]
      exact fun name member =>
        ⟨(plain name member).1, (plain name member).2.1, (plain name member).2.2.1⟩
  have absent {char : Char} (other : char ≠ '/') (outside : ∀ name ∈ names, char ∉ name) :
      char ∉ joinSegments '/' names := by
    intro member
    rcases mem_join member with same | ⟨name, among, inside⟩
    · exact other same
    · exact outside name among inside
  refine {
    components := proper
    letters := ⟨absent (by decide) fun name member => (letters name member).1,
      absent (by decide) fun name member => (letters name member).2.1,
      absent (by decide) fun name member => (letters name member).2.2⟩
    leading := ?_
    trailing := ?_ }
  · intro char first
    obtain ⟨rest, split⟩ := List.head?_eq_some_iff.mp first
    cases kind : isSeparator char with
    | false => rfl
    | true =>
      rcases proper with empty | names
      · rw [split] at empty
        contradiction
      · rw [split, List.splitOnP_cons_eq_if_modifyHead, if_pos kind] at names
        exact absurd rfl (names [] List.mem_cons_self).1
  · intro char last
    obtain ⟨front, split⟩ := List.getLast?_eq_some_iff.mp last
    cases kind : isSeparator char with
    | false => rfl
    | true =>
      rcases proper with empty | names
      · rw [split] at empty
        simp at empty
      · rw [split, split_concat front kind] at names
        exact absurd rfl (names [] (by simp)).1

/-- The bytes of a C string up to its terminator. -/
def cText (buffer : List UInt8) : List UInt8 := buffer.takeWhile (· != 0)

/-- The separators of a path among its units. -/
def isSeparatorUnit (unit : UInt16) : Bool := unit == 0x2f || unit == 0x5c

/-- What a search goes on with: the directory that the components resolve to, and the units after
the last separator. -/
structure Accepted (chars : List Char) (normalized : Normalized) : Prop where
  result : normalized.result = .ok
  directory : ∃ names buffer, resolveSegments '.' [] (directorySegments chars) = some names ∧
    normalized.directory = some buffer ∧ cText buffer = encodeUtf8 (joinSegments '/' names) ∧
    SafePath (joinSegments '/' names)
  pattern : normalized.pattern =
    some (((encodeUtf16 chars).splitOnP isSeparatorUnit).getLastD [])
  patternLength : normalized.patternLength =
    (((encodeUtf16 chars).splitOnP isSeparatorUnit).getLastD []).length

theorem keeps_separator_units : KeepsSeparators utf16EncodeChar isSeparator isSeparatorUnit where
  separator := by
    intro char separates
    unfold isSeparator at separates
    simp only [Bool.or_eq_true, beq_iff_eq] at separates
    rcases separates with rfl | rfl
    · exact ⟨0x2f, by decide, by decide⟩
    · exact ⟨0x5c, by decide, by decide⟩
  plain := by
    intro char plain unit member
    have other : char ≠ '/' ∧ char ≠ '\\' := by simpa [isSeparator] using plain
    have absent {separator : Char} (ascii : separator.toNat < 0x80) (different : char ≠ separator) :
        unit ≠ UInt16.ofNat separator.toNat := by
      rintro rfl
      have inside : UInt16.ofNat separator.toNat ∈ encodeUtf16 [char] := by
        rw [encodeUtf16, List.flatMap_singleton]
        exact member
      exact different (List.mem_singleton.mp ((ascii_mem_utf16 ascii).mp inside)).symm
    unfold isSeparatorUnit
    rw [Bool.or_eq_false_iff]
    exact ⟨beq_false_of_ne (absent (by decide : '/'.toNat < 0x80) other.1),
      beq_false_of_ne (absent (by decide : '\\'.toNat < 0x80) other.2)⟩

/-- The units after the last separator are those of the leaf. -/
theorem leaf_units (chars : List Char) :
    ((encodeUtf16 chars).splitOnP isSeparatorUnit).getLastD [] =
      encodeUtf16 (leafSegment chars) := by
  rw [encodeUtf16, split_encode keeps_separator_units, leafSegment, pathSegments]
  rcases List.eq_nil_or_concat (chars.splitOnP isSeparator) with none' | ⟨front, last, split⟩
  · rw [none']
    rfl
  · rw [split, List.concat_eq_append, List.map_append, List.map_singleton]
    simp [encodeUtf16]

/-- The end of the normalization turns the leaf back into its units. -/
theorem normalize_leaf_text {leaf : List Char} (directory : List UInt8)
    (small : 2 * (encodeUtf16 leaf).length < 2 ^ 63) :
    normalizeLeaf (encodeUtf8 leaf) directory {} = {
      result := .ok
      directory := some directory
      pattern := some (encodeUtf16 leaf)
      patternLength := (encodeUtf16 leaf).length } := by
  have widest : uint64Max = 2 ^ 64 - 1 := rfl
  rw [normalizeLeaf, utf8_to_utf16_size leaf (by omega)]
  simp only [Option.getD_some, ne_eq, not_true_eq_false, if_false]
  rw [if_neg (by omega), if_neg (by decide), utf8_to_utf16_text leaf (by omega) (Nat.le_refl _)]
  simp

/-- The names that a directory buffer ends with, as text. -/
theorem resolution_text {chars : List Char} {after : List (List UInt8)}
    {segments : List (List Char)} (noNul : '\x00' ∉ chars)
    (among : ∀ segment ∈ segments, ∀ char ∈ segment, char ∈ chars)
    (resolved : resolveSegments dot [] (segments.map encodeUtf8) = some after) :
    ∃ names, resolveSegments '.' [] segments = some names ∧
      joinSegments slash after = encodeUtf8 (joinSegments '/' names) ∧
      0 ∉ joinSegments slash after := by
  have mapped := resolve_segments_map keeps_dots [] segments
  rw [List.map_nil, resolved] at mapped
  obtain ⟨names, textual, same⟩ := Option.map_eq_some_iff.mp mapped.symm
  have joined : joinSegments slash after = encodeUtf8 (joinSegments '/' names) := by
    rw [← same, encodeUtf8, join_encode (by decide : String.utf8EncodeChar '/' = [slash])]
    rfl
  refine ⟨names, textual, joined, ?_⟩
  rw [joined]
  refine (ascii_mem_utf8 (by decide : '\x00'.toNat < 0x80)).not.mpr fun member => ?_
  rcases mem_join member with separator | ⟨name, inNames, inside⟩
  · exact absurd separator (by decide)
  · rcases mem_resolved textual name inNames with nowhere | segment
    · contradiction
    · exact noNul (among name segment _ inside)

/-- What a normalization may come to: a rejected path, or an accepted one. -/
def Settled (chars : List Char) (outcome : Option Normalized) : Prop :=
  ∃ normalized, outcome = some normalized ∧
    ((Rejected chars ∧ normalized.result = .invalidPath) ∨
      (¬ Rejected chars ∧ Accepted chars normalized))

theorem settled_rejected {chars : List Char} (rejected : Rejected chars) :
    Settled chars (some { result := .invalidPath }) :=
  ⟨_, rfl, .inl ⟨rejected, rfl⟩⟩

/-- A path taken apart at its last separator. -/
structure LastSplit (chars before leaf : List Char) (segments : List (List Char)) : Prop where
  split : chars = before ++ leaf
  plain : ∀ char ∈ leaf, isSeparator char = false
  ends : before = [] ∨ ∃ front separator, before = front ++ [separator] ∧
    isSeparator separator = true
  cut : pathSegments chars = segments ++ [leaf]
  cutBefore : pathSegments before = segments ++ [[]]

section Split

variable {chars before leaf : List Char} {segments : List (List Char)}

theorem LastSplit.directory_segments (apart : LastSplit chars before leaf segments) :
    directorySegments chars = segments := by
  rw [directorySegments, apart.cut, List.dropLast_concat]

theorem LastSplit.leaf_segment (apart : LastSplit chars before leaf segments) :
    leafSegment chars = leaf := by
  rw [leafSegment, apart.cut]
  simp

theorem LastSplit.encoded (apart : LastSplit chars before leaf segments) :
    chars.flatMap slashBytes = before.flatMap slashBytes ++ encodeUtf8 leaf := by
  rw [apart.split, List.flatMap_append, slash_bytes_plain apart.plain]

/-- The leaf starts where the loop back from the end stops. -/
theorem LastSplit.leaf_start (apart : LastSplit chars before leaf segments) :
    backToSlash (chars.flatMap slashBytes) (chars.flatMap slashBytes).length =
      (before.flatMap slashBytes).length := by
  have plainLeaf : slash ∉ encodeUtf8 leaf := by
    refine (ascii_mem_utf8 (by decide : '/'.toNat < 0x80)).not.mpr fun member => ?_
    exact absurd (apart.plain _ member) (by decide)
  have endsBytes : before.flatMap slashBytes = [] ∨
      ∃ front, before.flatMap slashBytes = front ++ [slash] := by
    rcases apart.ends with rfl | ⟨front, separator, rfl, separates⟩
    · exact .inl rfl
    · obtain ⟨byte, same, slashes⟩ := keeps_slashes.separator separator separates
      refine .inr ⟨front.flatMap slashBytes, ?_⟩
      rw [List.flatMap_append, List.flatMap_singleton, same, is_slash_iff.mp slashes]
  have back := back_to_slash_eq [] plainLeaf endsBytes
  rwa [List.append_nil, ← apart.encoded, ← List.length_append, ← apart.encoded] at back

theorem LastSplit.in_segment (apart : LastSplit chars before leaf segments) {segment : List Char}
    (member : segment ∈ segments) {char : Char} (within : char ∈ segment) :
    isSeparator char = false ∧ char ∈ before := by
  refine mem_segment_of_split ?_ char within
  change segment ∈ pathSegments before
  rw [apart.cutBefore]
  exact List.mem_append_left _ member

theorem LastSplit.wildcard_iff (apart : LastSplit chars before leaf segments) :
    HasWildcard (before.flatMap slashBytes) ↔
      ∃ segment ∈ directorySegments chars, '*' ∈ segment ∨ '?' ∈ segment := by
  have letter {char : Char} (ascii : char.toNat < 0x80) (plain : isSeparator char = false) :
      UInt8.ofNat char.toNat ∈ before.flatMap slashBytes ↔
        ∃ segment ∈ directorySegments chars, char ∈ segment := by
    rw [apart.directory_segments]
    constructor
    · intro member
      obtain ⟨other, among, inside⟩ := List.mem_flatMap.mp member
      have same : char = other := by
        unfold slashBytes at inside
        split at inside
        · rw [List.mem_singleton] at inside
          have equal := congrArg UInt8.toNat inside
          rw [UInt8.toNat_ofNat', Nat.mod_eq_of_lt (by omega)] at equal
          have separator : char = '/' := Char.toNat_inj.mp equal
          rw [separator] at plain
          contradiction
        · have alone : UInt8.ofNat char.toNat ∈ encodeUtf8 [other] := by
            rw [encodeUtf8, List.flatMap_singleton]
            exact inside
          exact List.mem_singleton.mp ((ascii_mem_utf8 ascii).mp alone)
      obtain ⟨segment, found, within⟩ := exists_segment_of_mem plain (same ▸ among)
      have cut : segment ∈ segments ++ [[]] := apart.cutBefore ▸ found
      rcases List.mem_append.mp cut with directory | empty
      · exact ⟨segment, directory, within⟩
      · rw [List.mem_singleton.mp empty] at within
        contradiction
    · rintro ⟨segment, member, within⟩
      have among := (apart.in_segment member within).2
      refine List.mem_flatMap.mpr ⟨char, among, ?_⟩
      have other : char ≠ '\\' := by
        rintro rfl
        contradiction
      rw [slashBytes, if_neg other, utf8_of_ascii ascii, List.mem_singleton]
  have starAt := letter (by decide : '*'.toNat < 0x80) (by decide)
  have questionAt := letter (by decide : '?'.toNat < 0x80) (by decide)
  change UInt8.ofNat '*'.toNat ∈ _ ∨ UInt8.ofNat '?'.toNat ∈ _ ↔ _
  rw [starAt, questionAt]
  constructor
  · rintro (⟨segment, member, within⟩ | ⟨segment, member, within⟩)
    · exact ⟨segment, member, .inl within⟩
    · exact ⟨segment, member, .inr within⟩
  · rintro ⟨segment, member, within | within⟩
    · exact .inl ⟨segment, member, within⟩
    · exact .inr ⟨segment, member, within⟩

/-- The components of the directory's bytes resolve as those of its text. -/
theorem LastSplit.resolve (apart : LastSplit chars before leaf segments) :
    resolveSegments dot [] (components (before.flatMap slashBytes)) =
      resolveSegments dot [] (segments.map encodeUtf8) := by
  rw [components_slash_bytes, apart.cutBefore, List.map_append]
  exact resolve_concat_empty dot [] _

/-- A directory that does not resolve, or holds a wildcard, is rejected. -/
theorem LastSplit.rejected (apart : LastSplit chars before leaf segments)
    (bad : HasWildcard (before.flatMap slashBytes) ∨
      resolveSegments dot [] (components (before.flatMap slashBytes)) = none) :
    Rejected chars := by
  rcases bad with wild | failed
  · obtain ⟨segment, member, wild⟩ := apart.wildcard_iff.mp wild
    exact .wildcard segment member wild
  · have mapped := resolve_segments_map keeps_dots [] segments
    rw [apart.resolve] at failed
    rw [List.map_nil, failed] at mapped
    obtain ⟨earlier, later, split, bottom⟩ :=
      resolve_eq_none.mp (Option.map_eq_none_iff.mp mapped.symm)
    exact .escape earlier later (by rw [apart.directory_segments, split]) bottom

/-- With the components resolved, what is left is to terminate the directory and to turn the leaf
back. -/
theorem LastSplit.settled (apart : LastSplit chars before leaf segments)
    (inMemory : 2 * (encodeUtf16 chars).length < 2 ^ 63)
    (elsewhere : Rejected chars → HasWildcard (before.flatMap slashBytes) ∨
      resolveSegments dot [] (components (before.flatMap slashBytes)) = none)
    (noNul : '\x00' ∉ chars) (noColon : ':' ∉ chars)
    (resolution : Resolution ((before.flatMap slashBytes).length + 1) []
      (before.flatMap slashBytes) (normalizeComponents (before.flatMap slashBytes)
        (List.replicate ((before.flatMap slashBytes).length + 1) 0) 0)) :
    Settled chars
      (match normalizeComponents (before.flatMap slashBytes)
        (List.replicate ((before.flatMap slashBytes).length + 1) 0) 0 with
      | none => none
      | some (result, directory, output) =>
        if result ≠ .ok then some { result := result }
        else
          match writeBytes directory output [0] with
          | none => none
          | some directory => some (normalizeLeaf (encodeUtf8 leaf) directory {})) := by
  revert resolution
  generalize normalizeComponents (before.flatMap slashBytes)
    (List.replicate ((before.flatMap slashBytes).length + 1) 0) 0 = outcome
  intro resolution
  cases resolution with
  | invalid directory output bad =>
    exact settled_rejected (apart.rejected bad)
  | @done directory output after resolved tame holds room =>
    have inside : ∀ segment ∈ segments, ∀ char ∈ segment, char ∈ chars := by
      intro segment member char within
      rw [apart.split]
      exact List.mem_append_left _ (apart.in_segment member within).2
    obtain ⟨names, textual, joined, terminated⟩ :=
      resolution_text noNul inside (apart.resolve.symm.trans resolved)
    obtain ⟨buffer, written, length, taken⟩ := @write_bytes_ok directory output [0] (by
      rw [holds.length, List.length_singleton]
      omega)
    rw [List.length_singleton] at taken
    have text : cText buffer = joinSegments slash after := by
      rw [← List.take_append_drop (output + 1) buffer, taken, holds.content, cText,
        List.append_assoc, List.takeWhile_append_of_pos]
      · simp
      · intro byte member
        apply bne_iff_ne.mpr
        rintro rfl
        exact terminated member
    have plain : PlainNames '.' isSeparator names := resolve_segments_plain
      (fun segment member => by contradiction)
      (fun segment member char within => (apart.in_segment member within).1) textual
    have letters : ∀ name ∈ names, ':' ∉ name ∧ '*' ∉ name ∧ '?' ∉ name := by
      intro name member
      have segment : name ∈ segments := by
        rcases mem_resolved textual name member with nowhere | segment
        · contradiction
        · exact segment
      have tameHere (wild : '*' ∈ name ∨ '?' ∈ name) : False :=
        tame (apart.wildcard_iff.mpr ⟨name, by rwa [apart.directory_segments], wild⟩)
      exact ⟨fun colon => noColon (inside name segment _ colon), fun star => tameHere (.inl star),
        fun question => tameHere (.inr question)⟩
    have leafSmall : 2 * (encodeUtf16 leaf).length < 2 ^ 63 := by
      have whole : (encodeUtf16 chars).length =
          (encodeUtf16 before).length + (encodeUtf16 leaf).length := by
        rw [apart.split, encodeUtf16, List.flatMap_append, List.length_append]
        rfl
      omega
    have kept : ¬ Rejected chars := by
      intro rejected
      rcases elsewhere rejected with wild | failed
      · exact tame wild
      · rw [resolved] at failed
        contradiction
    simp only [ne_eq, not_true_eq_false, if_false, written, normalize_leaf_text buffer leafSmall]
    refine ⟨_, rfl, .inr ⟨kept, {
      result := rfl
      directory := ⟨names, buffer, by rw [apart.directory_segments, textual], rfl,
        text.trans joined, safe_path_of_stack plain letters⟩
      pattern := by rw [leaf_units, apart.leaf_segment]
      patternLength := by rw [leaf_units, apart.leaf_segment] }⟩⟩

end Split

/-- From the encoded pattern on, once it is known to have no NUL and no colon. -/
theorem normalize_encoded_settled {chars : List Char} (nonempty : chars ≠ [])
    (inMemory : 2 * (encodeUtf16 chars).length < 2 ^ 63) (noNul : '\x00' ∉ chars)
    (noColon : ':' ∉ chars) :
    Settled chars (normalizeEncoded (chars.flatMap slashBytes) {}) := by
  rw [normalizeEncoded]
  by_cases absolute : (chars.flatMap slashBytes).head? = some slash
  · obtain ⟨char, first, separates⟩ := (slash_bytes_head chars).mp absolute
    rw [if_pos (.inl absolute)]
    exact settled_rejected (.absolute char first separates)
  by_cases trailing : (chars.flatMap slashBytes).getLast? = some slash
  · obtain ⟨char, last, separates⟩ := (slash_bytes_last chars).mp trailing
    rw [if_pos (.inr trailing)]
    exact settled_rejected (.trailing char last separates)
  rw [if_neg (not_or.mpr ⟨absolute, trailing⟩)]
  obtain ⟨before, leaf, segments, split, plain, ends, cut, cutBefore⟩ :=
    split_last isSeparator chars
  have apart : LastSplit chars before leaf segments :=
    { split := split, plain := plain, ends := ends, cut := cut, cutBefore := cutBefore }
  dsimp only
  rw [apart.leaf_start, apart.encoded, List.take_left, List.drop_left]
  have dotsIff : ((encodeUtf8 leaf).length = 0 ∨ componentIs (encodeUtf8 leaf) [dot] = true ∨
      componentIs (encodeUtf8 leaf) [dot, dot] = true) ↔
        leaf = [] ∨ leaf = ['.'] ∨ leaf = ['.', '.'] := by
    unfold componentIs
    simp only [beq_iff_eq, List.length_eq_zero_iff, keeps_dots.empty, keeps_dots.single,
      keeps_dots.double]
  by_cases dots : leaf = [] ∨ leaf = ['.'] ∨ leaf = ['.', '.']
  · rw [if_pos (dotsIff.mpr dots)]
    apply settled_rejected
    rcases dots with empty | dots
    · rcases ends with rfl | ⟨front, separator, rfl, separates⟩
      · exact absurd (by rw [split, empty]; rfl) nonempty
      · refine .trailing separator ?_ separates
        rw [split, empty]
        simp
    · exact .dotLeaf (by rwa [apart.leaf_segment])
  rw [if_neg (dotsIff.not.mpr dots), if_neg (by decide)]
  have holds : Holds ((before.flatMap slashBytes).length + 1)
      (List.replicate ((before.flatMap slashBytes).length + 1) 0) 0 [] := {
    length := List.length_replicate
    content := rfl
    inUse := rfl
    plain := fun segment member => by contradiction }
  refine apart.settled inMemory ?_ noNul noColon
    (normalize_components_resolution holds (by omega) fun filled => absurd rfl filled)
  intro rejected
  cases rejected with
  | nul member => exact absurd member noNul
  | colon member => exact absurd member noColon
  | absolute char first separates =>
    exact absurd ((slash_bytes_head chars).mpr ⟨char, first, separates⟩) absolute
  | trailing char last separates =>
    exact absurd ((slash_bytes_last chars).mpr ⟨char, last, separates⟩) trailing
  | dotLeaf leafDots =>
    rw [apart.leaf_segment] at leafDots
    exact absurd (.inr leafDots) dots
  | wildcard segment member wild => exact .inl (apart.wildcard_iff.mpr ⟨segment, member, wild⟩)
  | escape earlier later split bottom =>
    right
    have mapped := resolve_segments_map keeps_dots [] segments
    rw [apart.directory_segments] at split
    rw [resolve_eq_none.mpr ⟨earlier, later, split, bottom⟩] at mapped
    rw [apart.resolve]
    exact mapped

/-- Every well-formed pattern is rejected for one of the listed reasons, or leads to the directory
its components resolve to, a path that stays below the root. No write leaves the buffer. -/
theorem search_paths (pattern : PathPattern) :
    ∃ normalized, normalizePattern pattern.units {} = some normalized ∧
      ((Rejected pattern.chars ∧ normalized.result = .invalidPath) ∨
        (¬ Rejected pattern.chars ∧ Accepted pattern.chars normalized)) := by
  obtain ⟨chars, nonempty, inMemory⟩ := pattern
  change Settled chars (normalizePattern (encodeUtf16 chars) {})
  have widest : uint64Max = 2 ^ 64 - 1 := rfl
  have longest := encode_utf8_length_le chars
  have filled : encodeUtf16 chars ≠ [] := fun empty =>
    nonempty (@Decodes.injective _ _ _ decodes_utf16 chars [] empty)
  have filled8 : (encodeUtf8 chars).length ≠ 0 := fun empty =>
    nonempty (@Decodes.injective _ _ _ decodes_utf8 chars [] (List.length_eq_zero_iff.mp empty))
  have zero : 0 ∈ encodeUtf16 chars ↔ '\x00' ∈ chars := ascii_mem_utf16 (by decide : '\x00'.toNat < 0x80)
  rw [normalizePattern]
  dsimp only
  rw [if_neg filled]
  by_cases nul : '\x00' ∈ chars
  · rw [if_pos (zero.mpr nul)]
    exact settled_rejected (.nul nul)
  rw [if_neg (zero.not.mpr nul), utf16_to_utf8_size chars (by omega)]
  simp only [Option.getD_some, ne_eq, not_true_eq_false, if_false]
  rw [if_neg (by omega), if_neg (by decide)]
  simp only [utf16_to_utf8_text chars (by omega) (Nat.le_refl _)]
  simp only [Option.getD_some, not_true_eq_false, or_self, if_false]
  by_cases colonIn : ':' ∈ chars
  · have present : colon ∈ encodeUtf8 chars :=
      (ascii_mem_utf8 (by decide : ':'.toNat < 0x80)).mpr colonIn
    rw [replace_separators_eq, if_pos present]
    exact settled_rejected (.colon colonIn)
  · rw [replace_separators_text colonIn]
    exact normalize_encoded_settled nonempty inMemory nul colonIn

end SadLayer.Search
