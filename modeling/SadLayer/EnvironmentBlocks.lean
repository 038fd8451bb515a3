import Mathlib.Data.List.TakeWhile
import SadLayer.Environment
import SadLayer.UnicodeFacts

/-! The environment as a guest reads it. The comparison of entries is a total
order of texts, folded first; the block has the units that were counted; and it
reads back as the sorted entries, unless an empty one ends it before them. -/
namespace SadLayer.Environment
open SadLayer.Library SadLayer.Unicode Std

/-! ### The comparison -/

/-- An answer of a comparison, as C gives it. -/
def orderSign : Ordering → Int
  | .lt => -1
  | .eq => 0
  | .gt => 1

theorem order_sign_swap (order : Ordering) : orderSign order.swap = -orderSign order := by
  cases order <;> rfl

theorem order_sign_le {order : Ordering} : orderSign order ≤ 0 ↔ order.isLE = true := by
  cases order <;> decide

theorem order_sign_eq {order : Ordering} : orderSign order = 0 ↔ order = .eq := by
  cases order <;> decide

/-- Entries in folded bytes, and those that agree so in their own. -/
def environmentOrder : CString → CString → Ordering :=
  compareLex (compareOn (List.map foldEnvironmentByte)) compare

instance : TransCmp environmentOrder :=
  inferInstanceAs (TransCmp (compareLex (compareOn (List.map foldEnvironmentByte)) compare))

theorem compare_same (byte : UInt8) : compare byte byte = .eq :=
  ReflCmp.compare_self

theorem compare_lt {left right : UInt8} (below : left < right) : compare left right = .lt :=
  if_pos below

theorem compare_gt {left right : UInt8} (above : right < left) : compare left right = .gt := by
  have different : left ≠ right := fun same => UInt8.lt_irrefl left (same ▸ above)
  exact (if_neg (UInt8.lt_asymm above)).trans (if_neg different)

theorem strcmp_order (left right : CString) :
    strcmp left right = orderSign (compare left right) := by
  rw [List.compare_eq_compareLex]
  induction left generalizing right with
  | nil => cases right <;> rfl
  | cons first rest ih =>
    cases right with
    | nil => rfl
    | cons second others =>
      rw [strcmp, List.compareLex_cons_cons, ih]
      split
      · rename_i below
        rw [compare_lt below]
        rfl
      split
      · rename_i above
        rw [compare_gt above]
        rfl
      · rename_i notBelow notAbove
        have same : first = second := by
          rw [UInt8.not_lt] at notBelow notAbove
          exact UInt8.le_antisymm notAbove notBelow
        rw [same, compare_same]
        rfl

/-- The loop is left at the first bytes that differ when folded. -/
theorem compare_folded_order (left right : CString) : compareFolded left right =
    if compare (left.map foldEnvironmentByte) (right.map foldEnvironmentByte) = .eq then none
    else some (orderSign
      (compare (left.map foldEnvironmentByte) (right.map foldEnvironmentByte))) := by
  rw [List.compare_eq_compareLex]
  induction left generalizing right with
  | nil => cases right <;> rfl
  | cons first rest ih =>
    cases right with
    | nil => rfl
    | cons second others =>
      rw [compareFolded, List.map_cons, List.map_cons, List.compareLex_cons_cons, ih]
      by_cases same : foldEnvironmentByte first = foldEnvironmentByte second
      · rw [if_neg (not_not_intro same), same, compare_same]
        rfl
      · rw [if_pos same]
        by_cases below : foldEnvironmentByte first < foldEnvironmentByte second
        · rw [if_pos below, compare_lt below]
          rfl
        · have above : foldEnvironmentByte second < foldEnvironmentByte first := by
            rw [UInt8.not_lt] at below
            exact UInt8.lt_of_le_of_ne below (Ne.symm same)
          rw [if_neg below, compare_gt above]
          rfl

theorem compare_entries_order (left right : CString) :
    compareEnvironmentEntries left right = orderSign (environmentOrder left right) := by
  unfold compareEnvironmentEntries environmentOrder compareLex compareOn
  rw [compare_folded_order, strcmp_order]
  cases compare (left.map foldEnvironmentByte) (right.map foldEnvironmentByte) <;> rfl

/-- What `qsort` asks of a comparison: it is antisymmetric and transitive, and zero only of equal
entries. -/
structure TotalComparison (comparison : CString → CString → Int) : Prop where
  zero : ∀ left right, comparison left right = 0 ↔ left = right
  swapped : ∀ left right, comparison right left = -comparison left right
  transitive : ∀ first second third, comparison first second ≤ 0 →
    comparison second third ≤ 0 → comparison first third ≤ 0

theorem environment_comparison : TotalComparison compareEnvironmentEntries where
  zero left right := by
    rw [compare_entries_order, order_sign_eq]
    constructor
    · intro equal
      exact LawfulEqCmp.eq_of_compare (compareLex_eq_eq.mp equal).2
    · intro same
      rw [same]
      exact ReflCmp.compare_self
  swapped left right := by
    rw [compare_entries_order, compare_entries_order, ← order_sign_swap]
    exact congrArg orderSign OrientedCmp.eq_swap
  transitive first second third below behind := by
    rw [compare_entries_order, order_sign_le] at below behind ⊢
    exact TransCmp.isLE_trans below behind

/-! ### The units of a block -/

/-- The texts of an environment, each with the zero unit behind it. -/
def terminated (texts : List (List Char)) : List UInt16 :=
  texts.flatMap fun text => encodeUtf16 text ++ [0]

/-- The units of a block: those of its texts and one that ends it, or two. -/
def blockUnits (texts : List (List Char)) : Nat :=
  if texts = [] then 2 else (terminated texts).length + 1

variable {texts : List (List Char)} {text : List Char} {totalUnits : Nat}

theorem terminated_cons : terminated (text :: texts) =
    encodeUtf16 text ++ [0] ++ terminated texts := by
  rw [terminated, List.flatMap_cons]
  rfl

theorem terminated_cons_length : (terminated (text :: texts)).length =
    (encodeUtf16 text).length + 1 + (terminated texts).length := by
  rw [terminated_cons, List.length_append, List.length_append, List.length_singleton]

theorem measure_entries (fits : totalUnits + (terminated texts).length ≤ uint64Max) :
    measureEntries (texts.map encodeUtf8) totalUnits =
      .ok (totalUnits + (terminated texts).length) := by
  induction texts generalizing totalUnits with
  | nil => rfl
  | cons text texts ih =>
    rw [terminated_cons_length] at fits ⊢
    have goesOn : ¬ (Status.ok ≠ .ok ∨ (encodeUtf16 text).length = uint64Max ∨
        totalUnits > uint64Max - (encodeUtf16 text).length - 1) := by
      rintro (failed | full | beyond)
      · exact failed rfl
      · omega
      · omega
    rw [List.map_cons, measureEntries, utf8_to_utf16_size text (by omega)]
    dsimp only [Option.getD_some]
    rw [if_neg goesOn, ih (by omega)]
    congr 1
    omega

/-- What is stored into a block of zeros leaves one behind it. -/
theorem store_at_zeros (front units : List UInt16)
    (room : front.length + units.length < totalUnits) :
    storeAt (front ++ List.replicate (totalUnits - front.length) 0) front.length units =
      (front ++ (units ++ [0])) ++
        List.replicate (totalUnits - (front ++ (units ++ [0])).length) 0 := by
  have behind : totalUnits - front.length - units.length =
      totalUnits - (front ++ (units ++ [0])).length + 1 := by
    simp only [List.length_append, List.length_singleton]
    omega
  rw [storeAt, List.take_left, List.drop_append, List.drop_of_length_le (by omega),
    Nat.add_sub_cancel_left, List.drop_replicate, List.nil_append, behind, List.replicate_succ]
  simp only [List.append_assoc, List.singleton_append]

theorem write_entries (front : List UInt16) (narrow : totalUnits ≤ uint64Max)
    (room : front.length + (terminated texts).length < totalUnits) :
    writeEntries totalUnits (texts.map encodeUtf8) front.length
        (front ++ List.replicate (totalUnits - front.length) 0) =
      .ok ((front ++ terminated texts).length, (front ++ terminated texts) ++
        List.replicate (totalUnits - (front ++ terminated texts).length) 0) := by
  induction texts generalizing front with
  | nil =>
    rw [terminated, List.flatMap_nil, List.append_nil]
    rfl
  | cons text texts ih =>
    rw [terminated_cons_length] at room
    have goesOn : ¬ (Status.ok ≠ .ok ∨
        (encodeUtf16 text).length ≥ totalUnits - front.length) := by
      rintro (failed | full)
      · exact failed rfl
      · omega
    have next : front.length + ((encodeUtf16 text).length + 1) =
        (front ++ (encodeUtf16 text ++ [0])).length := by
      simp only [List.length_append, List.length_singleton]
    have whole : front ++ (encodeUtf16 text ++ [0]) ++ terminated texts =
        front ++ terminated (text :: texts) := by
      rw [terminated_cons, List.append_assoc]
    rw [List.map_cons, writeEntries, utf8_to_utf16_text text (by omega) (by omega)]
    dsimp only [Option.getD_some]
    rw [if_neg goesOn, store_at_zeros front _ (by omega), next, ih _ (by omega), whole]

/-! ### The block of an environment -/

def sortTexts (texts : List (List Char)) : List (List Char) :=
  texts.mergeSort fun left right =>
    compareEnvironmentEntries (encodeUtf8 left) (encodeUtf8 right) ≤ 0

theorem sort_entries : sortEntries (texts.map encodeUtf8) = (sortTexts texts).map encodeUtf8 := by
  rw [sortEntries, sortTexts, List.map_mergeSort]
  exact fun _ _ _ _ => rfl

theorem sort_texts_perm : (sortTexts texts).Perm texts :=
  List.mergeSort_perm ..

theorem sort_texts_sorted : (sortTexts texts).Pairwise fun left right =>
    compareEnvironmentEntries (encodeUtf8 left) (encodeUtf8 right) ≤ 0 := by
  have sorted : (sortTexts texts).Pairwise fun left right =>
      decide (compareEnvironmentEntries (encodeUtf8 left) (encodeUtf8 right) ≤ 0) = true := by
    apply List.pairwise_mergeSort
    · intro first second third below behind
      rw [decide_eq_true_eq] at below behind ⊢
      exact environment_comparison.transitive _ _ _ below behind
    · intro left right
      have swapped := environment_comparison.swapped (encodeUtf8 left) (encodeUtf8 right)
      rw [Bool.or_eq_true, decide_eq_true_eq, decide_eq_true_eq]
      omega
  exact sorted.imp of_decide_eq_true

theorem terminated_sorted_length :
    (terminated (sortTexts texts)).length = (terminated texts).length :=
  (sort_texts_perm.flatMap_right _).length_eq

/-- The block of sorted texts. -/
def blockOf (ordered : List (List Char)) : EnvironmentBlock where
  unitCount := blockUnits ordered
  units := if ordered = [] then [0, 0] else terminated ordered ++ [0]

theorem sort_texts_nil : sortTexts texts = [] ↔ texts = [] := by
  rw [← List.length_eq_zero_iff, sort_texts_perm.length_eq, List.length_eq_zero_iff]

theorem block_units_sorted : blockUnits (sortTexts texts) = blockUnits texts := by
  simp only [blockUnits, sort_texts_nil, terminated_sorted_length]

theorem block_of_length (ordered : List (List Char)) :
    (blockOf ordered).units.length = (blockOf ordered).unitCount := by
  unfold blockOf blockUnits
  by_cases none_ : ordered = []
  · rw [if_pos none_, if_pos none_]
    rfl
  · rw [if_neg none_, if_neg none_, List.length_append, List.length_singleton]

/-- What the C library grants a call. -/
structure Granted (answers : LibraryAnswers) : Prop where
  entries : answers.entries = true
  block : answers.block = true
  lock : answers.lock = true

/-- An environment that a block has room for. -/
structure Fits (texts : List (List Char)) : Prop where
  count : texts.length ≤ uint64Max / 8
  units : blockUnits texts ≤ (uint64Max - headerSize) / 2

/-- The writing pass fills the block but for the unit that ends it. -/
theorem write_block (some_ : texts ≠ []) (narrow : blockUnits texts ≤ uint64Max) :
    writeEntries (blockUnits texts) (texts.map encodeUtf8) 0
        (List.replicate (blockUnits texts) 0) =
      .ok ((terminated texts).length, terminated texts ++ [0]) := by
  have counted : blockUnits texts = (terminated texts).length + 1 := if_neg some_
  have written := @write_entries texts (blockUnits texts) [] narrow (by
    rw [counted, List.length_nil]
    omega)
  rw [List.length_nil, Nat.sub_zero, List.nil_append, List.nil_append] at written
  have last : blockUnits texts - (terminated texts).length = 1 := by omega
  rw [written, last]
  rfl

theorem set_last_zero (units : List UInt16) : (units ++ [0]).set units.length 0 = units ++ [0] := by
  rw [List.set_append_right _ _ (Nat.le_refl _), Nat.sub_self]
  rfl

theorem get_environment_block {answers : LibraryAnswers} {environ : Option (List CString)}
    (granted : Granted answers) (given : environ.getD [] = texts.map encodeUtf8)
    (fits : Fits texts) (state : EnvironmentState) :
    getEnvironmentStringsW answers environ state = (some (blockOf (sortTexts texts)),
      { state with blocks := blockOf (sortTexts texts) :: state.blocks }) := by
  have few : ¬ (texts.map encodeUtf8).length > uint64Max / 8 := by
    rw [List.length_map]
    exact Nat.not_lt.mpr fits.count
  have small := Nat.not_lt.mpr fits.units
  have lists : texts.map encodeUtf8 = [] ↔ texts = [] := List.map_eq_nil_iff
  by_cases none_ : texts = []
  · subst none_
    have sorted : sortTexts [] = [] := sort_texts_nil.mpr rfl
    have empty : sortEntries [] = [] := List.mergeSort_nil
    rw [sorted]
    simp only [getEnvironmentStringsW, given, List.map_nil, List.length_nil, granted.block,
      granted.lock, empty, measureEntries, writeEntries]
    rfl
  · have counted : blockUnits texts = (terminated texts).length + 1 := if_neg none_
    have narrow : blockUnits texts ≤ uint64Max := by
      have units := fits.units
      unfold headerSize uint64Max at units
      unfold uint64Max
      omega
    have measured := @measure_entries (sortTexts texts) 1 (by
      rw [terminated_sorted_length]
      omega)
    have unsorted : 1 + (terminated (sortTexts texts)).length = blockUnits texts := by
      rw [terminated_sorted_length]
      omega
    have written := @write_block (sortTexts texts) (fun sorted => none_ (sort_texts_nil.mp sorted))
      (by rw [block_units_sorted]; exact narrow)
    rw [block_units_sorted] at written
    have whole : blockOf (sortTexts texts) =
        { unitCount := blockUnits texts, units := terminated (sortTexts texts) ++ [0] } := by
      rw [blockOf, block_units_sorted, if_neg (fun sorted => none_ (sort_texts_nil.mp sorted))]
    simp only [getEnvironmentStringsW, given, if_neg few, ne_eq, lists, none_, not_false_eq_true,
      true_and, granted.entries, granted.block, granted.lock, sort_entries, measured, unsorted,
      if_neg small, written, set_last_zero, whole, Bool.true_eq_false, if_false]

/-! ### Reading it back -/

theorem encode_utf16_nil : encodeUtf16 text = [] ↔ text = [] := by
  unfold encodeUtf16
  cases text with
  | nil => exact ⟨fun _ => rfl, fun _ => rfl⟩
  | cons char chars => simp [utf16_ne_nil]

/-- What a text of the environment cannot hold. -/
def nul : Char := Char.ofNat 0

theorem no_zero_unit (noNul : nul ∉ text) : (0 : UInt16) ∉ encodeUtf16 text := by
  intro member
  exact noNul ((@ascii_mem_utf16 nul text (by decide)).mp member)

theorem split_terminated (noNul : ∀ text ∈ texts, nul ∉ text) (rest : List UInt16) :
    (terminated texts ++ rest).splitOn 0 = texts.map encodeUtf16 ++ rest.splitOn 0 := by
  induction texts with
  | nil => rfl
  | cons text texts ih =>
    obtain ⟨first, others⟩ := List.forall_mem_cons.mp noNul
    rw [terminated_cons, List.append_assoc, List.append_assoc, List.singleton_append,
      List.splitOn_append_cons_self, List.splitOn_eq_singleton (no_zero_unit first), ih others]
    rfl

/-- What is behind an empty string is not read. -/
theorem take_until_empty (strings rest : List (List UInt16)) :
    (strings ++ [] :: rest).takeWhile (· ≠ []) = strings.takeWhile (· ≠ []) := by
  induction strings with
  | nil => rfl
  | cons first others ih =>
    rw [List.cons_append, List.takeWhile_cons, List.takeWhile_cons, ih]

/-- A block reads back as its texts up to the first empty one. -/
theorem environment_strings_block (noNul : ∀ text ∈ texts, nul ∉ text) :
    environmentStrings (blockOf texts).units = (texts.map encodeUtf16).takeWhile (· ≠ []) := by
  have last : [(0 : UInt16)].splitOn 0 = [[], []] := rfl
  unfold blockOf environmentStrings
  dsimp only
  split
  · rename_i none_
    rw [none_]
    rfl
  · rw [split_terminated noNul, last, take_until_empty]

/-- What a call is to give for an environment of these texts: a block of as many units as were
counted, that reads back as the texts in the order of their entries, each once. -/
def EncodesEnvironment (texts : List (List Char)) (answer : Option EnvironmentBlock) : Prop :=
  ∃ block, ∃ ordered : List (List Char), answer = some block ∧ block.units.length = block.unitCount ∧
    block.unitCount = blockUnits texts ∧ ordered.Perm texts ∧
    (ordered.Pairwise fun left right =>
      compareEnvironmentEntries (encodeUtf8 left) (encodeUtf8 right) ≤ 0) ∧
    environmentStrings block.units = ordered.map encodeUtf16

theorem read_string_nonempty {block : List UInt16} {string : List UInt16}
    (member : string ∈ environmentStrings block) : string ≠ [] := by
  have kept := List.mem_takeWhile_imp member
  exact of_decide_eq_true kept

/-- The environment is encoded in the block just when it has no empty entry: one sorts before all
others and ends the block. -/
theorem environment_encoded_iff (texts : List (List Char))
    (noNul : ∀ text ∈ texts, nul ∉ text) (fits : Fits texts) (answers : LibraryAnswers)
    (granted : Granted answers) (environ : Option (List CString))
    (given : environ.getD [] = texts.map encodeUtf8) (state : EnvironmentState) :
    (EncodesEnvironment texts (getEnvironmentStringsW answers environ state).1 ↔
      ∀ text ∈ texts, text ≠ []) ∧
    TotalComparison compareEnvironmentEntries := by
  refine ⟨⟨?_, ?_⟩, environment_comparison⟩
  · rintro ⟨block, ordered, -, -, -, perm, -, read⟩ text member
    have among : encodeUtf16 text ∈ ordered.map encodeUtf16 :=
      List.mem_map_of_mem (perm.mem_iff.mpr member)
    rw [← read] at among
    exact fun empty => read_string_nonempty among (encode_utf16_nil.mpr empty)
  · intro nonempty
    have sortedNoNul : ∀ text ∈ sortTexts texts, nul ∉ text :=
      fun text member => noNul text (sort_texts_perm.mem_iff.mp member)
    have kept : ∀ string ∈ (sortTexts texts).map encodeUtf16, decide (string ≠ []) = true := by
      intro string member
      obtain ⟨text, among, rfl⟩ := List.mem_map.mp member
      rw [decide_eq_true_eq, ne_eq, encode_utf16_nil]
      exact nonempty text (sort_texts_perm.mem_iff.mp among)
    refine ⟨blockOf (sortTexts texts), sortTexts texts, ?_, block_of_length _, block_units_sorted,
      sort_texts_perm, sort_texts_sorted, ?_⟩
    · rw [get_environment_block granted given fits state]
    · rw [environment_strings_block sortedNoNul, List.takeWhile_eq_self_iff]
      exact kept

def allGranted : LibraryAnswers := ⟨true, true, true⟩

/-- Two variables are encoded. -/
theorem two_variables_encoded : EncodesEnvironment [['b', '=', '1'], ['A', '=', '2']]
    (getEnvironmentStringsW allGranted (some [[0x62, 0x3d, 0x31], [0x41, 0x3d, 0x32]]) {}).1 := by
  have encoded := environment_encoded_iff [['b', '=', '1'], ['A', '=', '2']]
    (by decide) ⟨by decide, by decide⟩ allGranted ⟨rfl, rfl, rfl⟩
    (some [[0x62, 0x3d, 0x31], [0x41, 0x3d, 0x32]]) (by decide) {}
  exact encoded.1.mpr (by decide)

/-- An empty entry ends the block before the variable that sorts behind it. -/
theorem empty_entry_hides_variables :
    (getEnvironmentStringsW allGranted (some [[], [0x41, 0x3d, 0x31]]) {}).1 =
      some { unitCount := 6, units := [0, 0x41, 0x3d, 0x31, 0, 0] } ∧
    environmentStrings [0, 0x41, 0x3d, 0x31, 0, 0] = [] ∧
    ¬ EncodesEnvironment [[], ['A', '=', '1']]
      (getEnvironmentStringsW allGranted (some [[], [0x41, 0x3d, 0x31]]) {}).1 := by
  have answered := @get_environment_block [[], ['A', '=', '1']] allGranted
    (some [[], [0x41, 0x3d, 0x31]]) ⟨rfl, rfl, rfl⟩ (by decide) ⟨by decide, by decide⟩ {}
  have sorted : sortTexts [[], ['A', '=', '1']] = [[], ['A', '=', '1']] :=
    List.mergeSort_of_pairwise (by decide)
  rw [answered, sorted]
  refine ⟨by decide, by decide, ?_⟩
  rintro ⟨block, ordered, same, -, -, perm, -, read⟩
  cases same
  have hidden : environmentStrings (blockOf [[], ['A', '=', '1']]).units = [] := by decide
  rw [hidden] at read
  have none_ : ordered = [] := List.map_eq_nil_iff.mp read.symm
  rw [none_] at perm
  cases perm.length_eq

end SadLayer.Environment
