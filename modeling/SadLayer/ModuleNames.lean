import SadLayer.ForwarderGrammar
import SadLayer.Transcoding

/-! The names a guest asks for modules by: UTF-16 without directories, which mean a library
where they have no dot and none where they end in one. -/
namespace SadLayer.ModuleHandles
open SadLayer.Library SadLayer.Pe SadLayer.Module SadLayer.Unicode

/-- The units `wide_module_name_to_utf8` counts, of a text that ends with the list at the latest. -/
def wideName (units : List UInt16) : List UInt16 :=
  (units.take nameCapacity).takeWhile (· != 0)

/-- What `wide_module_name_to_utf8` does about the last dot of a name. -/
def settleExtension (name : CString) : Option CString :=
  match splitLast 0x2e name with
  | none =>
    if name.length > nameCapacity - (dllSuffix.length + 1) then none
    else some (name ++ dllSuffix)
  | some (before, extension) =>
    if extension ≠ [] then some name
    else if before = [] then none
    else some before

/-- `wide_module_name_to_utf8`, of a name that is there. -/
def wideModuleNameToUtf8 (units : List UInt16) : Option CString :=
  let text := wideName units
  if text.length = 0 ∨ text.length = nameCapacity then none
  else
    let sized := utf16ToUtf8 text none
    if sized.status ≠ .ok ∨ sized.written.getD 0 ≥ nameCapacity then none
    else
      let converted := utf16ToUtf8 text (some (nameCapacity - 1))
      if converted.status ≠ .ok then none
      else
        let name := converted.stored
        if 0x5c ∈ name ∨ 0x2f ∈ name ∨ 0x3a ∈ name then none
        else settleExtension name

/-- The module a name means. -/
def libraryName (chars : List Char) : List Char :=
  if '.' ∉ chars then chars ++ ['.', 'd', 'l', 'l']
  else if chars.getLast? = some '.' then chars.dropLast
  else chars

/-- Units are the name of this module, as a guest may write it. -/
inductive Spells : List UInt16 → CString → Prop where
  | name (chars : List Char) (given : chars ≠ []) (left : libraryName chars ≠ [])
      (plain : '\\' ∉ chars ∧ '/' ∉ chars ∧ ':' ∉ chars)
      (short : (encodeUtf8 chars).length < nameCapacity)
      (room : (encodeUtf8 (libraryName chars)).length < nameCapacity) :
      Spells (encodeUtf16 chars) (encodeUtf8 (libraryName chars))

variable {chars : List Char} {units : List UInt16} {name : CString}

theorem encode_utf8_eq_nil : encodeUtf8 chars = [] ↔ chars = [] := by
  cases chars with
  | nil => simp [encodeUtf8]
  | cons char rest => simp [encodeUtf8]

theorem encode_utf16_eq_nil : encodeUtf16 chars = [] ↔ chars = [] := by
  cases chars with
  | nil => simp [encodeUtf16]
  | cons char rest => simp [encodeUtf16, utf16_ne_nil]

theorem utf8_dot : encodeUtf8 ['.'] = [0x2e] := by decide

theorem dot_mem : 0x2e ∈ encodeUtf8 chars ↔ '.' ∈ chars := @ascii_mem_utf8 '.' chars (by decide)

theorem backslash_mem : 0x5c ∈ encodeUtf8 chars ↔ '\\' ∈ chars :=
  @ascii_mem_utf8 '\\' chars (by decide)

theorem slash_mem : 0x2f ∈ encodeUtf8 chars ↔ '/' ∈ chars := @ascii_mem_utf8 '/' chars (by decide)

theorem colon_mem : 0x3a ∈ encodeUtf8 chars ↔ ':' ∈ chars := @ascii_mem_utf8 ':' chars (by decide)

theorem split_last_undotted (undotted : '.' ∉ chars) : splitLast 0x2e (encodeUtf8 chars) = none := by
  cases split : splitLast 0x2e (encodeUtf8 chars) with
  | none => rfl
  | some parts =>
    obtain ⟨whole, -⟩ := split_last_ok split
    exact absurd (dot_mem.mp (by simp [whole])) undotted

theorem split_last_trailing (front : List Char) :
    splitLast 0x2e (encodeUtf8 (front ++ ['.'])) = some (encodeUtf8 front, []) := by
  rw [encode_utf8_append, utf8_dot]
  exact split_last_at List.not_mem_nil

/-- The dot of a text that ends in another character has bytes behind it. -/
theorem split_last_dotted (dotted : '.' ∈ chars) (more : chars.getLast? ≠ some '.') :
    ∃ before extension, splitLast 0x2e (encodeUtf8 chars) = some (before, extension) ∧
      extension ≠ [] := by
  cases split : splitLast 0x2e (encodeUtf8 chars) with
  | none =>
    exact absurd (dot_mem.mpr dotted) (split_last_none split)
  | some parts =>
    obtain ⟨before, extension⟩ := parts
    refine ⟨before, extension, rfl, ?_⟩
    rintro rfl
    obtain ⟨whole, -⟩ := split_last_ok split
    obtain rfl | ⟨front, last, rfl⟩ := List.eq_nil_or_concat' chars
    · exact absurd dotted List.not_mem_nil
    · have ends : 0x2e ∈ String.utf8EncodeChar last := by
        have bytes := congrArg List.getLast? whole
        rw [encode_utf8_append, List.getLast?_append_of_ne_nil _ (by simp [encodeUtf8])] at bytes
        simpa [encodeUtf8] using List.mem_of_getLast? (bytes.trans (by simp))
      have same : '.' ∈ [last] := dot_mem.mp (by simpa [encodeUtf8] using ends)
      simp at same more
      exact more same.symm

theorem spells_iff : Spells (encodeUtf16 chars) name ↔
    (chars ≠ [] ∧ libraryName chars ≠ []) ∧ ('\\' ∉ chars ∧ '/' ∉ chars ∧ ':' ∉ chars) ∧
      (encodeUtf8 chars).length < nameCapacity ∧
      (encodeUtf8 (libraryName chars)).length < nameCapacity ∧
      name = encodeUtf8 (libraryName chars) := by
  constructor
  · intro spells
    generalize encoded : encodeUtf16 chars = units at spells
    cases spells with
    | name chars' given left plain short room =>
      obtain rfl : chars = chars' := decodes_utf16.injective encoded
      exact ⟨⟨given, left⟩, plain, short, room, rfl⟩
  · rintro ⟨⟨given, left⟩, plain, short, room, rfl⟩
    exact .name chars given left plain short room

theorem settle_extension_iff (given : chars ≠ [])
    (short : (encodeUtf8 chars).length < nameCapacity) :
    settleExtension (encodeUtf8 chars) = some name ↔
      libraryName chars ≠ [] ∧ (encodeUtf8 (libraryName chars)).length < nameCapacity ∧
        name = encodeUtf8 (libraryName chars) := by
  unfold settleExtension
  by_cases dotted : '.' ∈ chars
  · by_cases trailing : chars.getLast? = some '.'
    · obtain ⟨front, rfl⟩ := List.getLast?_eq_some_iff.mp trailing
      have library : libraryName (front ++ ['.']) = front := by simp [libraryName]
      have within : (encodeUtf8 front).length < nameCapacity := by
        rw [encode_utf8_append, List.length_append] at short
        omega
      rw [split_last_trailing, library]
      simp only [ne_eq, not_true_eq_false, if_false, encode_utf8_eq_nil]
      by_cases empty : front = []
      · simp [empty]
      · simp [empty, within, eq_comm]
    · obtain ⟨before, extension, split, more⟩ := split_last_dotted dotted trailing
      have library : libraryName chars = chars := by simp [libraryName, dotted, trailing]
      simp [split, more, library, given, short, eq_comm]
  · have library : libraryName chars = chars ++ ['.', 'd', 'l', 'l'] := by
      simp [libraryName, dotted]
    have suffix : encodeUtf8 ['.', 'd', 'l', 'l'] = dllSuffix := by decide
    rw [split_last_undotted dotted, library, encode_utf8_append, suffix, List.length_append]
    have added : dllSuffix.length = 4 := rfl
    dsimp only
    by_cases room : (encodeUtf8 chars).length > nameCapacity - (dllSuffix.length + 1)
    · rw [if_pos room]
      simp only [reduceCtorEq, false_iff]
      omega
    · have fits : (encodeUtf8 chars).length + dllSuffix.length < nameCapacity := by
        rw [added] at room ⊢
        simp only [nameCapacity] at room ⊢
        omega
      rw [if_neg room, Option.some_inj]
      exact ⟨fun same => ⟨by simp, fits, same.symm⟩, fun ⟨_, _, same⟩ => same.symm⟩

/-- A name is accepted exactly when it is UTF-16 that spells a module, and means that module. -/
theorem wide_module_name_iff :
    wideModuleNameToUtf8 units = some name ↔ Spells (units.takeWhile (· != 0)) name := by
  have cut : wideName units = (units.takeWhile (· != 0)).take nameCapacity :=
    List.take_takeWhile.symm
  unfold wideModuleNameToUtf8
  dsimp only
  rw [cut]
  generalize units.takeWhile (· != 0) = text
  by_cases long : nameCapacity ≤ text.length
  · rw [List.length_take, min_eq_left long]
    simp only [or_true, if_true, reduceCtorEq, false_iff]
    intro spells
    cases spells with
    | name chars _ _ _ short =>
      have fewer := encode_utf16_length_le chars
      omega
  rw [List.take_of_length_le (by omega)]
  have small : nameCapacity ≤ uint64Max ∧ 2 * nameCapacity ≤ ptrdiffMax := by decide
  obtain ⟨chars, rfl, fits⟩ | ⟨notText, refused⟩ := utf16_to_utf8_strict text (by omega)
  · rw [spells_iff, utf16_to_utf8_size chars fits]
    by_cases empty : chars = []
    · simp [empty, encodeUtf16]
    have filled : encodeUtf16 chars ≠ [] := encode_utf16_eq_nil.not.mpr empty
    have units := encode_utf16_length_le chars
    have counted : ¬ ((encodeUtf16 chars).length = 0 ∨
        (encodeUtf16 chars).length = nameCapacity) := by
      rw [List.length_eq_zero_iff, not_or]
      exact ⟨filled, by omega⟩
    rw [if_neg counted]
    by_cases short : (encodeUtf8 chars).length < nameCapacity
    · rw [utf16_to_utf8_text chars fits (by omega)]
      simp only [Option.getD_some, ne_eq, not_true_eq_false, false_or, ge_iff_le,
        Nat.not_le.mpr short, if_false, backslash_mem, slash_mem, colon_mem]
      by_cases plain : '\\' ∈ chars ∨ '/' ∈ chars ∨ ':' ∈ chars
      · rw [if_pos plain]
        simp
        tauto
      · rw [if_neg plain, settle_extension_iff empty short]
        simp [empty, short]
        tauto
    · simp [short]
  · rw [refused none]
    have unspelled : ¬ Spells text name := by
      intro spells
      cases spells with
      | name chars => exact notText (surrogates_paired_iff.mpr ⟨chars, rfl⟩)
    simp [unspelled]

end SadLayer.ModuleHandles
