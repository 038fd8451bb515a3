import SadLayer.CodePageRoundTrips
import SadLayer.LossyTranscoding

/-! Asking a conversion for its size first. A call without room answers with the
count that a call with room stores; whatever makes the one fail makes the other
fail the same way. -/
namespace SadLayer.CodePages
open SadLayer.Library SadLayer.Unicode

variable {unit : Type} {codePage flags page : UInt32} {sourceLength : Int}

/-- How a conversion answers by its capacity alone: each call fails with one and the same error, or
the query counts units that every call with room for them stores, and no other. -/
def QueryLaw (call : Int → Converted unit) : Prop :=
  (∃ error, ∀ capacity, 0 ≤ capacity → call capacity = refused error) ∨
    ∃ (units : List unit) (usedDefault : Option Bool), 1 ≤ units.length ∧
      call 0 = { count := units.length } ∧
      (∀ capacity, (units.length : Int) ≤ capacity →
        call capacity = { count := units.length, stored := units, usedDefault := usedDefault }) ∧
      ∀ capacity, 1 ≤ capacity → capacity < (units.length : Int) →
        call capacity = refused errorInsufficientBuffer

theorem QueryLaw.congr {call other : Int → Converted unit} (law : QueryLaw other)
    (same : ∀ capacity, 0 ≤ capacity → call capacity = other capacity) : QueryLaw call := by
  rcases law with ⟨error, fails⟩ | ⟨units, usedDefault, positive, query, enough, small⟩
  · exact .inl ⟨error, fun capacity nonneg => (same capacity nonneg).trans (fails capacity nonneg)⟩
  · refine .inr ⟨units, usedDefault, positive, (same 0 (Int.le_refl 0)).trans query, ?_, ?_⟩
    · intro capacity room
      exact (same capacity (by omega)).trans (enough capacity room)
    · intro capacity some' few
      exact (same capacity (by omega)).trans (small capacity some' few)

theorem law_of_refused {call : Int → Converted unit} (error : Nat)
    (fails : ∀ capacity, 0 ≤ capacity → call capacity = refused error) : QueryLaw call :=
  .inl ⟨error, fails⟩

/-- The units that a call reads are in memory: so many, or up to a terminator, or as far as the
search for one goes. -/
def Readable [BEq unit] (zero : unit) (source : Option (List unit)) (sourceLength : Int) : Prop :=
  ∀ units, source = some units →
    (0 < sourceLength → sourceLength ≤ units.length) ∧
      (sourceLength = -1 →
        (units.takeWhile (· != zero)).length < units.length ∨ int32Max ≤ units.length)

/-- A destination of its own, with this capacity. -/
def roomFor (capacity : Int) : Destination :=
  { isNull := false, isSource := false, capacity := capacity }

/-! ### What is read -/

/-- A source length that is accepted is that of what is read, which is never nothing. -/
theorem source_length_ok [BEq unit] {zero : unit} {source : Option (List unit)} {length : Nat}
    (readable : Readable zero source sourceLength) (narrow : sourceLength ≤ int32Max)
    (measured : sourceLengthOf zero source sourceLength = .ok length) :
    1 ≤ length ∧ length ≤ int32Max ∧ ((source.getD []).take length).length = length := by
  unfold sourceLengthOf at measured
  cases source with
  | none => cases measured
  | some units =>
    obtain ⟨explicit, terminated⟩ := readable units rfl
    dsimp only at measured
    rw [Option.getD_some, List.length_take]
    split at measured
    · cases measured
    split at measured
    · rename_i toTerminator
      have shown := terminated toTerminator
      have prefix' := (List.takeWhile_sublist (· != zero) (l := units)).length_le
      split at measured
      · cases measured
      · cases measured
        omega
    · cases measured
      omega

/-! ### One end for all conversions -/

theorem arguments_accepted_for {capacity : Int} (nonneg : 0 ≤ capacity) :
    argumentsAccepted page (roomFor capacity) = argumentsAccepted page (roomFor 0) := by
  unfold argumentsAccepted roomFor
  simp
  omega

/-- The end of a conversion obeys the law when it stores what was counted. -/
theorem finish_law {required : Nat} {store : Int → Converted unit} (positive : 1 ≤ required)
    (stores : ∃ (units : List unit) (usedDefault : Option Bool), units.length = required ∧
      ∀ capacity, (required : Int) ≤ capacity → store capacity =
        { count := required, stored := units, usedDefault := usedDefault }) :
    QueryLaw fun capacity => finishConversion required (roomFor capacity) (store capacity) := by
  obtain ⟨units, usedDefault, rfl, stores⟩ := stores
  by_cases large : units.length > int32Max
  · refine .inl ⟨errorInvalidParameter, fun capacity _ => ?_⟩
    exact if_pos large
  refine .inr ⟨units, usedDefault, positive, ?_, ?_, ?_⟩
  · unfold finishConversion roomFor
    dsimp only
    rw [if_neg large, if_pos rfl]
  · intro capacity room
    unfold finishConversion roomFor
    dsimp only
    rw [if_neg large, if_neg (by omega), if_neg (by omega), stores capacity room]
  · intro capacity some' small
    unfold finishConversion roomFor
    dsimp only
    rw [if_neg large, if_neg (by omega), if_pos small]

theorem finish_units_law (units : List unit) (usedDefault : Option Bool) {required : Nat}
    (counted : units.length = required) (positive : 1 ≤ required) :
    QueryLaw fun capacity => finishConversion required (roomFor capacity)
      { count := required, stored := units, usedDefault := usedDefault } :=
  finish_law positive ⟨units, usedDefault, counted, fun _ _ => rfl⟩

/-- So does a conversion from or to UTF-8 that counts what it stores. -/
theorem convert_utf8_law {conversion : Option Nat → Conversion unit}
    (disciplined : Disciplined conversion)
    (nonempty : ∀ units, Stores conversion units → units ≠ []) :
    QueryLaw fun capacity => convertUtf8 conversion (roomFor capacity) := by
  rcases disciplined with invalid | ⟨units, stores⟩
  · refine .inl ⟨errorNoUnicodeTranslation, fun capacity _ => ?_⟩
    unfold convertUtf8
    rw [invalid none]
    rfl
  · have positive := List.length_pos_iff.mpr (nonempty units stores)
    have law := @finish_law unit units.length (fun capacity =>
        if (conversion (some capacity.toNat)).status ≠ .ok ∨
            (conversion (some capacity.toNat)).written.getD 0 ≠ units.length then
          refused (if (conversion (some capacity.toNat)).status = .invalidEncoding then
            errorNoUnicodeTranslation else errorInvalidParameter)
        else { count := units.length, stored := (conversion (some capacity.toNat)).stored })
      positive ⟨units, none, rfl, fun capacity room => by
        rw [stores.stores capacity.toNat (by omega)]
        exact if_neg (by simp)⟩
    unfold convertUtf8
    rw [stores.sizing]
    exact law

/-! ### The single-byte loops -/

theorem single_byte_required_eq (source : List UInt16) (output : Nat) :
    singleByteRequired source output = output + (wideCodepoints source).length := by
  fun_induction singleByteRequired source output with
  | case1 output => rw [wideCodepoints, List.length_nil, Nat.add_zero]
  | case2 output first rest malformed ih =>
    rw [ih, wide_codepoints_cons, malformed, List.length_cons]
    omega
  | case3 output first rest codepoint consumed known ih =>
    rw [ih, wide_codepoints_cons, known, List.length_cons]
    omega

theorem store_single_bytes_eq (replacement : UInt8) (source : List UInt16) (stored : List UInt8)
    (usedDefault : Bool) :
    storeSingleBytes page replacement source stored usedDefault =
      (stored ++ (wideCodepoints source).map fun codepoint =>
          (codepoint.bind (utf16ToSingleByte page)).getD replacement,
        usedDefault || (wideCodepoints source).any fun codepoint =>
          (codepoint.bind (utf16ToSingleByte page)).isNone) := by
  fun_induction storeSingleBytes page replacement source stored usedDefault with
  | case1 stored usedDefault => simp [wideCodepoints]
  | case2 stored usedDefault first rest malformed ih =>
    rw [ih, wide_codepoints_cons, malformed]
    simp
  | case3 stored usedDefault first rest codepoint consumed known foreign ih =>
    rw [ih, wide_codepoints_cons, known]
    simp [foreign]
  | case4 stored usedDefault first rest codepoint consumed known byte found ih =>
    rw [ih, wide_codepoints_cons, known]
    simp [found]

/-- The model of the conversion to single bytes is the two loops of the source. -/
theorem wide_char_single_byte_loops (page : UInt32) (input : List UInt16) (replacement : UInt8) :
    singleByteRequired input 0 = (wideCodepoints input).length ∧
      storeSingleBytes page replacement input [] false =
        (((wideCodepoints input).map fun codepoint =>
            codepoint.bind (utf16ToSingleByte page)).map fun byte => byte.getD replacement,
          ((wideCodepoints input).map fun codepoint =>
            codepoint.bind (utf16ToSingleByte page)).any Option.isNone) := by
  refine ⟨by rw [single_byte_required_eq, Nat.zero_add], ?_⟩
  rw [store_single_bytes_eq]
  simp [List.map_map, List.any_map, Function.comp_def]

/-! ### The law -/

theorem utf16_codepoint_size_pos (codepoint : Nat) : 1 ≤ utf16CodepointSize codepoint := by
  unfold utf16CodepointSize
  split_ifs <;> omega

theorem utf8_codepoint_size_pos (codepoint : Nat) : 1 ≤ utf8CodepointSize codepoint := by
  unfold utf8CodepointSize
  split_ifs <;> omega

theorem wide_codepoints_pos {source : List UInt16} (present : source ≠ []) :
    1 ≤ (wideCodepoints source).length := by
  cases source with
  | nil => exact absurd rfl present
  | cons first rest =>
    rw [wide_codepoints_cons]
    split <;> exact Nat.succ_pos _

theorem utf8_to_utf16_disciplined_with {bytes : List UInt8} (fits : bytes.length ≤ ptrdiffMax)
    (replaceInvalid : Bool) : Disciplined (utf8ToUtf16With replaceInvalid bytes) := by
  cases replaceInvalid with
  | false => exact utf8_to_utf16_disciplined fits
  | true =>
    obtain ⟨chars, -, stores⟩ := utf8_to_utf16_lossy_stores fits
    exact .inr ⟨_, stores⟩

theorem utf16_to_utf8_disciplined_with {units : List UInt16} (fits : 2 * units.length ≤ ptrdiffMax)
    (replaceInvalid : Bool) : Disciplined (utf16ToUtf8With replaceInvalid units) := by
  cases replaceInvalid with
  | false => exact utf16_to_utf8_disciplined fits
  | true =>
    obtain ⟨chars, -, stores⟩ := utf16_to_utf8_lossy_stores fits
    exact .inr ⟨_, stores⟩

theorem multi_byte_law {source : Option (List UInt8)} (narrow : sourceLength ≤ int32Max)
    (readable : Readable 0 source sourceLength) :
    QueryLaw fun capacity =>
      multiByteToWideChar codePage flags source sourceLength (roomFor capacity) := by
  by_cases badFlags : flags &&& ~~~mbErrInvalidChars ≠ 0
  · exact law_of_refused errorInvalidFlags fun capacity _ => if_pos badFlags
  by_cases accepted : argumentsAccepted (normalizeCodePage codePage) (roomFor 0) = false
  · refine law_of_refused errorInvalidParameter fun capacity nonneg => ?_
    unfold multiByteToWideChar
    dsimp only
    rw [if_neg badFlags, arguments_accepted_for nonneg, if_pos accepted]
  cases measured : sourceLengthOf 0 source sourceLength with
  | error error =>
    refine law_of_refused error fun capacity nonneg => ?_
    unfold multiByteToWideChar
    dsimp only
    rw [if_neg badFlags, arguments_accepted_for nonneg, if_neg accepted, measured]
  | ok length =>
    obtain ⟨positive, short, whole⟩ := source_length_ok readable narrow measured
    have bound : int32Max ≤ ptrdiffMax := by decide
    have present : (source.getD []).take length ≠ [] := by
      intro nothing
      rw [nothing, List.length_nil] at whole
      omega
    by_cases utf8 : normalizeCodePage codePage = cpUtf8
    · refine (convert_utf8_law (utf8_to_utf16_disciplined_with (by omega)
        (!(flags &&& mbErrInvalidChars ≠ 0 : Bool))) fun units => stores_nonempty
          utf16_codepoint_size_pos present).congr fun capacity nonneg => ?_
      unfold multiByteToWideChar
      dsimp only
      rw [if_neg badFlags, arguments_accepted_for nonneg, if_neg accepted, measured]
      exact if_pos utf8
    by_cases unmapped : (decide (flags &&& mbErrInvalidChars ≠ 0) = true ∧
        ((source.getD []).take length).any fun byte =>
          (singleByteToUtf16 (normalizeCodePage codePage) byte).isNone)
    · refine law_of_refused errorNoUnicodeTranslation fun capacity nonneg => ?_
      unfold multiByteToWideChar
      dsimp only
      rw [if_neg badFlags, arguments_accepted_for nonneg, if_neg accepted, measured]
      exact (if_neg utf8).trans (if_pos unmapped)
    · refine (finish_units_law (((source.getD []).take length).map fun byte =>
        (singleByteToUtf16 (normalizeCodePage codePage) byte).getD 0xfffd) none
          (List.length_map _) (by omega)).congr fun capacity nonneg => ?_
      unfold multiByteToWideChar
      dsimp only
      rw [if_neg badFlags, arguments_accepted_for nonneg, if_neg accepted, measured]
      exact (if_neg utf8).trans (if_neg unmapped)

theorem wide_char_law {source : Option (List UInt16)} (narrow : sourceLength ≤ int32Max)
    (readable : Readable 0 source sourceLength) (defaultCharacter : Option UInt8)
    (wantsUsedDefault : Bool) :
    QueryLaw fun capacity => wideCharToMultiByte codePage flags source sourceLength
      (roomFor capacity) defaultCharacter wantsUsedDefault := by
  by_cases badFlags : (normalizeCodePage codePage = cpUtf8 ∧ flags &&& ~~~wcErrInvalidChars ≠ 0) ∨
      (normalizeCodePage codePage ≠ cpUtf8 ∧ flags ≠ 0)
  · exact law_of_refused errorInvalidFlags fun capacity _ => if_pos badFlags
  by_cases unaccepted : argumentsAccepted (normalizeCodePage codePage) (roomFor 0) = false ∨
      (normalizeCodePage codePage = cpUtf8 ∧ (defaultCharacter.isSome ∨ wantsUsedDefault = true))
  · refine law_of_refused errorInvalidParameter fun capacity nonneg => ?_
    unfold wideCharToMultiByte
    dsimp only
    rw [if_neg badFlags, arguments_accepted_for nonneg, if_pos unaccepted]
  cases measured : sourceLengthOf 0 source sourceLength with
  | error error =>
    refine law_of_refused error fun capacity nonneg => ?_
    unfold wideCharToMultiByte
    dsimp only
    rw [if_neg badFlags, arguments_accepted_for nonneg, if_neg unaccepted, measured]
  | ok length =>
    obtain ⟨positive, short, whole⟩ := source_length_ok readable narrow measured
    have bound : 2 * int32Max ≤ ptrdiffMax := by decide
    have present : (source.getD []).take length ≠ [] := by
      intro nothing
      rw [nothing, List.length_nil] at whole
      omega
    by_cases utf8 : normalizeCodePage codePage = cpUtf8
    · refine (convert_utf8_law (utf16_to_utf8_disciplined_with (by omega)
        (flags &&& wcErrInvalidChars == 0)) fun units => stores_nonempty
          utf8_codepoint_size_pos present).congr fun capacity nonneg => ?_
      unfold wideCharToMultiByte
      dsimp only
      rw [if_neg badFlags, arguments_accepted_for nonneg, if_neg unaccepted, measured]
      exact if_pos utf8
    · have loops := wide_char_single_byte_loops (normalizeCodePage codePage)
        ((source.getD []).take length) (defaultCharacter.getD 0x3f)
      have stored : (storeSingleBytes (normalizeCodePage codePage) (defaultCharacter.getD 0x3f)
          ((source.getD []).take length) [] false).1.length =
            singleByteRequired ((source.getD []).take length) 0 := by
        rw [loops.1, loops.2, List.length_map, List.length_map]
      have some' : 1 ≤ singleByteRequired ((source.getD []).take length) 0 := by
        rw [loops.1]
        exact wide_codepoints_pos present
      refine (finish_units_law _ (if wantsUsedDefault then
        some (storeSingleBytes (normalizeCodePage codePage) (defaultCharacter.getD 0x3f)
          ((source.getD []).take length) [] false).2 else none) stored some').congr
            fun capacity nonneg => ?_
      unfold wideCharToMultiByte
      dsimp only
      rw [if_neg badFlags, arguments_accepted_for nonneg, if_neg unaccepted, measured, loops.1, loops.2]
      exact if_neg utf8

/-- The size query of both conversions, for every code page, all flags and every source: a call
with room for the counted units stores exactly them, one with less room stores none, and what the
query fails with every call fails with. -/
theorem size_query_law (codePage flags : UInt32) (sourceLength : Int)
    (narrow : sourceLength ≤ int32Max) :
    (∀ source : Option (List UInt8), Readable 0 source sourceLength →
      QueryLaw fun capacity =>
        multiByteToWideChar codePage flags source sourceLength (roomFor capacity)) ∧
    ∀ (source : Option (List UInt16)) (defaultCharacter : Option UInt8) (wantsUsedDefault : Bool),
      Readable 0 source sourceLength →
      QueryLaw fun capacity => wideCharToMultiByte codePage flags source sourceLength
        (roomFor capacity) defaultCharacter wantsUsedDefault :=
  ⟨fun _ readable => multi_byte_law narrow readable,
    fun _ defaultCharacter wantsUsedDefault readable =>
      wide_char_law narrow readable defaultCharacter wantsUsedDefault⟩

/-- The query for a letter answers 1, and the one for a letter and its terminator answers 2. -/
theorem letter_size_queries :
    ((QueryLaw fun capacity => multiByteToWideChar cpUtf8 0 (some [0x41]) 1 (roomFor capacity)) ∧
      (multiByteToWideChar cpUtf8 0 (some [0x41]) 1 (roomFor 0)).count = 1) ∧
      (QueryLaw fun capacity =>
        wideCharToMultiByte cpAcp 0 (some [0x41, 0]) (-1) (roomFor capacity) none true) ∧
      (wideCharToMultiByte cpAcp 0 (some [0x41, 0]) (-1) (roomFor 0) none true).count = 2 := by
  refine ⟨⟨?_, by decide +kernel⟩, ?_, by decide +kernel⟩
  · apply (size_query_law cpUtf8 0 1 (by decide)).1
    intro units same
    cases same
    exact ⟨fun _ => by decide, fun terminated => by contradiction⟩
  · apply (size_query_law cpAcp 0 (-1) (by decide)).2
    intro units same
    cases same
    exact ⟨fun explicit => by contradiction, fun _ => .inl (by decide)⟩

end SadLayer.CodePages
