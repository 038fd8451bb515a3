import SadLayer.CodePages

/-! The single-byte code pages convert back and forth, except that the table of page
1252 marks its unused bytes with U+FFFF, and the search through it takes the mark for
the character. -/
namespace SadLayer.CodePages
open SadLayer.Library

/-- The two code pages with tables. -/
def SingleByte (page : UInt32) : Prop := page = 437 ∨ page = 1252

/-- No byte of the page stands for this: it is malformed, or it is not the image of any. -/
def Foreign (page : UInt32) : Option Nat → Prop
  | none => True
  | some codepoint =>
    ∀ byte unit, singleByteToUtf16 page byte = some unit → unit.toNat ≠ codepoint

/-! ### One character -/

/-- What a byte stands for is no surrogate, and is found again. -/
def imageReturns (page : UInt32) (byte : UInt8) : Bool :=
  match singleByteToUtf16 page byte with
  | none => true
  | some unit => (unit.toNat < 0xd800 || 0xdfff < unit.toNat) &&
      utf16ToSingleByte page unit.toNat == some byte

theorem images_return (page : UInt32) (single : SingleByte page) (byte : UInt8) :
    imageReturns page byte = true := by
  have oem : ∀ value < 256, imageReturns 437 (.ofNat value) = true := by decide +kernel
  have ansi : ∀ value < 256, imageReturns 1252 (.ofNat value) = true := by decide +kernel
  rw [← UInt8.ofNat_toNat (x := byte)]
  rcases single with rfl | rfl
  · exact oem byte.toNat byte.toNat_lt
  · exact ansi byte.toNat byte.toNat_lt

variable {page : UInt32} {byte : UInt8} {unit : UInt16} {codepoint : Nat}

theorem image_returns (single : SingleByte page) (image : singleByteToUtf16 page byte = some unit) :
    utf16ToSingleByte page unit.toNat = some byte ∧
      (unit.toNat < 0xd800 ∨ 0xdfff < unit.toNat) := by
  have returned := images_return page single byte
  rw [imageReturns, image] at returned
  simpa [and_comm] using returned

theorem find_extension_some {table : List UInt16} (short : table.length ≤ 0x80)
    (found : findExtension table codepoint = some byte) :
    ∃ index < table.length, byte.toNat = index + 0x80 ∧ (table.getD index 0).toNat = codepoint := by
  unfold findExtension at found
  rw [Option.map_eq_some_iff] at found
  obtain ⟨index, first, rfl⟩ := found
  obtain ⟨inside, same, -⟩ := first_index_eq_some.mp first
  refine ⟨index, inside, ?_, by simpa using same⟩
  rw [UInt8.toNat_ofNat']
  omega

/-- A code point that is found is the image of its byte, or the mark of the unused bytes. -/
theorem single_byte_found (single : SingleByte page)
    (found : utf16ToSingleByte page codepoint = some byte) :
    (∃ unit, singleByteToUtf16 page byte = some unit ∧ unit.toNat = codepoint) ∨
      page = 1252 ∧ codepoint = 0xffff ∧ singleByteToUtf16 page byte = none := by
  unfold utf16ToSingleByte at found
  have plain (small : codepoint < 0x100) : (UInt8.ofNat codepoint).toNat = codepoint ∧
      (UInt16.ofNat codepoint).toNat = codepoint := by
    rw [UInt8.toNat_ofNat', UInt16.toNat_ofNat']
    omega
  split at found
  · rename_i ascii
    cases found
    obtain ⟨value, wide⟩ := plain (by omega)
    exact .inl ⟨.ofNat codepoint, by rw [singleByteToUtf16, value, if_pos ascii], wide⟩
  split at found
  · rename_i oem
    obtain ⟨index, inside, value, same⟩ := find_extension_some (Nat.le_of_eq rfl) found
    have image : singleByteToUtf16 page byte = some (cp437Extension.getD index 0) := by
      rw [singleByteToUtf16, value, if_neg (by omega), if_pos oem, Nat.add_sub_cancel]
    exact .inl ⟨_, image, same⟩
  rename_i notOem
  have ansi := single.resolve_left notOem
  split at found
  · rename_i latin
    cases found
    obtain ⟨value, wide⟩ := plain (by omega)
    exact .inl ⟨.ofNat codepoint,
      by rw [singleByteToUtf16, value, if_neg (by omega), if_neg notOem, if_neg (by omega)], wide⟩
  · obtain ⟨index, inside, value, same⟩ := find_extension_some (by decide) found
    have below : index < 0x20 := inside
    have image : singleByteToUtf16 page byte =
        if cp1252Extension.getD index 0 = 0xffff then none
        else some (cp1252Extension.getD index 0) := by
      rw [singleByteToUtf16, value, if_neg (by omega), if_neg notOem, if_pos (by omega),
        Nat.add_sub_cancel]
    rw [image]
    split
    · rename_i marked
      rw [marked] at same
      exact .inr ⟨ansi, same.symm, rfl⟩
    · exact .inl ⟨_, rfl, same⟩

/-- What is found is foreign only where it is that mark. -/
theorem foreign_iff (single : SingleByte page) :
    Foreign page (some codepoint) ↔
      utf16ToSingleByte page codepoint = none ∨ page = 1252 ∧ codepoint = 0xffff := by
  constructor
  · intro foreign
    cases found : utf16ToSingleByte page codepoint with
    | none => exact .inl rfl
    | some byte =>
      rcases single_byte_found single found with ⟨unit, image, same⟩ | ⟨ansi, marked, -⟩
      · exact absurd same (foreign byte unit image)
      · exact .inr ⟨ansi, marked⟩
  · rintro (missing | ⟨rfl, rfl⟩) byte unit image same
    · have returned := (image_returns single image).1
      rw [same, missing] at returned
      cases returned
    · have returned := (image_returns single image).1
      rw [same, show utf16ToSingleByte 1252 0xffff = some 0x81 by decide +kernel] at returned
      cases returned
      rw [show singleByteToUtf16 1252 0x81 = none by decide +kernel] at image
      cases image

/-! ### Strings -/

theorem decode_wide_cases {first : UInt16} {rest : List UInt16} {decoded : Nat × Nat}
    (known : decodeWideCodepoint (first :: rest) = some decoded) :
    decoded = (first.toNat, 1) ∧ (first.toNat < 0xd800 ∨ 0xdfff < first.toNat) ∨
      0x10000 ≤ decoded.1 ∧ first.toNat < 0xe000 ∧ ∃ second behind, rest = second :: behind ∧
        decoded.2 = 2 ∧ second.toNat < 0xe000 := by
  unfold decodeWideCodepoint Unicode.decodeUtf16 at known
  dsimp only at known
  split at known
  · cases rest with
    | nil => cases known
    | cons second behind =>
      dsimp only at known
      split at known
      · cases known
      · obtain rfl := Option.some_inj.mp known
        exact .inr ⟨by dsimp only; omega, by omega, second, behind, rfl, rfl, by omega⟩
  · split at known
    · cases known
    · obtain rfl := Option.some_inj.mp known
      exact .inl ⟨rfl, by omega⟩

theorem wide_codepoints_cons {first : UInt16} {rest : List UInt16} :
    wideCodepoints (first :: rest) =
      match decodeWideCodepoint (first :: rest) with
      | none => none :: wideCodepoints rest
      | some (codepoint, consumed) =>
        some codepoint :: wideCodepoints (rest.drop (consumed - 1)) := by
  rcases known : decodeWideCodepoint (first :: rest) with - | ⟨codepoint, consumed⟩ <;>
    rw [wideCodepoints, known]

/-- Units that are no surrogates are their own code points. -/
theorem wide_codepoints_plain (units : List UInt16)
    (plain : ∀ unit ∈ units, unit.toNat < 0xd800 ∨ 0xdfff < unit.toNat) :
    wideCodepoints units = units.map fun unit => some unit.toNat := by
  induction units with
  | nil => rw [wideCodepoints, List.map_nil]
  | cons first rest ih =>
    have here := plain first (List.mem_cons_self ..)
    have decoded : decodeWideCodepoint (first :: rest) = some (first.toNat, 1) := by
      unfold decodeWideCodepoint Unicode.decodeUtf16
      dsimp only
      rw [if_neg (by omega), if_neg (by omega)]
    rw [wide_codepoints_cons, decoded, List.map_cons, ← ih fun unit inside =>
      plain unit (List.mem_cons_of_mem _ inside)]
    rfl

/-- Code points of one unit each are those of the units themselves. -/
theorem wide_codepoints_narrow (units : List UInt16)
    (narrow : ∀ codepoint ∈ wideCodepoints units, ∃ value < 0x10000, codepoint = some value) :
    wideCodepoints units = units.map fun unit => some unit.toNat := by
  fun_induction wideCodepoints units with
  | case1 => rfl
  | case2 first rest malformed ih =>
    obtain ⟨value, -, none⟩ := narrow none (List.mem_cons_self ..)
    cases none
  | case3 first rest codepoint consumed known ih =>
    obtain ⟨value, small, same⟩ := narrow (some codepoint) (List.mem_cons_self ..)
    cases same
    rcases decode_wide_cases known with ⟨plain, -⟩ | ⟨large, -⟩
    · cases plain
      rw [Nat.sub_self, List.drop_zero] at ih
      rw [List.map_cons, Nat.sub_self, List.drop_zero, ih fun codepoint inside =>
        narrow codepoint (List.mem_cons_of_mem _ inside)]
    · dsimp only at large
      omega

theorem wide_codepoints_length_le (units : List UInt16) :
    (wideCodepoints units).length ≤ units.length := by
  fun_induction wideCodepoints units with
  | case1 => exact Nat.le_refl _
  | case2 first rest malformed ih => exact Nat.succ_le_succ ih
  | case3 first rest codepoint consumed known ih =>
    have shorter := (rest.drop_sublist (consumed - 1)).length_le
    simp only [List.length_cons]
    omega

/-- The mark of the unused bytes is a character of its own, and no other is decoded to it. -/
theorem mark_mem_codepoints (units : List UInt16) :
    some 0xffff ∈ wideCodepoints units ↔ 0xffff ∈ units := by
  have whole (unit : UInt16) : (0xffff : UInt16) = unit ↔ 0xffff = unit.toNat := by
    rw [← UInt16.toNat_inj]
    rfl
  fun_induction wideCodepoints units with
  | case1 => simp
  | case2 first rest malformed ih =>
    have other : (0xffff : UInt16) ≠ first := by
      rintro rfl
      cases malformed
    rw [List.mem_cons, List.mem_cons, or_iff_right nofun, or_iff_right other]
    exact ih
  | case3 first rest codepoint consumed known ih =>
    rw [List.mem_cons, List.mem_cons, Option.some_inj, whole]
    rcases decode_wide_cases known with ⟨plain, -⟩ | ⟨large, low, second, behind, rfl, two, low'⟩
    · cases plain
      exact or_congr_right ih
    · dsimp only at large two
      subst two
      rw [List.mem_cons, whole, or_iff_right (by omega), or_iff_right (by omega),
        or_iff_right (by omega)]
      exact ih

/-! ### Whole conversions -/

/-- A destination that is there, apart from the source, and large enough for so many units. -/
def Destination.Holds (destination : Destination) (count : Nat) : Prop :=
  destination.isNull = false ∧ destination.isSource = false ∧ (count : Int) ≤ destination.capacity

variable {codePage : UInt32} {destination : Destination}

theorem arguments_accepted {count : Nat} (single : SingleByte page)
    (holds : destination.Holds count) : argumentsAccepted page destination = true := by
  obtain ⟨present, apart, room⟩ := holds
  have known : (page != 437 && page != 1252 && page != cpUtf8) = false := by
    rcases single with rfl | rfl <;> decide
  unfold argumentsAccepted
  rw [known, present, apart]
  simp
  omega

theorem not_utf8 (single : SingleByte page) : page ≠ cpUtf8 := by
  rcases single with rfl | rfl <;> decide

theorem source_length_explicit {element : Type} [BEq element] (zero : element)
    {units : List element} (nonempty : units ≠ []) :
    sourceLengthOf zero (some units) units.length = .ok units.length := by
  have positive := List.length_pos_iff.mpr nonempty
  unfold sourceLengthOf
  dsimp only
  rw [if_neg (by omega), if_neg (by omega), Int.toNat_natCast]

theorem finish_conversion {element : Type} {required : Nat} {store : Converted element}
    (positive : 0 < required) (fits : required ≤ int32Max) (holds : destination.Holds required) :
    finishConversion required destination store = store := by
  have room := holds.2.2
  unfold finishConversion
  rw [if_neg (by omega), if_neg (by omega), if_neg (by omega)]

theorem wide_char_to_multi_byte_single (single : SingleByte (normalizeCodePage codePage))
    {units : List UInt16} (nonempty : units ≠ []) (fits : units.length ≤ int32Max)
    (holds : destination.Holds (wideCodepoints units).length) (default : Option UInt8) :
    wideCharToMultiByte codePage 0 (some units) units.length destination default true = {
      count := (wideCodepoints units).length
      stored := (wideCodepoints units).map fun codepoint =>
        (codepoint.bind (utf16ToSingleByte (normalizeCodePage codePage))).getD (default.getD 0x3f)
      usedDefault := some ((wideCodepoints units).any fun codepoint =>
        (codepoint.bind (utf16ToSingleByte (normalizeCodePage codePage))).isNone) } := by
  have positive : 0 < (wideCodepoints units).length := by
    cases units with
    | nil => exact absurd rfl nonempty
    | cons first rest =>
      rw [wide_codepoints_cons]
      split <;> exact Nat.succ_pos _
  have whole : (List.take units.length ((some units).getD [])) = units := List.take_length
  unfold wideCharToMultiByte
  dsimp only
  rw [if_neg (by simp [not_utf8 single]),
    if_neg (by simp [not_utf8 single, arguments_accepted single holds]),
    source_length_explicit 0 nonempty]
  dsimp only
  rw [whole, if_neg (not_utf8 single),
    finish_conversion positive ((wide_codepoints_length_le units).trans fits) holds]
  simp [List.map_map, List.any_map, Function.comp_def]

theorem multi_byte_to_wide_char_single (single : SingleByte (normalizeCodePage codePage))
    {bytes : List UInt8} (nonempty : bytes ≠ []) (fits : bytes.length ≤ int32Max)
    (holds : destination.Holds bytes.length) :
    multiByteToWideChar codePage mbErrInvalidChars (some bytes) bytes.length destination =
      if bytes.any fun byte => (singleByteToUtf16 (normalizeCodePage codePage) byte).isNone then
        refused errorNoUnicodeTranslation
      else {
        count := bytes.length
        stored := bytes.map fun byte =>
          (singleByteToUtf16 (normalizeCodePage codePage) byte).getD 0xfffd } := by
  have whole : (List.take bytes.length ((some bytes).getD [])) = bytes := List.take_length
  unfold multiByteToWideChar
  dsimp only
  rw [if_neg (by decide), arguments_accepted single holds, if_neg (by simp),
    source_length_explicit 0 nonempty]
  dsimp only
  rw [whole, if_neg (not_utf8 single),
    finish_conversion (List.length_pos_iff.mpr nonempty) fits holds]
  simp [mbErrInvalidChars]

/-! ### Round trips -/

/-- Converting these units reports the default character exactly when one of their characters is
foreign to the page, and otherwise the bytes convert strictly back to the units. -/
def ConvertsFaithfully (codePage : UInt32) (units : List UInt16) (there : Destination)
    (default : Option UInt8) : Prop :=
  let bytes := wideCharToMultiByte codePage 0 (some units) units.length there default true
  (bytes.usedDefault = some false → ∀ back : Destination, back.Holds bytes.stored.length →
    multiByteToWideChar codePage mbErrInvalidChars (some bytes.stored) bytes.stored.length back =
      { count := units.length, stored := units }) ∧
  (bytes.usedDefault = some true ↔
    ∃ codepoint ∈ wideCodepoints units, Foreign (normalizeCodePage codePage) codepoint)

theorem foreign_character_iff (single : SingleByte page) (character : Option Nat) :
    Foreign page character ↔
      character.bind (utf16ToSingleByte page) = none ∨ page = 1252 ∧ character = some 0xffff := by
  cases character with
  | none => exact iff_of_true trivial (.inl rfl)
  | some codepoint => rw [foreign_iff single, Option.bind_some, Option.some_inj]

/-- Characters of which each has a byte of its own come back as the units they were. -/
theorem images_convert_back (single : SingleByte page) (units : List UInt16) (default : UInt8)
    (images : ∀ character ∈ wideCodepoints units, ¬ Foreign page character) :
    ∃ bytes : List UInt8, ((wideCodepoints units).map fun character =>
        (character.bind (utf16ToSingleByte page)).getD default) = bytes ∧
      bytes.map (singleByteToUtf16 page) = units.map some := by
  have image (character : Option Nat) (inside : character ∈ wideCodepoints units) :
      ∃ byte unit, singleByteToUtf16 page byte = some unit ∧ character = some unit.toNat := by
    have known := images character inside
    cases character with
    | none => exact absurd trivial known
    | some codepoint =>
      simp only [Foreign, not_forall, not_not] at known
      obtain ⟨byte, unit, image, rfl⟩ := known
      exact ⟨byte, unit, image, rfl⟩
  have narrow := wide_codepoints_narrow units fun character inside => by
    obtain ⟨byte, unit, -, rfl⟩ := image character inside
    exact ⟨unit.toNat, unit.toNat_lt, rfl⟩
  refine ⟨_, rfl, ?_⟩
  rw [narrow, List.map_map, List.map_map]
  refine List.map_congr_left fun unit inside => ?_
  obtain ⟨byte, found, known, same⟩ := image (some unit.toNat) (by
    rw [narrow]
    exact List.mem_map_of_mem inside)
  rw [Option.some_inj, UInt16.toNat_inj] at same
  subst same
  rw [Function.comp, Function.comp, Option.bind_some, (image_returns single known).1,
    Option.getD_some, known]

/-- A conversion is faithful exactly when the search finds no byte for a foreign character, or
finds none for another one. -/
theorem converts_faithfully_iff (single : SingleByte (normalizeCodePage codePage))
    {units : List UInt16} (nonempty : units ≠ []) (fits : units.length ≤ int32Max)
    (holds : destination.Holds (wideCodepoints units).length) (default : Option UInt8) :
    ConvertsFaithfully codePage units destination default ↔
      ((∃ character ∈ wideCodepoints units, Foreign (normalizeCodePage codePage) character) →
        ∃ character ∈ wideCodepoints units,
          character.bind (utf16ToSingleByte (normalizeCodePage codePage)) = none) := by
  unfold ConvertsFaithfully
  rw [wide_char_to_multi_byte_single single nonempty fits holds]
  have used : some ((wideCodepoints units).any fun codepoint =>
      (codepoint.bind (utf16ToSingleByte (normalizeCodePage codePage))).isNone) = some true ↔
      ∃ character ∈ wideCodepoints units,
        character.bind (utf16ToSingleByte (normalizeCodePage codePage)) = none := by
    simp only [Option.some_inj, List.any_eq_true, Option.isNone_iff_eq_none]
  dsimp only
  rw [used]
  constructor
  · rintro ⟨-, reported⟩
    exact reported.mpr
  · intro found
    refine ⟨fun unused back backHolds => ?_, ?_, found⟩
    · have images : ∀ character ∈ wideCodepoints units,
          ¬ Foreign (normalizeCodePage codePage) character := fun character inside foreign => by
        have missing := used.mpr (found ⟨character, inside, foreign⟩)
        rw [unused] at missing
        cases missing
      obtain ⟨bytes, stored, returned⟩ :=
        images_convert_back single units (default.getD 0x3f) images
      have same : bytes.length = units.length := by
        simpa only [List.length_map] using congrArg List.length returned
      rw [stored] at backHolds ⊢
      rw [multi_byte_to_wide_char_single single (List.length_pos_iff.mp
        (same ▸ List.length_pos_iff.mpr nonempty)) (by omega) backHolds]
      have mapped : bytes.any (fun byte =>
          (singleByteToUtf16 (normalizeCodePage codePage) byte).isNone) = false := by
        rw [List.any_eq_false]
        intro byte inside
        have member := List.mem_map_of_mem (f := singleByteToUtf16 (normalizeCodePage codePage))
          inside
        rw [returned, List.mem_map] at member
        obtain ⟨unit, -, image⟩ := member
        rw [← image]
        exact Bool.false_ne_true
      have wide := congrArg (List.map fun unit : Option UInt16 => unit.getD 0xfffd) returned
      simp only [List.map_map, Function.comp_def, Option.getD_some, List.map_id'] at wide
      rw [mapped, wide, same]
      rfl
    · rintro ⟨character, inside, missing⟩
      exact ⟨character, inside, (foreign_character_iff single _).mpr (.inl missing)⟩

/-- Bytes that all stand for something come back from the units they stand for. -/
theorem accepted_bytes_return (single : SingleByte (normalizeCodePage codePage))
    {bytes : List UInt8} (nonempty : bytes ≠ []) (fits : bytes.length ≤ int32Max)
    (holds : destination.Holds bytes.length) (default : Option UInt8)
    (mapped : ∀ byte ∈ bytes, ∃ unit,
      singleByteToUtf16 (normalizeCodePage codePage) byte = some unit) {units : List UInt16}
    (stored : units = bytes.map fun byte =>
      (singleByteToUtf16 (normalizeCodePage codePage) byte).getD 0xfffd) :
    wideCharToMultiByte codePage 0 (some units) units.length destination default true =
      { count := bytes.length, stored := bytes, usedDefault := some false } := by
  have same : units.length = bytes.length := by rw [stored, List.length_map]
  have image (byte : UInt8) (inside : byte ∈ bytes) : ∃ unit,
      singleByteToUtf16 (normalizeCodePage codePage) byte = some unit ∧
        utf16ToSingleByte (normalizeCodePage codePage) unit.toNat = some byte ∧
        (unit.toNat < 0xd800 ∨ 0xdfff < unit.toNat) := by
    obtain ⟨unit, known⟩ := mapped byte inside
    exact ⟨unit, known, image_returns single known⟩
  have characters : wideCodepoints units = units.map fun unit => some unit.toNat := by
    refine wide_codepoints_plain units fun unit inside => ?_
    rw [stored, List.mem_map] at inside
    obtain ⟨byte, member, rfl⟩ := inside
    obtain ⟨unit, known, -, plain⟩ := image byte member
    rwa [known, Option.getD_some]
  have found : (wideCodepoints units).map (fun character =>
      character.bind (utf16ToSingleByte (normalizeCodePage codePage))) = bytes.map some := by
    rw [characters, stored, List.map_map, List.map_map]
    refine List.map_congr_left fun byte inside => ?_
    obtain ⟨unit, known, returned, -⟩ := image byte inside
    rw [Function.comp, Function.comp, known, Option.getD_some, Option.bind_some, returned]
  have count : (wideCodepoints units).length = bytes.length := by
    rw [characters, List.length_map, same]
  rw [wide_char_to_multi_byte_single single (List.length_pos_iff.mp
    (same ▸ List.length_pos_iff.mpr nonempty)) (by omega) (count ▸ holds), count]
  have written := congrArg (List.map fun byte : Option UInt8 => byte.getD (default.getD 0x3f)) found
  have replaced := congrArg (List.any · Option.isNone) found
  simp only [List.map_map, Function.comp_def, Option.getD_some, List.map_id'] at written
  simp only [List.any_map, Function.comp_def, Option.isNone_some] at replaced
  rw [written, replaced]
  simp

/-- On the single-byte pages a conversion is faithful unless, on page 1252, U+FFFF is the only
character without a byte; and what a strict conversion accepts always converts back. -/
theorem single_byte_round_trip_iff (codePage : UInt32)
    (single : SingleByte (normalizeCodePage codePage)) :
    (∀ (units : List UInt16) (there : Destination) (default : Option UInt8), units ≠ [] →
      units.length ≤ int32Max → there.Holds (wideCodepoints units).length →
      (ConvertsFaithfully codePage units there default ↔
        normalizeCodePage codePage = 437 ∨ 0xffff ∉ units ∨
          ∃ character ∈ wideCodepoints units, character ≠ some 0xffff ∧
            Foreign (normalizeCodePage codePage) character)) ∧
    ∀ (bytes : List UInt8) (back there : Destination) (default : Option UInt8), bytes ≠ [] →
      bytes.length ≤ int32Max → back.Holds bytes.length → there.Holds bytes.length →
      let wide := multiByteToWideChar codePage mbErrInvalidChars (some bytes) bytes.length back
      wide.lastError = none →
      wideCharToMultiByte codePage 0 (some wide.stored) wide.stored.length there default true =
        { count := bytes.length, stored := bytes, usedDefault := some false } := by
  constructor
  · intro units there default nonempty fits holds
    rw [converts_faithfully_iff single nonempty fits holds, ← mark_mem_codepoints]
    constructor
    · intro found
      by_cases oem : normalizeCodePage codePage = 437
      · exact .inl oem
      have ansi := single.resolve_left oem
      by_cases marked : some 0xffff ∈ wideCodepoints units
      · obtain ⟨character, inside, missing⟩ := found ⟨_, marked,
          (foreign_character_iff single _).mpr (.inr ⟨ansi, rfl⟩)⟩
        have foreign := (foreign_character_iff single character).mpr (.inl missing)
        refine .inr (.inr ⟨character, inside, ?_, foreign⟩)
        rintro rfl
        rw [ansi] at missing
        exact absurd missing (by decide +kernel)
      · exact .inr (.inl marked)
    · rintro known ⟨character, inside, foreign⟩
      have missing {character : Option Nat} (inside : character ∈ wideCodepoints units)
          (foreign : Foreign (normalizeCodePage codePage) character)
          (other : ¬ (normalizeCodePage codePage = 1252 ∧ character = some 0xffff)) :
          ∃ character ∈ wideCodepoints units,
            character.bind (utf16ToSingleByte (normalizeCodePage codePage)) = none :=
        ⟨character, inside, ((foreign_character_iff single _).mp foreign).resolve_right other⟩
      rcases known with oem | unmarked | ⟨other, inside', unmarked, foreign'⟩
      · exact missing inside foreign (by rw [oem]; rintro ⟨⟨⟩, -⟩)
      · exact missing inside foreign (by rintro ⟨-, rfl⟩; exact unmarked inside)
      · exact missing inside' foreign' fun marked => unmarked marked.2
  · intro bytes back there default nonempty fits backHolds thereHolds wide accepted
    have converted := multi_byte_to_wide_char_single single nonempty fits backHolds
    have mapped : ∀ byte ∈ bytes, ∃ unit,
        singleByteToUtf16 (normalizeCodePage codePage) byte = some unit := by
      intro byte inside
      by_contra missing
      have unmapped : bytes.any (fun byte =>
          (singleByteToUtf16 (normalizeCodePage codePage) byte).isNone) = true :=
        List.any_eq_true.mpr ⟨byte, inside, by
          rw [Option.isNone_iff_eq_none, Option.eq_none_iff_forall_ne_some]
          exact fun unit image => missing ⟨unit, image⟩⟩
      rw [unmapped, if_pos rfl] at converted
      rw [show wide = _ from converted] at accepted
      cases accepted
    have stored : wide.stored = bytes.map fun byte =>
        (singleByteToUtf16 (normalizeCodePage codePage) byte).getD 0xfffd := by
      rw [show wide = _ from converted, if_neg]
      rw [List.any_eq_true]
      rintro ⟨byte, inside, missing⟩
      obtain ⟨unit, image⟩ := mapped byte inside
      rw [image] at missing
      cases missing
    exact accepted_bytes_return single nonempty fits thereHolds default mapped stored

theorem currency_sign_converts :
    ConvertsFaithfully 1252 [0x20ac, 0x31] { isNull := false, isSource := false, capacity := 2 }
      none := by
  refine ((single_byte_round_trip_iff 1252 (.inr rfl)).1 [0x20ac, 0x31] _ none (by simp)
    (by decide) ⟨rfl, rfl, ?_⟩).mpr (.inr (.inl (by decide)))
  have short := wide_codepoints_length_le [0x20ac, 0x31]
  exact Int.ofNat_le.mpr short

/-- On page 1252 the character U+FFFF becomes the byte 0x81, reported as its own, which no strict
conversion takes back. -/
theorem mark_converts_to_unused_byte :
    ¬ ∀ (units : List UInt16) (there back : Destination) (default : Option UInt8), units ≠ [] →
      units.length ≤ int32Max → there.Holds (wideCodepoints units).length →
      let bytes := wideCharToMultiByte 1252 0 (some units) units.length there default true
      bytes.usedDefault = some false → back.Holds bytes.stored.length →
      multiByteToWideChar 1252 mbErrInvalidChars (some bytes.stored) bytes.stored.length back =
        { count := units.length, stored := units } := by
  intro faithful
  have character : wideCodepoints [0xffff] = [some 0xffff] :=
    wide_codepoints_plain [0xffff] fun unit inside => by
      rw [List.mem_singleton.mp inside]
      exact .inr (by decide)
  have room : Destination.Holds { isNull := false, isSource := false, capacity := 1 } 1 :=
    ⟨rfl, rfl, Int.le_refl 1⟩
  have converted := @wide_char_to_multi_byte_single 1252 _ (.inr rfl) [0xffff] (by simp)
    (by decide) (by rw [character]; exact room) none
  have byte : (Option.bind (some 0xffff) (utf16ToSingleByte (normalizeCodePage 1252))) =
      some 0x81 := by
    decide +kernel
  simp only [character, List.map_cons, List.map_nil, List.any_cons, List.any_nil, byte,
    Option.getD_some, Option.isNone_some, List.length_singleton] at converted
  have returned := faithful [0xffff] _ { isNull := false, isSource := false, capacity := 1 } none
    (by simp) (by decide) (by rw [character]; exact room)
    (by rw [List.length_singleton, converted]; rfl)
    (by rw [List.length_singleton, converted]; exact room)
  rw [List.length_singleton, converted] at returned
  exact absurd returned (by decide +kernel)

end SadLayer.CodePages
