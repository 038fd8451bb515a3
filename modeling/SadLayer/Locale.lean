import SadLayer.SizeQueries

/-! `GetStringTypeW` and `LCMapStringW` for the characters of the Western code page: their
classes, and their simple case mappings. -/
namespace SadLayer.Locale
open SadLayer.Library SadLayer.Unicode SadLayer.CodePages

def ctCtype1 : UInt32 := 1
def c1Upper : UInt16 := 0x0001
def c1Lower : UInt16 := 0x0002
def c1Digit : UInt16 := 0x0004
def c1Space : UInt16 := 0x0008
def c1Punct : UInt16 := 0x0010
def c1Cntrl : UInt16 := 0x0020
def c1Blank : UInt16 := 0x0040
def c1Xdigit : UInt16 := 0x0080
def c1Alpha : UInt16 := 0x0100
def c1Defined : UInt16 := 0x0200
def lcmapLowercase : UInt32 := 0x0100
def lcmapUppercase : UInt32 := 0x0200

/-! ### One unit -/

def isSupportedCtype1Unit (unit : UInt16) : Bool :=
  unit ≤ 0x00ff || [0x0152, 0x0153, 0x0160, 0x0161, 0x0178, 0x017d, 0x017e, 0x0192, 0x02c6,
    0x02dc, 0x2013, 0x2014, 0x2018, 0x2019, 0x201a, 0x201c, 0x201d, 0x201e, 0x2020, 0x2021,
    0x2022, 0x2026, 0x2030, 0x2039, 0x203a, 0x20ac, 0x2122].contains unit

/-- A class, where it applies. -/
def flagIf (holds : Bool) (flag : UInt16) : UInt16 := if holds then flag else 0

def classifyCtype1 (unit : UInt16) : UInt16 :=
  let within (first last : UInt16) : Bool := first ≤ unit && unit ≤ last
  let asciiUpper := within 0x41 0x5a
  let asciiLower := within 0x61 0x7a
  let latinUpper := within 0x00c0 0x00d6 || within 0x00d8 0x00de || unit == 0x0152 ||
    unit == 0x0160 || unit == 0x0178 || unit == 0x017d
  let latinLower := unit == 0x00aa || unit == 0x00b5 || unit == 0x00ba || within 0x00df 0x00f6 ||
    within 0x00f8 0x00ff || unit == 0x0153 || unit == 0x0161 || unit == 0x017e || unit == 0x0192
  let digit := within 0x30 0x39
  let control := unit ≤ 0x001f || within 0x007f 0x009f
  let space := unit == 0x20 || within 0x0009 0x000d || unit == 0x0085 || unit == 0x00a0
  let blank := unit == 0x20 || unit == 0x09 || unit == 0x00a0
  let punctuation := within 0x21 0x2f || within 0x3a 0x40 || within 0x5b 0x60 ||
    within 0x7b 0x7e || (0x00a1 ≤ unit && !latinUpper && !latinLower && !space)
  let hexDigit := digit || within 0x41 0x46 || within 0x61 0x66
  let defined := !within 0xd800 0xdfff && unit != 0xfffe && unit != 0xffff
  let result := flagIf (asciiUpper || latinUpper) (c1Upper ||| c1Alpha) |||
    flagIf (asciiLower || latinLower) (c1Lower ||| c1Alpha) ||| flagIf digit c1Digit |||
    flagIf space c1Space ||| flagIf punctuation c1Punct ||| flagIf control c1Cntrl |||
    flagIf blank c1Blank ||| flagIf hexDigit c1Xdigit
  if defined && result == 0 then result ||| c1Defined else result

def mapSimpleCase (unit : UInt16) (uppercase : Bool) : UInt16 :=
  if uppercase then
    if 0x61 ≤ unit ∧ unit ≤ 0x7a then unit - (0x61 - 0x41)
    else if (0x00e0 ≤ unit ∧ unit ≤ 0x00f6) ∨ (0x00f8 ≤ unit ∧ unit ≤ 0x00fe) then unit - 0x20
    else if unit = 0x0153 ∨ unit = 0x0161 ∨ unit = 0x017e then unit - 1
    else if unit = 0x00ff then 0x0178
    else unit
  else if 0x41 ≤ unit ∧ unit ≤ 0x5a then unit + (0x61 - 0x41)
  else if (0x00c0 ≤ unit ∧ unit ≤ 0x00d6) ∨ (0x00d8 ≤ unit ∧ unit ≤ 0x00de) then unit + 0x20
  else if unit = 0x0152 ∨ unit = 0x0160 ∨ unit = 0x017d then unit + 1
  else if unit = 0x0178 then 0x00ff
  else unit

/-! ### Texts -/

def localeSourceLength (source : Option (List UInt16)) (sourceLength : Int) : Except Nat Nat :=
  match source with
  | none => .error errorInvalidParameter
  | some units =>
    if sourceLength = 0 then .error errorInvalidParameter
    else if sourceLength < 0 then
      let measured := (units.takeWhile (· != 0)).length
      if measured > int32Max - 1 then .error errorInvalidParameter else .ok (measured + 1)
    else .ok sourceLength.toNat

/-- `sl_kernel32_get_string_type_w`: the types it stores, or the last error. -/
def getStringTypeW (informationType : UInt32) (source : Option (List UInt16)) (sourceLength : Int)
    (characterTypes : Destination) : Except Nat (List UInt16) :=
  if informationType ≠ ctCtype1 then .error errorInvalidFlags
  else if characterTypes.isNull ∨ characterTypes.isSource then .error errorInvalidParameter
  else match localeSourceLength source sourceLength with
    | .error error => .error error
    | .ok length =>
      let units := (source.getD []).take length
      if units.all isSupportedCtype1Unit = false then .error errorNoUnicodeTranslation
      else .ok (units.map classifyCtype1)

def isSupportedLcid (locale : UInt32) : Bool :=
  locale == 0x007f || locale == 0x0400 || locale == 0x0800 || locale == 0x0409 ||
    locale == 0x0416

/-- `sl_kernel32_lc_map_string_w`. It may map a text in place. -/
def lcMapStringW (locale flags : UInt32) (source : Option (List UInt16)) (sourceLength : Int)
    (destination : Destination) : Converted UInt16 :=
  if flags ≠ lcmapLowercase ∧ flags ≠ lcmapUppercase then refused errorInvalidFlags
  else if isSupportedLcid locale = false ∨ destination.capacity < 0 ∨
      (destination.isNull = true ∧ destination.capacity ≠ 0) then refused errorInvalidParameter
  else match localeSourceLength source sourceLength with
    | .error error => refused error
    | .ok length =>
      let units := (source.getD []).take length
      if units.all isSupportedCtype1Unit = false then refused errorNoUnicodeTranslation
      else if destination.capacity = 0 then { count := length }
      else if destination.capacity < length then refused errorInsufficientBuffer
      else {
        count := length
        stored := units.map fun unit => mapSimpleCase unit (flags == lcmapUppercase) }

/-! ### Cases of a unit -/

variable {unit : UInt16} {byte : UInt8} {uppercase : Bool}

theorem map_simple_case_large (large : 0x200 ≤ unit.toNat) :
    mapSimpleCase unit uppercase = unit := by
  unfold mapSimpleCase
  simp only [UInt16.le_iff_toNat_le, ← UInt16.toNat_inj, UInt16.reduceToNat]
  split_ifs <;> first | rfl | omega

/-- Mapping to one case and then to another is mapping to the other. -/
theorem map_simple_case_twice (unit : UInt16) (first second : Bool) :
    mapSimpleCase (mapSimpleCase unit first) second = mapSimpleCase unit second := by
  by_cases large : 0x200 ≤ unit.toNat
  · rw [map_simple_case_large large]
  · have small : ∀ value < 0x200, ∀ first second : Bool,
        mapSimpleCase (mapSimpleCase (.ofNat value) first) second =
          mapSimpleCase (.ofNat value) second := by decide +kernel
    rw [← UInt16.ofNat_toNat (x := unit)]
    exact small unit.toNat (by omega) first second

theorem classify_large (large : 0x200 ≤ unit.toNat) : classifyCtype1 unit = c1Punct := by
  have least {bound : UInt16} (low : bound.toNat < 0x200) : ¬ unit ≤ bound := by
    rw [UInt16.le_iff_toNat_le]
    omega
  have other {value : UInt16} (low : value.toNat < 0x200) : (unit == value) = false := by
    rw [beq_eq_false_iff_ne]
    rintro rfl
    omega
  have inside : (0x00a1 : UInt16) ≤ unit := by
    rw [UInt16.le_iff_toNat_le]
    exact le_trans (by decide) large
  simp [classifyCtype1, least, other, inside, flagIf, c1Punct]

/-- The upper-case units are those with another lower case. -/
theorem upper_iff (unit : UInt16) :
    classifyCtype1 unit &&& c1Upper ≠ 0 ↔ mapSimpleCase unit false ≠ unit := by
  by_cases large : 0x200 ≤ unit.toNat
  · rw [map_simple_case_large large, classify_large large]
    exact iff_of_false (by decide) (· rfl)
  · have small : ∀ value < 0x200, classifyCtype1 (.ofNat value) &&& c1Upper ≠ 0 ↔
        mapSimpleCase (.ofNat value) false ≠ .ofNat value := by decide +kernel
    rw [← UInt16.ofNat_toNat (x := unit)]
    exact small unit.toNat (by omega)

/-- The byte a byte of the code page is mapped to. -/
def caseByte (uppercase : Bool) (byte : UInt8) : UInt8 :=
  match singleByteToUtf16 1252 byte with
  | none => byte
  | some unit => (utf16ToSingleByte 1252 (mapSimpleCase unit uppercase).toNat).getD byte

/-- What is asked of a byte: its unit is supported, and so is its unit in either case, which is that
of a byte again. -/
def staysInPage (byte : UInt8) : Bool :=
  match singleByteToUtf16 1252 byte with
  | none => true
  | some unit => isSupportedCtype1Unit unit &&
      singleByteToUtf16 1252 (caseByte true byte) == some (mapSimpleCase unit true) &&
      singleByteToUtf16 1252 (caseByte false byte) == some (mapSimpleCase unit false)

theorem stays_in_page (byte : UInt8) : staysInPage byte = true := by
  have all : ∀ value < 256, staysInPage (.ofNat value) = true := by decide +kernel
  rw [← UInt8.ofNat_toNat (x := byte)]
  exact all byte.toNat byte.toNat_lt

theorem case_byte_image (uppercase : Bool) (image : singleByteToUtf16 1252 byte = some unit) :
    isSupportedCtype1Unit unit = true ∧
      singleByteToUtf16 1252 (caseByte uppercase byte) = some (mapSimpleCase unit uppercase) := by
  have stays := stays_in_page byte
  rw [staysInPage, image] at stays
  simp only [Bool.and_eq_true, beq_iff_eq] at stays
  cases uppercase
  · exact ⟨stays.1.1, stays.2⟩
  · exact ⟨stays.1.1, stays.1.2⟩

/-- A byte with another lower case is one whose unit has another. -/
theorem case_byte_moves_iff (image : singleByteToUtf16 1252 byte = some unit) :
    caseByte uppercase byte ≠ byte ↔ mapSimpleCase unit uppercase ≠ unit := by
  have moved := (case_byte_image uppercase image).2
  have found := image_returns (.inr rfl) moved
  refine not_congr ⟨fun same => ?_, fun same => ?_⟩
  · rw [same, image] at moved
    exact (Option.some.inj moved).symm
  · rw [same] at found
    exact Option.some.inj (found.1.symm.trans (image_returns (.inr rfl) image).1)

/-! ### Texts of the code page -/

/-- A text of the Western code page: it is not empty, its length fits a call, and each byte stands
for a character. -/
structure WesternText where
  bytes : List UInt8
  present : bytes ≠ []
  fits : bytes.length ≤ int32Max
  mapped : ∀ byte ∈ bytes, ∃ unit, singleByteToUtf16 1252 byte = some unit

namespace WesternText

/-- What its bytes stand for. -/
def units (text : WesternText) : List UInt16 :=
  text.bytes.map fun byte => (singleByteToUtf16 1252 byte).getD 0xfffd

/-- The text in one case is one of the code page as well. -/
def cased (text : WesternText) (uppercase : Bool) : WesternText where
  bytes := text.bytes.map (caseByte uppercase)
  present := by simpa using text.present
  fits := by simpa using text.fits
  mapped := by
    intro byte inside
    obtain ⟨source, member, rfl⟩ := List.mem_map.mp inside
    obtain ⟨unit, image⟩ := text.mapped source member
    exact ⟨_, (case_byte_image uppercase image).2⟩

variable (text : WesternText)

@[simp] theorem units_length : text.units.length = text.bytes.length := List.length_map _

@[simp] theorem cased_length : (text.cased uppercase).bytes.length = text.bytes.length :=
  List.length_map _

theorem units_present : text.units ≠ [] := by simpa [units] using text.present

theorem units_supported : text.units.all isSupportedCtype1Unit = true := by
  rw [List.all_eq_true]
  intro unit inside
  obtain ⟨byte, member, rfl⟩ := List.mem_map.mp inside
  obtain ⟨unit, image⟩ := text.mapped byte member
  rw [image, Option.getD_some]
  exact (case_byte_image true image).1

theorem units_cased :
    text.units.map (fun unit => mapSimpleCase unit uppercase) = (text.cased uppercase).units := by
  simp only [units, cased, List.map_map]
  refine List.map_congr_left fun byte member => ?_
  obtain ⟨unit, image⟩ := text.mapped byte member
  simp [image, (case_byte_image uppercase image).2]

end WesternText

/-! ### Calls on such texts -/

variable {locale codePage : UInt32} {units : List UInt16} {capacity : Int}

/-- The flag for one case. -/
def caseFlag (uppercase : Bool) : UInt32 := if uppercase then lcmapUppercase else lcmapLowercase

theorem locale_length_explicit (present : units ≠ []) :
    localeSourceLength (some units) units.length = .ok units.length := by
  have positive := List.length_pos_iff.mpr present
  unfold localeSourceLength
  dsimp only
  rw [if_neg (by omega), if_neg (by omega), Int.toNat_natCast]

theorem lc_map_string_stores (known : isSupportedLcid locale = true) (text : WesternText)
    (room : (text.bytes.length : Int) ≤ capacity) :
    lcMapStringW locale (caseFlag uppercase) (some text.units) text.units.length
        (roomFor capacity) =
      { count := text.bytes.length, stored := (text.cased uppercase).units } := by
  have positive := List.length_pos_iff.mpr text.present
  have offered : ¬ (caseFlag uppercase ≠ lcmapLowercase ∧ caseFlag uppercase ≠ lcmapUppercase) := by
    cases uppercase <;> decide
  have asked : (caseFlag uppercase == lcmapUppercase) = uppercase := by cases uppercase <;> decide
  unfold lcMapStringW
  rw [if_neg offered, locale_length_explicit text.units_present, known, asked,
    if_neg (by simp [roomFor]; omega)]
  dsimp only
  rw [Option.getD_some, List.take_length, text.units_supported, if_neg Bool.noConfusion,
    if_neg (by simp [roomFor]; omega), if_neg (by simp [roomFor]; omega), text.units_cased,
    text.units_length]

theorem get_string_type_stores (text : WesternText) :
    getStringTypeW ctCtype1 (some text.units) text.units.length (roomFor capacity) =
      .ok (text.units.map classifyCtype1) := by
  unfold getStringTypeW
  rw [if_neg (by simp), locale_length_explicit text.units_present, if_neg (by simp [roomFor])]
  dsimp only
  rw [Option.getD_some, List.take_length, text.units_supported, if_neg Bool.noConfusion]

theorem multi_byte_stores (western : normalizeCodePage codePage = 1252) (text : WesternText)
    (room : (text.bytes.length : Int) ≤ capacity) :
    multiByteToWideChar codePage mbErrInvalidChars (some text.bytes) text.bytes.length
        (roomFor capacity) = { count := text.bytes.length, stored := text.units } := by
  have none' : (text.bytes.any fun byte => (singleByteToUtf16 1252 byte).isNone) = false := by
    rw [List.any_eq_false]
    intro byte member
    obtain ⟨unit, image⟩ := text.mapped byte member
    simp [image]
  rw [multi_byte_to_wide_char_single (.inr western) text.present text.fits ⟨rfl, rfl, room⟩,
    western, none', if_neg Bool.noConfusion]
  rfl

theorem wide_char_stores (western : normalizeCodePage codePage = 1252) (text : WesternText)
    (room : (text.bytes.length : Int) ≤ capacity) (default : Option UInt8) :
    wideCharToMultiByte codePage 0 (some text.units) text.units.length (roomFor capacity) default
        true = { count := text.bytes.length, stored := text.bytes, usedDefault := some false } := by
  refine accepted_bytes_return (.inr western) text.present text.fits ⟨rfl, rfl, room⟩ default ?_ ?_
  · rw [western]
    exact text.mapped
  · rw [western]
    rfl

/-- A text of the Western code page taken through the wide calls: widened, mapped to one case in any
supported locale and narrowed, it is the text with each byte mapped, and no character was replaced.
Mapping it to a case afterwards is mapping it there at once. And the classes of its characters call
upper-case the bytes with another lower case, and no others. -/
theorem western_text_cased (text : WesternText) (uppercase again : Bool)
    (western : normalizeCodePage codePage = 1252) (known : isSupportedLcid locale = true)
    (room : (text.bytes.length : Int) ≤ capacity) (default : Option UInt8) :
    let mapTo (uppercase : Bool) (source : List UInt16) := lcMapStringW locale (caseFlag uppercase)
      (some source) source.length (roomFor capacity)
    let wide := (multiByteToWideChar codePage mbErrInvalidChars (some text.bytes) text.bytes.length
      (roomFor capacity)).stored
    let cased := (mapTo uppercase wide).stored
    wideCharToMultiByte codePage 0 (some cased) cased.length (roomFor capacity) default true =
        { count := text.bytes.length
          stored := text.bytes.map (caseByte uppercase)
          usedDefault := some false } ∧
      mapTo again cased = mapTo again wide ∧
      ∃ types, getStringTypeW ctCtype1 (some wide) wide.length (roomFor capacity) = .ok types ∧
        types.length = text.bytes.length ∧
        ∀ (position : Nat) byte, text.bytes[position]? = some byte → ∃ type,
          types[position]? = some type ∧ (type &&& c1Upper ≠ 0 ↔ caseByte false byte ≠ byte) := by
  have room' : ((text.cased uppercase).bytes.length : Int) ≤ capacity := by simpa using room
  dsimp only
  rw [multi_byte_stores western text room, lc_map_string_stores known text room]
  dsimp only
  refine ⟨?_, ?_, _, get_string_type_stores text, by simp, ?_⟩
  · rw [wide_char_stores western (text.cased uppercase) room', text.cased_length]
    rfl
  · rw [lc_map_string_stores known _ room', lc_map_string_stores known text room,
      text.cased_length, ← WesternText.units_cased, ← WesternText.units_cased,
      ← WesternText.units_cased, List.map_map]
    simp only [Function.comp_def, map_simple_case_twice]
  · intro position byte held
    obtain ⟨unit, image⟩ := text.mapped byte (List.mem_of_getElem? held)
    refine ⟨classifyCtype1 unit, by simp [WesternText.units, held, image], ?_⟩
    exact (upper_iff unit).trans (case_byte_moves_iff image).symm

/-- Three bytes: a letter, one whose upper case is far from it, and one without cases. -/
def letters : WesternText where
  bytes := [0x61, 0xff, 0x80]
  present := by simp
  fits := by decide
  mapped := by
    intro byte inside
    rw [← Option.isSome_iff_exists]
    exact (by decide +kernel : ∀ byte ∈ ([0x61, 0xff, 0x80] : List UInt8),
      (singleByteToUtf16 1252 byte).isSome = true) byte inside

theorem letters_cased :
    let wide := (multiByteToWideChar 0 mbErrInvalidChars (some letters.bytes) letters.bytes.length
      (roomFor 3)).stored
    let cased := (lcMapStringW 0x0409 (caseFlag true) (some wide) wide.length (roomFor 3)).stored
    wideCharToMultiByte 0 0 (some cased) cased.length (roomFor 3) none true =
        { count := 3, stored := [0x41, 0x9f, 0x80], usedDefault := some false } :=
  (western_text_cased letters true false (by decide) (by decide) (by decide) none).1

end SadLayer.Locale
