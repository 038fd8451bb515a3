import SadLayer.Transcoding

/-! The lossy conversions, and the buffers of all four. A lossy conversion reads
every source as a text, with U+FFFD in the place of each unit where no character
begins; what it stores is that text in the other encoding. The sizing loop and
the storing loop read the same text, so that neither stores more than the other
counts. -/
namespace SadLayer.Unicode
open SadLayer.Library

/-- U+FFFD. -/
def replacement : Char := '\uFFFD'

/-- The text that a source is read as when nothing of it is refused. -/
inductive Replaced {unit : Type} (encoded : Char → List unit) : List unit → List Char → Prop where
  | nil : Replaced encoded [] []
  | char {rest : List unit} {chars : List Char} (char : Char) (read : Replaced encoded rest chars) :
      Replaced encoded (encoded char ++ rest) (char :: chars)
  | invalid {rest : List unit} {chars : List Char} (first : unit)
      (noChar : ∀ char more, first :: rest ≠ encoded char ++ more)
      (read : Replaced encoded rest chars) :
      Replaced encoded (first :: rest) (replacement :: chars)

/-- A conversion with these units to store: the sizing call counts them, a smaller destination is
told the count and left alone, and a larger one receives them. -/
structure Stores {unit : Type} (conversion : Option Nat → Conversion unit) (units : List unit) :
    Prop where
  sizing : conversion none = { status := .ok, written := some units.length }
  tooSmall : ∀ capacity < units.length,
    conversion (some capacity) = { status := .bufferTooSmall, written := some units.length }
  stores : ∀ capacity, units.length ≤ capacity → conversion (some capacity) =
    { status := .ok, written := some units.length, stored := units }

/-- A conversion refuses its source whatever the destination, and touches neither the destination
nor the count, or it has units to store. -/
def Disciplined {unit : Type} (conversion : Option Nat → Conversion unit) : Prop :=
  (∀ destination, conversion destination = { status := .invalidEncoding }) ∨
    ∃ units, Stores conversion units

section Sources
variable {unit unit' : Type} {decode : List unit → Option (Nat × Nat)} {size : Nat → Nat}
  {encode : Nat → List unit'} {encoded : Char → List unit} {other : Char → List unit'}
  {source : List unit} {chars : List Char} {replaceInvalid : Bool}

/-! ### What both loops read -/

/-- Every source is read as some text. -/
theorem replaced_exists (positive : ∀ char, encoded char ≠ []) (source : List unit) :
    ∃ chars, Replaced encoded source chars := by
  induction length : source.length using Nat.strongRecOn generalizing source with
  | ind _ ih =>
    subst length
    cases source with
    | nil => exact ⟨[], .nil⟩
    | cons first rest =>
      by_cases begins : ∃ char more, first :: rest = encoded char ++ more
      · obtain ⟨char, more, split⟩ := begins
        have longer := List.length_pos_iff.mpr (positive char)
        have shorter : more.length < (first :: rest).length := by
          rw [split, List.length_append]
          omega
        obtain ⟨chars, read⟩ := ih more.length shorter more rfl
        rw [split]
        exact ⟨char :: chars, .char char read⟩
      · obtain ⟨chars, read⟩ := ih rest.length (Nat.lt_succ_self _) rest rfl
        have noChar : ∀ char more, first :: rest ≠ encoded char ++ more := by
          intro char more split
          exact begins ⟨char, more, split⟩
        exact ⟨replacement :: chars, .invalid first noChar read⟩

theorem decode_nothing (strict : Strict decode encoded) {first : unit} {rest : List unit}
    (noChar : ∀ char more, first :: rest ≠ encoded char ++ more) : decode (first :: rest) = none := by
  cases decoded : decode (first :: rest) with
  | none => rfl
  | some found =>
    obtain ⟨char, more, split, -⟩ := strict _ found.1 found.2 decoded
    exact absurd split (noChar char more)

/-- One round of either loop reads the first character. -/
theorem Replaced.next (strict : Strict decode encoded) (decodes : Decodes decode encoded)
    {char : Char} (read : Replaced encoded source (char :: chars)) :
    ∃ first tail consumed, source = first :: tail ∧
      decodeOrReplace decode true (first :: tail) = some (char.toNat, consumed) ∧
      Replaced encoded (tail.drop (consumed - 1)) chars := by
  cases read with
  | @char rest _ _ read =>
    obtain ⟨first, tail, split, decoded, dropped⟩ := @Decodes.next _ _ _ true decodes char rest
    exact ⟨first, tail, (encoded char).length, split, decoded, by rw [dropped]; exact read⟩
  | @invalid rest _ first noChar read =>
    refine ⟨first, rest, 1, rfl, ?_, read⟩
    rw [decodeOrReplace, decode_nothing strict noChar]
    rfl

/-- The sizing loop counts the units of the text it reads. -/
theorem required_units_replaced (strict : Strict decode encoded) (decodes : Decodes decode encoded)
    (sizes : ∀ char, size char.toNat = (other char).length)
    (short : ∀ char, (other char).length ≤ uint64Max) (read : Replaced encoded source chars)
    (count : Nat) (held : count ≤ uint64Max) :
    requiredUnits decode size true source count =
      if count + (chars.flatMap other).length ≤ uint64Max
      then .ok (count + (chars.flatMap other).length) else .error .outOfMemory := by
  induction chars generalizing source count with
  | nil =>
    cases read
    rw [requiredUnits, List.flatMap_nil, List.length_nil, Nat.add_zero, if_pos held]
  | cons char rest ih =>
    obtain ⟨first, tail, consumed, split, decoded, read⟩ := read.next strict decodes
    have room := short char
    rw [split, requiredUnits, decoded, List.flatMap_cons, List.length_append, ← Nat.add_assoc]
    simp only [sizes]
    by_cases exceeds : count > uint64Max - (other char).length
    · rw [if_pos exceeds, if_neg (by omega)]
    · rw [if_neg exceeds, ih read _ (by omega)]

/-- The storing loop stores them. -/
theorem store_units_replaced (strict : Strict decode encoded) (decodes : Decodes decode encoded)
    (encodes : ∀ char, encode char.toNat = other char) (read : Replaced encoded source chars)
    (stored : List unit') :
    storeUnits decode encode true source stored = (.ok, stored ++ chars.flatMap other) := by
  induction chars generalizing source stored with
  | nil =>
    cases read
    rw [storeUnits, List.flatMap_nil, List.append_nil]
  | cons char rest ih =>
    obtain ⟨first, tail, consumed, split, decoded, read⟩ := read.next strict decodes
    rw [split, storeUnits, decoded]
    simp only [encodes]
    rw [ih read, List.flatMap_cons, List.append_assoc]

/-! ### Conversions of any source -/

theorem convert_stores {units : List unit'}
    (required : requiredUnits decode size replaceInvalid source 0 = .ok units.length)
    (stored : storeUnits decode encode replaceInvalid source [] = (.ok, units)) :
    Stores (convert decode size encode replaceInvalid source) units where
  sizing := by rw [convert, required]
  tooSmall := by
    intro capacity small
    rw [convert, required]
    exact if_pos small
  stores := by
    intro capacity room
    rw [convert, required, stored]
    exact if_neg (Nat.not_lt.mpr room)

/-- The count only grows. -/
theorem required_units_ge {count required : Nat}
    (sized : requiredUnits decode size replaceInvalid source count = .ok required) :
    count ≤ required := by
  fun_induction requiredUnits decode size replaceInvalid source count with
  | case1 count =>
    cases sized
    exact Nat.le_refl _
  | case2 => cases sized
  | case3 => cases sized
  | case4 count first rest codepoint consumed decoded room ih => exact Nat.le_of_add_right_le (ih sized)

/-- Something is stored of every source that is not empty. -/
theorem stores_nonempty {units : List unit'} (positive : ∀ codepoint, 1 ≤ size codepoint)
    (present : source ≠ [])
    (stores : Stores (convert decode size encode replaceInvalid source) units) : units ≠ [] := by
  intro nothing
  have sizing := stores.sizing
  unfold convert at sizing
  cases sized : requiredUnits decode size replaceInvalid source 0 with
  | error status =>
    rw [sized] at sizing
    cases sizing
  | ok required =>
    rw [sized, nothing] at sizing
    cases sizing
    cases source with
    | nil => exact present rfl
    | cons first rest =>
      rw [requiredUnits] at sized
      split at sized
      · cases sized
      split at sized
      · cases sized
      rename_i codepoint consumed decoded room
      have grown := required_units_ge sized
      rw [List.length_nil] at grown
      have least := positive codepoint
      omega

/-- A conversion of a text has the text to store. -/
theorem convert_text_stores (decodes : Decodes decode encoded)
    (sizes : ∀ char, size char.toNat = (other char).length)
    (encodes : ∀ char, encode char.toNat = other char) (chars : List Char)
    (fits : (chars.flatMap other).length ≤ uint64Max) :
    Stores (convert decode size encode replaceInvalid (chars.flatMap encoded))
      (chars.flatMap other) := by
  apply convert_stores
  · rw [required_units_text decodes sizes chars 0 (by omega), Nat.zero_add]
  · exact store_units_text decodes encodes chars []

/-- A lossy conversion has the text it reads to store. -/
theorem convert_replaced (strict : Strict decode encoded) (decodes : Decodes decode encoded)
    (sizes : ∀ char, size char.toNat = (other char).length)
    (encodes : ∀ char, encode char.toNat = other char)
    (short : ∀ char, (other char).length ≤ uint64Max) (read : Replaced encoded source chars)
    (fits : (chars.flatMap other).length ≤ uint64Max) :
    Stores (convert decode size encode true source) (chars.flatMap other) := by
  apply convert_stores
  · rw [required_units_replaced strict decodes sizes short read 0 (Nat.zero_le _), Nat.zero_add,
      if_pos fits]
  · exact store_units_replaced strict decodes encodes read []

/-- It fails only where the count of the units does not fit. -/
theorem convert_never_invalid (strict : Strict decode encoded) (decodes : Decodes decode encoded)
    (sizes : ∀ char, size char.toNat = (other char).length)
    (encodes : ∀ char, encode char.toNat = other char)
    (short : ∀ char, (other char).length ≤ uint64Max) (source : List unit)
    (destination : Option Nat) :
    (convert decode size encode true source destination).status ≠ .invalidEncoding := by
  obtain ⟨chars, read⟩ := replaced_exists decodes.nonempty source
  by_cases fits : (chars.flatMap other).length ≤ uint64Max
  · have stores := convert_replaced strict decodes sizes encodes short read fits
    cases destination with
    | none =>
      rw [stores.sizing]
      exact fun same => by cases same
    | some capacity =>
      rcases Nat.lt_or_ge capacity (chars.flatMap other).length with small | room
      · rw [stores.tooSmall capacity small]
        exact fun same => by cases same
      · rw [stores.stores capacity room]
        exact fun same => by cases same
  · rw [convert, required_units_replaced strict decodes sizes short read 0 (Nat.zero_le _), Nat.zero_add,
      if_neg fits]
    exact fun same => by cases same

/-- On a text, it makes no difference whether anything else would be replaced. -/
theorem required_units_either (decodes : Decodes decode encoded) (chars : List Char) (count : Nat) :
    requiredUnits decode size true (chars.flatMap encoded) count =
      requiredUnits decode size false (chars.flatMap encoded) count := by
  induction chars generalizing count with
  | nil => rw [List.flatMap_nil, requiredUnits, requiredUnits]
  | cons char rest ih =>
    obtain ⟨first, tail, split, lossy, dropped⟩ :=
      @Decodes.next _ _ _ true decodes char (rest.flatMap encoded)
    have strict : decodeOrReplace decode false (first :: tail) =
        some (char.toNat, (encoded char).length) := by
      rw [decodeOrReplace, ← split, decodes.char]
    rw [List.flatMap_cons, split, requiredUnits, requiredUnits, lossy, strict]
    simp only [dropped, ih]

theorem convert_either (decodes : Decodes decode encoded)
    (encodes : ∀ char, encode char.toNat = other char) (chars : List Char)
    (destination : Option Nat) :
    convert decode size encode true (chars.flatMap encoded) destination =
      convert decode size encode false (chars.flatMap encoded) destination := by
  unfold convert
  rw [required_units_either decodes, store_units_text decodes encodes,
    store_units_text decodes encodes]

end Sources

/-! ### The four conversions -/

theorem replaced_units_le {bytes : List UInt8} {chars : List Char}
    (read : Replaced String.utf8EncodeChar bytes chars) :
    (encodeUtf16 chars).length ≤ bytes.length := by
  induction read with
  | nil => exact Nat.le_refl _
  | @char rest chars char read ih =>
    have here := encode_utf16_length_le [char]
    simp only [encodeUtf8, encodeUtf16, List.flatMap_cons, List.flatMap_nil, List.append_nil,
      List.length_append] at here ih ⊢
    omega
  | @invalid rest chars first noChar read ih =>
    have here : (utf16EncodeChar replacement).length = 1 := rfl
    simp only [encodeUtf16, List.flatMap_cons, List.length_append, List.length_cons] at ih ⊢
    omega

theorem replaced_bytes_le {units : List UInt16} {chars : List Char}
    (read : Replaced utf16EncodeChar units chars) :
    (encodeUtf8 chars).length ≤ 3 * units.length := by
  induction read with
  | nil => exact Nat.le_refl _
  | @char rest chars char read ih =>
    have here := encode_utf8_length_le [char]
    simp only [encodeUtf8, encodeUtf16, List.flatMap_cons, List.flatMap_nil, List.append_nil,
      List.length_append] at here ih ⊢
    omega
  | @invalid rest chars first noChar read ih =>
    have here : (String.utf8EncodeChar replacement).length = 3 := rfl
    simp only [encodeUtf8, List.flatMap_cons, List.length_append, List.length_cons] at ih ⊢
    omega

theorem utf16_short (char : Char) : (utf16EncodeChar char).length ≤ uint64Max :=
  (utf16_size_le char).trans (by decide)

theorem utf8_short (char : Char) : (String.utf8EncodeChar char).length ≤ uint64Max :=
  (utf8_size_le char).trans (by decide)

/-- What the lossy conversion of bytes stores. -/
theorem utf8_to_utf16_lossy_stores {bytes : List UInt8} (fits : bytes.length ≤ ptrdiffMax) :
    ∃ chars, Replaced String.utf8EncodeChar bytes chars ∧
      Stores (utf8ToUtf16Lossy bytes) (encodeUtf16 chars) := by
  obtain ⟨chars, read⟩ := replaced_exists utf8_ne_nil bytes
  have shorter := replaced_units_le read
  have small : ptrdiffMax ≤ uint64Max := by decide
  exact ⟨chars, read, convert_replaced decode_utf8_strict decodes_utf8 utf16_size_char
    utf16_units_char utf16_short read (shorter.trans (fits.trans small))⟩

theorem utf16_to_utf8_lossy_stores {units : List UInt16} (fits : 2 * units.length ≤ ptrdiffMax) :
    ∃ chars, Replaced utf16EncodeChar units chars ∧
      Stores (utf16ToUtf8Lossy units) (encodeUtf8 chars) := by
  obtain ⟨chars, read⟩ := replaced_exists utf16_ne_nil units
  have shorter := replaced_bytes_le read
  have small : 2 * ptrdiffMax ≤ uint64Max := by decide
  exact ⟨chars, read, convert_replaced decode_utf16_strict decodes_utf16 utf8_size_char
    utf8_bytes_char utf8_short read (by
      unfold encodeUtf8 at shorter
      omega)⟩

theorem utf8_to_utf16_disciplined {bytes : List UInt8} (fits : bytes.length ≤ ptrdiffMax) :
    Disciplined (utf8ToUtf16 bytes) := by
  obtain ⟨chars, rfl, bounded⟩ | ⟨-, refused⟩ := utf8_to_utf16_strict bytes fits
  · exact .inr ⟨_, convert_text_stores decodes_utf8 utf16_size_char utf16_units_char chars bounded⟩
  · exact .inl refused

theorem utf16_to_utf8_disciplined {units : List UInt16} (fits : 2 * units.length ≤ ptrdiffMax) :
    Disciplined (utf16ToUtf8 units) := by
  obtain ⟨chars, rfl, bounded⟩ | ⟨-, refused⟩ := utf16_to_utf8_strict units fits
  · exact .inr ⟨_, convert_text_stores decodes_utf16 utf8_size_char utf8_bytes_char chars bounded⟩
  · exact .inl refused

/-- No source is refused by a lossy conversion, which takes a well-formed one as the strict
conversion does and stores nothing that the strict converse would refuse. All four conversions
store what their sizing call counts, and all of it or nothing. -/
theorem lossy_transcoding :
    (∀ bytes destination, (utf8ToUtf16Lossy bytes destination).status ≠ .invalidEncoding) ∧
    (∀ units destination, (utf16ToUtf8Lossy units destination).status ≠ .invalidEncoding) ∧
    (∀ bytes, WellFormedUtf8 bytes →
      ∀ destination, utf8ToUtf16Lossy bytes destination = utf8ToUtf16 bytes destination) ∧
    (∀ units, SurrogatesPaired units →
      ∀ destination, utf16ToUtf8Lossy units destination = utf16ToUtf8 units destination) ∧
    (∀ bytes, bytes.length ≤ ptrdiffMax →
      Disciplined (utf8ToUtf16 bytes) ∧
      ∃ chars, Replaced String.utf8EncodeChar bytes chars ∧
        Stores (utf8ToUtf16Lossy bytes) (encodeUtf16 chars) ∧
        SurrogatesPaired (encodeUtf16 chars) ∧
        (2 * (encodeUtf16 chars).length ≤ ptrdiffMax →
          (utf16ToUtf8 (encodeUtf16 chars) none).status = .ok)) ∧
    (∀ units, 2 * units.length ≤ ptrdiffMax →
      Disciplined (utf16ToUtf8 units) ∧
      ∃ chars, Replaced utf16EncodeChar units chars ∧
        Stores (utf16ToUtf8Lossy units) (encodeUtf8 chars) ∧
        WellFormedUtf8 (encodeUtf8 chars) ∧
        ((encodeUtf8 chars).length ≤ ptrdiffMax →
          (utf8ToUtf16 (encodeUtf8 chars) none).status = .ok)) := by
  refine ⟨?_, ?_, ?_, ?_, ?_, ?_⟩
  · exact convert_never_invalid decode_utf8_strict decodes_utf8 utf16_size_char utf16_units_char
      utf16_short
  · exact convert_never_invalid decode_utf16_strict decodes_utf16 utf8_size_char utf8_bytes_char
      utf8_short
  · rintro bytes ⟨chars, rfl⟩
    exact convert_either decodes_utf8 utf16_units_char chars
  · intro units paired
    obtain ⟨chars, rfl⟩ := surrogates_paired_iff.mp paired
    exact convert_either decodes_utf16 utf8_bytes_char chars
  · intro bytes fits
    obtain ⟨chars, read, stores⟩ := utf8_to_utf16_lossy_stores fits
    refine ⟨utf8_to_utf16_disciplined fits, chars, read, stores,
      surrogates_paired_iff.mpr ⟨chars, rfl⟩, fun object => ?_⟩
    have bound := encode_utf8_length_le chars
    have small : 2 * ptrdiffMax ≤ uint64Max := by decide
    rw [utf16_to_utf8_size chars (by omega)]
  · intro units fits
    obtain ⟨chars, read, stores⟩ := utf16_to_utf8_lossy_stores fits
    refine ⟨utf16_to_utf8_disciplined fits, chars, read, stores, ⟨chars, rfl⟩, fun object => ?_⟩
    have bound := encode_utf16_length_le chars
    have small : ptrdiffMax ≤ uint64Max := by decide
    rw [utf8_to_utf16_size chars (by omega)]

end SadLayer.Unicode
