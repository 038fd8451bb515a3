import SadLayer.UnicodeFacts

/-! The strict conversions are exact: each accepts the encodings of texts and
nothing else, keeps the text, and undoes the other. -/
namespace SadLayer.Unicode
open SadLayer.Library

/-! ### What decodes is an encoded character -/

/-- A decoder that finds nothing but encoded characters. -/
def Strict {unit : Type} (decode : List unit → Option (Nat × Nat)) (encoded : Char → List unit) :
    Prop :=
  ∀ source codepoint consumed, decode source = some (codepoint, consumed) →
    ∃ char rest, source = encoded char ++ rest ∧ codepoint = char.toNat ∧
      consumed = (encoded char).length

/-- A byte that passes as a continuation is one, and its value is in its low bits. -/
theorem continuation_byte {byte : UInt8} (marked : byte.toNat &&& 0xc0 = 0x80) :
    0x80 ≤ byte.toNat ∧ byte.toNat < 0xc0 ∧ byte.toNat &&& 0x3f = byte.toNat - 0x80 := by
  have bound := byte.toNat_lt
  have top : byte.toNat &&& 0xc0 = field byte.toNat 6 2 <<< 6 := and_field_mask byte.toNat 6 2
  rw [top, field, Nat.shiftLeft_eq] at marked
  have low : byte.toNat &&& 0x3f = byte.toNat % 0x40 := Nat.and_two_pow_sub_one_eq_mod _ 6
  rw [low]
  omega

/-- What the continuation loop accepts: a byte of the sequence, with its value in its place. -/
theorem decode_continuation_some {value remaining decoded : Nat} {source : List UInt8}
    (accepted : decodeContinuations value (remaining + 1) source = some decoded) :
    ∃ byte rest, source = byte :: rest ∧ 0x80 ≤ byte.toNat ∧ byte.toNat < 0xc0 ∧
      decodeContinuations (value * 0x40 + (byte.toNat - 0x80)) remaining rest = some decoded := by
  cases source with
  | nil => cases accepted
  | cons byte rest =>
    rw [decodeContinuations] at accepted
    split at accepted
    · cases accepted
    · rename_i marked
      obtain ⟨least, most, payload⟩ := continuation_byte (not_not.mp marked)
      rw [payload, or_field _ _ 6 (by omega)] at accepted
      exact ⟨byte, rest, rfl, least, most, accepted⟩

theorem decode_sequence_some {rest : List UInt8} {length value minimum codepoint consumed : Nat}
    (accepted : decodeSequence rest length value minimum = some (codepoint, consumed)) :
    decodeContinuations value (length - 1) rest = some codepoint ∧ consumed = length ∧
      minimum ≤ codepoint ∧
      (codepoint < 0xd800 ∨ (0xdfff < codepoint ∧ codepoint < 0x110000)) := by
  unfold decodeSequence at accepted
  split at accepted
  · cases accepted
  · split at accepted
    · cases accepted
    · rename_i known
      split at accepted
      · cases accepted
      · rename_i range
        cases accepted
        exact ⟨known, rfl, by omega, by omega⟩

theorem byte_of_value (byte : UInt8) {value : Nat} (same : value = byte.toNat) :
    UInt8.ofNat value = byte := by
  rw [same, UInt8.ofNat_toNat]

theorem decode_utf8_strict : Strict decodeUtf8 String.utf8EncodeChar := by
  intro source codepoint consumed decoded
  cases source with
  | nil => cases decoded
  | cons first rest =>
    have bound := first.toNat_lt
    unfold decodeUtf8 at decoded
    dsimp only at decoded
    by_cases one : first.toNat ≤ 0x7f
    · rw [if_pos one] at decoded
      cases decoded
      obtain ⟨char, value⟩ := @exists_char first.toNat (by omega)
      refine ⟨char, rest, ?_, value.symm, ?_⟩
      · rw [utf8_of_ascii (by omega), value, UInt8.ofNat_toNat, List.singleton_append]
      · rw [utf8_of_ascii (by omega)]
        rfl
    rw [if_neg one] at decoded
    by_cases two : first.toNat ≥ 0xc2 ∧ first.toNat ≤ 0xdf
    · rw [if_pos two] at decoded
      obtain ⟨continued, rfl, least, range⟩ := decode_sequence_some decoded
      obtain ⟨second, rest, rfl, low, high, ended⟩ := decode_continuation_some continued
      have lead : first.toNat &&& 0x1f = first.toNat - 0xc0 := by
        apply (Nat.and_two_pow_sub_one_eq_mod _ 5).trans
        omega
      rw [lead, decodeContinuations, Option.some.injEq] at ended
      obtain ⟨char, value⟩ := exists_char range
      have encoded : String.utf8EncodeChar char = [first, second] := by
        rw [utf8_encode_char_eq, if_neg (by omega), if_pos (by omega),
          byte_of_value first (by omega), byte_of_value second (by omega)]
      exact ⟨char, rest, by rw [encoded]; rfl, value.symm, by rw [encoded]; rfl⟩
    rw [if_neg two] at decoded
    by_cases three : first.toNat ≥ 0xe0 ∧ first.toNat ≤ 0xef
    · rw [if_pos three] at decoded
      obtain ⟨continued, rfl, least, range⟩ := decode_sequence_some decoded
      obtain ⟨second, rest, rfl, low2, high2, continued⟩ := decode_continuation_some continued
      obtain ⟨third, rest, rfl, low3, high3, ended⟩ := decode_continuation_some continued
      have lead : first.toNat &&& 0x0f = first.toNat - 0xe0 := by
        apply (Nat.and_two_pow_sub_one_eq_mod _ 4).trans
        omega
      rw [lead, decodeContinuations, Option.some.injEq] at ended
      obtain ⟨char, value⟩ := exists_char range
      have encoded : String.utf8EncodeChar char = [first, second, third] := by
        rw [utf8_encode_char_eq, if_neg (by omega), if_neg (by omega), if_pos (by omega),
          byte_of_value first (by omega), byte_of_value second (by omega),
          byte_of_value third (by omega)]
      exact ⟨char, rest, by rw [encoded]; rfl, value.symm, by rw [encoded]; rfl⟩
    rw [if_neg three] at decoded
    by_cases four : first.toNat ≥ 0xf0 ∧ first.toNat ≤ 0xf4
    · rw [if_pos four] at decoded
      obtain ⟨continued, rfl, least, range⟩ := decode_sequence_some decoded
      obtain ⟨second, rest, rfl, low2, high2, continued⟩ := decode_continuation_some continued
      obtain ⟨third, rest, rfl, low3, high3, continued⟩ := decode_continuation_some continued
      obtain ⟨fourth, rest, rfl, low4, high4, ended⟩ := decode_continuation_some continued
      have lead : first.toNat &&& 0x07 = first.toNat - 0xf0 := by
        apply (Nat.and_two_pow_sub_one_eq_mod _ 3).trans
        omega
      rw [lead, decodeContinuations, Option.some.injEq] at ended
      obtain ⟨char, value⟩ := exists_char range
      have encoded : String.utf8EncodeChar char = [first, second, third, fourth] := by
        rw [utf8_encode_char_eq, if_neg (by omega), if_neg (by omega), if_neg (by omega),
          byte_of_value first (by omega), byte_of_value second (by omega),
          byte_of_value third (by omega), byte_of_value fourth (by omega)]
      exact ⟨char, rest, by rw [encoded]; rfl, value.symm, by rw [encoded]; rfl⟩
    · rw [if_neg four] at decoded
      cases decoded

theorem decode_utf16_strict : Strict decodeUtf16 utf16EncodeChar := by
  intro source codepoint consumed decoded
  cases source with
  | nil => cases decoded
  | cons first rest =>
    unfold decodeUtf16 at decoded
    dsimp only at decoded
    by_cases high : first.toNat ≥ 0xd800 ∧ first.toNat ≤ 0xdbff
    · rw [if_pos high] at decoded
      cases rest with
      | nil => cases decoded
      | cons second rest =>
        dsimp only at decoded
        split at decoded
        · cases decoded
        · rename_i low
          rw [Option.some.injEq, Prod.mk.injEq, Nat.shiftLeft_eq] at decoded
          obtain ⟨char, encoded, value⟩ := char_of_pair high
            (show LowSurrogate second from ⟨by omega, by omega⟩)
          exact ⟨char, rest, by rw [encoded]; rfl, by omega, by rw [encoded, ← decoded.2]; rfl⟩
    · rw [if_neg high] at decoded
      split at decoded
      · cases decoded
      · rename_i low
        cases decoded
        obtain ⟨char, encoded, value⟩ := char_of_unit high low
        exact ⟨char, rest, by rw [encoded]; rfl, value.symm, by rw [encoded]; rfl⟩

/-! ### Whole sources -/

section Sources
variable {unit unit' : Type} {decode : List unit → Option (Nat × Nat)} {size : Nat → Nat}
  {encode : Nat → List unit'} {encoded : Char → List unit} {other : Char → List unit'}

/-- The sizing loop counts a text to its end, or stops where the source is none, or where the count
of what it read no longer fits. -/
inductive Sized (encoded : Char → List unit) (other : Char → List unit') (source : List unit)
    (count : Nat) : Except Status Nat → Prop where
  | text (chars : List Char) (whole : source = chars.flatMap encoded)
      (fits : count ≤ uint64Max → count + (chars.flatMap other).length ≤ uint64Max) :
      Sized encoded other source count (.ok (count + (chars.flatMap other).length))
  | invalid (notText : ∀ chars : List Char, source ≠ chars.flatMap encoded) :
      Sized encoded other source count (.error .invalidEncoding)
  | overflow (chars : List Char) (rest : List unit) (read : source = chars.flatMap encoded ++ rest)
      (exceeded : uint64Max < count + (chars.flatMap other).length) :
      Sized encoded other source count (.error .outOfMemory)

/-- What begins with an encoded character begins with no other. -/
theorem Decodes.cancel (decodes : Decodes decode encoded) {first second : Char}
    {rest more : List unit} (same : encoded first ++ rest = encoded second ++ more) :
    first = second ∧ rest = more := by
  have here := decodes.char first rest
  rw [same, decodes.char second more, Option.some.injEq, Prod.mk.injEq] at here
  obtain rfl : first = second := Char.toNat_inj.mp here.1.symm
  exact ⟨rfl, List.append_cancel_left same⟩

/-- What follows a character keeps a source from being a text. -/
theorem Decodes.not_text (decodes : Decodes decode encoded) {char : Char} {rest : List unit}
    (notText : ∀ chars : List Char, rest ≠ chars.flatMap encoded) (chars : List Char) :
    encoded char ++ rest ≠ chars.flatMap encoded := by
  intro text
  cases chars with
  | nil => exact decodes.nonempty char (List.append_eq_nil_iff.mp text).1
  | cons first more =>
    rw [List.flatMap_cons] at text
    exact notText more (decodes.cancel text).2

/-- One character more in front of what the loop has sized. -/
theorem Sized.behind (decodes : Decodes decode encoded) {char : Char} {rest : List unit}
    {count : Nat} {answer : Except Status Nat}
    (sized : Sized encoded other rest (count + (other char).length) answer)
    (room : count + (other char).length ≤ uint64Max) :
    Sized encoded other (encoded char ++ rest) count answer := by
  cases sized with
  | text chars whole fits =>
    have total : count + (other char).length + (chars.flatMap other).length =
        count + ((char :: chars).flatMap other).length := by
      rw [List.flatMap_cons, List.length_append, Nat.add_assoc]
    rw [total] at fits ⊢
    exact .text (char :: chars) (by rw [whole, List.flatMap_cons]) fun _ => fits room
  | invalid notText => exact .invalid (decodes.not_text notText)
  | overflow chars more read exceeded =>
    refine .overflow (char :: chars) more (by rw [read, List.flatMap_cons, List.append_assoc]) ?_
    rw [List.flatMap_cons, List.length_append, ← Nat.add_assoc]
    exact exceeded

theorem required_units_sized (strict : Strict decode encoded) (decodes : Decodes decode encoded)
    (sizes : ∀ char, size char.toNat = (other char).length)
    (short : ∀ char, (other char).length ≤ uint64Max) (source : List unit) (count : Nat) :
    Sized encoded other source count (requiredUnits decode size false source count) := by
  induction length : source.length using Nat.strongRecOn generalizing source count with
  | ind _ ih =>
    subst length
    cases source with
    | nil =>
      rw [requiredUnits]
      exact .text [] rfl id
    | cons first tail =>
      cases decoded : decode (first :: tail) with
      | none =>
        have answer : requiredUnits decode size false (first :: tail) count =
            .error .invalidEncoding := by
          rw [requiredUnits]
          simp [decodeOrReplace, decoded]
        rw [answer]
        refine .invalid ?_
        intro chars text
        cases chars with
        | nil => cases text
        | cons char more =>
          rw [text, List.flatMap_cons, decodes.char] at decoded
          cases decoded
      | some found =>
        obtain ⟨codepoint, consumed⟩ := found
        obtain ⟨char, rest, split, rfl, rfl⟩ := strict _ codepoint consumed decoded
        have positive : 0 < (encoded char).length := List.length_pos_iff.mpr (decodes.nonempty char)
        have behind : tail.drop ((encoded char).length - 1) = rest := by
          have dropped := congrArg (List.drop (encoded char).length) split
          rw [List.drop_left] at dropped
          rw [← dropped, ← Nat.sub_add_cancel positive]
          rfl
        rw [requiredUnits]
        simp only [decodeOrReplace, decoded, sizes, behind]
        rw [split]
        split
        · exact .overflow [char] rest (by simp) (by simp; omega)
        · have shorter : rest.length < (first :: tail).length := by
            rw [split, List.length_append]
            omega
          have room := short char
          exact (ih rest.length shorter rest _ rfl).behind decodes (by omega)

/-- What a strict conversion comes to on a source of which no text outgrows the count. -/
theorem convert_strict (encode : Nat → List unit') (strict : Strict decode encoded)
    (decodes : Decodes decode encoded) (sizes : ∀ char, size char.toNat = (other char).length)
    (short : ∀ char, (other char).length ≤ uint64Max) (source : List unit)
    (bounded : ∀ (chars : List Char) (rest : List unit),
      source = chars.flatMap encoded ++ rest → (chars.flatMap other).length ≤ uint64Max) :
    (∃ chars : List Char, source = chars.flatMap encoded ∧
      (chars.flatMap other).length ≤ uint64Max) ∨
    (∀ chars : List Char, source ≠ chars.flatMap encoded) ∧ ∀ destination,
      convert decode size encode false source destination = { status := .invalidEncoding } := by
  have sized := required_units_sized strict decodes sizes short source 0
  generalize answer : requiredUnits decode size false source 0 = counted at sized
  cases sized with
  | text chars whole fits =>
    exact .inl ⟨chars, whole, bounded chars [] (by rw [whole, List.append_nil])⟩
  | invalid notText =>
    refine .inr ⟨notText, ?_⟩
    intro destination
    rw [convert, answer]
  | overflow chars rest read exceeded =>
    have inside := bounded chars rest read
    omega

end Sources

/-! ### The conversions -/

/-- Bytes that encode a text, and thus no overlong form, surrogate or value past the last plane. -/
def WellFormedUtf8 (bytes : List UInt8) : Prop := ∃ chars, bytes = encodeUtf8 chars

/-- The largest object there is in memory. -/
def ptrdiffMax : Nat := 2 ^ 63 - 1

theorem encode_utf16_length_le (chars : List Char) :
    (encodeUtf16 chars).length ≤ (encodeUtf8 chars).length := by
  induction chars with
  | nil => exact Nat.le_refl _
  | cons char rest ih =>
    have here : (utf16EncodeChar char).length ≤ (String.utf8EncodeChar char).length := by
      rw [← utf16_size_char, ← utf8_size_char, utf16CodepointSize, utf8CodepointSize]
      split_ifs <;> omega
    simp only [encodeUtf8, encodeUtf16, List.flatMap_cons, List.length_append] at ih ⊢
    omega

theorem utf8_size_le (char : Char) : (String.utf8EncodeChar char).length ≤ 4 := by
  rw [← utf8_size_char, utf8CodepointSize]
  split_ifs <;> omega

theorem utf16_size_le (char : Char) : (utf16EncodeChar char).length ≤ 4 := by
  rw [← utf16_size_char, utf16CodepointSize]
  split_ifs <;> omega

/-- A source of bytes is a text, or the conversion refuses it. -/
theorem utf8_to_utf16_strict (bytes : List UInt8) (fits : bytes.length ≤ ptrdiffMax) :
    (∃ chars, bytes = encodeUtf8 chars ∧ (encodeUtf16 chars).length ≤ uint64Max) ∨
    ¬ WellFormedUtf8 bytes ∧
      ∀ destination, utf8ToUtf16 bytes destination = { status := .invalidEncoding } := by
  have small : ptrdiffMax ≤ uint64Max := by decide
  have bounded (chars : List Char) (rest : List UInt8) (read : bytes = encodeUtf8 chars ++ rest) :
      (encodeUtf16 chars).length ≤ uint64Max := by
    have part := congrArg List.length read
    have shorter := encode_utf16_length_le chars
    rw [List.length_append] at part
    omega
  have short (char : Char) : (utf16EncodeChar char).length ≤ uint64Max :=
    (utf16_size_le char).trans (by decide)
  obtain text | ⟨notText, refused⟩ :=
    convert_strict utf16Units decode_utf8_strict decodes_utf8 utf16_size_char short bytes bounded
  · exact .inl text
  · exact .inr ⟨fun ⟨chars, text⟩ => notText chars text, refused⟩

/-- Units are a text, or the conversion refuses them. -/
theorem utf16_to_utf8_strict (units : List UInt16) (fits : 2 * units.length ≤ ptrdiffMax) :
    (∃ chars, units = encodeUtf16 chars ∧ (encodeUtf8 chars).length ≤ uint64Max) ∨
    ¬ SurrogatesPaired units ∧
      ∀ destination, utf16ToUtf8 units destination = { status := .invalidEncoding } := by
  have small : 2 * ptrdiffMax ≤ uint64Max := by decide
  have bounded (chars : List Char) (rest : List UInt16)
      (read : units = encodeUtf16 chars ++ rest) : (encodeUtf8 chars).length ≤ uint64Max := by
    have part := congrArg List.length read
    have shorter := encode_utf8_length_le chars
    rw [List.length_append] at part
    omega
  have short (char : Char) : (String.utf8EncodeChar char).length ≤ uint64Max :=
    (utf8_size_le char).trans (by decide)
  obtain text | ⟨notText, refused⟩ :=
    convert_strict utf8Bytes decode_utf16_strict decodes_utf16 utf8_size_char short units bounded
  · exact .inl text
  · refine .inr ⟨?_, refused⟩
    intro paired
    obtain ⟨chars, text⟩ := surrogates_paired_iff.mp paired
    exact notText chars text

/-- A text in bytes comes back from its units. -/
theorem utf8_round_trip {bytes : List UInt8} (fits : bytes.length ≤ ptrdiffMax)
    (wellFormed : WellFormedUtf8 bytes) {capacity capacity' : Nat}
    (room : (utf8ToUtf16 bytes none).written.getD 0 ≤ capacity)
    (room' : bytes.length ≤ capacity') :
    utf16ToUtf8 (utf8ToUtf16 bytes (some capacity)).stored (some capacity') =
      { status := .ok, written := some bytes.length, stored := bytes } := by
  obtain ⟨chars, rfl⟩ := wellFormed
  have bytes : (encodeUtf8 chars).length ≤ uint64Max := fits.trans (by decide)
  have units := (encode_utf16_length_le chars).trans bytes
  rw [utf8_to_utf16_size chars units] at room
  rw [utf8_to_utf16_text chars units room]
  exact utf16_to_utf8_text chars bytes room'

/-- A text in units comes back from its bytes. -/
theorem utf16_round_trip {units : List UInt16} (fits : 2 * units.length ≤ ptrdiffMax)
    (paired : SurrogatesPaired units) {capacity capacity' : Nat}
    (room : (utf16ToUtf8 units none).written.getD 0 ≤ capacity)
    (room' : units.length ≤ capacity') :
    utf8ToUtf16 (utf16ToUtf8 units (some capacity)).stored (some capacity') =
      { status := .ok, written := some units.length, stored := units } := by
  obtain ⟨chars, text, bytes⟩ | ⟨notPaired, -⟩ := utf16_to_utf8_strict units fits
  · subst text
    rw [utf16_to_utf8_size chars bytes] at room
    rw [utf16_to_utf8_text chars bytes room]
    exact utf8_to_utf16_text chars ((encode_utf16_length_le chars).trans bytes) room'
  · exact absurd paired notPaired

theorem utf16_accepted_iff (units : List UInt16) (fits : 2 * units.length ≤ ptrdiffMax) :
    (utf16ToUtf8 units none).status = .ok ↔ SurrogatesPaired units := by
  obtain ⟨chars, text, bounded⟩ | ⟨notText, refused⟩ := utf16_to_utf8_strict units fits
  · have accepted : (utf16ToUtf8 units none).status = .ok := by
      rw [text, utf16_to_utf8_size chars bounded]
    exact iff_of_true accepted (surrogates_paired_iff.mpr ⟨chars, text⟩)
  · have rejected : (utf16ToUtf8 units none).status ≠ .ok := by
      rw [refused none]
      nofun
    exact iff_of_false rejected notText

/-- Each conversion accepts a source exactly when it is well formed, gives no other answer to one
that is not, and stores the same text in the other encoding; back from there comes the source. -/
theorem strict_transcoding :
    (∀ bytes, bytes.length ≤ ptrdiffMax →
      ((utf8ToUtf16 bytes none).status = .ok ↔ WellFormedUtf8 bytes) ∧
      (¬ WellFormedUtf8 bytes → ∀ destination,
        utf8ToUtf16 bytes destination = { status := .invalidEncoding })) ∧
    (∀ units, 2 * units.length ≤ ptrdiffMax →
      ((utf16ToUtf8 units none).status = .ok ↔ SurrogatesPaired units) ∧
      (¬ SurrogatesPaired units → ∀ destination,
        utf16ToUtf8 units destination = { status := .invalidEncoding })) ∧
    (∀ chars, (encodeUtf8 chars).length ≤ ptrdiffMax →
      (∀ capacity, (encodeUtf16 chars).length ≤ capacity →
        utf8ToUtf16 (encodeUtf8 chars) (some capacity) = {
          status := .ok, written := some (encodeUtf16 chars).length
          stored := encodeUtf16 chars }) ∧
      ∀ capacity, (encodeUtf8 chars).length ≤ capacity →
        utf16ToUtf8 (encodeUtf16 chars) (some capacity) = {
          status := .ok, written := some (encodeUtf8 chars).length
          stored := encodeUtf8 chars }) ∧
    (∀ bytes capacity capacity', bytes.length ≤ ptrdiffMax → WellFormedUtf8 bytes →
      (utf8ToUtf16 bytes none).written.getD 0 ≤ capacity → bytes.length ≤ capacity' →
      (utf16ToUtf8 (utf8ToUtf16 bytes (some capacity)).stored (some capacity')).stored = bytes) ∧
    ∀ units capacity capacity', 2 * units.length ≤ ptrdiffMax → SurrogatesPaired units →
      (utf16ToUtf8 units none).written.getD 0 ≤ capacity → units.length ≤ capacity' →
      (utf8ToUtf16 (utf16ToUtf8 units (some capacity)).stored (some capacity')).stored =
        units := by
  refine ⟨?_, ?_, ?_, ?_, ?_⟩
  · intro bytes fits
    obtain ⟨chars, text, bounded⟩ | ⟨notText, refused⟩ := utf8_to_utf16_strict bytes fits
    · have accepted : (utf8ToUtf16 bytes none).status = .ok := by
        rw [text, utf8_to_utf16_size chars bounded]
      exact ⟨iff_of_true accepted ⟨chars, text⟩, fun notText => absurd ⟨chars, text⟩ notText⟩
    · have rejected : (utf8ToUtf16 bytes none).status ≠ .ok := by
        rw [refused none]
        nofun
      exact ⟨iff_of_false rejected notText, fun _ => refused⟩
  · intro units fits
    refine ⟨utf16_accepted_iff units fits, fun notPaired => ?_⟩
    obtain ⟨chars, text, bounded⟩ | ⟨-, refused⟩ := utf16_to_utf8_strict units fits
    · exact absurd (surrogates_paired_iff.mpr ⟨chars, text⟩) notPaired
    · exact refused
  · intro chars fits
    have small : ptrdiffMax ≤ uint64Max := by decide
    have bytes := fits.trans small
    have units := (encode_utf16_length_le chars).trans bytes
    exact ⟨fun _ room => utf8_to_utf16_text chars units room,
      fun _ room => utf16_to_utf8_text chars bytes room⟩
  · intro bytes capacity capacity' fits wellFormed room room'
    rw [utf8_round_trip fits wellFormed room room']
  · intro units capacity capacity' fits paired room room'
    rw [utf16_round_trip fits paired room room']

end SadLayer.Unicode
