import SadLayer.Library.BitFields
import SadLayer.Library.Utf
import SadLayer.Unicode

/-! The conversions on well-formed text. Each direction decodes the characters
the other one encodes, so what is stored is the same text. -/
namespace SadLayer.Unicode
open SadLayer.Library

variable {char : Char} {chars : List Char} {value : Nat}

/-! ### One character -/

theorem continuation_of (value : Nat) : (UInt8.ofNat (value % 0x40 + 0x80)).toNat =
    value % 0x40 + 0x80 := by
  rw [UInt8.toNat_ofNat']
  omega

/-- A continuation byte adds its six bits. -/
theorem decode_continuation (value remaining bits : Nat) (rest : List UInt8) :
    decodeContinuations value (remaining + 1) (.ofNat (bits % 0x40 + 0x80) :: rest) =
      decodeContinuations (value * 0x40 + bits % 0x40) remaining rest := by
  have marked : (bits % 0x40 + 0x80) &&& 0xc0 = 0x80 := by
    apply (and_field_mask (bits % 0x40 + 0x80) 6 2).trans
    rw [field, Nat.shiftLeft_eq]
    omega
  have payload : (bits % 0x40 + 0x80) &&& 0x3f = bits % 0x40 := by
    apply (Nat.and_two_pow_sub_one_eq_mod _ 6).trans
    omega
  have joined : value <<< 6 ||| bits % 0x40 = value * 0x40 + bits % 0x40 :=
    or_field value (bits % 0x40) 6 (Nat.mod_lt _ (by omega))
  rw [decodeContinuations, continuation_of, marked, payload, joined]
  exact if_neg (not_not.mpr rfl)

/-- A decoded sequence of this length has a value that is neither overlong nor a surrogate. -/
theorem decode_sequence_ok {rest : List UInt8} {length start minimum : Nat}
    (long : length ≤ rest.length + 1)
    (decoded : decodeContinuations start (length - 1) rest = some value)
    (least : minimum ≤ value) (range : value < 0xd800 ∨ (0xdfff < value ∧ value < 0x110000)) :
    decodeSequence rest length start minimum = some (value, length) := by
  rw [decodeSequence, if_neg (by omega), decoded]
  exact if_neg (by omega)

theorem decode_utf8_char (char : Char) (rest : List UInt8) :
    decodeUtf8 (String.utf8EncodeChar char ++ rest) =
      some (char.toNat, (String.utf8EncodeChar char).length) := by
  have range := char_range char
  rw [utf8_encode_char_eq]
  by_cases one : char.toNat ≤ 0x7f
  · rw [if_pos one, List.singleton_append, decodeUtf8]
    have byte : (UInt8.ofNat char.toNat).toNat = char.toNat := by
      rw [UInt8.toNat_ofNat']
      omega
    simp only [byte]
    exact if_pos one
  rw [if_neg one]
  by_cases two : char.toNat ≤ 0x7ff
  · rw [if_pos two, List.cons_append, List.singleton_append, decodeUtf8]
    have byte : (UInt8.ofNat (char.toNat / 64 % 0x20 + 0xc0)).toNat = char.toNat / 64 + 0xc0 := by
      rw [UInt8.toNat_ofNat']
      omega
    have payload : (char.toNat / 64 + 0xc0) &&& 0x1f = char.toNat / 64 := by
      apply (Nat.and_two_pow_sub_one_eq_mod _ 5).trans
      omega
    simp only [byte, payload]
    rw [if_neg (by omega), if_pos (by omega)]
    refine decode_sequence_ok (by simp) ?_ (by omega) range
    rw [decode_continuation, decodeContinuations]
    congr 1
    omega
  rw [if_neg two]
  by_cases three : char.toNat ≤ 0xffff
  · rw [if_pos three, List.cons_append, List.cons_append, List.singleton_append, decodeUtf8]
    have byte : (UInt8.ofNat (char.toNat / 4096 % 0x10 + 0xe0)).toNat =
        char.toNat / 4096 + 0xe0 := by
      rw [UInt8.toNat_ofNat']
      omega
    have payload : (char.toNat / 4096 + 0xe0) &&& 0x0f = char.toNat / 4096 := by
      apply (Nat.and_two_pow_sub_one_eq_mod _ 4).trans
      omega
    simp only [byte, payload]
    rw [if_neg (by omega), if_neg (by omega), if_pos (by omega)]
    refine decode_sequence_ok (by simp) ?_ (by omega) range
    rw [decode_continuation, decode_continuation, decodeContinuations]
    congr 1
    omega
  · rw [if_neg three, List.cons_append, List.cons_append, List.cons_append, List.singleton_append,
      decodeUtf8]
    have byte : (UInt8.ofNat (char.toNat / 262144 % 0x08 + 0xf0)).toNat =
        char.toNat / 262144 + 0xf0 := by
      rw [UInt8.toNat_ofNat']
      omega
    have payload : (char.toNat / 262144 + 0xf0) &&& 0x07 = char.toNat / 262144 := by
      apply (Nat.and_two_pow_sub_one_eq_mod _ 3).trans
      omega
    simp only [byte, payload]
    rw [if_neg (by omega), if_neg (by omega), if_neg (by omega), if_pos (by omega)]
    refine decode_sequence_ok (by simp) ?_ (by omega) range
    rw [decode_continuation, decode_continuation, decode_continuation, decodeContinuations]
    congr 1
    omega

theorem decode_utf16_char (char : Char) (rest : List UInt16) :
    decodeUtf16 (utf16EncodeChar char ++ rest) =
      some (char.toNat, (utf16EncodeChar char).length) := by
  have range := char_range char
  unfold utf16EncodeChar
  by_cases one : char.toNat ≤ 0xffff
  · rw [if_pos one, List.singleton_append]
    unfold decodeUtf16
    have unit : (UInt16.ofNat char.toNat).toNat = char.toNat := by
      rw [UInt16.toNat_ofNat']
      omega
    simp only [unit]
    rw [if_neg (by omega), if_neg (by omega)]
    rfl
  · rw [if_neg one, List.cons_append, List.singleton_append]
    unfold decodeUtf16
    have high : (UInt16.ofNat (0xd800 + (char.toNat - 0x10000) / 0x400)).toNat =
        0xd800 + (char.toNat - 0x10000) / 0x400 := by
      rw [UInt16.toNat_ofNat']
      omega
    have low : (UInt16.ofNat (0xdc00 + (char.toNat - 0x10000) % 0x400)).toNat =
        0xdc00 + (char.toNat - 0x10000) % 0x400 := by
      rw [UInt16.toNat_ofNat']
      omega
    simp only [high, low, Nat.shiftLeft_eq]
    have joined : 0x10000 + (0xd800 + (char.toNat - 0x10000) / 0x400 - 0xd800) * 2 ^ 10 +
        (0xdc00 + (char.toNat - 0x10000) % 0x400 - 0xdc00) = char.toNat := by omega
    rw [if_pos (by omega), if_neg (by omega), joined]
    rfl

/-- The bytes stored for a character are its encoding. -/
theorem utf8_bytes_char (char : Char) : utf8Bytes char.toNat = String.utf8EncodeChar char := by
  have range := char_range char
  have tail (bits : Nat) : 0x80 ||| (bits &&& 0x3f) = bits % 0x40 + 0x80 := by
    have mask : bits &&& 0x3f = bits % 0x40 := Nat.and_two_pow_sub_one_eq_mod bits 6
    rw [mask]
    exact (@or_aligned 0x80 (bits % 0x40) 6 rfl (Nat.mod_lt _ (by omega))).trans (Nat.add_comm _ _)
  rw [utf8_encode_char_eq, utf8Bytes]
  split
  · rfl
  split
  · have lead : 0xc0 ||| char.toNat >>> 6 = char.toNat / 64 % 0x20 + 0xc0 := by
      rw [Nat.shiftRight_eq_div_pow, Nat.mod_eq_of_lt (by omega), Nat.add_comm]
      exact @or_aligned 0xc0 _ 6 rfl (by omega)
    rw [lead, tail]
  split
  · have lead : 0xe0 ||| char.toNat >>> 12 = char.toNat / 4096 % 0x10 + 0xe0 := by
      rw [Nat.shiftRight_eq_div_pow, Nat.mod_eq_of_lt (by omega), Nat.add_comm]
      exact @or_aligned 0xe0 _ 5 rfl (by omega)
    rw [lead, tail, tail, Nat.shiftRight_eq_div_pow]
  · have lead : 0xf0 ||| char.toNat >>> 18 = char.toNat / 262144 % 0x08 + 0xf0 := by
      rw [Nat.shiftRight_eq_div_pow, Nat.mod_eq_of_lt (by omega), Nat.add_comm]
      exact @or_aligned 0xf0 _ 4 rfl (by omega)
    rw [lead, tail, tail, tail, Nat.shiftRight_eq_div_pow, Nat.shiftRight_eq_div_pow]

theorem utf16_units_char (char : Char) : utf16Units char.toNat = utf16EncodeChar char := by
  have range := char_range char
  rw [utf16EncodeChar, utf16Units]
  split
  · rfl
  · have high : 0xd800 ||| (char.toNat - 0x10000) >>> 10 =
        0xd800 + (char.toNat - 0x10000) / 0x400 := by
      rw [Nat.shiftRight_eq_div_pow]
      exact @or_aligned 0xd800 _ 10 rfl (by omega)
    have low : 0xdc00 ||| (char.toNat - 0x10000 &&& 0x3ff) =
        0xdc00 + (char.toNat - 0x10000) % 0x400 := by
      have mask : char.toNat - 0x10000 &&& 0x3ff = (char.toNat - 0x10000) % 0x400 :=
        Nat.and_two_pow_sub_one_eq_mod _ 10
      rw [mask]
      exact @or_aligned 0xdc00 _ 10 rfl (Nat.mod_lt _ (by omega))
    rw [high, low]

theorem utf8_size_char (char : Char) :
    utf8CodepointSize char.toNat = (String.utf8EncodeChar char).length := by
  rw [utf8_encode_char_eq, utf8CodepointSize]
  split
  · rfl
  split
  · rfl
  split <;> rfl

theorem utf16_size_char (char : Char) :
    utf16CodepointSize char.toNat = (utf16EncodeChar char).length := by
  rw [utf16EncodeChar, utf16CodepointSize]
  split <;> rfl

/-! ### Whole texts -/

section Texts

variable {unit unit' : Type} {decode : List unit → Option (Nat × Nat)} {size : Nat → Nat}
  {encode : Nat → List unit'} {encoded : Char → List unit} {other : Char → List unit'}
  {replaceInvalid : Bool}

/-- A decoder that finds every encoded character, whatever follows it. -/
structure Decodes (decode : List unit → Option (Nat × Nat)) (encoded : Char → List unit) : Prop where
  nonempty : ∀ char, encoded char ≠ []
  char : ∀ char rest, decode (encoded char ++ rest) = some (char.toNat, (encoded char).length)

theorem Decodes.next (decodes : Decodes decode encoded) (char : Char) (rest : List unit) :
    ∃ first tail, encoded char ++ rest = first :: tail ∧
      decodeOrReplace decode replaceInvalid (first :: tail) =
        some (char.toNat, (encoded char).length) ∧
      tail.drop ((encoded char).length - 1) = rest := by
  obtain ⟨first, tail, split⟩ := List.exists_cons_of_ne_nil (decodes.nonempty char)
  have here := decodes.char char rest
  rw [split, List.cons_append] at here
  refine ⟨first, tail ++ rest, by rw [split, List.cons_append], ?_, ?_⟩
  · rw [decodeOrReplace, here, split]
  · rw [split, List.length_cons, Nat.add_sub_cancel, List.drop_left]

/-- Different texts have different encodings. -/
theorem Decodes.injective (decodes : Decodes decode encoded) {first second : List Char}
    (same : first.flatMap encoded = second.flatMap encoded) : first = second := by
  induction first generalizing second with
  | nil =>
    cases second with
    | nil => rfl
    | cons char rest =>
      rw [List.flatMap_nil, List.flatMap_cons] at same
      exact absurd (List.append_eq_nil_iff.mp same.symm).1 (decodes.nonempty char)
  | cons char rest ih =>
    cases second with
    | nil =>
      rw [List.flatMap_nil, List.flatMap_cons] at same
      exact absurd (List.append_eq_nil_iff.mp same).1 (decodes.nonempty char)
    | cons other rest' =>
      rw [List.flatMap_cons, List.flatMap_cons] at same
      have here := decodes.char char (rest.flatMap encoded)
      rw [same, decodes.char other, Option.some.injEq, Prod.mk.injEq] at here
      have first : char = other := Char.toNat_inj.mp here.1.symm
      rw [first] at same ⊢
      rw [ih (List.append_cancel_left same)]

/-- The sizing loop counts the units of the text. -/
theorem required_units_text (decodes : Decodes decode encoded)
    (sizes : ∀ char, size char.toNat = (other char).length) (chars : List Char) (count : Nat)
    (fits : count + (chars.flatMap other).length ≤ uint64Max) :
    requiredUnits decode size replaceInvalid (chars.flatMap encoded) count =
      .ok (count + (chars.flatMap other).length) := by
  induction chars generalizing count with
  | nil => rw [List.flatMap_nil, List.flatMap_nil, requiredUnits, List.length_nil, Nat.add_zero]
  | cons char rest ih =>
    rw [List.flatMap_cons, List.length_append] at fits
    obtain ⟨first, tail, split, decoded, dropped⟩ :=
      @Decodes.next _ _ _ replaceInvalid decodes char (rest.flatMap encoded)
    rw [List.flatMap_cons, split, requiredUnits, decoded]
    simp only [sizes, dropped]
    rw [if_neg (by omega), ih _ (by omega), List.flatMap_cons, List.length_append, Nat.add_assoc]

/-- The storing loop stores the text in the other encoding. -/
theorem store_units_text (decodes : Decodes decode encoded)
    (encodes : ∀ char, encode char.toNat = other char) (chars : List Char) (stored : List unit') :
    storeUnits decode encode replaceInvalid (chars.flatMap encoded) stored =
      (.ok, stored ++ chars.flatMap other) := by
  induction chars generalizing stored with
  | nil => rw [List.flatMap_nil, List.flatMap_nil, storeUnits, List.append_nil]
  | cons char rest ih =>
    obtain ⟨first, tail, split, decoded, dropped⟩ :=
      @Decodes.next _ _ _ replaceInvalid decodes char (rest.flatMap encoded)
    rw [List.flatMap_cons, split, storeUnits, decoded]
    simp only [encodes, dropped]
    rw [ih, List.flatMap_cons, List.append_assoc]

theorem convert_text_size (encode : Nat → List unit') (decodes : Decodes decode encoded)
    (sizes : ∀ char, size char.toNat = (other char).length) (chars : List Char)
    (fits : (chars.flatMap other).length ≤ uint64Max) :
    convert decode size encode replaceInvalid (chars.flatMap encoded) none =
      { status := .ok, written := some (chars.flatMap other).length } := by
  rw [convert, required_units_text decodes sizes chars 0 (by omega), Nat.zero_add]

theorem convert_text (decodes : Decodes decode encoded)
    (sizes : ∀ char, size char.toNat = (other char).length)
    (encodes : ∀ char, encode char.toNat = other char) (chars : List Char) {capacity : Nat}
    (fits : (chars.flatMap other).length ≤ uint64Max)
    (room : (chars.flatMap other).length ≤ capacity) :
    convert decode size encode replaceInvalid (chars.flatMap encoded) (some capacity) =
      { status := .ok, written := some (chars.flatMap other).length
        stored := chars.flatMap other } := by
  rw [convert, required_units_text decodes sizes chars 0 (by omega), Nat.zero_add]
  simp only [if_neg (Nat.not_lt.mpr room), store_units_text decodes encodes, List.nil_append]

end Texts

theorem decodes_utf8 : Decodes decodeUtf8 String.utf8EncodeChar where
  nonempty := utf8_ne_nil
  char := decode_utf8_char

theorem decodes_utf16 : Decodes decodeUtf16 utf16EncodeChar where
  nonempty := utf16_ne_nil
  char := decode_utf16_char

theorem utf16_to_utf8_size (chars : List Char) (fits : (encodeUtf8 chars).length ≤ uint64Max) :
    utf16ToUtf8 (encodeUtf16 chars) none =
      { status := .ok, written := some (encodeUtf8 chars).length } :=
  convert_text_size utf8Bytes decodes_utf16 utf8_size_char chars fits

theorem utf16_to_utf8_text (chars : List Char) {capacity : Nat}
    (fits : (encodeUtf8 chars).length ≤ uint64Max) (room : (encodeUtf8 chars).length ≤ capacity) :
    utf16ToUtf8 (encodeUtf16 chars) (some capacity) =
      { status := .ok, written := some (encodeUtf8 chars).length, stored := encodeUtf8 chars } :=
  convert_text decodes_utf16 utf8_size_char utf8_bytes_char chars fits room

theorem utf8_to_utf16_size (chars : List Char) (fits : (encodeUtf16 chars).length ≤ uint64Max) :
    utf8ToUtf16 (encodeUtf8 chars) none =
      { status := .ok, written := some (encodeUtf16 chars).length } :=
  convert_text_size utf16Units decodes_utf8 utf16_size_char chars fits

theorem utf8_to_utf16_text (chars : List Char) {capacity : Nat}
    (fits : (encodeUtf16 chars).length ≤ uint64Max)
    (room : (encodeUtf16 chars).length ≤ capacity) :
    utf8ToUtf16 (encodeUtf8 chars) (some capacity) =
      { status := .ok, written := some (encodeUtf16 chars).length
        stored := encodeUtf16 chars } :=
  convert_text decodes_utf8 utf16_size_char utf16_units_char chars fits room

end SadLayer.Unicode
