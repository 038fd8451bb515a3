import Mathlib.Algebra.Order.Ring.Nat
import Mathlib.Data.List.Basic

/-! Unicode text as characters, and its encodings in bytes and in 16-bit units. -/
namespace SadLayer.Library

/-- The 16-bit units of a character, two of them past the basic plane. -/
def utf16EncodeChar (char : Char) : List UInt16 :=
  if char.toNat ≤ 0xffff then [.ofNat char.toNat]
  else [.ofNat (0xd800 + (char.toNat - 0x10000) / 0x400),
    .ofNat (0xdc00 + (char.toNat - 0x10000) % 0x400)]

def encodeUtf8 (chars : List Char) : List UInt8 := chars.flatMap String.utf8EncodeChar

def encodeUtf16 (chars : List Char) : List UInt16 := chars.flatMap utf16EncodeChar

variable {char : Char} {chars : List Char}

theorem encode_utf8_append (first second : List Char) :
    encodeUtf8 (first ++ second) = encodeUtf8 first ++ encodeUtf8 second :=
  List.flatMap_append

theorem encode_utf16_append (first second : List Char) :
    encodeUtf16 (first ++ second) = encodeUtf16 first ++ encodeUtf16 second :=
  List.flatMap_append

/-- No character is a surrogate or past the last plane. -/
theorem char_range (char : Char) :
    char.toNat < 0xd800 ∨ (0xdfff < char.toNat ∧ char.toNat < 0x110000) :=
  char.valid

/-- The bytes of a character, by its code point. -/
theorem utf8_encode_char_eq (char : Char) : String.utf8EncodeChar char =
    if char.toNat ≤ 0x7f then [.ofNat char.toNat]
    else if char.toNat ≤ 0x7ff then
      [.ofNat (char.toNat / 64 % 0x20 + 0xc0), .ofNat (char.toNat % 0x40 + 0x80)]
    else if char.toNat ≤ 0xffff then
      [.ofNat (char.toNat / 4096 % 0x10 + 0xe0), .ofNat (char.toNat / 64 % 0x40 + 0x80),
        .ofNat (char.toNat % 0x40 + 0x80)]
    else
      [.ofNat (char.toNat / 262144 % 0x08 + 0xf0), .ofNat (char.toNat / 4096 % 0x40 + 0x80),
        .ofNat (char.toNat / 64 % 0x40 + 0x80), .ofNat (char.toNat % 0x40 + 0x80)] := rfl

/-- An ASCII character is its own byte. -/
theorem utf8_of_ascii (ascii : char.toNat < 0x80) :
    String.utf8EncodeChar char = [.ofNat char.toNat] :=
  if_pos (Nat.le_of_lt_succ ascii)

/-- No byte of another character is ASCII. -/
theorem utf8_of_not_ascii (other : ¬ char.toNat < 0x80) :
    ∀ byte ∈ String.utf8EncodeChar char, 0x80 ≤ byte.toNat := by
  intro byte member
  rw [utf8_encode_char_eq, if_neg (by omega)] at member
  split at member
  · rcases List.mem_pair.mp member with rfl | rfl <;> simp only [UInt8.toNat_ofNat'] <;> omega
  · split at member <;>
      simp only [List.mem_cons, List.not_mem_nil, or_false] at member
    · rcases member with rfl | rfl | rfl <;> simp only [UInt8.toNat_ofNat'] <;> omega
    · rcases member with rfl | rfl | rfl | rfl <;> simp only [UInt8.toNat_ofNat'] <;> omega

theorem utf16_of_ascii (ascii : char.toNat < 0x80) :
    utf16EncodeChar char = [.ofNat char.toNat] :=
  if_pos (by omega)

theorem utf16_of_not_ascii (other : ¬ char.toNat < 0x80) :
    ∀ unit ∈ utf16EncodeChar char, 0x80 ≤ unit.toNat := by
  intro unit member
  have range := char_range char
  unfold utf16EncodeChar at member
  split at member
  · rw [List.mem_singleton] at member
    rw [member, UInt16.toNat_ofNat']
    omega
  · rcases List.mem_pair.mp member with rfl | rfl <;> rw [UInt16.toNat_ofNat'] <;> omega

theorem ascii_mem_utf8 (ascii : char.toNat < 0x80) :
    UInt8.ofNat char.toNat ∈ encodeUtf8 chars ↔ char ∈ chars := by
  constructor
  · intro member
    obtain ⟨other, among, inside⟩ := List.mem_flatMap.mp member
    have byte : (UInt8.ofNat char.toNat).toNat = char.toNat := by
      rw [UInt8.toNat_ofNat']
      omega
    by_cases otherAscii : other.toNat < 0x80
    · rw [utf8_of_ascii otherAscii, List.mem_singleton] at inside
      have same := congrArg UInt8.toNat inside
      rw [byte, UInt8.toNat_ofNat', Nat.mod_eq_of_lt (by omega)] at same
      rwa [Char.toNat_inj.mp same]
    · have high := utf8_of_not_ascii otherAscii _ inside
      omega
  · intro member
    exact List.mem_flatMap.mpr ⟨char, member, by rw [utf8_of_ascii ascii, List.mem_singleton]⟩

theorem ascii_mem_utf16 (ascii : char.toNat < 0x80) :
    UInt16.ofNat char.toNat ∈ encodeUtf16 chars ↔ char ∈ chars := by
  constructor
  · intro member
    obtain ⟨other, among, inside⟩ := List.mem_flatMap.mp member
    have unit : (UInt16.ofNat char.toNat).toNat = char.toNat := by
      rw [UInt16.toNat_ofNat']
      omega
    by_cases otherAscii : other.toNat < 0x80
    · rw [utf16_of_ascii otherAscii, List.mem_singleton] at inside
      have same := congrArg UInt16.toNat inside
      rw [unit, UInt16.toNat_ofNat', Nat.mod_eq_of_lt (by omega)] at same
      rwa [Char.toNat_inj.mp same]
    · have high := utf16_of_not_ascii otherAscii _ inside
      omega
  · intro member
    exact List.mem_flatMap.mpr ⟨char, member, by rw [utf16_of_ascii ascii, List.mem_singleton]⟩

theorem utf8_ne_nil (char : Char) : String.utf8EncodeChar char ≠ [] :=
  String.utf8EncodeChar_ne_nil

theorem utf16_ne_nil (char : Char) : utf16EncodeChar char ≠ [] := by
  unfold utf16EncodeChar
  split <;> simp

/-- A text takes at most three bytes for each of its 16-bit units. -/
theorem encode_utf8_length_le (chars : List Char) :
    (encodeUtf8 chars).length ≤ 3 * (encodeUtf16 chars).length := by
  induction chars with
  | nil => exact Nat.le_refl _
  | cons char rest ih =>
    have here : (String.utf8EncodeChar char).length ≤ 3 * (utf16EncodeChar char).length := by
      rw [utf8_encode_char_eq, utf16EncodeChar]
      split
      · split <;> simp
      · split
        · split <;> simp
        · split <;> simp
    simp only [encodeUtf8, encodeUtf16, List.flatMap_cons, List.length_append] at ih ⊢
    omega

/-! ### What is well formed -/

/-- Every scalar value is a character. -/
theorem exists_char {value : Nat}
    (range : value < 0xd800 ∨ (0xdfff < value ∧ value < 0x110000)) :
    ∃ char : Char, char.toNat = value := by
  have small : value < 2 ^ 32 := by omega
  refine ⟨⟨.ofNat value, ?_⟩, ?_⟩
  · rw [UInt32.isValidChar, Nat.isValidChar, UInt32.toNat_ofNat', Nat.mod_eq_of_lt small]
    exact range
  · rw [Char.toNat, UInt32.toNat_ofNat', Nat.mod_eq_of_lt small]

def HighSurrogate (unit : UInt16) : Prop := 0xd800 ≤ unit.toNat ∧ unit.toNat ≤ 0xdbff

def LowSurrogate (unit : UInt16) : Prop := 0xdc00 ≤ unit.toNat ∧ unit.toNat ≤ 0xdfff

/-- Every high surrogate is followed by a low one, and every low one comes behind a high one. -/
structure SurrogatesPaired (units : List UInt16) : Prop where
  high : ∀ (index : Nat) (unit : UInt16), units[index]? = some unit → HighSurrogate unit →
    ∃ next, units[index + 1]? = some next ∧ LowSurrogate next
  low : ∀ (index : Nat) (unit : UInt16), units[index]? = some unit → LowSurrogate unit →
    ∃ before previous, index = before + 1 ∧ units[before]? = some previous ∧
      HighSurrogate previous

theorem not_both_surrogates {unit : UInt16} (high : HighSurrogate unit) : ¬ LowSurrogate unit := by
  unfold HighSurrogate LowSurrogate at *
  omega

theorem surrogates_paired_nil : SurrogatesPaired [] := ⟨by simp, by simp⟩

/-- A unit that is no surrogate changes nothing about those behind it. -/
theorem surrogates_paired_cons {unit : UInt16} {rest : List UInt16}
    (notHigh : ¬ HighSurrogate unit) (notLow : ¬ LowSurrogate unit) :
    SurrogatesPaired (unit :: rest) ↔ SurrogatesPaired rest := by
  constructor
  · intro paired
    constructor
    · intro index other here surrogate
      exact paired.high (index + 1) other here surrogate
    · intro index other here surrogate
      obtain ⟨before, previous, place, there, high⟩ := paired.low (index + 1) other here surrogate
      cases before with
      | zero =>
        cases there
        exact absurd high notHigh
      | succ before => exact ⟨before, previous, Nat.succ.inj place, there, high⟩
  · intro paired
    constructor
    · intro index other here surrogate
      cases index with
      | zero =>
        cases here
        exact absurd surrogate notHigh
      | succ index => exact paired.high index other here surrogate
    · intro index other here surrogate
      cases index with
      | zero =>
        cases here
        exact absurd surrogate notLow
      | succ index =>
        obtain ⟨before, previous, place, there, high⟩ := paired.low index other here surrogate
        exact ⟨before + 1, previous, by omega, there, high⟩

/-- Nor does a pair. -/
theorem surrogates_paired_pair {first second : UInt16} {rest : List UInt16}
    (high : HighSurrogate first) (low : LowSurrogate second) :
    SurrogatesPaired (first :: second :: rest) ↔ SurrogatesPaired rest := by
  constructor
  · intro paired
    constructor
    · intro index other here surrogate
      exact paired.high (index + 2) other here surrogate
    · intro index other here surrogate
      obtain ⟨before, previous, place, there, highBefore⟩ :=
        paired.low (index + 2) other here surrogate
      cases index with
      | zero =>
        cases place
        cases there
        exact absurd low (not_both_surrogates highBefore)
      | succ index =>
        obtain rfl : before = index + 2 := by omega
        exact ⟨index, previous, rfl, there, highBefore⟩
  · intro paired
    constructor
    · intro index other here surrogate
      match index with
      | 0 => exact ⟨second, rfl, low⟩
      | 1 =>
        cases here
        exact absurd low (not_both_surrogates surrogate)
      | index + 2 => exact paired.high index other here surrogate
    · intro index other here surrogate
      match index with
      | 0 =>
        cases here
        exact absurd surrogate (not_both_surrogates high)
      | 1 => exact ⟨0, first, rfl, rfl, high⟩
      | index + 2 =>
        obtain ⟨before, previous, place, there, highBefore⟩ := paired.low index other here surrogate
        exact ⟨before + 2, previous, by omega, there, highBefore⟩

/-- A character past the basic plane is a pair, every other one a unit that is no surrogate. -/
theorem utf16_encode_char_cases (char : Char) :
    (∃ unit, utf16EncodeChar char = [unit] ∧ unit.toNat = char.toNat ∧
      ¬ HighSurrogate unit ∧ ¬ LowSurrogate unit) ∨
    ∃ first second, utf16EncodeChar char = [first, second] ∧ HighSurrogate first ∧
      LowSurrogate second := by
  have range := char_range char
  unfold utf16EncodeChar HighSurrogate LowSurrogate
  by_cases basic : char.toNat ≤ 0xffff
  · have unit : (UInt16.ofNat char.toNat).toNat = char.toNat := by
      rw [UInt16.toNat_ofNat']
      omega
    rw [if_pos basic]
    exact .inl ⟨_, rfl, unit, by omega, by omega⟩
  · rw [if_neg basic]
    refine .inr ⟨_, _, rfl, ?_, ?_⟩
    · rw [UInt16.toNat_ofNat']
      omega
    · rw [UInt16.toNat_ofNat']
      omega

theorem char_of_unit {unit : UInt16} (notHigh : ¬ HighSurrogate unit)
    (notLow : ¬ LowSurrogate unit) :
    ∃ char : Char, utf16EncodeChar char = [unit] ∧ char.toNat = unit.toNat := by
  have bound := unit.toNat_lt
  unfold HighSurrogate at notHigh
  unfold LowSurrogate at notLow
  obtain ⟨char, value⟩ := @exists_char unit.toNat (by omega)
  refine ⟨char, ?_, value⟩
  rw [utf16EncodeChar, if_pos (by omega), value, UInt16.ofNat_toNat]

theorem char_of_pair {first second : UInt16} (high : HighSurrogate first)
    (low : LowSurrogate second) :
    ∃ char : Char, utf16EncodeChar char = [first, second] ∧
      char.toNat = 0x10000 + (first.toNat - 0xd800) * 0x400 + (second.toNat - 0xdc00) := by
  unfold HighSurrogate at high
  unfold LowSurrogate at low
  obtain ⟨char, value⟩ := @exists_char
    (0x10000 + (first.toNat - 0xd800) * 0x400 + (second.toNat - 0xdc00)) (by omega)
  have upper : 0xd800 + (char.toNat - 0x10000) / 0x400 = first.toNat := by omega
  have lower : 0xdc00 + (char.toNat - 0x10000) % 0x400 = second.toNat := by omega
  refine ⟨char, ?_, value⟩
  rw [utf16EncodeChar, if_neg (by omega), upper, lower, UInt16.ofNat_toNat, UInt16.ofNat_toNat]

theorem text_of_paired : ∀ units : List UInt16, SurrogatesPaired units →
    ∃ chars, units = encodeUtf16 chars
  | [], _ => ⟨[], rfl⟩
  | first :: rest, paired => by
    have notLow : ¬ LowSurrogate first := by
      intro low
      obtain ⟨before, previous, place, -⟩ := paired.low 0 first rfl low
      omega
    by_cases high : HighSurrogate first
    · obtain ⟨second, there, low⟩ := paired.high 0 first rfl high
      cases rest with
      | nil => cases there
      | cons other rest =>
        cases there
        obtain ⟨char, encoded, -⟩ := char_of_pair high low
        obtain ⟨chars, text⟩ := text_of_paired rest ((surrogates_paired_pair high low).mp paired)
        refine ⟨char :: chars, ?_⟩
        rw [encodeUtf16, List.flatMap_cons, encoded, text]
        rfl
    · obtain ⟨char, encoded, -⟩ := char_of_unit high notLow
      obtain ⟨chars, text⟩ := text_of_paired rest ((surrogates_paired_cons high notLow).mp paired)
      refine ⟨char :: chars, ?_⟩
      rw [encodeUtf16, List.flatMap_cons, encoded, text]
      rfl

/-- Units with paired surrogates are exactly the encodings of texts. -/
theorem surrogates_paired_iff {units : List UInt16} :
    SurrogatesPaired units ↔ ∃ chars, units = encodeUtf16 chars := by
  constructor
  · exact text_of_paired units
  · rintro ⟨chars, rfl⟩
    induction chars with
    | nil => exact surrogates_paired_nil
    | cons char rest ih =>
      rw [encodeUtf16, List.flatMap_cons]
      obtain ⟨unit, single, -, notHigh, notLow⟩ | ⟨first, second, pair, high, low⟩ :=
        utf16_encode_char_cases char
      · rw [single, List.singleton_append]
        exact (surrogates_paired_cons notHigh notLow).mpr ih
      · rw [pair, List.cons_append, List.singleton_append]
        exact (surrogates_paired_pair high low).mpr ih

end SadLayer.Library
