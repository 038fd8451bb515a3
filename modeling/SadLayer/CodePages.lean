import SadLayer.Library.FirstIndex
import SadLayer.Unicode

/-! `MultiByteToWideChar` and `WideCharToMultiByte`: UTF-8 and two single-byte code
pages, each with a table for the bytes that are not what they are in Unicode. -/
namespace SadLayer.CodePages
open SadLayer.Unicode

def errorInvalidParameter : Nat := 87
def errorInsufficientBuffer : Nat := 122
def errorInvalidFlags : Nat := 1004
def errorNoUnicodeTranslation : Nat := 1113

def int32Max : Nat := 2147483647

def cpAcp : UInt32 := 0
def cpOemcp : UInt32 := 1
def cpThreadAcp : UInt32 := 3
def cpUtf8 : UInt32 := 65001
def mbErrInvalidChars : UInt32 := 0x08
def wcErrInvalidChars : UInt32 := 0x80

def normalizeCodePage (codePage : UInt32) : UInt32 :=
  if codePage = cpAcp ∨ codePage = cpThreadAcp then 1252
  else if codePage = cpOemcp then 437
  else codePage

/-! ### Single bytes -/

def cp1252Extension : List UInt16 := [
  0x20ac, 0xffff, 0x201a, 0x0192, 0x201e, 0x2026, 0x2020,
  0x2021, 0x02c6, 0x2030, 0x0160, 0x2039, 0x0152, 0xffff,
  0x017d, 0xffff, 0xffff, 0x2018, 0x2019, 0x201c, 0x201d,
  0x2022, 0x2013, 0x2014, 0x02dc, 0x2122, 0x0161, 0x203a,
  0x0153, 0xffff, 0x017e, 0x0178]

def cp437Extension : List UInt16 := [
  0x00c7, 0x00fc, 0x00e9, 0x00e2, 0x00e4, 0x00e0, 0x00e5,
  0x00e7, 0x00ea, 0x00eb, 0x00e8, 0x00ef, 0x00ee, 0x00ec,
  0x00c4, 0x00c5, 0x00c9, 0x00e6, 0x00c6, 0x00f4, 0x00f6,
  0x00f2, 0x00fb, 0x00f9, 0x00ff, 0x00d6, 0x00dc, 0x00a2,
  0x00a3, 0x00a5, 0x20a7, 0x0192, 0x00e1, 0x00ed, 0x00f3,
  0x00fa, 0x00f1, 0x00d1, 0x00aa, 0x00ba, 0x00bf, 0x2310,
  0x00ac, 0x00bd, 0x00bc, 0x00a1, 0x00ab, 0x00bb, 0x2591,
  0x2592, 0x2593, 0x2502, 0x2524, 0x2561, 0x2562, 0x2556,
  0x2555, 0x2563, 0x2551, 0x2557, 0x255d, 0x255c, 0x255b,
  0x2510, 0x2514, 0x2534, 0x252c, 0x251c, 0x2500, 0x253c,
  0x255e, 0x255f, 0x255a, 0x2554, 0x2569, 0x2566, 0x2560,
  0x2550, 0x256c, 0x2567, 0x2568, 0x2564, 0x2565, 0x2559,
  0x2558, 0x2552, 0x2553, 0x256b, 0x256a, 0x2518, 0x250c,
  0x2588, 0x2584, 0x258c, 0x2590, 0x2580, 0x03b1, 0x00df,
  0x0393, 0x03c0, 0x03a3, 0x03c3, 0x00b5, 0x03c4, 0x03a6,
  0x0398, 0x03a9, 0x03b4, 0x221e, 0x03c6, 0x03b5, 0x2229,
  0x2261, 0x00b1, 0x2265, 0x2264, 0x2320, 0x2321, 0x00f7,
  0x2248, 0x00b0, 0x2219, 0x00b7, 0x221a, 0x207f, 0x00b2,
  0x25a0, 0x00a0]

def singleByteToUtf16 (codePage : UInt32) (byte : UInt8) : Option UInt16 :=
  let value := byte.toNat
  if value < 0x80 then some (.ofNat value)
  else if codePage = 437 then some (cp437Extension.getD (value - 0x80) 0)
  else if value < 0xa0 then
    let mapped := cp1252Extension.getD (value - 0x80) 0
    if mapped = 0xffff then none else some mapped
  else some (.ofNat value)

/-- The search through a table of the bytes from 0x80 on. -/
def findExtension (table : List UInt16) (codepoint : Nat) : Option UInt8 :=
  (Library.firstIndex (fun index => (table.getD index 0).toNat == codepoint) table.length).map
    fun index => .ofNat (index + 0x80)

def utf16ToSingleByte (codePage : UInt32) (codepoint : Nat) : Option UInt8 :=
  if codepoint < 0x80 then some (.ofNat codepoint)
  else if codePage = 437 then findExtension cp437Extension codepoint
  else if 0xa0 ≤ codepoint ∧ codepoint ≤ 0xff then some (.ofNat codepoint)
  else findExtension cp1252Extension codepoint

/-- `decode_wide_codepoint`. -/
def decodeWideCodepoint : List UInt16 → Option (Nat × Nat) := decodeUtf16

/-- What the loops of the single-byte conversion go through: a code point, or one unit that starts
none. -/
def wideCodepoints (source : List UInt16) : List (Option Nat) :=
  match source with
  | [] => []
  | first :: rest =>
    match decodeWideCodepoint (first :: rest) with
    | none => none :: wideCodepoints rest
    | some (codepoint, consumed) => some codepoint :: wideCodepoints (rest.drop (consumed - 1))
termination_by source.length
decreasing_by
  · exact Nat.lt_succ_self _
  · simp only [List.length_drop, List.length_cons]
    omega

/-- The loop of `single_byte_required`, from a count on. -/
def singleByteRequired (source : List UInt16) (output : Nat) : Nat :=
  match source with
  | [] => output
  | first :: rest =>
    match decodeWideCodepoint (first :: rest) with
    | none => singleByteRequired rest (output + 1)
    | some (_, consumed) => singleByteRequired (rest.drop (consumed - 1)) (output + 1)
termination_by source.length
decreasing_by
  · exact Nat.lt_succ_self _
  · simp only [List.length_drop, List.length_cons]
    omega

/-- The loop that stores a single-byte conversion, after what it has stored so far. -/
def storeSingleBytes (codePage : UInt32) (replacement : UInt8) (source : List UInt16)
    (stored : List UInt8) (usedDefault : Bool) : List UInt8 × Bool :=
  match source with
  | [] => (stored, usedDefault)
  | first :: rest =>
    match decodeWideCodepoint (first :: rest) with
    | none => storeSingleBytes codePage replacement rest (stored ++ [replacement]) true
    | some (codepoint, consumed) =>
      match utf16ToSingleByte codePage codepoint with
      | none => storeSingleBytes codePage replacement (rest.drop (consumed - 1))
          (stored ++ [replacement]) true
      | some byte => storeSingleBytes codePage replacement (rest.drop (consumed - 1))
          (stored ++ [byte]) usedDefault
termination_by source.length
decreasing_by
  · exact Nat.lt_succ_self _
  · simp only [List.length_drop, List.length_cons]
    omega
  · simp only [List.length_drop, List.length_cons]
    omega

/-! ### Conversions -/

/-- What a conversion comes to: the count it returns, the error it sets, what it stores, and
whether it says that it used the default character. -/
structure Converted (unit : Type) where
  count : Nat := 0
  lastError : Option Nat := none
  stored : List unit := []
  usedDefault : Option Bool := none
  deriving DecidableEq, Repr

def refused (error : Nat) : Converted unit := { lastError := some error }

/-- Where a conversion stores to. -/
structure Destination where
  isNull : Bool
  /-- It is the source as well. -/
  isSource : Bool
  capacity : Int
  deriving DecidableEq, Repr

/-- `byte_source_length` and `wide_source_length`. A source is what is in memory from its pointer
on, none for a null one. -/
def sourceLengthOf [BEq unit] (zero : unit) (source : Option (List unit)) (sourceLength : Int) :
    Except Nat Nat :=
  match source with
  | none => .error errorInvalidParameter
  | some units =>
    if sourceLength = 0 ∨ sourceLength < -1 then .error errorInvalidParameter
    else if sourceLength = -1 then
      let measured := (units.takeWhile (· != zero)).length
      if measured ≥ int32Max then .error errorInvalidParameter else .ok (measured + 1)
    else .ok sourceLength.toNat

/-- The checks of the code page and of the destination that both conversions make. -/
def argumentsAccepted (normalized : UInt32) (destination : Destination) : Bool :=
  !((normalized != 437 && normalized != 1252 && normalized != cpUtf8) ||
    destination.capacity < 0 || (destination.isNull && destination.capacity != 0) ||
    (!destination.isNull && destination.isSource))

/-- The end of both conversions once the required size is known. -/
def finishConversion (required : Nat) (destination : Destination) (store : Converted unit) :
    Converted unit :=
  if required > int32Max then refused errorInvalidParameter
  else if destination.capacity = 0 then { count := required }
  else if destination.capacity < required then refused errorInsufficientBuffer
  else store

/-- A conversion from or to UTF-8, which a flag makes strict. -/
def convertUtf8 (convert : Option Nat → Conversion unit) (destination : Destination) :
    Converted unit :=
  let failed (status : Status) : Converted unit :=
    refused (if status = .invalidEncoding then errorNoUnicodeTranslation else errorInvalidParameter)
  let sized := convert none
  if sized.status ≠ .ok then failed sized.status
  else
    let required := sized.written.getD 0
    let conversion := convert (some destination.capacity.toNat)
    finishConversion required destination
      (if conversion.status ≠ .ok ∨ conversion.written.getD 0 ≠ required then
        failed conversion.status
      else { count := required, stored := conversion.stored })

/-- `sl_kernel32_multi_byte_to_wide_char`. -/
def multiByteToWideChar (codePage flags : UInt32) (source : Option (List UInt8))
    (sourceLength : Int) (destination : Destination) : Converted UInt16 :=
  let normalized := normalizeCodePage codePage
  let strict : Bool := flags &&& mbErrInvalidChars ≠ 0
  if flags &&& ~~~mbErrInvalidChars ≠ 0 then refused errorInvalidFlags
  else if argumentsAccepted normalized destination = false then refused errorInvalidParameter
  else match sourceLengthOf 0 source sourceLength with
    | .error error => refused error
    | .ok inputLength =>
      let input := (source.getD []).take inputLength
      if normalized = cpUtf8 then convertUtf8 (utf8ToUtf16With (!strict) input) destination
      else if strict = true ∧ input.any (fun byte => (singleByteToUtf16 normalized byte).isNone) then
        refused errorNoUnicodeTranslation
      else finishConversion input.length destination {
        count := input.length
        stored := input.map fun byte => (singleByteToUtf16 normalized byte).getD 0xfffd }

/-- `sl_kernel32_wide_char_to_multi_byte`. A null default character is none; the last argument says
whether `used_default_character` is given. -/
def wideCharToMultiByte (codePage flags : UInt32) (source : Option (List UInt16))
    (sourceLength : Int) (destination : Destination) (defaultCharacter : Option UInt8)
    (wantsUsedDefault : Bool) : Converted UInt8 :=
  let normalized := normalizeCodePage codePage
  if (normalized = cpUtf8 ∧ flags &&& ~~~wcErrInvalidChars ≠ 0) ∨
      (normalized ≠ cpUtf8 ∧ flags ≠ 0) then refused errorInvalidFlags
  else if argumentsAccepted normalized destination = false ∨
      (normalized = cpUtf8 ∧ (defaultCharacter.isSome ∨ wantsUsedDefault = true)) then
    refused errorInvalidParameter
  else match sourceLengthOf 0 source sourceLength with
    | .error error => refused error
    | .ok inputLength =>
      let input := (source.getD []).take inputLength
      if normalized = cpUtf8 then
        convertUtf8 (utf16ToUtf8With (flags &&& wcErrInvalidChars == 0) input) destination
      else
        let codepoints := wideCodepoints input
        let bytes := codepoints.map fun codepoint =>
          codepoint.bind (utf16ToSingleByte normalized)
        finishConversion codepoints.length destination {
          count := codepoints.length
          stored := bytes.map fun byte => byte.getD (defaultCharacter.getD 0x3f)
          usedDefault := if wantsUsedDefault then some (bytes.any Option.isNone) else none }

end SadLayer.CodePages
