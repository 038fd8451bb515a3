import Mathlib.Algebra.Order.Ring.Nat
import SadLayer.Status

/-! Conversions between UTF-8 and UTF-16 buffers of explicit length. A source is
the list of its units; a destination is its capacity, or none for a null one. -/
namespace SadLayer.Unicode

/-- What a conversion answers: its status, `*written` when it is set, and the units it stores. -/
structure Conversion (unit : Type) where
  status : Status
  written : Option Nat := none
  stored : List unit := []
  deriving DecidableEq, Repr

/-! ### Code points -/

/-- The continuation loop of `decode_utf8`. -/
def decodeContinuations (value : Nat) : Nat → List UInt8 → Option Nat
  | 0, _ => some value
  | _ + 1, [] => none
  | remaining + 1, continuation :: rest =>
    if continuation.toNat &&& 0xc0 ≠ 0x80 then none
    else decodeContinuations (value <<< 6 ||| (continuation.toNat &&& 0x3f)) remaining rest

/-- The rest of `decode_utf8` once the first byte has given a length. -/
def decodeSequence (rest : List UInt8) (length value minimum : Nat) : Option (Nat × Nat) :=
  if length > rest.length + 1 then none
  else match decodeContinuations value (length - 1) rest with
    | none => none
    | some value =>
      if value < minimum ∨ value > 0x10ffff ∨ (value ≥ 0xd800 ∧ value ≤ 0xdfff) then none
      else some (value, length)

/-- `decode_utf8`: a code point and the bytes it takes. Its only failure is an invalid encoding. -/
def decodeUtf8 : List UInt8 → Option (Nat × Nat)
  | [] => none
  | byte :: rest =>
    let first := byte.toNat
    if first ≤ 0x7f then some (first, 1)
    else if first ≥ 0xc2 ∧ first ≤ 0xdf then decodeSequence rest 2 (first &&& 0x1f) 0x80
    else if first ≥ 0xe0 ∧ first ≤ 0xef then decodeSequence rest 3 (first &&& 0x0f) 0x800
    else if first ≥ 0xf0 ∧ first ≤ 0xf4 then decodeSequence rest 4 (first &&& 0x07) 0x10000
    else none

/-- `decode_utf16`: a code point and the units it takes. -/
def decodeUtf16 : List UInt16 → Option (Nat × Nat)
  | [] => none
  | unit :: rest =>
    let first := unit.toNat
    if first ≥ 0xd800 ∧ first ≤ 0xdbff then
      match rest with
      | [] => none
      | next :: _ =>
        let second := next.toNat
        if second < 0xdc00 ∨ second > 0xdfff then none
        else some (0x10000 + (first - 0xd800) <<< 10 + (second - 0xdc00), 2)
    else if first ≥ 0xdc00 ∧ first ≤ 0xdfff then none
    else some (first, 1)

/-- The size of `utf8_codepoint_size`. -/
def utf8CodepointSize (codepoint : Nat) : Nat :=
  if codepoint ≤ 0x7f then 1
  else if codepoint ≤ 0x7ff then 2
  else if codepoint ≤ 0xffff then 3
  else 4

/-- The bytes that `utf16_to_utf8` stores for a code point. -/
def utf8Bytes (codepoint : Nat) : List UInt8 :=
  if codepoint ≤ 0x7f then [.ofNat codepoint]
  else if codepoint ≤ 0x7ff then
    [.ofNat (0xc0 ||| codepoint >>> 6), .ofNat (0x80 ||| (codepoint &&& 0x3f))]
  else if codepoint ≤ 0xffff then
    [.ofNat (0xe0 ||| codepoint >>> 12), .ofNat (0x80 ||| (codepoint >>> 6 &&& 0x3f)),
      .ofNat (0x80 ||| (codepoint &&& 0x3f))]
  else
    [.ofNat (0xf0 ||| codepoint >>> 18), .ofNat (0x80 ||| (codepoint >>> 12 &&& 0x3f)),
      .ofNat (0x80 ||| (codepoint >>> 6 &&& 0x3f)), .ofNat (0x80 ||| (codepoint &&& 0x3f))]

/-- The count that `utf8_required_units` adds for a code point. -/
def utf16CodepointSize (codepoint : Nat) : Nat :=
  if codepoint ≤ 0xffff then 1 else 2

/-- The units that `utf8_to_utf16` stores for a code point. -/
def utf16Units (codepoint : Nat) : List UInt16 :=
  if codepoint ≤ 0xffff then [.ofNat codepoint]
  else [.ofNat (0xd800 ||| (codepoint - 0x10000) >>> 10),
    .ofNat (0xdc00 ||| (codepoint - 0x10000 &&& 0x3ff))]

/-! ### Conversions -/

/-- A replacing conversion takes one unit that decodes to nothing for U+FFFD. -/
def decodeOrReplace (decode : List unit → Option (Nat × Nat)) (replaceInvalid : Bool)
    (source : List unit) : Option (Nat × Nat) :=
  match decode source with
  | some decoded => some decoded
  | none => if replaceInvalid then some (0xfffd, 1) else none

/-- The sizing loop of either direction, from a count on. A code point takes at least one unit. -/
def requiredUnits (decode : List unit → Option (Nat × Nat)) (size : Nat → Nat)
    (replaceInvalid : Bool) (source : List unit) (count : Nat) : Except Status Nat :=
  match source with
  | [] => .ok count
  | first :: rest =>
    match decodeOrReplace decode replaceInvalid (first :: rest) with
    | none => .error .invalidEncoding
    | some (codepoint, consumed) =>
      if count > uint64Max - size codepoint then .error .outOfMemory
      else requiredUnits decode size replaceInvalid (rest.drop (consumed - 1))
        (count + size codepoint)
termination_by source.length
decreasing_by
  simp only [List.length_drop, List.length_cons]
  omega

/-- The storing loop of either direction, after the units stored so far. -/
def storeUnits (decode : List unit → Option (Nat × Nat)) (encode : Nat → List unit')
    (replaceInvalid : Bool) (source : List unit) (stored : List unit') : Status × List unit' :=
  match source with
  | [] => (.ok, stored)
  | first :: rest =>
    match decodeOrReplace decode replaceInvalid (first :: rest) with
    | none => (.invalidEncoding, stored)
    | some (codepoint, consumed) =>
      storeUnits decode encode replaceInvalid (rest.drop (consumed - 1))
        (stored ++ encode codepoint)
termination_by source.length
decreasing_by
  simp only [List.length_drop, List.length_cons]
  omega

def convert (decode : List unit → Option (Nat × Nat)) (size : Nat → Nat)
    (encode : Nat → List unit') (replaceInvalid : Bool) (source : List unit)
    (destination : Option Nat) : Conversion unit' :=
  match requiredUnits decode size replaceInvalid source 0 with
  | .error status => { status := status }
  | .ok required =>
    match destination with
    | none => { status := .ok, written := some required }
    | some capacity =>
      if capacity < required then { status := .bufferTooSmall, written := some required }
      else
        let (status, stored) := storeUnits decode encode replaceInvalid source []
        { status := status, written := some required, stored := stored }

/-- `utf8_to_utf16`, with the sizing loop of `utf8_required_units`. -/
def utf8ToUtf16With (replaceInvalid : Bool) : List UInt8 → Option Nat → Conversion UInt16 :=
  convert decodeUtf8 utf16CodepointSize utf16Units replaceInvalid

/-- `utf16_to_utf8`, with the sizing loop of `utf16_required_bytes`. -/
def utf16ToUtf8With (replaceInvalid : Bool) : List UInt16 → Option Nat → Conversion UInt8 :=
  convert decodeUtf16 utf8CodepointSize utf8Bytes replaceInvalid

/-- `sl_utf8_to_utf16`. -/
def utf8ToUtf16 : List UInt8 → Option Nat → Conversion UInt16 := utf8ToUtf16With false

/-- `sl_utf8_to_utf16_lossy`. -/
def utf8ToUtf16Lossy : List UInt8 → Option Nat → Conversion UInt16 := utf8ToUtf16With true

/-- `sl_utf16_to_utf8`. -/
def utf16ToUtf8 : List UInt16 → Option Nat → Conversion UInt8 := utf16ToUtf8With false

/-- `sl_utf16_to_utf8_lossy`. -/
def utf16ToUtf8Lossy : List UInt16 → Option Nat → Conversion UInt8 := utf16ToUtf8With true

end SadLayer.Unicode
