import SadLayer.Unicode

/-! `GetEnvironmentStringsW`: the environment of the host, sorted and converted to
one block of UTF-16 strings that an empty one ends. -/
namespace SadLayer.Environment
open SadLayer.Unicode

abbrev CString := List UInt8

def errorNotEnoughMemory : Nat := 8
def errorNoUnicodeTranslation : Nat := 1113

/-- `sizeof(sl_environment_header)`. -/
def headerSize : Nat := 32

/-! ### The order of entries -/

def foldEnvironmentByte (byte : UInt8) : UInt8 :=
  if 0x41 ≤ byte ∧ byte ≤ 0x5a then byte + (0x61 - 0x41) else byte

/-- The loop of `compare_environment_entries`, and the test behind it: the answer, or `none` when
both entries end at once. -/
def compareFolded : CString → CString → Option Int
  | [], [] => none
  | [], _ :: _ => some (-1)
  | _ :: _, [] => some 1
  | left :: lefts, right :: rights =>
    if foldEnvironmentByte left ≠ foldEnvironmentByte right then
      some (if foldEnvironmentByte left < foldEnvironmentByte right then -1 else 1)
    else compareFolded lefts rights

/-- `strcmp`, by the sign of what it returns. -/
def strcmp : CString → CString → Int
  | [], [] => 0
  | [], _ :: _ => -1
  | _ :: _, [] => 1
  | left :: lefts, right :: rights =>
    if left < right then -1 else if right < left then 1 else strcmp lefts rights

def compareEnvironmentEntries (left right : CString) : Int :=
  match compareFolded left right with
  | some answer => answer
  | none => strcmp left right

/-- What `qsort` leaves of the entries. -/
def sortEntries (entries : List CString) : List CString :=
  entries.mergeSort fun left right => compareEnvironmentEntries left right ≤ 0

/-! ### The block -/

/-- `sl_environment_header`, with the block behind it. -/
structure EnvironmentBlock where
  unitCount : Nat
  units : List UInt16
  deriving DecidableEq, Repr

/-- The blocks in use, from the last one on, and the last error of the thread. -/
structure EnvironmentState where
  blocks : List EnvironmentBlock := []
  lastError : Nat := 0
  deriving DecidableEq, Repr

/-- What the C library answers: whether the entries and the block are allocated, and whether the
lock is taken. -/
structure LibraryAnswers where
  entries : Bool
  block : Bool
  lock : Bool

/-- The error that a failed conversion is reported as. -/
def conversionError (status : Status) : Nat :=
  if status = .invalidEncoding then errorNoUnicodeTranslation else errorNotEnoughMemory

/-- The sizing loop, from a count of units on. -/
def measureEntries : List CString → Nat → Except Nat Nat
  | [], totalUnits => .ok totalUnits
  | entry :: rest, totalUnits =>
    let conversion := utf8ToUtf16 entry none
    let units := conversion.written.getD 0
    if conversion.status ≠ .ok ∨ units = uint64Max ∨ totalUnits > uint64Max - units - 1 then
      .error (conversionError conversion.status)
    else measureEntries rest (totalUnits + (units + 1))

def storeAt (block : List UInt16) (offset : Nat) (units : List UInt16) : List UInt16 :=
  block.take offset ++ units ++ block.drop (offset + units.length)

/-- The writing loop: the offset behind the entries, and the block. -/
def writeEntries (totalUnits : Nat) : List CString → Nat → List UInt16 →
    Except Nat (Nat × List UInt16)
  | [], offset, block => .ok (offset, block)
  | entry :: rest, offset, block =>
    let conversion := utf8ToUtf16 entry (some (totalUnits - offset - 1))
    let written := conversion.written.getD 0
    if conversion.status ≠ .ok ∨ written ≥ totalUnits - offset then
      .error (conversionError conversion.status)
    else writeEntries totalUnits rest (offset + (written + 1))
      (storeAt block offset conversion.stored)

def refuse (state : EnvironmentState) (error : Nat) :
    Option EnvironmentBlock × EnvironmentState :=
  (none, { state with lastError := error })

/-- `sl_kernel32_get_environment_strings_w`. The environment is `none` when `environ` is null. -/
def getEnvironmentStringsW (answers : LibraryAnswers) (environ : Option (List CString))
    (state : EnvironmentState) : Option EnvironmentBlock × EnvironmentState :=
  let given := environ.getD []
  if given.length > uint64Max / 8 then refuse state errorNotEnoughMemory
  else if given ≠ [] ∧ answers.entries = false then refuse state errorNotEnoughMemory
  else
    let entries := sortEntries given
    match measureEntries entries 1 with
    | .error error => refuse state error
    | .ok measured =>
      let totalUnits := if given = [] then 2 else measured
      if totalUnits > (uint64Max - headerSize) / 2 then refuse state errorNotEnoughMemory
      else if answers.block = false then refuse state errorNotEnoughMemory
      else match writeEntries totalUnits entries 0 (List.replicate totalUnits 0) with
        | .error error => refuse state error
        | .ok (offset, block) =>
          if answers.lock = false then refuse state errorNotEnoughMemory
          else
            let header := { unitCount := totalUnits, units := block.set offset 0 }
            (some header, { state with blocks := header :: state.blocks })

/-! ### Reading a block -/

/-- The strings of a block: it is split at its zero units, and the first empty string ends it. -/
def environmentStrings (block : List UInt16) : List (List UInt16) :=
  (block.splitOn 0).takeWhile (· ≠ [])

end SadLayer.Environment
