import SadLayer.Unicode

/-! Splitting a search pattern into the directory to open below the root and the
pattern of the names in it. A buffer is the list of its bytes, and a write
outside of one has no outcome. -/
namespace SadLayer.Search
open SadLayer.Unicode

/-- `sl_search_result`. -/
inductive SearchResult where
  | ok
  | invalidArgument
  | invalidEncoding
  | invalidPath
  | noMatch
  | io
  | outOfMemory
  deriving DecidableEq, Repr

def slash : UInt8 := 0x2f
def backslash : UInt8 := 0x5c
def colon : UInt8 := 0x3a
def dot : UInt8 := 0x2e
def star : UInt8 := 0x2a
def question : UInt8 := 0x3f

/-- What `normalize_pattern` answers and leaves in its out-parameters. -/
structure Normalized where
  result : SearchResult
  directory : Option (List UInt8) := none
  pattern : Option (List UInt16) := none
  patternLength : Nat := 0
  deriving DecidableEq, Repr

/-- Which allocations of `normalize_pattern` succeed. -/
structure Allocations where
  encoded : Bool := true
  directory : Bool := true
  pattern : Bool := true
  deriving DecidableEq, Repr

def componentIs (component expected : List UInt8) : Bool := component == expected

/-- Stores bytes at an offset, all of them inside the buffer. -/
def writeBytes (buffer : List UInt8) (offset : Nat) (bytes : List UInt8) : Option (List UInt8) :=
  if offset + bytes.length > buffer.length then none
  else some (buffer.take offset ++ bytes ++ buffer.drop (offset + bytes.length))

/-- The loop that turns backslashes into slashes, none at a colon. -/
def replaceSeparators : List UInt8 → Option (List UInt8)
  | [] => some []
  | byte :: rest =>
    if byte = backslash then (replaceSeparators rest).map (slash :: ·)
    else if byte = colon then none
    else (replaceSeparators rest).map (byte :: ·)

/-- The loop that moves an index back to just after a slash, or to the start. -/
def backToSlash (buffer : List UInt8) : Nat → Nat
  | 0 => 0
  | index + 1 => if buffer.getD index 0 ≠ slash then backToSlash buffer index else index + 1

/-- What is left to read after skipping slashes and reading a component. -/
def afterComponent (remaining : List UInt8) : List UInt8 :=
  (remaining.dropWhile (· == slash)).dropWhile (· != slash)

theorem after_component_shorter (byte : UInt8) (rest : List UInt8) :
    (afterComponent (byte :: rest)).length < (byte :: rest).length := by
  have shorter (list : List UInt8) (keep : UInt8 → Bool) :
      (list.dropWhile keep).length ≤ list.length := (List.dropWhile_sublist keep).length_le
  unfold afterComponent
  rw [List.dropWhile_cons, List.length_cons]
  by_cases separator : (byte == slash) = true
  · rw [if_pos separator]
    have outer := shorter (rest.dropWhile (· == slash)) (· != slash)
    have inner := shorter rest (· == slash)
    omega
  · have other : (byte != slash) = true := by simpa using separator
    rw [if_neg separator, List.dropWhile_cons, if_pos other]
    have tail := shorter rest (· != slash)
    omega

/-- The loop of `normalize_pattern` over the bytes before the leaf: its result, and the directory
buffer with the length in use. -/
def normalizeComponents (remaining directory : List UInt8) (output : Nat) :
    Option (SearchResult × List UInt8 × Nat) :=
  match remaining with
  | [] => some (.ok, directory, output)
  | byte :: rest =>
    let component := ((byte :: rest).dropWhile (· == slash)).takeWhile (· != slash)
    let remaining := afterComponent (byte :: rest)
    if component.length = 0 ∨ componentIs component [dot] then
      normalizeComponents remaining directory output
    else if componentIs component [dot, dot] then
      if output = 0 then some (.invalidPath, directory, output)
      else normalizeComponents remaining directory (backToSlash directory output - 1)
    else if star ∈ component ∨ question ∈ component then some (.invalidPath, directory, output)
    else
      match (if output ≠ 0 then writeBytes directory output [slash] else some directory) with
      | none => none
      | some directory =>
        let output := if output ≠ 0 then output + 1 else output
        match writeBytes directory output component with
        | none => none
        | some directory =>
          normalizeComponents remaining directory (output + component.length)
termination_by remaining.length
decreasing_by all_goals exact after_component_shorter byte rest

/-- The end of `normalize_pattern`: the leaf goes back to UTF-16. -/
def normalizeLeaf (leaf directory : List UInt8) (allocations : Allocations) : Normalized :=
  let sized := utf8ToUtf16 leaf none
  if sized.status ≠ .ok then { result := .invalidEncoding }
  else
    let patternLength := sized.written.getD 0
    if patternLength > uint64Max / 2 - 1 then { result := .outOfMemory }
    else if allocations.pattern = false then { result := .outOfMemory }
    else
      let conversion := utf8ToUtf16 leaf (some patternLength)
      if conversion.status ≠ .ok ∨ conversion.written.getD 0 ≠ patternLength then
        { result := .invalidEncoding }
      else {
        result := .ok
        directory := some directory
        pattern := some conversion.stored
        patternLength := patternLength }

/-- The middle of `normalize_pattern`, from the encoded pattern with its slashes on. -/
def normalizeEncoded (encoded : List UInt8) (allocations : Allocations) : Option Normalized :=
  if encoded.head? = some slash ∨ encoded.getLast? = some slash then
    some { result := .invalidPath }
  else
    let leafStart := backToSlash encoded encoded.length
    let leaf := encoded.drop leafStart
    if leaf.length = 0 ∨ componentIs leaf [dot] ∨ componentIs leaf [dot, dot] then
      some { result := .invalidPath }
    else if allocations.directory = false then some { result := .outOfMemory }
    else
      match normalizeComponents (encoded.take leafStart) (List.replicate (leafStart + 1) 0) 0 with
      | none => none
      | some (result, directory, output) =>
        if result ≠ .ok then some { result := result }
        else
          match writeBytes directory output [0] with
          | none => none
          | some directory => some (normalizeLeaf leaf directory allocations)

/-- `normalize_pattern`. -/
def normalizePattern (pathPattern : List UInt16) (allocations : Allocations) : Option Normalized :=
  let encodingFailure (status : Status) : SearchResult :=
    if status = .invalidEncoding then .invalidEncoding else .invalidArgument
  if pathPattern = [] then some { result := .invalidArgument }
  else if 0 ∈ pathPattern then some { result := .invalidPath }
  else
    let sized := utf16ToUtf8 pathPattern none
    if sized.status ≠ .ok then some { result := encodingFailure sized.status }
    else
      let encodedLength := sized.written.getD 0
      if encodedLength = 0 ∨ encodedLength = uint64Max then some { result := .invalidPath }
      else if allocations.encoded = false then some { result := .outOfMemory }
      else
        let conversion := utf16ToUtf8 pathPattern (some encodedLength)
        if conversion.status ≠ .ok ∨ conversion.written.getD 0 ≠ encodedLength then
          some { result := encodingFailure conversion.status }
        else
          match replaceSeparators conversion.stored with
          | none => some { result := .invalidPath }
          | some encoded => normalizeEncoded encoded allocations

end SadLayer.Search
