import SadLayer.Module

/-! The unwind records of an image: the function table that leads to them, the
codes they hold, and the checks they pass before they are followed. -/
namespace SadLayer.Unwind
open SadLayer.Library SadLayer.Pe SadLayer.Loader SadLayer.Module

/-- `SL_WIN64_RUNTIME_FUNCTION_SIZE`. -/
def runtimeFunctionSize : Nat := 12

/-- `SL_WIN64_MAX_CHAIN_DEPTH`. -/
def maxChainDepth : Nat := 32

def directoryException : Nat := 3

def flagNHandler : Nat := 0
def flagEHandler : Nat := 1
def flagUHandler : Nat := 2
def flagChainInfo : Nat := 4

def hasFlag (flags flag : Nat) : Bool := flags &&& flag != 0

/-- A loaded PE module: what its pointers lead to. -/
structure PeModule where
  image : Image
  mapped : MappedImage

def peModule (memory : Memory) (module : LoadedModule) : Option PeModule :=
  match module.contents with
  | .native _ => none
  | .pe image mapped => some { image := memory.images image, mapped := memory.mappings mapped }

/-- `module_window`: whether the bytes from an address on are in the mapping. -/
def moduleWindow (module : PeModule) (rva size : Nat) : Bool :=
  module.mapped.address != 0 && module.mapped.size == module.image.imageSize &&
    rva ≤ module.mapped.size && size ≤ module.mapped.size - rva

def byteAt (module : PeModule) (rva : Nat) : Nat := (module.mapped.bytes rva).toNat

def loadU32 (module : PeModule) (rva : Nat) : Nat := loadLe module.mapped.bytes rva 4

/-! ### The function table -/

/-- `sl_win64_runtime_function`. -/
structure RuntimeFunction where
  beginAddress : Nat
  endAddress : Nat
  unwindData : Nat
  deriving DecidableEq, Repr

def runtimeFunctionIsValid (module : PeModule) (entry : RuntimeFunction) : Bool :=
  4 ≤ module.image.imageSize && entry.beginAddress < entry.endAddress &&
    entry.endAddress ≤ module.image.imageSize && entry.unwindData != 0 &&
    entry.unwindData % 4 == 0 && entry.unwindData ≤ module.image.imageSize - 4

/-- `exception_directory`: where the table begins, and how many entries it has. -/
def exceptionDirectory (module : PeModule) : Option (Nat × Nat) :=
  let directory := module.image.directories directoryException
  let entryCount := directory.size / runtimeFunctionSize
  if module.image.isPe32Plus = false ∨ module.image.machine ≠ machineAmd64 then none
  else if directory.rva = 0 ∨ directory.size = 0 ∨ directory.size % runtimeFunctionSize ≠ 0 ∨
      moduleWindow module directory.rva directory.size = false then none
  else if entryCount = 0 then none
  else some (directory.rva, entryCount)

def readRuntimeFunction (module : PeModule) (rva : Nat) : RuntimeFunction := {
  beginAddress := loadU32 module rva
  endAddress := loadU32 module (rva + 4)
  unwindData := loadU32 module (rva + 8) }

/-- The loop of `sl_win64_lookup_function_entry`: the last entry that holds the address. -/
def scanEntries (module : PeModule) (table relativePc : Nat) :
    Nat → Nat → Nat → Option Nat → Except Status (Option Nat)
  | 0, _, _, match_ => .ok match_
  | remaining + 1, index, previousEnd, match_ =>
    let entryRva := table + index * runtimeFunctionSize
    let entry := readRuntimeFunction module entryRva
    if runtimeFunctionIsValid module entry = false ∨
        (index ≠ 0 ∧ entry.beginAddress < previousEnd) then .error .invalidImage
    else scanEntries module table relativePc remaining (index + 1) entry.endAddress
      (if entry.beginAddress ≤ relativePc ∧ relativePc < entry.endAddress then some entryRva
        else match_)

/-- What `sl_win64_lookup_function_entry` stores. An entry is known by its address in the host, and
the module by its place in the registry, with what its pointers lead to. -/
structure FunctionEntry where
  imageBase : Nat
  functionEntry : Nat
  index : Nat
  module : PeModule

/-- `sl_win64_lookup_function_entry`. -/
def lookupFunctionEntry (memory : Memory) (registry : Registry) (controlPc : Nat) :
    Except Status FunctionEntry :=
  match resolveAddress memory registry controlPc with
  | .error _ => .error .addressOutOfRange
  | .ok index =>
    match peModule memory (registry.modules index) with
    | none => .error .addressOutOfRange
    | some module =>
      if controlPc < module.mapped.loadBase then .error .addressOutOfRange
      else match exceptionDirectory module with
        | none => .error .addressOutOfRange
        | some (table, entryCount) =>
          let relativePc := controlPc - module.mapped.loadBase
          if relativePc > uint32Max then .error .addressOutOfRange
          else match scanEntries module table relativePc entryCount 0 0 none with
            | .error status => .error status
            | .ok none => .error .addressOutOfRange
            | .ok (some entryRva) => .ok {
                imageBase := module.mapped.loadBase
                functionEntry := module.mapped.address + entryRva
                index := index
                module := module }

/-- The places that a caller of `sl_win64_lookup_function_entry` names for its results, with what
they hold, a module by its place in the registry. A place that is `NULL` is `none`. -/
structure LookupPlaces where
  imageBase : Option Nat
  functionEntry : Option Nat
  moduleOut : Option (Option Nat)

/-- `sl_win64_lookup_function_entry` with its checks of its pointers: the status, and what the
places of its caller hold behind it. -/
def lookupFunctionEntryInto (memory : Memory) (registry : Option Registry) (controlPc : Nat)
    (places : LookupPlaces) : Status × LookupPlaces :=
  if places.imageBase = none ∨ places.functionEntry = none ∨ places.moduleOut = none then
    (.invalidArgument, places)
  else match registry with
    | none => (.addressOutOfRange, places)
    | some registry =>
      match lookupFunctionEntry memory registry controlPc with
      | .error status => (status, places)
      | .ok found => (.ok, {
          imageBase := some found.imageBase
          functionEntry := some found.functionEntry
          moduleOut := some (some found.index) })

/-! ### Unwind codes -/

/-- The `SL_UWOP_` operations, with one for the numbers that name none. -/
inductive UnwindOperation where
  | pushNonvol
  | allocLarge
  | allocSmall
  | setFpreg
  | saveNonvol
  | saveNonvolFar
  | epilog
  | saveXmm128
  | saveXmm128Far
  | pushMachframe
  | unknown
  deriving DecidableEq, Repr

def UnwindOperation.ofNumber : Nat → UnwindOperation
  | 0 => .pushNonvol
  | 1 => .allocLarge
  | 2 => .allocSmall
  | 3 => .setFpreg
  | 4 => .saveNonvol
  | 5 => .saveNonvolFar
  | 6 => .epilog
  | 8 => .saveXmm128
  | 9 => .saveXmm128Far
  | 10 => .pushMachframe
  | _ => .unknown

/-- Two bytes of a record's codes. -/
structure CodeSlot where
  low : UInt8
  high : UInt8
  deriving DecidableEq, Repr

def CodeSlot.codeOffset (slot : CodeSlot) : Nat := slot.low.toNat
def CodeSlot.operation (slot : CodeSlot) : UnwindOperation := .ofNumber (slot.high.toNat % 16)
def CodeSlot.info (slot : CodeSlot) : Nat := slot.high.toNat / 16

/-- The distance that a descriptor of an epilogue holds. -/
def CodeSlot.distance (slot : CodeSlot) : Nat := slot.low.toNat + 256 * slot.info

def CodeSlot.word (slot : CodeSlot) : Nat := slot.low.toNat + 256 * slot.high.toNat

/-- `load_u16` of the slot behind an operation. -/
def operand16 (operands : List CodeSlot) : Nat := (operands.getD 0 ⟨0, 0⟩).word

/-- `load_u32` of the two slots behind an operation. -/
def operand32 (operands : List CodeSlot) : Nat :=
  (operands.getD 0 ⟨0, 0⟩).word + 65536 * (operands.getD 1 ⟨0, 0⟩).word

def isNonvolatileIntegerRegister (number : Nat) : Bool :=
  number == 3 || number == 5 || number == 6 || number == 7 || 12 ≤ number

def isNonvolatileXmmRegister (number : Nat) : Bool := 6 ≤ number && number ≤ 15

def unwindOperationSlots (version : Nat) (operation : UnwindOperation) (info : Nat) : Nat :=
  match operation with
  | .pushNonvol | .allocSmall | .setFpreg | .pushMachframe => 1
  | .allocLarge => if info = 0 then 2 else if info = 1 then 3 else 0
  | .saveNonvol | .saveXmm128 => 2
  | .saveNonvolFar | .saveXmm128Far => 3
  | .epilog => if version = 2 then 2 else 0
  | .unknown => 0

def unwindOperationIsValid (operation : UnwindOperation) (info : Nat) : Bool :=
  match operation with
  | .pushNonvol | .saveNonvol | .saveNonvolFar => isNonvolatileIntegerRegister info
  | .allocLarge => info ≤ 1
  | .allocSmall => true
  | .setFpreg => true
  | .saveXmm128 | .saveXmm128Far => isNonvolatileXmmRegister info
  | .pushMachframe => info ≤ 1
  | .epilog | .unknown => false

/-- `sl_v2_epilogue_info`. -/
structure V2EpilogueInfo where
  present : Bool := false
  implicitAtEnd : Bool := false
  size : Nat := 0
  codeSlots : Nat := 0
  deriving DecidableEq, Repr

/-- The loop of `parse_v2_epilogue_prefix`: where the descriptors end, and whether one of them
declares an epilogue. -/
def scanDescriptors : List CodeSlot → Nat → Bool → Nat × Bool
  | [], index, hasEpilogue => (index, hasEpilogue)
  | descriptor :: rest, index, hasEpilogue =>
    if descriptor.operation ≠ .epilog then (index, hasEpilogue)
    else if descriptor.distance = 0 then (index + 1, hasEpilogue)
    else scanDescriptors rest (index + 1) true

def parseV2EpiloguePrefix (codes : List CodeSlot) (version : Nat) : Option V2EpilogueInfo :=
  match codes with
  | [] => some {}
  | first :: descriptors =>
    if version ≠ 2 ∨ first.operation ≠ .epilog then some {}
    else if first.low = 0 ∨ first.info > 1 then none
    else
      let (index, hasEpilogue) := scanDescriptors descriptors 1 (first.info == 1)
      if hasEpilogue = false ∨ index % 2 = 1 ∨
          (codes.drop index).head?.map CodeSlot.operation = some .epilog then none
      else some {
        present := true
        implicitAtEnd := first.info == 1
        size := first.low.toNat
        codeSlots := index }

/-- What `validate_unwind_codes` asks of one operation; `operands` are the slots behind it. -/
def operationIsAccepted (version prologueSize frameRegister frameOffset : Nat) (slot : CodeSlot)
    (operands : List CodeSlot) (previousOffset : Nat) (foundFrameSetup : Bool) : Bool :=
  let slots := unwindOperationSlots version slot.operation slot.info
  !(slot.operation == .epilog || slot.codeOffset > prologueSize ||
    slot.codeOffset > previousOffset || slots == 0 || slots > operands.length + 1 ||
    !unwindOperationIsValid slot.operation slot.info) &&
  !(slot.operation == .setFpreg && (frameRegister == 0 || foundFrameSetup ||
    (slot.info != 0 && slot.info != frameOffset))) &&
  !(slot.operation == .saveNonvolFar && operand32 operands % 8 != 0) &&
  !(slot.operation == .saveXmm128Far && operand32 operands % 16 != 0)

/-- The loop of `validate_unwind_codes`, which passes over `skip` slots first. -/
def validateOperations (version prologueSize frameRegister frameOffset : Nat) :
    List CodeSlot → Nat → Nat → Bool → Option Bool
  | [], _, _, foundFrameSetup => some foundFrameSetup
  | _ :: rest, skip + 1, previousOffset, foundFrameSetup =>
    validateOperations version prologueSize frameRegister frameOffset rest skip previousOffset
      foundFrameSetup
  | slot :: rest, 0, previousOffset, foundFrameSetup =>
    if operationIsAccepted version prologueSize frameRegister frameOffset slot rest previousOffset
        foundFrameSetup then
      validateOperations version prologueSize frameRegister frameOffset rest
        (unwindOperationSlots version slot.operation slot.info - 1) slot.codeOffset
        (foundFrameSetup || slot.operation == .setFpreg)
    else none

/-- `validate_unwind_codes`: the epilogues, and whether the codes set up the frame register. -/
def validateUnwindCodes (codes : List CodeSlot)
    (version prologueSize frameRegister frameOffset : Nat) : Option (V2EpilogueInfo × Bool) :=
  match parseV2EpiloguePrefix codes version with
  | none => none
  | some epilogues =>
    (validateOperations version prologueSize frameRegister frameOffset codes epilogues.codeSlots
      255 false).map fun hasFrameSetup => (epilogues, hasFrameSetup)

/-! ### Records -/

/-- `sl_unwind_record_view`. -/
structure UnwindRecord where
  version : Nat
  flags : Nat
  prologueSize : Nat
  frameRegister : Nat
  frameOffset : Nat
  codes : List CodeSlot
  trailerRva : Nat
  hasFrameSetup : Bool
  epilogues : V2EpilogueInfo
  deriving DecidableEq, Repr

def readCodes (module : PeModule) (rva count : Nat) : List CodeSlot :=
  (List.range count).map fun index => {
    low := module.mapped.bytes (rva + index * 2)
    high := module.mapped.bytes (rva + index * 2 + 1) }

/-- The reading of a record that `read_unwind_record` and `sl_win64_virtual_unwind` share. -/
def unwindRecordAt (module : PeModule) (unwindRva : Nat) : Option UnwindRecord :=
  if moduleWindow module unwindRva 4 = false then none
  else
    let version := byteAt module unwindRva % 8
    let flags := byteAt module unwindRva / 8
    let prologueSize := byteAt module (unwindRva + 1)
    let codeCount := byteAt module (unwindRva + 2)
    let frameRegister := byteAt module (unwindRva + 3) % 16
    let frameOffset := byteAt module (unwindRva + 3) / 16
    let paddedCodeCount := (codeCount + 1) / 2 * 2
    let recordSize := 4 + paddedCodeCount * 2
    let codes := readCodes module (unwindRva + 4) codeCount
    if (version ≠ 1 ∧ version ≠ 2) ∨ flags > flagEHandler + flagUHandler + flagChainInfo ∨
        (hasFlag flags flagChainInfo ∧ hasFlag flags (flagEHandler + flagUHandler)) ∨
        (frameRegister ≠ 0 ∧ isNonvolatileIntegerRegister frameRegister = false) ∨
        (frameRegister = 0 ∧ frameOffset ≠ 0) ∨
        moduleWindow module unwindRva recordSize = false then none
    else
      (validateUnwindCodes codes version prologueSize frameRegister frameOffset).map
        fun (epilogues, hasFrameSetup) => {
          version := version
          flags := flags
          prologueSize := prologueSize
          frameRegister := frameRegister
          frameOffset := frameOffset
          codes := codes
          trailerRva := unwindRva + recordSize
          hasFrameSetup := hasFrameSetup
          epilogues := epilogues }

def readUnwindRecord (module : PeModule) (unwindRva : Nat) : Option UnwindRecord :=
  if unwindRva % 4 ≠ 0 then none
  else (unwindRecordAt module unwindRva).filter fun record => record.trailerRva ≤ uint32Max

/-- Subtraction of `uint32_t`. -/
def sub32 (left right : Nat) : Nat := (left + 2 ^ 32 - right) % 2 ^ 32

/-- The descriptors of a record behind the first. -/
def UnwindRecord.descriptors (record : UnwindRecord) : List CodeSlot :=
  (record.codes.take record.epilogues.codeSlots).drop 1

def validateV2EpilogueRanges (record : UnwindRecord) (entry : RuntimeFunction) : Bool :=
  let functionSize := sub32 entry.endAddress entry.beginAddress
  let size := record.epilogues.size
  if record.prologueSize > functionSize then false
  else if record.epilogues.present = false then true
  else if size > functionSize ∨ (record.epilogues.implicitAtEnd ∧
      functionSize - size < record.prologueSize) then false
  else record.descriptors.all fun descriptor =>
    descriptor.distance == 0 || !(descriptor.distance < size ||
      descriptor.distance > functionSize ||
      functionSize - descriptor.distance < record.prologueSize)

/-- The loop of `find_v2_epilogue` over the explicit epilogues. -/
def findExplicitEpilogue (entry : RuntimeFunction) (size relativePc : Nat) :
    List CodeSlot → Option Nat
  | [] => none
  | descriptor :: rest =>
    let start := sub32 entry.endAddress descriptor.distance
    if descriptor.distance = 0 then none
    else if start ≤ relativePc ∧ relativePc - start < size then some (relativePc - start)
    else findExplicitEpilogue entry size relativePc rest

def findV2Epilogue (record : UnwindRecord) (entry : RuntimeFunction) (relativePc : Nat) :
    Option Nat :=
  let size := record.epilogues.size
  let start := sub32 entry.endAddress size
  if record.epilogues.present = false then none
  else if record.epilogues.implicitAtEnd ∧ start ≤ relativePc ∧ relativePc - start < size then
    some (relativePc - start)
  else findExplicitEpilogue entry size relativePc record.descriptors

/-- Whether the trailer of a record that ends a chain names a handler inside the image. -/
def handlerIsValid (module : PeModule) (trailerRva : Nat) : Bool :=
  let handlerRva := loadU32 module trailerRva
  moduleWindow module trailerRva 4 && handlerRva != 0 && handlerRva < module.mapped.size

/-- `validate_unwind_chain` from one of its records on; `first` is the first one once it was read.
It answers with the first record. -/
def validateUnwindChain (module : PeModule) :
    Nat → Option UnwindRecord → RuntimeFunction → Except Status UnwindRecord
  | 0, _, _ => .error .forwarderLimit
  | depth + 1, first, entry =>
    match readUnwindRecord module entry.unwindData with
    | none => .error .invalidImage
    | some record =>
      let firstRecord := first.getD record
      let chained := readRuntimeFunction module record.trailerRva
      if validateV2EpilogueRanges record entry = false then .error .invalidImage
      else if record.frameRegister ≠ firstRecord.frameRegister ∨
          record.frameOffset ≠ firstRecord.frameOffset then .error .invalidImage
      else if hasFlag record.flags flagChainInfo then
        if moduleWindow module record.trailerRva runtimeFunctionSize = false ∨
            runtimeFunctionIsValid module chained = false then .error .invalidImage
        else validateUnwindChain module depth (some firstRecord) chained
      else if record.frameRegister ≠ 0 ∧ record.hasFrameSetup = false then .error .invalidImage
      else if hasFlag record.flags (flagEHandler + flagUHandler) ∧
          handlerIsValid module record.trailerRva = false then .error .invalidImage
      else .ok firstRecord

end SadLayer.Unwind
