import SadLayer.Library.Bytes
import SadLayer.Status

/-! Portable Executable files: the headers the parser reads, the translation of
relative virtual addresses to file offsets, and the import and export tables
behind it. A pointer argument is taken to lead to its object. -/
namespace SadLayer.Pe
open SadLayer.Library

/-- A C string, as its bytes before the terminator. -/
abbrev CString := List UInt8

/-- `sl_byte_view`. -/
structure ByteView where
  data : Nat → UInt8
  size : Nat

def rangeFits (offset length total : Nat) : Bool :=
  offset ≤ total && length ≤ total - offset

def readU16 (view : ByteView) (offset : Nat) : Option Nat :=
  if rangeFits offset 2 view.size then some (loadLe view.data offset 2) else none

def readU32 (view : ByteView) (offset : Nat) : Option Nat :=
  if rangeFits offset 4 view.size then some (loadLe view.data offset 4) else none

def readU64 (view : ByteView) (offset : Nat) : Option Nat := do
  let low ← readU32 view offset
  let high ← readU32 view (offset + 4)
  return low + high * 2 ^ 32

/-- `sl_pe_data_directory`. -/
structure DataDirectory where
  rva : Nat := 0
  size : Nat := 0
  deriving DecidableEq, Repr

/-- `sl_pe_section`, without the name nothing but the inspector prints. -/
structure Section where
  virtualSize : Nat
  virtualAddress : Nat
  rawSize : Nat
  rawOffset : Nat
  characteristics : Nat
  deriving DecidableEq, Repr

/-- `sl_pe_image`; `sections` are the first `section_count` entries of its table. -/
structure Image where
  file : ByteView
  machine : Nat := 0
  isPe32Plus : Bool := false
  subsystem : Nat := 0
  imageBase : Nat := 0
  entryRva : Nat := 0
  sectionAlignment : Nat := 0
  fileAlignment : Nat := 0
  imageSize : Nat := 0
  headersSize : Nat := 0
  directories : Nat → DataDirectory := fun _ => {}
  sections : List Section := []

def machineI386 : Nat := 0x014c
def machineAmd64 : Nat := 0x8664
def maxSections : Nat := 96
def dataDirectoryCount : Nat := 16
def directoryExport : Nat := 0
def directoryImport : Nat := 1
def directoryBaseReloc : Nat := 5

/-- Gives a failed read its status. -/
def orFail (status : Status) : Option α → Except Status α
  | some value => .ok value
  | none => .error status

def check (holds : Bool) (status : Status) : Except Status Unit :=
  if holds then .ok () else .error status

/-! ### Parsing -/

def parseDirectory (file : ByteView) (offset size directoryOffset index : Nat) :
    Except Status DataDirectory := do
  let relative := directoryOffset + index * 8
  check (relative + 8 ≤ size) .truncatedFile
  let rva ← orFail .truncatedFile (readU32 file (offset + relative))
  let length ← orFail .truncatedFile (readU32 file (offset + relative + 4))
  return { rva := rva, size := length }

/-- Base, directory count and directory offset, by the header's magic. -/
def parseMagic (file : ByteView) (offset size magic : Nat) :
    Except Status (Bool × Nat × Nat × Nat) :=
  if magic = 0x010b then do
    check (96 ≤ size) .truncatedFile
    let base ← orFail .truncatedFile (readU32 file (offset + 28))
    let count ← orFail .truncatedFile (readU32 file (offset + 92))
    return (false, base, count, 96)
  else if magic = 0x020b then do
    check (112 ≤ size) .truncatedFile
    let base ← orFail .truncatedFile (readU64 file (offset + 24))
    let count ← orFail .truncatedFile (readU32 file (offset + 108))
    return (true, base, count, 112)
  else .error .unsupportedOptionalHeader

def parseOptionalHeader (file : ByteView) (offset size : Nat) (image : Image) :
    Except Status Image := do
  check (rangeFits offset size file.size) .truncatedFile
  let magic ← orFail .truncatedFile (readU16 file offset)
  let (isPe32Plus, base, count, directoryOffset) ← parseMagic file offset size magic
  let entryRva ← orFail .truncatedFile (readU32 file (offset + 16))
  let sectionAlignment ← orFail .truncatedFile (readU32 file (offset + 32))
  let fileAlignment ← orFail .truncatedFile (readU32 file (offset + 36))
  let imageSize ← orFail .truncatedFile (readU32 file (offset + 56))
  let headersSize ← orFail .truncatedFile (readU32 file (offset + 60))
  let subsystem ← orFail .truncatedFile (readU16 file (offset + 68))
  check (imageSize != 0 && headersSize != 0 && headersSize ≤ imageSize &&
    headersSize ≤ file.size && (entryRva == 0 || entryRva < imageSize)) .invalidImage
  let directories ← (List.range (min count dataDirectoryCount)).mapM
    (parseDirectory file offset size directoryOffset)
  return { image with
    isPe32Plus := isPe32Plus
    imageBase := base
    entryRva := entryRva
    sectionAlignment := sectionAlignment
    fileAlignment := fileAlignment
    imageSize := imageSize
    headersSize := headersSize
    subsystem := subsystem
    directories := fun index => directories.getD index {} }

def parseSection (file : ByteView) (imageSize sectionsOffset index : Nat) :
    Except Status Section := do
  let cursor := sectionsOffset + index * 40
  let virtualSize ← orFail .truncatedFile (readU32 file (cursor + 8))
  let virtualAddress ← orFail .truncatedFile (readU32 file (cursor + 12))
  let rawSize ← orFail .truncatedFile (readU32 file (cursor + 16))
  let rawOffset ← orFail .truncatedFile (readU32 file (cursor + 20))
  let characteristics ← orFail .truncatedFile (readU32 file (cursor + 36))
  check (rawSize == 0 || (rangeFits rawOffset rawSize file.size &&
    rangeFits virtualAddress rawSize imageSize)) .invalidImage
  check (virtualSize == 0 || rangeFits virtualAddress virtualSize imageSize) .invalidImage
  return {
    virtualSize := virtualSize
    virtualAddress := virtualAddress
    rawSize := rawSize
    rawOffset := rawOffset
    characteristics := characteristics }

/-- `sl_pe_parse`. -/
def parse (file : ByteView) : Except Status Image := do
  check (64 ≤ file.size) .truncatedFile
  check (file.data 0 == 0x4d && file.data 1 == 0x5a) .badDosSignature
  let peOffset ← orFail .truncatedFile (readU32 file 0x3c)
  let signature ← orFail .truncatedFile (readU32 file peOffset)
  check (signature == 0x00004550) .badPeSignature
  let coffOffset := peOffset + 4
  check (rangeFits coffOffset 20 file.size) .truncatedFile
  let machine ← orFail .truncatedFile (readU16 file coffOffset)
  let sectionCount ← orFail .truncatedFile (readU16 file (coffOffset + 2))
  let optionalSize ← orFail .truncatedFile (readU16 file (coffOffset + 16))
  check (machine == machineI386 || machine == machineAmd64) .unsupportedMachine
  check (sectionCount != 0 && sectionCount ≤ maxSections) .invalidImage
  let optionalOffset := coffOffset + 20
  let image ← parseOptionalHeader file optionalOffset optionalSize
    { file := file, machine := machine }
  check ((machine == machineAmd64) == image.isPe32Plus) .invalidImage
  let sectionsOffset := optionalOffset + optionalSize
  check (rangeFits sectionsOffset (sectionCount * 40) file.size) .truncatedFile
  let sections ← (List.range sectionCount).mapM (parseSection file image.imageSize sectionsOffset)
  return { image with sections := sections }

/-! ### Addresses -/

/-- The section loop of `rva_file_window`. -/
def sectionWindow (file : ByteView) (rva : Nat) : List Section → Except Status (Nat × Nat)
  | [] => .error .rvaNotMapped
  | header :: rest =>
    let span := max header.virtualSize header.rawSize
    if header.virtualAddress ≤ rva ∧ rva - header.virtualAddress < span then
      let delta := rva - header.virtualAddress
      let offset := header.rawOffset + delta
      if delta ≥ header.rawSize ∨ rangeFits offset 1 file.size = false then .error .rvaNotMapped
      else .ok (offset, min (header.rawSize - delta) (file.size - offset))
    else sectionWindow file rva rest

/-- The file offset of an address, and the bytes available there. -/
def rvaFileWindow (image : Image) (rva : Nat) : Except Status (Nat × Nat) :=
  if rva < image.headersSize ∧ rva < image.file.size then
    .ok (rva, min (image.headersSize - rva) (image.file.size - rva))
  else sectionWindow image.file rva image.sections

/-- `sl_pe_rva_to_file_offset`. -/
def rvaToFileOffset (image : Image) (rva : Nat) : Except Status Nat := do
  let (offset, _) ← rvaFileWindow image rva
  return offset

/-- A word behind an address, of which enough bytes must be available. -/
def readRva (read : ByteView → Nat → Option Nat) (width : Nat) (image : Image) (rva : Nat) :
    Except Status Nat := do
  let (offset, available) ← rvaFileWindow image rva
  check (width ≤ available) .truncatedFile
  orFail .truncatedFile (read image.file offset)

def readRvaU16 : Image → Nat → Except Status Nat := readRva readU16 2
def readRvaU32 : Image → Nat → Except Status Nat := readRva readU32 4
def readRvaU64 : Image → Nat → Except Status Nat := readRva readU64 8

/-- The bytes up to the first zero, when it is among the next `available`. -/
def cString (data : Nat → UInt8) (start : Nat) : Nat → Option CString
  | 0 => none
  | available + 1 =>
    if data start = 0 then some [] else (cString data (start + 1) available).map (data start :: ·)

def readRvaString (image : Image) (rva : Nat) : Except Status CString := do
  let (offset, available) ← rvaFileWindow image rva
  orFail .truncatedFile (cString image.file.data offset available)

/-- Arithmetic on `uint32_t`. -/
def u32Add (left right : Nat) : Nat := (left + right) % 2 ^ 32

/-! ### Imports -/

/-- `sl_pe_import_symbol`. -/
structure ImportSymbol where
  moduleName : CString
  symbolName : Option CString
  iatRva : Nat
  hint : Nat
  ordinal : Nat
  byOrdinal : Bool
  deriving DecidableEq, Repr

def ordinalFlag (image : Image) : Nat :=
  if image.isPe32Plus then 2 ^ 63 else 2 ^ 31

def entrySize (image : Image) : Nat :=
  if image.isPe32Plus then 8 else 4

/-- The symbol a non-zero thunk names. -/
def importSymbol (image : Image) (moduleName : CString) (iatRva thunk : Nat) :
    Except Status ImportSymbol :=
  let byOrdinal := thunk / ordinalFlag image % 2 = 1
  if byOrdinal then
    -- the bits between the flag and the ordinal
    if thunk % ordinalFlag image / 2 ^ 16 ≠ 0 then .error .invalidImage
    else .ok {
      moduleName := moduleName
      symbolName := none
      iatRva := iatRva
      hint := 0
      ordinal := thunk % 2 ^ 16
      byOrdinal := true }
  else if thunk > uint32Max ∨ thunk > uint32Max - 2 then .error .invalidImage
  else match readRvaU16 image thunk, readRvaString image (thunk + 2) with
    | .ok hint, .ok name => .ok {
        moduleName := moduleName
        symbolName := some name
        iatRva := iatRva
        hint := hint
        ordinal := 0
        byOrdinal := false }
    | _, _ => .error .invalidImage

/-- The slot and the thunk one round of `visit_import_thunks` reads. -/
def readThunk (image : Image) (lookupRva iatRva : Nat) : Except Status Nat :=
  match rvaFileWindow image iatRva with
  | .error _ => .error .invalidImage
  | .ok (_, available) =>
    if available < entrySize image then .error .invalidImage
    else match (if image.isPe32Plus then readRvaU64 image lookupRva
        else readRvaU32 image lookupRva) with
      | .error _ => .error .invalidImage
      | .ok thunk => .ok thunk

/-- The loop of `visit_import_thunks`: its status, the callback's state, and whether to go on. -/
def visitThunks (image : Image) (moduleName : CString)
    (callback : ImportSymbol → σ → σ × Bool) (lookupRva iatRva : Nat) (state : σ) :
    Status × σ × Bool :=
  match readThunk image lookupRva iatRva with
  | .error status => (status, state, true)
  | .ok 0 => (.ok, state, true)
  | .ok thunk =>
    match importSymbol image moduleName iatRva thunk with
    | .error status => (status, state, true)
    | .ok symbol =>
      let (state, more) := callback symbol state
      if !more then (.ok, state, false)
      else if lookupRva > uint32Max - entrySize image ∨ iatRva > uint32Max - entrySize image then
        (.invalidImage, state, true)
      else visitThunks image moduleName callback (lookupRva + entrySize image)
        (iatRva + entrySize image) state
termination_by uint32Max - lookupRva
decreasing_by
  have positive : 0 < entrySize image := by
    unfold entrySize
    split <;> omega
  unfold uint32Max at *
  omega

def visitImportThunks (image : Image) (moduleName : CString) (originalThunk firstThunk : Nat)
    (callback : ImportSymbol → σ → σ × Bool) (state : σ) : Status × σ × Bool :=
  let lookupRva := if originalThunk ≠ 0 then originalThunk else firstThunk
  if lookupRva = 0 ∨ firstThunk = 0 then (.invalidImage, state, true)
  else visitThunks image moduleName callback lookupRva firstThunk state

/-- An import descriptor. -/
structure Descriptor where
  originalThunk : Nat
  timestamp : Nat
  forwarderChain : Nat
  nameRva : Nat
  firstThunk : Nat
  deriving DecidableEq, Repr

def readDescriptor (image : Image) (cursor : Nat) : Except Status Descriptor := do
  let originalThunk ← readRvaU32 image cursor
  let timestamp ← readRvaU32 image (u32Add cursor 4)
  let forwarderChain ← readRvaU32 image (u32Add cursor 8)
  let nameRva ← readRvaU32 image (u32Add cursor 12)
  let firstThunk ← readRvaU32 image (u32Add cursor 16)
  return {
    originalThunk := originalThunk
    timestamp := timestamp
    forwarderChain := forwarderChain
    nameRva := nameRva
    firstThunk := firstThunk }

/-- The descriptor loop of `sl_pe_for_each_import_symbol`, or `none` when the rounds run out. -/
def visitDescriptors (image : Image) (imports : DataDirectory)
    (callback : ImportSymbol → σ → σ × Bool) : Nat → Nat → σ → Option (Status × σ)
  | 0, _, _ => none
  | rounds + 1, consumed, state =>
    if u32Add consumed 20 > imports.size then some (.invalidImage, state)
    else
      let cursor := u32Add imports.rva consumed
      if cursor < imports.rva then some (.invalidImage, state)
      else match readDescriptor image cursor with
        | .error _ => some (.invalidImage, state)
        | .ok descriptor =>
          if descriptor = ⟨0, 0, 0, 0, 0⟩ then some (.ok, state)
          else match readRvaString image descriptor.nameRva with
            | .error _ => some (.invalidImage, state)
            | .ok moduleName =>
              let (status, state, more) := visitImportThunks image moduleName
                descriptor.originalThunk descriptor.firstThunk callback state
              if status ≠ .ok then some (status, state)
              else if !more then some (.ok, state)
              else visitDescriptors image imports callback rounds (u32Add consumed 20) state

/-- `sl_pe_for_each_import_symbol`. A directory has fewer than `2^32` descriptors. -/
def forEachImportSymbol (image : Image) (callback : ImportSymbol → σ → σ × Bool) (state : σ) :
    Option (Status × σ) :=
  let imports := image.directories directoryImport
  if imports.rva = 0 ∨ imports.size = 0 then some (.ok, state)
  else if imports.rva ≥ image.imageSize ∨ imports.size > image.imageSize - imports.rva then
    some (.invalidImage, state)
  else visitDescriptors image imports callback (2 ^ 32) 0 state

/-- The loop of `sl_pe_for_each_import`, or `none` when the rounds run out. -/
def visitModules (image : Image) (imports : DataDirectory) (callback : CString → σ → σ × Bool) :
    Nat → Nat → σ → Option (Status × σ)
  | 0, _, _ => none
  | rounds + 1, consumed, state =>
    if u32Add consumed 20 > imports.size then some (.invalidImage, state)
    else
      let cursor := u32Add imports.rva consumed
      if cursor < imports.rva then some (.invalidImage, state)
      else match readDescriptor image cursor with
        | .error _ => some (.invalidImage, state)
        | .ok descriptor =>
          if descriptor = ⟨0, 0, 0, 0, 0⟩ then some (.ok, state)
          else match readRvaString image descriptor.nameRva with
            | .error _ => some (.invalidImage, state)
            | .ok moduleName =>
              let (state, more) := callback moduleName state
              if !more then some (.ok, state)
              else visitModules image imports callback rounds (u32Add consumed 20) state

/-- `sl_pe_for_each_import`, in as many rounds as `sl_pe_for_each_import_symbol`. -/
def forEachImport (image : Image) (callback : CString → σ → σ × Bool) (state : σ) :
    Option (Status × σ) :=
  let imports := image.directories directoryImport
  if imports.rva = 0 ∨ imports.size = 0 then some (.ok, state)
  else if imports.rva ≥ image.imageSize ∨ imports.size > image.imageSize - imports.rva then
    some (.invalidImage, state)
  else visitModules image imports callback (2 ^ 32) 0 state

/-! ### Exports -/

/-- `sl_export_directory`. -/
structure ExportDirectory where
  range : DataDirectory
  ordinalBase : Nat
  functionCount : Nat
  nameCount : Nat
  functionsRva : Nat
  namesRva : Nat
  nameOrdinalsRva : Nat
  deriving DecidableEq, Repr

/-- `sl_pe_export`. -/
structure Export where
  name : Option CString
  forwarder : Option CString
  ordinal : Nat
  rva : Nat
  isForwarder : Bool
  deriving DecidableEq, Repr

def rvaTableFits (image : Image) (rva count elementSize : Nat) : Bool :=
  if count = 0 then true
  else if count > uint64Max / elementSize then false
  else match rvaFileWindow image rva with
    | .error _ => false
    | .ok (_, available) => count * elementSize ≤ available

/-- Any failure among the header checks is an invalid image. -/
def readExportHeader (image : Image) (range : DataDirectory) : Except Status ExportDirectory := do
  check (40 ≤ range.size && range.rva < image.imageSize &&
    range.size ≤ image.imageSize - range.rva) .invalidImage
  let ordinalBase ← readRvaU32 image (u32Add range.rva 16)
  let functionCount ← readRvaU32 image (u32Add range.rva 20)
  let nameCount ← readRvaU32 image (u32Add range.rva 24)
  let functionsRva ← readRvaU32 image (u32Add range.rva 28)
  let namesRva ← readRvaU32 image (u32Add range.rva 32)
  let nameOrdinalsRva ← readRvaU32 image (u32Add range.rva 36)
  check (functionCount != 0 && nameCount ≤ functionCount &&
    rvaTableFits image functionsRva functionCount 4 && rvaTableFits image namesRva nameCount 4 &&
    rvaTableFits image nameOrdinalsRva nameCount 2) .invalidImage
  return {
    range := range
    ordinalBase := ordinalBase
    functionCount := functionCount
    nameCount := nameCount
    functionsRva := functionsRva
    namesRva := namesRva
    nameOrdinalsRva := nameOrdinalsRva }

def readExportDirectory (image : Image) : Except Status ExportDirectory :=
  let range := image.directories directoryExport
  if range.rva = 0 ∨ range.size = 0 then .error .exportNotFound
  else match readExportHeader image range with
    | .error _ => .error .invalidImage
    | .ok directory => .ok directory

def buildExportResult (image : Image) (directory : ExportDirectory) (functionIndex : Nat)
    (name : Option CString) : Except Status Export :=
  if functionIndex ≥ directory.functionCount ∨
      functionIndex > (uint32Max - directory.functionsRva) / 4 then .error .invalidImage
  else match readRvaU32 image (directory.functionsRva + functionIndex * 4) with
    | .error _ => .error .invalidImage
    | .ok functionRva =>
      if functionRva = 0 then .error .exportNotFound
      else if functionRva ≥ image.imageSize ∨
          functionIndex > uint32Max - directory.ordinalBase then .error .invalidImage
      else
        let result : Export := {
          name := name
          forwarder := none
          ordinal := directory.ordinalBase + functionIndex
          rva := functionRva
          isForwarder := false }
        if directory.range.rva ≤ functionRva ∧
            functionRva < u32Add directory.range.rva directory.range.size then
          match readRvaString image functionRva with
          | .error _ => .error .invalidImage
          | .ok forwarder => .ok { result with forwarder := some forwarder, isForwarder := true }
        else .ok result

/-- The name loop of `sl_pe_find_export_by_name`, with the names left to look at. -/
def searchExportNames (image : Image) (directory : ExportDirectory) (name : CString) :
    Nat → Nat → Except Status Export
  | 0, _ => .error .exportNotFound
  | remaining + 1, index =>
    if index > (uint32Max - directory.namesRva) / 4 ∨
        index > (uint32Max - directory.nameOrdinalsRva) / 2 then .error .invalidImage
    else match readRvaU32 image (directory.namesRva + index * 4),
        readRvaU16 image (directory.nameOrdinalsRva + index * 2) with
      | .ok nameRva, .ok functionIndex =>
        match readRvaString image nameRva with
        | .error _ => .error .invalidImage
        | .ok candidate =>
          if candidate = name then buildExportResult image directory functionIndex (some candidate)
          else searchExportNames image directory name remaining (index + 1)
      | _, _ => .error .invalidImage

/-- `sl_pe_find_export_by_name`. -/
def findExportByName (image : Image) (name : CString) : Except Status Export := do
  let directory ← readExportDirectory image
  searchExportNames image directory name directory.nameCount 0

/-- `sl_pe_find_export_by_ordinal`. -/
def findExportByOrdinal (image : Image) (ordinal : Nat) : Except Status Export := do
  let directory ← readExportDirectory image
  if ordinal < directory.ordinalBase ∨
      ordinal - directory.ordinalBase ≥ directory.functionCount then .error .exportNotFound
  else buildExportResult image directory (ordinal - directory.ordinalBase) none

end SadLayer.Pe
