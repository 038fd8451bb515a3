import SadLayer.Pe

/-! Mapping a parsed image into memory, moving it to another base, and binding
its imports. -/
namespace SadLayer.Loader
open SadLayer.Library SadLayer.Pe

/-- `sl_image_storage`. -/
inductive ImageStorage where
  | none
  | heap
  | virtual
  | virtualTainted
  deriving DecidableEq, Repr

/-- `sl_mapped_image`. The buffer is its address, zero for none, and what it holds. -/
structure MappedImage where
  address : Nat := 0
  bytes : Nat → UInt8 := fun _ => 0
  size : Nat := 0
  allocationSize : Nat := 0
  preferredBase : Nat := 0
  loadBase : Nat := 0
  entryRva : Nat := 0
  storage : ImageStorage := .none
  protectionsFinalized : Bool := false

/-! ### Mapping -/

def validateMapping (image : Image) : Status :=
  if image.imageSize = 0 ∨ image.headersSize > image.imageSize ∨
      image.headersSize > image.file.size then .invalidImage
  else .ok

/-- The section loop of `populate_mapping`. -/
def populateSections (image : Image) (size : Nat) :
    List Section → (Nat → UInt8) → Except Status (Nat → UInt8)
  | [], bytes => .ok bytes
  | header :: rest, bytes =>
    if header.rawSize = 0 then populateSections image size rest bytes
    else if header.virtualAddress > size ∨ header.rawSize > size - header.virtualAddress ∨
        header.rawOffset > image.file.size ∨
        header.rawSize > image.file.size - header.rawOffset then .error .invalidImage
    else populateSections image size rest
      (copyBytes bytes header.virtualAddress image.file.data header.rawOffset header.rawSize)

def populateMapping (image : Image) (mapped : MappedImage) : Except Status (Nat → UInt8) :=
  populateSections image mapped.size image.sections
    (copyBytes mapped.bytes 0 image.file.data 0 image.headersSize)

def initializeMapping (image : Image) (address allocationSize : Nat) (storage : ImageStorage) :
    MappedImage := {
  address := address
  bytes := fun _ => 0
  size := image.imageSize
  allocationSize := allocationSize
  preferredBase := image.imageBase
  loadBase := image.imageBase
  entryRva := image.entryRva
  storage := storage
  protectionsFinalized := false }

/-- `sl_loader_map_image`, its `calloc` returning this address. A failure leaves no mapping. -/
def mapImage (image : Image) (address : Nat) : Status × MappedImage :=
  if validateMapping image ≠ .ok then (validateMapping image, {})
  else if address = 0 then (.outOfMemory, {})
  else
    let mapped := initializeMapping image address image.imageSize .heap
    match populateMapping image mapped with
    | .error status => (status, {})
    | .ok bytes => (.ok, { mapped with bytes := bytes })

/-! ### Base relocation -/

def relocationAbsolute : Nat := 0
def relocationHighLow : Nat := 3
def relocationDir64 : Nat := 10

/-- The bytes an entry patches, when the image supports its type. -/
def fixupWidth (image : Image) (type : Nat) : Option Nat :=
  if type = relocationDir64 ∧ image.isPe32Plus = true then some 8
  else if type = relocationHighLow ∧ image.isPe32Plus = false then some 4
  else none

/-- Adds the delta to a word of the image. -/
def addDelta (bytes : Nat → UInt8) (patchRva width delta : Nat) : Nat → UInt8 :=
  storeLe bytes patchRva width ((loadLe bytes patchRva width + delta) % 256 ^ width)

/-- One entry of a block: its status, and the bytes after it. -/
def processEntry (image : Image) (size : Nat) (directory : DataDirectory) (delta : Nat)
    (apply : Bool) (pageRva entry : Nat) (bytes : Nat → UInt8) : Status × (Nat → UInt8) :=
  let type := entry / 2 ^ 12
  let offset := entry % 2 ^ 12
  if pageRva > uint32Max - offset then (.invalidImage, bytes)
  else
    let patchRva := pageRva + offset
    if type = relocationAbsolute then (.ok, bytes)
    else match fixupWidth image type with
      | none => (.unsupportedRelocation, bytes)
      | some width =>
        if patchRva > size ∨ width > size - patchRva then (.invalidImage, bytes)
        -- a fixup may not touch the directory it is read from
        else if patchRva < directory.rva + directory.size ∧ patchRva + width > directory.rva then
          (.invalidImage, bytes)
        else if apply then (.ok, addDelta bytes patchRva width delta)
        else (.ok, bytes)

/-- The entry loop of one block. -/
def processBlock (image : Image) (size : Nat) (directory : DataDirectory) (delta : Nat)
    (apply : Bool) (pageRva blockEnd entryCursor : Nat) (bytes : Nat → UInt8) :
    Status × (Nat → UInt8) :=
  if entryCursor < blockEnd then
    match processEntry image size directory delta apply pageRva (loadLe bytes entryCursor 2)
      bytes with
    | (.ok, bytes) =>
      processBlock image size directory delta apply pageRva blockEnd (entryCursor + 2) bytes
    | failed => failed
  else (.ok, bytes)
termination_by blockEnd - entryCursor

/-- The block loop of `process_relocations`. -/
def processBlocks (image : Image) (size : Nat) (directory : DataDirectory) (delta : Nat)
    (apply : Bool) (cursor : Nat) (bytes : Nat → UInt8) : Status × (Nat → UInt8) :=
  let finish := directory.rva + directory.size
  if cursor < finish then
    if finish - cursor < 8 then (.invalidImage, bytes)
    else
      let pageRva := loadLe bytes cursor 4
      let blockSize := loadLe bytes (cursor + 4) 4
      if blockSize < 8 ∨ (blockSize - 8) % 2 ≠ 0 ∨ blockSize > finish - cursor then
        (.invalidImage, bytes)
      else match processBlock image size directory delta apply pageRva (cursor + blockSize)
          (cursor + 8) bytes with
        | (.ok, bytes) =>
          processBlocks image size directory delta apply (cursor + blockSize) bytes
        | failed => failed
  else (.ok, bytes)
termination_by directory.rva + directory.size - cursor

def processRelocations (image : Image) (mapped : MappedImage) (directory : DataDirectory)
    (delta : Nat) (apply : Bool) : Status × (Nat → UInt8) :=
  processBlocks image mapped.size directory delta apply directory.rva mapped.bytes

/-- `sl_loader_apply_relocations`. -/
def applyRelocations (image : Image) (mapped : MappedImage) (loadBase : Nat) :
    Status × MappedImage :=
  if mapped.address = 0 ∨ mapped.size ≠ image.imageSize then (.invalidArgument, mapped)
  else if mapped.protectionsFinalized = true ∨ mapped.storage = .virtualTainted then
    (.invalidState, mapped)
  else if mapped.storage = .virtual ∧ loadBase ≠ mapped.address then (.invalidState, mapped)
  else if image.isPe32Plus = false ∧ loadBase > uint32Max then (.invalidArgument, mapped)
  else if loadBase = mapped.loadBase then (.ok, mapped)
  else
    let directory := image.directories directoryBaseReloc
    if directory.rva = 0 ∨ directory.size = 0 then (.relocationRequired, mapped)
    else if directory.rva > mapped.size ∨ directory.size > mapped.size - directory.rva then
      (.invalidImage, mapped)
    else
      let delta := (loadBase + 2 ^ 64 - mapped.loadBase) % 2 ^ 64
      match processRelocations image mapped directory delta false with
      | (.ok, _) =>
        match processRelocations image mapped directory delta true with
        | (.ok, bytes) => (.ok, { mapped with bytes := bytes, loadBase := loadBase })
        | (status, bytes) => (status, { mapped with bytes := bytes })
      | (status, bytes) => (status, { mapped with bytes := bytes })

/-! ### Import binding -/

/-- `sl_pending_import`. -/
structure PendingImport where
  iatRva : Nat
  guestAddress : UInt64
  deriving DecidableEq, Repr

/-- `sl_import_count_context`. -/
structure CountContext where
  count : Nat := 0
  overflow : Bool := false
  deriving DecidableEq, Repr

def countImportSymbol (_ : ImportSymbol) (context : CountContext) : CountContext × Bool :=
  if context.count = uint64Max then ({ context with overflow := true }, false)
  else ({ context with count := context.count + 1 }, true)

/-- `sl_import_address_resolver`, with the state it keeps in its context. -/
abbrev Resolver (context : Type) := ImportSymbol → context → (Status × UInt64) × context

/-- `sl_import_resolve_context`; the pending imports are those stored so far. -/
structure ResolveContext (context : Type) where
  resolverContext : context
  pending : List PendingImport := []
  status : Status := .ok

def resolveImportSymbol (image : Image) (mapped : MappedImage) (resolver : Resolver context)
    (capacity : Nat) (symbol : ImportSymbol) (state : ResolveContext context) :
    ResolveContext context × Bool :=
  let width := entrySize image
  if state.pending.length ≥ capacity ∨ symbol.iatRva > mapped.size ∨
      width > mapped.size - symbol.iatRva ∨ symbol.iatRva % width ≠ 0 then
    ({ state with status := .invalidImage }, false)
  else
    let ((status, guestAddress), resolverContext) := resolver symbol state.resolverContext
    let state := { state with resolverContext := resolverContext, status := status }
    if status ≠ .ok then (state, false)
    else if image.isPe32Plus = false ∧ guestAddress.toNat > uint32Max then
      ({ state with status := .addressOutOfRange }, false)
    else
      ({ state with pending :=
          state.pending ++ [{ iatRva := symbol.iatRva, guestAddress := guestAddress }] }, true)

/-- Writes one slot of the import address table. -/
def bindSlot (image : Image) (bytes : Nat → UInt8) (slot : PendingImport) : Nat → UInt8 :=
  storeLe bytes slot.iatRva (entrySize image) slot.guestAddress.toNat

/-- What `sl_loader_bind_imports` leaves behind. -/
structure Binding (context : Type) where
  status : Status
  mapped : MappedImage
  boundCount : Nat
  resolverContext : context

/-- `sl_loader_bind_imports`, its `calloc` succeeding or not; `none` when the enumeration does
not end. -/
def bindImports (image : Image) (mapped : MappedImage) (resolver : Resolver context)
    (start : context) (allocated : Bool) : Option (Binding context) :=
  let failed (status : Status) (after : context) : Binding context :=
    { status := status, mapped := mapped, boundCount := 0, resolverContext := after }
  if mapped.address = 0 ∨ mapped.size ≠ image.imageSize then some (failed .invalidArgument start)
  else if mapped.protectionsFinalized = true ∨ mapped.storage = .virtualTainted then
    some (failed .invalidState start)
  else do
    let (status, count) ← forEachImportSymbol image countImportSymbol {}
    if status ≠ .ok then return failed status start
    if count.overflow = true ∨ count.count > uint64Max / 16 then
      return failed .outOfMemory start
    if count.count = 0 then return failed .ok start
    if !allocated then return failed .outOfMemory start
    let (status, resolved) ← forEachImportSymbol image
      (resolveImportSymbol image mapped resolver count.count) { resolverContext := start }
    let status := if status = .ok then resolved.status else status
    let status := if status = .ok ∧ resolved.pending.length ≠ count.count then .invalidImage
      else status
    if status ≠ .ok then return failed status resolved.resolverContext
    return {
      status := .ok
      mapped := { mapped with bytes := resolved.pending.foldl (bindSlot image) mapped.bytes }
      boundCount := resolved.pending.length
      resolverContext := resolved.resolverContext }

end SadLayer.Loader
