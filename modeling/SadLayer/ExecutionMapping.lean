import SadLayer.Loader

/-! Mapping an image where it may run, and fixing the protections of its pages
for good. What the host answers is given with each call. -/
namespace SadLayer.Loader
open SadLayer.Library SadLayer.Pe

/-- `SL_WINDOWS_ALLOCATION_GRANULARITY`. -/
def allocationGranularity : Nat := 64 * 1024

def sectionMemExecute : Nat := 0x20000000
def sectionMemRead : Nat := 0x40000000
def sectionMemWrite : Nat := 0x80000000

/-- What the host answers while an image is mapped: `sysconf`, `mmap` at the preferred address and
anywhere, and `munmap` of what lies before and behind the aligned part. -/
structure MappingHost where
  pageSize : Int
  preferred : Option Nat
  reservation : Option Nat
  prefixUnmapped : Bool
  suffixUnmapped : Bool

/-- What the host answers while an image is finalized: `sysconf`, `calloc`, `mprotect` of the pages
from one to another, and `mprotect` of all of them on the way out. -/
structure ProtectionHost where
  pageSize : Int
  allocated : Bool
  protect : Nat → Nat → Bool
  restored : Bool

def hostPageSize (value : Int) : Except Status Nat :=
  if value ≤ 0 ∨ value.toNat > uint64Max ∨ value.toNat &&& (value.toNat - 1) ≠ 0 then
    .error .memoryMapping
  else .ok value.toNat

theorem host_page_size_fails {value : Int} {status : Status}
    (failed : hostPageSize value = .error status) : status ≠ .ok := by
  unfold hostPageSize at failed
  split at failed
  · cases failed
    simp
  · cases failed

def roundUpSize (value alignment : Nat) : Option Nat :=
  let remainder := value &&& (alignment - 1)
  if remainder = 0 then some value
  else if value > uint64Max - (alignment - remainder) then none
  else some (value + (alignment - remainder))

def mapPreferredAddress (host : MappingHost) (preferredBase allocationSize alignment : Nat) :
    Option Nat :=
  if preferredBase = 0 ∨ preferredBase > uint64Max ∨ preferredBase % alignment ≠ 0 ∨
      allocationSize > uint64Max - preferredBase then none
  else host.preferred.filter (· = preferredBase)

def mapAlignedAddress (host : MappingHost) (allocationSize pageSize alignment : Nat) :
    Option Nat :=
  let padding := alignment - pageSize
  if allocationSize > uint64Max - padding then none
  else match host.reservation with
    | none => none
    | some reservation =>
      if reservation > uint64Max - (alignment - 1) then none
      else
        -- the mask of the source; alignments are powers of two
        let aligned := (reservation + alignment - 1) / alignment * alignment
        let prefixSize := aligned - reservation
        let suffixSize := allocationSize + padding - prefixSize - allocationSize
        if prefixSize ≠ 0 ∧ host.prefixUnmapped = false then none
        else if suffixSize ≠ 0 ∧ host.suffixUnmapped = false then none
        else some aligned

/-- `sl_loader_map_image_for_execution`. A failure leaves no mapping. -/
def mapImageForExecution (image : Image) (host : MappingHost) : Status × MappedImage :=
  if validateMapping image ≠ .ok then (validateMapping image, {})
  else if image.isPe32Plus = false ∨ image.machine ≠ machineAmd64 then (.unsupportedMachine, {})
  else match hostPageSize host.pageSize with
    | .error status => (status, {})
    | .ok pageSize =>
      match roundUpSize image.imageSize pageSize with
      | none => (.memoryMapping, {})
      | some allocationSize =>
        let alignment := max allocationGranularity pageSize
        match (mapPreferredAddress host image.imageBase allocationSize alignment).or
            (mapAlignedAddress host allocationSize pageSize alignment) with
        | none => (.memoryMapping, {})
        | some address =>
          let mapped := initializeMapping image address allocationSize .virtual
          match populateMapping image mapped with
          | .error status => (status, {})
          | .ok bytes =>
            match applyRelocations image { mapped with bytes := bytes } address with
            | (.ok, mapped) => (.ok, mapped)
            | (status, _) => (status, {})

/-! ### Protections -/

/-- The `PROT_` bits of a page. -/
structure Protection where
  read : Bool := false
  write : Bool := false
  execute : Bool := false
  deriving DecidableEq, Repr

def Protection.or (left right : Protection) : Protection where
  read := left.read || right.read
  write := left.write || right.write
  execute := left.execute || right.execute

def addPagePermissions (permissions : Nat → Protection) (pageCount pageSize imageSize : Nat)
    (start length : Nat) (protection : Protection) : Except Status (Nat → Protection) :=
  if length = 0 then .ok permissions
  else if start > imageSize ∨ length > imageSize - start then .error .invalidImage
  else
    let firstPage := start / pageSize
    let lastPage := (start + length - 1) / pageSize
    if firstPage ≥ pageCount ∨ lastPage ≥ pageCount then .error .invalidImage
    else .ok fun page =>
      if firstPage ≤ page ∧ page ≤ lastPage then (permissions page).or protection
      else permissions page

def sectionProtection (header : Section) : Protection where
  read := header.characteristics &&& sectionMemRead != 0
  write := header.characteristics &&& sectionMemWrite != 0
  execute := header.characteristics &&& sectionMemExecute != 0

/-- The section loop of `sl_loader_finalize_image`. -/
def sectionPermissions (pageCount pageSize imageSize : Nat) :
    List Section → (Nat → Protection) → Except Status (Nat → Protection)
  | [], permissions => .ok permissions
  | header :: rest, permissions =>
    match addPagePermissions permissions pageCount pageSize imageSize header.virtualAddress
        (max header.virtualSize header.rawSize) (sectionProtection header) with
    | .error status => .error status
    | .ok permissions => sectionPermissions pageCount pageSize imageSize rest permissions

/-- Where the run of pages with equal permissions ends that this page is part of. -/
def endOfRun (permissions : Nat → Protection) (pageCount firstPage endPage : Nat) : Nat :=
  if endPage < pageCount ∧ permissions endPage = permissions firstPage then
    endOfRun permissions pageCount firstPage (endPage + 1)
  else endPage
termination_by pageCount - endPage

/-- The loop over the runs of pages, for as many of them as the first argument says. -/
def protectRuns (host : ProtectionHost) (permissions : Nat → Protection) (pageCount : Nat) :
    Nat → Nat → Status
  | 0, _ => .ok
  | runs + 1, firstPage =>
    if firstPage ≥ pageCount then .ok
    else
      let endPage := endOfRun permissions pageCount firstPage (firstPage + 1)
      if host.protect firstPage endPage = false then .memoryProtection
      else protectRuns host permissions pageCount runs endPage

/-- What `sl_loader_finalize_image` comes to before it undoes a failure. -/
def protectPages (image : Image) (mapped : MappedImage) (host : ProtectionHost)
    (pageSize : Nat) : Status :=
  let pageCount := mapped.allocationSize / pageSize
  match addPagePermissions (fun _ => {}) pageCount pageSize mapped.size 0 image.headersSize
      { read := true } with
  | .error status => status
  | .ok permissions =>
    match sectionPermissions pageCount pageSize mapped.size image.sections permissions with
    | .error status => status
    | .ok permissions =>
      if (List.range pageCount).any fun page =>
          (permissions page).write && (permissions page).execute then .wxConflict
      -- every run has a page, so that there are no more runs than pages
      else protectRuns host permissions pageCount pageCount 0

/-- `sl_loader_finalize_image`. -/
def finalizeImage (image : Image) (mapped : MappedImage) (host : ProtectionHost) :
    Status × MappedImage :=
  if mapped.storage = .virtualTainted then (.invalidState, mapped)
  else if mapped.address = 0 ∨ mapped.storage ≠ .virtual ∨ mapped.size ≠ image.imageSize ∨
      mapped.allocationSize = 0 then (.invalidArgument, mapped)
  else if mapped.protectionsFinalized = true then (.ok, mapped)
  else match hostPageSize host.pageSize with
    | .error status => (status, mapped)
    | .ok pageSize =>
      if mapped.allocationSize % pageSize ≠ 0 then (.invalidState, mapped)
      else if host.allocated = false then (.outOfMemory, mapped)
      else
        let status := protectPages image mapped host pageSize
        if status = .ok then (.ok, { mapped with protectionsFinalized := true })
        else if host.restored = false then
          (.memoryProtection, { mapped with storage := .virtualTainted })
        else (status, mapped)

end SadLayer.Loader
