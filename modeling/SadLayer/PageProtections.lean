import SadLayer.ExecutionMapping
import SadLayer.Library.Run

/-! The pages of a mapping while their protections are fixed: every `mprotect` call,
what it may have changed when it fails, and what is left to run afterwards. -/
namespace SadLayer.Loader
open SadLayer.Library SadLayer.Pe

/-! ### Pages -/

def readWrite : Protection := { read := true, write := true }

def Protection.writesAndExecutes (protection : Protection) : Bool :=
  protection.write && protection.execute

/-- How an `mprotect` call ends. A failed one may have changed some of its pages. -/
inductive MprotectAnswer where
  | done
  | failed (changed : Nat → Bool)

def MprotectAnswer.succeeded : MprotectAnswer → Bool
  | .done => true
  | .failed _ => false

/-- The pages a call has changed at its end. -/
def MprotectAnswer.changed : MprotectAnswer → Nat → Bool
  | .done => fun _ => true
  | .failed changed => changed

/-- A call of `mprotect` for the pages from one to another, and what it finds there. -/
structure MprotectCall where
  firstPage : Nat
  endPage : Nat
  protection : Protection
  before : Nat → Protection

def MprotectCall.covers (call : MprotectCall) (page : Nat) : Bool :=
  call.firstPage ≤ page && page < call.endPage

/-- A moment of the call, at which it has changed these of its pages. -/
def MprotectCall.during (call : MprotectCall) (changed : Nat → Bool) (page : Nat) : Protection :=
  if call.covers page && changed page then call.protection else call.before page

/-- The protections of the pages of a mapping, and the calls that led to them. -/
structure Pages where
  protections : Nat → Protection
  calls : List MprotectCall := []

def mprotect (pages : Pages) (firstPage endPage : Nat) (protection : Protection)
    (answer : MprotectAnswer) : Bool × Pages :=
  let call : MprotectCall := {
    firstPage := firstPage
    endPage := endPage
    protection := protection
    before := pages.protections }
  (answer.succeeded, { protections := call.during answer.changed, calls := pages.calls ++ [call] })

/-! ### Finalization -/

/-- What the host answers while an image is finalized, whose page size `sysconf` tells or not. -/
structure PageHost where
  sysconf : Bool
  allocated : Bool
  protect : Nat → Nat → MprotectAnswer
  restore : MprotectAnswer

/-- The same answers without the pages. -/
def PageHost.answers (host : PageHost) (pageSize : Nat) : ProtectionHost where
  pageSize := if host.sysconf then pageSize else -1
  allocated := host.allocated
  protect firstPage endPage := (host.protect firstPage endPage).succeeded
  restored := host.restore.succeeded

/-- A mapped image with its pages. -/
structure PagedImage where
  mapped : MappedImage
  pages : Pages

/-- What the pages are to be given, unless one is to be written and executed. -/
def pagePermissions (image : Image) (mapped : MappedImage) (pageSize : Nat) :
    Except Status (Nat → Protection) :=
  let pageCount := mapped.allocationSize / pageSize
  match addPagePermissions (fun _ => {}) pageCount pageSize mapped.size 0 image.headersSize
      { read := true } with
  | .error status => .error status
  | .ok permissions =>
    match sectionPermissions pageCount pageSize mapped.size image.sections permissions with
    | .error status => .error status
    | .ok permissions =>
      if (List.range pageCount).any fun page => (permissions page).writesAndExecutes then
        .error .wxConflict
      else .ok permissions

/-- The loop over the runs of pages. -/
def protectPageRuns (host : PageHost) (permissions : Nat → Protection) (pageCount : Nat) :
    Nat → Nat → Pages → Status × Pages
  | 0, _, pages => (.ok, pages)
  | runs + 1, firstPage, pages =>
    if firstPage ≥ pageCount then (.ok, pages)
    else
      let endPage := endOfRun permissions pageCount firstPage (firstPage + 1)
      match mprotect pages firstPage endPage (permissions firstPage)
          (host.protect firstPage endPage) with
      | (false, pages) => (.memoryProtection, pages)
      | (true, pages) => protectPageRuns host permissions pageCount runs endPage pages

/-- How `sl_loader_finalize_image` leaves after a failure. -/
def restoreMapping (mapped : MappedImage) (host : PageHost) (pageCount : Nat) (status : Status)
    (pages : Pages) : Status × PagedImage :=
  match mprotect pages 0 pageCount readWrite host.restore with
  | (false, pages) => (.memoryProtection, ⟨{ mapped with storage := .virtualTainted }, pages⟩)
  | (true, pages) => (status, ⟨mapped, pages⟩)

/-- The part of `sl_loader_finalize_image` that may change a page. -/
def protectMapping (image : Image) (mapped : MappedImage) (host : PageHost) (pageSize : Nat)
    (pages : Pages) : Status × PagedImage :=
  let pageCount := mapped.allocationSize / pageSize
  match pagePermissions image mapped pageSize with
  | .error status => restoreMapping mapped host pageCount status pages
  | .ok permissions =>
    match protectPageRuns host permissions pageCount pageCount 0 pages with
    | (.ok, pages) => (.ok, ⟨{ mapped with protectionsFinalized := true }, pages⟩)
    | (status, pages) => restoreMapping mapped host pageCount status pages

/-- `sl_loader_finalize_image`, with the pages. -/
def finalizePages (image : Image) (pageSize : Nat) (host : PageHost) (state : PagedImage) :
    Status × PagedImage :=
  let mapped := state.mapped
  if mapped.storage = .virtualTainted then (.invalidState, state)
  else if mapped.address = 0 ∨ mapped.storage ≠ .virtual ∨ mapped.size ≠ image.imageSize ∨
      mapped.allocationSize = 0 then (.invalidArgument, state)
  else if mapped.protectionsFinalized = true then (.ok, state)
  else match hostPageSize (host.answers pageSize).pageSize with
    | .error status => (status, state)
    | .ok pageSize =>
      if mapped.allocationSize % pageSize ≠ 0 then (.invalidState, state)
      else if host.allocated = false then (.outOfMemory, state)
      else protectMapping image mapped host pageSize state.pages

/-! ### Runs -/

/-- What is done with a mapped image. -/
inductive Operation (context : Type) where
  | relocate (loadBase : Nat)
  | bind (resolver : Resolver context) (start : context) (allocated : Bool)
  | finalize (host : PageHost)

/-- One operation and its status, none when it does not return. -/
def operate (image : Image) (pageSize : Nat) (state : PagedImage) :
    Operation context → PagedImage × Option Status
  | .relocate loadBase =>
    let (status, mapped) := applyRelocations image state.mapped loadBase
    ({ state with mapped := mapped }, some status)
  | .bind resolver start allocated =>
    match bindImports image state.mapped resolver start allocated with
    | none => (state, none)
    | some binding => ({ state with mapped := binding.mapped }, some binding.status)
  | .finalize host =>
    let (status, state) := finalizePages image pageSize host state
    (state, some status)

/-- How an image is mapped. -/
inductive MappingKind where
  | heap (buffer : Nat)
  | execution (host : MappingHost)

/-- A new mapping. Its pages are readable and writable. -/
def beginMapping (image : Image) (kind : MappingKind) : PagedImage where
  mapped := match kind with
    | .heap buffer => (mapImage image buffer).2
    | .execution host => (mapImageForExecution image host).2
  pages := { protections := fun _ => readWrite }

/-! ### Trusted entries -/

def entryIsExecutable (image : Image) (entryRva : Nat) : Bool :=
  image.sections.any fun header =>
    let length := max header.virtualSize header.rawSize
    if length = 0 ∨ entryRva < header.virtualAddress then false
    else entryRva - header.virtualAddress < length &&
      header.characteristics &&& sectionMemExecute != 0

def validateTrustedEntry (image : Image) (mapped : MappedImage) : Status :=
  if image.isPe32Plus = false ∨ image.machine ≠ machineAmd64 ∨ mapped.address = 0 ∨
      mapped.storage ≠ .virtual ∨ mapped.protectionsFinalized = false ∨
      mapped.size ≠ image.imageSize ∨ mapped.allocationSize < mapped.size ∨
      mapped.preferredBase ≠ image.imageBase ∨ mapped.loadBase ≠ mapped.address ∨
      image.sections.length > maxSections ∨ mapped.entryRva ≠ image.entryRva ∨
      mapped.entryRva = 0 ∨ mapped.entryRva ≥ mapped.size ∨
      entryIsExecutable image mapped.entryRva = false then .invalidState
  else .ok

end SadLayer.Loader
