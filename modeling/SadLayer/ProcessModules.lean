import SadLayer.ContextScopes
import SadLayer.ModuleSpace
import SadLayer.Unicode

/-! The configuration of a process: its image base, its directory and the module space
that it takes over, which the references to it and each other keep apart. -/
namespace SadLayer.ProcessModules
open SadLayer.Library SadLayer.Pe SadLayer.Loader SadLayer.Module SadLayer.Space Contexts

/-- `SL_WIN32_IMAGE_PATH_MAX_UNITS`. -/
def imagePathMaxUnits : Nat := 32766

/-- What the calls of this module use of `struct sl_win32_process`. The process owns the space it
has adopted; its main module is an entry of the registry there. -/
structure Win32Process where
  activeReferences : Nat := 0
  filesystemDirectoryFd : Int := -1
  moduleSpace : Option ModuleSpace := none
  mainModule : Option Nat := none
  mainImagePath : Option (List UInt16) := none
  mainImagePathLength : Nat := 0
  /-- The image base in the PEB. -/
  imageBase : UInt64 := 0

/-- `module->mapped` of a module of the space. -/
def mappedOf (space : ModuleSpace) (module : Nat) : Option MappedImage :=
  match (space.registry.modules module).contents with
  | .pe _ mapped => some (space.memory.mappings mapped)
  | .native _ => none

/-- `sl_win32_process_set_image_base`. -/
def setImageBase (process : Win32Process) (imageBase : UInt64) : Except Fault (Status × Win32Process) :=
  let stored := { process with imageBase := imageBase }
  match process.moduleSpace with
  | none => .ok (.ok, stored)
  | some space =>
    match process.mainModule with
    | none => .ok (.invalidState, process)
    | some main =>
      match mappedOf space main with
      | none => .error .dangling
      | some mapped =>
        if imageBase.toNat ≠ mapped.loadBase then .ok (.invalidState, process)
        else .ok (.ok, stored)

/-- `sl_win32_process_retain`. -/
def retain (process : Win32Process) : Status × Win32Process :=
  match processRetain process.activeReferences with
  | .error status => (status, process)
  | .ok references => (.ok, { process with activeReferences := references })

/-- `sl_win32_process_release`. -/
def release (process : Win32Process) : Except Fault Win32Process :=
  (processRelease process.activeReferences).map fun references =>
    { process with activeReferences := references }

/-- `sl_win32_process_set_filesystem_directory`, with what `open` returns. -/
def setFilesystemDirectory (process : Win32Process) (hostDirectory : Option CString) (fd : Int) :
    Status × Win32Process :=
  if hostDirectory = none ∨ hostDirectory = some [] then (.invalidArgument, process)
  else if process.filesystemDirectoryFd ≥ 0 ∨ process.activeReferences ≠ 0 then
    (.invalidState, process)
  else if fd < 0 then (.io, process)
  -- the directory and the references are checked once more here, as they were above
  else (.ok, { process with filesystemDirectoryFd := fd })

def findExactModule (space : ModuleSpace) (candidate : ModulePointer) : Option Nat :=
  match candidate with
  | .foreign _ => none
  | .entry index => if index < space.registry.count then some index else none

/-- What `module_space_is_finalized` asks of one module. -/
def moduleIsFinalized (space : ModuleSpace) (module : Nat) : Bool :=
  match (space.registry.modules module).contents with
  | .native _ => true
  | .pe image mapped =>
    let mapping := space.memory.mappings mapped
    mapping.address != 0 && mapping.storage == .virtual && mapping.protectionsFinalized &&
      mapping.size == (space.memory.images image).imageSize && mapping.loadBase == mapping.address

def moduleSpaceIsFinalized (space : ModuleSpace) : Bool :=
  (List.range space.registry.count).all (moduleIsFinalized space)

/-- `validate_image_path`, on the units that a pointer and a length span. -/
def validateImagePath (path : Option (List UInt16)) : Status :=
  match path with
  | none => .invalidArgument
  | some units =>
    if units.length = 0 ∨ units.length > imagePathMaxUnits then .invalidArgument
    else if units.any (· == 0) then .invalidArgument
    else (Unicode.utf16ToUtf8 units none).status

/-- `sl_win32_process_adopt_module_space`, its `calloc` succeeding or not, with what it leaves in
`*space_io`. A null `space_io` is none. -/
def adoptModuleSpace (process : Win32Process) (spaceIo : Option (Option ModuleSpace))
    (mainModule : Option ModulePointer) (imagePath : Option (List UInt16)) (allocated : Bool) :
    Status × Win32Process × Option (Option ModuleSpace) :=
  let failed (status : Status) := (status, process, spaceIo)
  match spaceIo, mainModule with
  | some (some space), some mainModule =>
    if process.moduleSpace.isSome ∨ process.mainModule.isSome ∨ process.mainImagePath.isSome ∨
        process.imageBase ≠ 0 ∨ process.activeReferences ≠ 0 then failed .invalidState
    else match findExactModule space mainModule with
      | none => failed .invalidState
      | some registered =>
        match mappedOf space registered with
        | none => failed .invalidState
        | some mapped =>
          if moduleSpaceIsFinalized space = false then failed .invalidState
          else if validateImagePath imagePath ≠ .ok then failed (validateImagePath imagePath)
          else if mapped.loadBase = 0 ∨ mapped.loadBase > uint64Max then failed .invalidState
          else if allocated = false then failed .outOfMemory
          else
            -- the references are checked once more here, as they were above
            let path := imagePath.getD []
            (.ok, { process with
              moduleSpace := some space
              mainModule := some registered
              mainImagePath := some (path ++ [0])
              mainImagePathLength := path.length
              imageBase := .ofNat mapped.loadBase }, some none)
  | _, _ => failed .invalidArgument

/-! ### Calls -/

/-- A call on a process, with what the host answers it. -/
inductive Call where
  | setImageBase (imageBase : UInt64)
  | retain
  | release
  | setFilesystemDirectory (hostDirectory : Option CString) (fd : Int)
  | adoptModuleSpace (spaceIo : Option (Option ModuleSpace)) (mainModule : Option ModulePointer)
      (imagePath : Option (List UInt16)) (allocated : Bool)

inductive Answer where
  | returned (status : Status)
  | released
  /-- An adoption, with `*space_io` after it. -/
  | adopted (status : Status) (spaceIo : Option (Option ModuleSpace))
  | faulted (fault : Fault)

/-- One call; a call that never returns has no effect. -/
def step (process : Win32Process) : Call → Win32Process × Answer
  | .setImageBase imageBase =>
    match setImageBase process imageBase with
    | .error fault => (process, .faulted fault)
    | .ok (status, process) => (process, .returned status)
  | .retain =>
    let (status, process) := retain process
    (process, .returned status)
  | .release =>
    match release process with
    | .error fault => (process, .faulted fault)
    | .ok process => (process, .released)
  | .setFilesystemDirectory hostDirectory fd =>
    let (status, process) := setFilesystemDirectory process hostDirectory fd
    (process, .returned status)
  | .adoptModuleSpace spaceIo mainModule imagePath allocated =>
    let (status, process, spaceIo) :=
      adoptModuleSpace process spaceIo mainModule imagePath allocated
    (process, .adopted status spaceIo)

/-- `sl_win32_process_create`. -/
def create : Win32Process := {}

end SadLayer.ProcessModules
