import SadLayer.ExecutionMapping
import SadLayer.ModuleRegistry
import SadLayer.ImportBinding

/-! The module space: a registry together with the images it owns, which are added
as a whole or not at all, bound to each other, and finalized. -/
namespace SadLayer.Space
open SadLayer.Library SadLayer.Pe SadLayer.Loader SadLayer.Module

/-- `sl_owned_pe_module`. -/
structure OwnedPeModule where
  fileBytes : Option ByteView := none
  image : Image := { file := { data := fun _ => 0, size := 0 } }
  mapped : MappedImage := {}
  importsBound : Bool := false

/-- `struct sl_module_space`. -/
structure ModuleSpace where
  registry : Registry := {}
  owned : Nat → OwnedPeModule := fun _ => {}
  ownedCount : Nat := 0

/-- What the pointers of the registry lead to: an image or a mapping goes by the place of the
module that owns it. -/
def ModuleSpace.memory (space : ModuleSpace) : Memory where
  images index := (space.owned index).image
  mappings index := (space.owned index).mapped

/-- A pointer to a module: into the registry of the space, or elsewhere. -/
inductive ModulePointer where
  | entry (index : Nat)
  | foreign (module : LoadedModule)
  deriving DecidableEq, Repr

def ModuleSpace.setOwned (space : ModuleSpace) (index : Nat) (owned : OwnedPeModule) :
    ModuleSpace :=
  { space with owned := Function.update space.owned index owned }

/-- `find_owned_module`. -/
def findOwnedModule (space : ModuleSpace) (module : ModulePointer) : Option Nat :=
  match module with
  | .foreign _ => none
  | .entry index =>
    match (space.registry.modules index).contents with
    | .native _ => none
    | .pe image mapped =>
      if index ≥ space.registry.count then none
      else firstIndex (fun owned => image == owned && mapped == owned) space.ownedCount

def preflightPeName (space : ModuleSpace) (name : Option CString) : Status :=
  match resolveModule space.registry name with
  | .ok _ => .duplicateModule
  | .error .moduleNotFound =>
    if space.registry.count ≥ registryCapacity ∨ space.ownedCount ≥ registryCapacity then
      .moduleRegistryFull
    else .ok
  | .error status => status

/-- The steps of `sl_module_space_add_pe` behind the copy of the file, each once those before it
succeeded: parsing, mapping and registering. The space has the entry as they filled it. -/
def fillOwned (space : ModuleSpace) (name : Option CString) (file : ByteView)
    (host : MappingHost) : Status × ModuleSpace :=
  let index := space.ownedCount
  match parse file with
  | .error status => (status, space.setOwned index { fileBytes := some file })
  | .ok image =>
    match mapImageForExecution image host with
    | (.ok, mapped) =>
      let filled := space.setOwned index
        { fileBytes := some file, image := image, mapped := mapped }
      let (status, registry) := add filled.memory filled.registry name index index
      (status, { filled with registry := registry })
    | (status, mapped) => (status, space.setOwned index
        { fileBytes := some file, image := image, mapped := mapped })

/-- `sl_module_space_add_pe`, its `malloc` succeeding or not, with the module it finds. -/
def addPe (space : ModuleSpace) (name : Option CString) (file : Option ByteView)
    (allocated : Bool) (host : MappingHost) : Status × ModuleSpace × Option Nat :=
  match name, file with
  | some name, some file =>
    if file.size = 0 then (.invalidArgument, space, none)
    else if preflightPeName space (some name) ≠ .ok then
      (preflightPeName space (some name), space, none)
    else
      let index := space.ownedCount
      let cleared := space.setOwned index {}
      if allocated = false then (.outOfMemory, cleared, none)
      else
        match fillOwned cleared (some name) file host with
        | (.ok, filled) =>
          (.ok, { filled with ownedCount := space.ownedCount + 1 }, find filled.registry name)
        | (status, filled) => (status, filled.setOwned index {}, none)
  | _, _ => (.invalidArgument, space, none)

/-- `sl_module_space_add_native`. -/
def addNative (space : ModuleSpace) (name : Option CString) (exports : List NativeExport) :
    Status × ModuleSpace :=
  let (status, registry) := Module.addNative space.registry name exports
  (status, { space with registry := registry })

/-- `sl_module_space_add_alias`. -/
def addAlias (space : ModuleSpace) (contractName targetName : Option CString) :
    Status × ModuleSpace :=
  let (status, registry) := Module.addAlias space.registry contractName targetName
  (status, { space with registry := registry })

/-- `sl_module_registry_import_resolver`. -/
def importResolver (space : ModuleSpace) : Resolver Unit := fun symbol _ =>
  match resolve space.memory space.registry symbol {
      module := 0
      export_ := { name := none, forwarder := none, ordinal := 0, rva := 0, isForwarder := false }
      guestAddress := 0
      forwardDepth := 0
      isNative := false } with
  | (.ok, resolved) => ((.ok, UInt64.ofNat resolved.guestAddress), ())
  | (status, _) => ((status, 0), ())

/-- `sl_module_space_bind_imports`, with the number of imports it bound; `none` when it never
returns. -/
def bindImports (space : ModuleSpace) (module : Option ModulePointer) (allocated : Bool) :
    Option (Status × ModuleSpace × Nat) :=
  match module with
  | none => some (.invalidArgument, space, 0)
  | some module =>
    match findOwnedModule space module with
    | none => some (.invalidState, space, 0)
    | some index =>
      let owned := space.owned index
      (Loader.bindImports owned.image owned.mapped (importResolver space) () allocated).map
        fun binding => (binding.status, space.setOwned index { owned with
          mapped := binding.mapped
          importsBound := owned.importsBound || binding.status == .ok }, binding.boundCount)

/-- `sl_module_space_finalize`. -/
def finalize (space : ModuleSpace) (module : Option ModulePointer) (host : ProtectionHost) :
    Status × ModuleSpace :=
  match module with
  | none => (.invalidArgument, space)
  | some module =>
    match findOwnedModule space module with
    | none => (.invalidState, space)
    | some index =>
      let owned := space.owned index
      if owned.importsBound = false then (.invalidState, space)
      else
        let (status, mapped) := finalizeImage owned.image owned.mapped host
        (status, space.setOwned index { owned with mapped := mapped })

end SadLayer.Space
