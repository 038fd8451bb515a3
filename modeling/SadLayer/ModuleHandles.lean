import SadLayer.ModuleNames
import SadLayer.ProcAddress
import SadLayer.SpaceAdoption
import SadLayer.SpaceLifecycle

/-! The handles of modules, which are their bases: by name, by an address inside, and back
from a handle to the module. -/
namespace SadLayer.ModuleHandles
open SadLayer.Library SadLayer.Pe SadLayer.Loader SadLayer.Module SadLayer.Space
open SadLayer.ProcessModules

def errorInvalidHandle : Nat := 6
def errorInvalidParameter : Nat := 87
def errorInsufficientBuffer : Nat := 122

def getModuleHandleExFlagPin : UInt32 := 1
def getModuleHandleExFlagUnchangedRefcount : UInt32 := 2
def getModuleHandleExFlagFromAddress : UInt32 := 4
def loadLibrarySearchSystem32 : UInt32 := 0x800

/-- A pointer to a name, null as zero, and the units it leads to. -/
structure NamePointer where
  address : Nat
  units : List UInt16

/-- The handle a call gives, none for null, and the last error it sets. -/
structure Given where
  handle : Option Nat := none
  lastError : Option Nat := none
  deriving DecidableEq, Repr

/-- The space `current_module_registry` takes the registry from. -/
def currentSpace (process : Option Win32Process) : Option ModuleSpace :=
  process.bind Win32Process.moduleSpace

def currentPeModuleByName (process : Option Win32Process) (moduleName : NamePointer) :
    Option Nat :=
  match process with
  | none => none
  | some process =>
    if moduleName.address = 0 then process.mainModule
    else match process.moduleSpace, wideModuleNameToUtf8 moduleName.units with
      | some space, some name =>
        match resolveModule space.registry (some name) with
        | .ok module => if (mappedOf space module).isSome then some module else none
        | .error _ => none
      | _, _ => none

/-- The base of a module, as every call checks it before it gives it. -/
def residentBase (process : Option Win32Process) (module : Nat) : Option Nat :=
  match (currentSpace process).bind fun space => mappedOf space module with
  | none => none
  | some mapped =>
    if mapped.loadBase = 0 ∨ mapped.loadBase > uint64Max then none else some mapped.loadBase

/-- The module an address is in. -/
def moduleAtAddress (process : Option Win32Process) (address : Nat) : Option Nat :=
  match currentSpace process with
  | none => none
  | some space => (resolveAddress space.memory space.registry address).toOption

/-- `sl_kernel32_get_module_handle_w`. -/
def getModuleHandleW (process : Option Win32Process) (moduleName : NamePointer) : Given :=
  match (currentPeModuleByName process moduleName).bind (residentBase process) with
  | none => { lastError := some errorModNotFound }
  | some base => { handle := some base }

/-- `sl_kernel32_get_module_handle_ex_w`, with a place for the handle or none. -/
def getModuleHandleExW (process : Option Win32Process) (flags : UInt32) (moduleName : NamePointer)
    (moduleHandle : Bool) : Given :=
  let validFlags := getModuleHandleExFlagPin ||| getModuleHandleExFlagUnchangedRefcount |||
    getModuleHandleExFlagFromAddress
  let both := getModuleHandleExFlagPin ||| getModuleHandleExFlagUnchangedRefcount
  if moduleHandle = false then { lastError := some errorInvalidParameter }
  else if flags &&& ~~~validFlags ≠ 0 ∨ flags &&& both = both then
    { lastError := some errorInvalidParameter }
  else if flags &&& getModuleHandleExFlagFromAddress ≠ 0 ∧ moduleName.address = 0 then
    { lastError := some errorInvalidParameter }
  else
    let module :=
      if flags &&& getModuleHandleExFlagFromAddress ≠ 0 then
        moduleAtAddress process moduleName.address
      else currentPeModuleByName process moduleName
    match module.bind (residentBase process) with
    | none => { lastError := some errorModNotFound }
    | some base => { handle := some base }

/-- `sl_kernel32_load_library_ex_w`. -/
def loadLibraryExW (process : Option Win32Process) (moduleName : NamePointer) (reserved : Nat)
    (flags : UInt32) : Given :=
  if moduleName.address = 0 ∨ reserved ≠ 0 ∨ flags &&& ~~~loadLibrarySearchSystem32 ≠ 0 then
    { lastError := some errorInvalidParameter }
  else match (currentPeModuleByName process moduleName).bind (residentBase process) with
    | none => { lastError := some errorModNotFound }
    | some base => { handle := some base }

/-- `sl_module_registry_resolve_handle` in the registry of a process, if it has one. -/
def moduleOfHandle (process : Option Win32Process) (handle : Nat) : Option Nat :=
  match currentSpace process with
  | none => none
  | some space => (resolveHandle space.memory space.registry handle).toOption

/-- `sl_kernel32_free_library`. -/
def freeLibrary (process : Option Win32Process) (moduleHandle : Nat) : Bool × Option Nat :=
  if moduleHandle = 0 ∨ moduleOfHandle process moduleHandle = none then
    (false, some errorInvalidHandle)
  else (true, none)

/-- `sl_kernel32_rtl_pc_to_file_header`, with a place for the base or none. -/
def rtlPcToFileHeader (process : Option Win32Process) (programCounter : Nat) (imageBase : Bool) :
    Option Nat :=
  if imageBase = false ∨ programCounter = 0 then none
  else (moduleAtAddress process programCounter).bind (residentBase process)

/-- What a call returns for a path, the units it stores, and the last error it sets. -/
structure FileName where
  length : Nat
  stored : List UInt16 := []
  lastError : Option Nat := none
  deriving DecidableEq, Repr

/-- `sl_kernel32_get_module_file_name_w`, with a buffer of so many units or none. -/
def getModuleFileNameW (process : Option Win32Process) (moduleHandle : Nat) (filename : Bool)
    (size : UInt32) : FileName :=
  match process with
  | none => { length := 0, lastError := some errorModNotFound }
  | some process =>
    let requested :=
      if moduleHandle ≠ 0 then moduleOfHandle (some process) moduleHandle else process.mainModule
    let mapped := process.mainModule.bind fun main =>
      process.moduleSpace.bind fun space => mappedOf space main
    if mapped.isNone ∨ requested ≠ process.mainModule then
      { length := 0, lastError := some errorModNotFound }
    else match process.mainImagePath with
      | none => { length := 0, lastError := some errorModNotFound }
      | some path =>
        if size = 0 then { length := 0, lastError := some errorInsufficientBuffer }
        else if filename = false then { length := 0, lastError := some errorInvalidParameter }
        else if size.toNat ≤ process.mainImagePathLength then {
          length := size.toNat
          stored := path.take (size.toNat - 1) ++ [0]
          lastError := some errorInsufficientBuffer }
        else {
          length := process.mainImagePathLength
          stored := path.take process.mainImagePathLength ++ [0] }

/-! ### A process with its modules -/

/-- What the host promises of mappings: each ends within the address space, and no two overlap. -/
structure MappingsApart (space : ModuleSpace) : Prop where
  narrow : ∀ index < space.ownedCount,
    (space.owned index).mapped.address + (space.owned index).mapped.size ≤ uint64Max
  apart : ∀ first < space.ownedCount, ∀ second < space.ownedCount, first ≠ second →
    (space.owned first).mapped.address + (space.owned first).mapped.size ≤
        (space.owned second).mapped.address ∨
      (space.owned second).mapped.address + (space.owned second).mapped.size ≤
        (space.owned first).mapped.address

/-- A process that took over a space, after any operations on the space and any calls. -/
structure Guest where
  operations : List Space.Operation
  calls : List ProcessModules.Call
  mappingsApart : MappingsApart (run Space.step {} operations).state
  adopted : (run ProcessModules.step create calls).state.moduleSpace =
    some (run Space.step {} operations).state

def Guest.space (guest : Guest) : ModuleSpace := (run Space.step {} guest.operations).state

def Guest.process (guest : Guest) : Win32Process :=
  (run ProcessModules.step create guest.calls).state

/-- A PE module of the space with its base. -/
def IsBase (space : ModuleSpace) (module base : Nat) : Prop :=
  module < space.registry.count ∧ ∃ mapped, mappedOf space module = some mapped ∧
    mapped.loadBase = base

/-- The address is in the image of this module. -/
def Covers (space : ModuleSpace) (module address : Nat) : Prop :=
  module < space.registry.count ∧ ∃ mapped, mappedOf space module = some mapped ∧
    mapped.loadBase ≤ address ∧ address < mapped.loadBase + mapped.size

/-- No address is in two modules, and a base is in its own. -/
structure LaidOut (space : ModuleSpace) : Prop where
  base : ∀ {module base}, IsBase space module base →
    0 < base ∧ base ≤ uint64Max ∧ Covers space module base
  alone : ∀ {first second address}, Covers space first address → Covers space second address →
    first = second

/-! ### Modules of the registry and images of the space -/

section Spaces
variable {space : ModuleSpace} {module other : Nat} {mapped : MappedImage}

theorem mapped_of_eq_some : mappedOf space module = some mapped ↔
    ∃ image index, (space.registry.modules module).contents = .pe image index ∧
      mapped = (space.owned index).mapped := by
  unfold mappedOf
  cases (space.registry.modules module).contents with
  | native exports => simp
  | pe image index => simp [ModuleSpace.memory, eq_comm]

/-- A PE module owns an image. -/
theorem pe_module_owned (consistent : Consistent space) {image index : Nat}
    (inside : module < space.registry.count)
    (contents : (space.registry.modules module).contents = .pe image index) :
    index < space.ownedCount ∧ image = index := by
  have member : Contents.pe image index ∈ peEntries space.registry := by
    simp only [peEntries, List.mem_filter, List.mem_map, List.mem_range]
    exact ⟨⟨module, inside, contents⟩, rfl⟩
  rw [consistent.entries, List.mem_map] at member
  obtain ⟨owned, within, same⟩ := member
  cases same
  exact ⟨List.mem_range.mp within, rfl⟩

/-- No two modules own the same image. -/
theorem pe_modules_distinct (consistent : Consistent space) {image index : Nat}
    (inside : module < space.registry.count) (within : other < space.registry.count)
    (contents : (space.registry.modules module).contents = .pe image index)
    (same : (space.registry.modules other).contents = .pe image index) : module = other := by
  have unrepeated : (peEntries space.registry).Nodup := by
    rw [consistent.entries]
    apply List.Nodup.map _ List.nodup_range
    intro first second equal
    cases equal
    rfl
  rw [peEntries, List.filter_map] at unrepeated
  have listed {module : Nat} (inside : module < space.registry.count)
      (contents : (space.registry.modules module).contents = .pe image index) :
      module ∈ (List.range space.registry.count).filter
        (IsPe ∘ fun index => (space.registry.modules index).contents) := by
    simp [List.mem_filter, inside, contents, IsPe]
  exact List.inj_on_of_nodup_map unrepeated (listed inside contents) (listed within same)
    (contents.trans same.symm)

theorem laid_out (consistent : Consistent space) (finalized : Finalized space)
    (apart : MappingsApart space) : LaidOut space := by
  have resident {module : Nat} {mapped : MappedImage} (inside : module < space.registry.count)
      (known : mappedOf space module = some mapped) :
      ∃ index < space.ownedCount, (space.registry.modules module).contents = .pe index index ∧
        mapped = (space.owned index).mapped ∧ mapped.loadBase = mapped.address ∧
        mapped.address ≠ 0 ∧ 0 < mapped.size := by
    obtain ⟨image, index, contents, rfl⟩ := mapped_of_eq_some.mp known
    obtain ⟨within, rfl⟩ := pe_module_owned consistent inside contents
    obtain ⟨-, -, address, base, -⟩ := finalized module inside image image contents
    obtain ⟨⟨file, -, parsed⟩, ready, -⟩ := consistent.owned image within
    refine ⟨image, within, contents, rfl, base, address, ?_⟩
    rw [ready.size]
    exact (parse_ok parsed).positive
  constructor
  · rintro module base ⟨inside, mapped, known, rfl⟩
    obtain ⟨index, within, -, rfl, same, address, positive⟩ := resident inside known
    have narrow := apart.narrow index within
    refine ⟨by omega, by omega, inside, _, known, le_refl _, by omega⟩
  · rintro first second address ⟨inside, mapped, known, above, below⟩
      ⟨inside', mapped', known', above', below'⟩
    obtain ⟨index, within, contents, rfl, same, -, -⟩ := resident inside known
    obtain ⟨index', within', contents', rfl, same', -, -⟩ := resident inside' known'
    have one : index = index' := by
      by_contra different
      rcases apart.apart index within index' within' different with before | behind <;> omega
    subst one
    exact pe_modules_distinct consistent inside inside' contents contents'

theorem registered_add_pe (registered : Registered space.registry) (name : Option CString)
    (file : Option ByteView) (allocated : Bool) (host : MappingHost) :
    Registered (addPe space name file allocated host).2.1.registry := by
  have filled (name : CString) (file : ByteView) :
      Registered (fillOwned (space.setOwned space.ownedCount {}) (some name) file
        host).2.registry := by
    unfold fillOwned
    dsimp only
    split
    · exact registered
    split
    · exact registered_step registered (.add _ (some name) _ _)
    · exact registered
  unfold addPe
  split
  · split
    · exact registered
    split
    · exact registered
    dsimp only
    split
    · exact registered
    split <;> rename_i same
    · exact (congrArg (fun outcome => Registered outcome.2.registry) same).mp (filled _ _)
    · exact (congrArg (fun outcome => Registered outcome.2.registry) same).mp (filled _ _)
  · exact registered

theorem registered_space_step (registered : Registered space.registry)
    (operation : Space.Operation) : Registered (Space.step space operation).1.registry := by
  cases operation with
  | addPe name file allocated host => exact registered_add_pe registered name file allocated host
  | addNative name exports => exact registered_step registered (.addNative name exports)
  | addAlias contractName targetName =>
    exact registered_step registered (.addAlias contractName targetName)
  | bindImports module allocated =>
    unfold Space.step Space.bindImports
    dsimp only
    split
    · exact registered
    · rename_i bound
      split at bound
      · cases bound
        exact registered
      split at bound
      · cases bound
        exact registered
      · obtain ⟨binding, -, same⟩ := Option.map_eq_some_iff.mp bound
        cases same
        exact registered
  | finalize module host =>
    unfold Space.step Space.finalize
    dsimp only
    split
    · exact registered
    split
    · exact registered
    split
    · exact registered
    · exact registered

theorem registered_space_run (operations : List Space.Operation) :
    Registered (run Space.step {} operations).state.registry := by
  apply run_invariant Space.step fun _ space => Registered space.registry
  · exact registered_init
  · exact fun _ space operation registered => registered_space_step registered operation

end Spaces

/-! ### From names, addresses and handles to modules -/

section Lookups
variable {space : ModuleSpace} {process : Win32Process} {module base address handle : Nat}

theorem IsBase.unique (laid : LaidOut space) {other : Nat} (first : IsBase space module base)
    (second : IsBase space other base) : module = other :=
  laid.alone (laid.base first).2.2 (laid.base second).2.2

/-- A search of the registry that accepts one PE module at most finds it. -/
theorem first_module_iff {test : Nat → Bool} (accepts : MappedImage → Prop) {status : Status}
    (tests : ∀ module, test module = true ↔
      ∃ mapped, mappedOf space module = some mapped ∧ accepts mapped)
    (one : ∀ first < space.registry.count, ∀ second < space.registry.count, ∀ mapped mapped',
      mappedOf space first = some mapped → mappedOf space second = some mapped' →
      accepts mapped → accepts mapped' → first = second) :
    (match firstIndex test space.registry.count with
      | none => Except.error status
      | some module => .ok module).toOption = some module ↔
      module < space.registry.count ∧
        ∃ mapped, mappedOf space module = some mapped ∧ accepts mapped := by
  rw [← tests, ← @first_index_unique test]
  · cases firstIndex test space.registry.count <;> simp [Except.toOption]
  · intro first inside second within accepted also
    obtain ⟨mapped, known, accepts⟩ := (tests first).mp accepted
    obtain ⟨mapped', known', accepts'⟩ := (tests second).mp also
    exact one first inside second within mapped mapped' known known' accepts accepts'

theorem module_at_address_iff (adopted : process.moduleSpace = some space)
    (laid : LaidOut space) :
    moduleAtAddress (some process) address = some module ↔ Covers space module address := by
  simp only [moduleAtAddress, currentSpace, Option.bind_some, adopted, resolveAddress]
  by_cases null : address = 0
  · simp only [null, if_true, Except.toOption, reduceCtorEq, false_iff]
    rintro ⟨inside, mapped, known, above, -⟩
    have positive := (laid.base ⟨inside, mapped, known, rfl⟩).1
    omega
  rw [if_neg null]
  refine (first_module_iff (fun mapped => mapped.loadBase ≠ 0 ∧
    mapped.loadBase ≤ address ∧ address < mapped.loadBase + mapped.size) ?_ ?_).trans ?_
  · intro module
    unfold mappedOf
    cases (space.registry.modules module).contents with
    | native exports => simp
    | pe image mapped =>
      simp
      omega
  · rintro first inside second within mapped mapped' known known' ⟨-, above, below⟩
      ⟨-, above', below'⟩
    exact laid.alone ⟨inside, mapped, known, above, below⟩ ⟨within, mapped', known', above', below'⟩
  · constructor
    · rintro ⟨inside, mapped, known, -, above, below⟩
      exact ⟨inside, mapped, known, above, below⟩
    · rintro ⟨inside, mapped, known, above, below⟩
      have positive := (laid.base ⟨inside, mapped, known, rfl⟩).1
      exact ⟨inside, mapped, known, by omega, above, below⟩

theorem module_of_handle_iff (adopted : process.moduleSpace = some space)
    (laid : LaidOut space) :
    moduleOfHandle (some process) handle = some module ↔ IsBase space module handle := by
  simp only [moduleOfHandle, currentSpace, Option.bind_some, adopted, resolveHandle]
  by_cases null : handle = 0
  · simp only [null, if_true, Except.toOption, reduceCtorEq, false_iff]
    intro base
    exact absurd (laid.base base).1 (Nat.lt_irrefl 0)
  rw [if_neg null]
  refine first_module_iff (fun mapped => mapped.loadBase = handle) ?_ ?_
  · intro module
    unfold mappedOf
    cases (space.registry.modules module).contents with
    | native exports => simp
    | pe image mapped => simp
  · intro first inside second within mapped mapped' known known' same same'
    exact IsBase.unique laid ⟨inside, mapped, known, same⟩ ⟨within, mapped', known', same'⟩

theorem resident_base_iff (adopted : process.moduleSpace = some space) (laid : LaidOut space)
    (inside : module < space.registry.count) :
    residentBase (some process) module = some base ↔ IsBase space module base := by
  simp only [residentBase, currentSpace, Option.bind_some, adopted]
  cases known : mappedOf space module with
  | none => simp [IsBase, known]
  | some mapped =>
    have here := laid.base ⟨inside, mapped, known, rfl⟩
    simp only [IsBase, known, inside, true_and, Option.some_inj, exists_eq_left']
    rw [if_neg (by omega), Option.some_inj]

/-- A name that is there finds the PE module it spells. -/
theorem current_pe_module_by_name_iff (adopted : process.moduleSpace = some space)
    (registered : Registered space.registry) {moduleName : NamePointer}
    (named : moduleName.address ≠ 0) :
    currentPeModuleByName (some process) moduleName = some module ↔
      ∃ text, Spells (moduleName.units.takeWhile (· != 0)) text ∧
        Names space.registry text module ∧ ∃ base, IsBase space module base := by
  simp only [currentPeModuleByName, if_neg named, adopted]
  cases spelled : wideModuleNameToUtf8 moduleName.units with
  | none =>
    simp only [reduceCtorEq, false_iff, not_exists, not_and]
    intro text spells
    rw [← wide_module_name_iff, spelled] at spells
    contradiction
  | some text =>
    have spells := wide_module_name_iff.mp spelled
    have valid : ValidName text := by
      generalize moduleName.units.takeWhile (· != 0) = units at spells
      cases spells with
      | name chars given left plain short room => exact ⟨encode_utf8_eq_nil.not.mpr left, room⟩
    have one : ∀ text', Spells (moduleName.units.takeWhile (· != 0)) text' → text' = text := by
      intro text' spells'
      rw [← wide_module_name_iff, spelled] at spells'
      exact (Option.some.inj spells').symm
    dsimp only
    cases resolved : resolveModule space.registry (some text) with
    | error status =>
      simp only [reduceCtorEq, false_iff]
      rintro ⟨text', spells', names, -⟩
      rw [one text' spells'] at names
      rw [registered.resolve_iff.mpr ⟨valid, names⟩] at resolved
      contradiction
    | ok found =>
      have names := (registered.resolve_iff.mp resolved).2
      dsimp only
      constructor
      · intro given
        split at given
        · rename_i mapped
          cases given
          obtain ⟨mapping, known⟩ := Option.isSome_iff_exists.mp mapped
          exact ⟨text, spells, names, mapping.loadBase, names.1, mapping, known, rfl⟩
        · contradiction
      · rintro ⟨text', spells', names', base, inside, mapping, known, -⟩
        rw [one text' spells'] at names'
        rw [registered.names_unique valid names names', known, Option.isSome_some, if_pos rfl]

/-- The module a name asks for, in a process with this main module. -/
def AsksFor (space : ModuleSpace) (main : Nat) (moduleName : NamePointer) (module : Nat) : Prop :=
  if moduleName.address = 0 then module = main
  else ∃ text, Spells (moduleName.units.takeWhile (· != 0)) text ∧
    Names space.registry text module

theorem get_module_handle_iff (adopted : process.moduleSpace = some space)
    (registered : Registered space.registry) (laid : LaidOut space) {main : Nat}
    (named : process.mainModule = some main) (inside : main < space.registry.count)
    (moduleName : NamePointer) :
    (getModuleHandleW (some process) moduleName).handle = some base ↔
      ∃ module, AsksFor space main moduleName module ∧ IsBase space module base := by
  have found : (getModuleHandleW (some process) moduleName).handle =
      (currentPeModuleByName (some process) moduleName).bind (residentBase (some process)) := by
    unfold getModuleHandleW
    split <;> rename_i same <;> rw [same]
  rw [found, Option.bind_eq_some_iff]
  refine exists_congr fun module => ?_
  by_cases null : moduleName.address = 0
  · have first : currentPeModuleByName (some process) moduleName = some main := by
      simp [currentPeModuleByName, null, named]
    simp only [first, AsksFor, null, if_true, Option.some_inj]
    constructor
    · rintro ⟨rfl, resident⟩
      exact ⟨rfl, (resident_base_iff adopted laid inside).mp resident⟩
    · rintro ⟨rfl, resident⟩
      exact ⟨rfl, (resident_base_iff adopted laid inside).mpr resident⟩
  · rw [current_pe_module_by_name_iff adopted registered null, AsksFor, if_neg null]
    constructor
    · rintro ⟨⟨text, spells, names, -⟩, resident⟩
      exact ⟨⟨text, spells, names⟩, (resident_base_iff adopted laid names.1).mp resident⟩
    · rintro ⟨⟨text, spells, names⟩, resident⟩
      exact ⟨⟨text, spells, names, base, resident⟩,
        (resident_base_iff adopted laid names.1).mpr resident⟩

theorem header_iff (adopted : process.moduleSpace = some space) (laid : LaidOut space) :
    rtlPcToFileHeader (some process) address true = some base ↔
      ∃ module, Covers space module address ∧ IsBase space module base := by
  unfold rtlPcToFileHeader
  by_cases null : address = 0
  · simp only [null, or_true, if_true, reduceCtorEq, false_iff]
    rintro ⟨module, ⟨inside, mapped, known, above, -⟩, -⟩
    have positive := (laid.base ⟨inside, mapped, known, rfl⟩).1
    omega
  · rw [if_neg (by simp [null]), Option.bind_eq_some_iff]
    refine exists_congr fun module => ?_
    rw [module_at_address_iff adopted laid]
    exact and_congr_right fun covers => resident_base_iff adopted laid covers.1

theorem free_library_iff (adopted : process.moduleSpace = some space) (laid : LaidOut space) :
    (freeLibrary (some process) handle).1 = true ↔ ∃ module, IsBase space module handle := by
  simp only [← module_of_handle_iff adopted laid]
  unfold freeLibrary
  cases known : moduleOfHandle (some process) handle with
  | none => simp
  | some module =>
    have positive := (laid.base ((module_of_handle_iff adopted laid).mp known)).1
    simp [Nat.pos_iff_ne_zero.mp positive]

/-- A module that is there already is all that can be loaded. -/
theorem load_library_eq (process : Option Win32Process) (moduleName : NamePointer)
    (reserved : Nat) (flags : UInt32)
    (accepted : (loadLibraryExW process moduleName reserved flags).lastError ≠
      some errorInvalidParameter) :
    (loadLibraryExW process moduleName reserved flags).handle =
      (getModuleHandleW process moduleName).handle := by
  unfold loadLibraryExW at accepted ⊢
  split at accepted
  · exact absurd rfl accepted
  · rename_i valid
    rw [if_neg valid]
    rfl

/-- The extended call finds what the others find, by a name or by an address. -/
theorem get_module_handle_ex_eq (process : Option Win32Process) (flags : UInt32)
    (moduleName : NamePointer)
    (accepted : (getModuleHandleExW process flags moduleName true).lastError ≠
      some errorInvalidParameter) :
    (getModuleHandleExW process flags moduleName true).handle =
      if flags &&& getModuleHandleExFlagFromAddress ≠ 0 then
        rtlPcToFileHeader process moduleName.address true
      else (getModuleHandleW process moduleName).handle := by
  unfold getModuleHandleExW at accepted ⊢
  dsimp only at accepted ⊢
  rw [if_neg Bool.noConfusion] at accepted ⊢
  split at accepted
  · exact absurd rfl accepted
  rename_i valid
  rw [if_neg valid]
  split at accepted
  · exact absurd rfl accepted
  rename_i given
  rw [if_neg given]
  by_cases fromAddress : flags &&& getModuleHandleExFlagFromAddress ≠ 0
  · have present : moduleName.address ≠ 0 := fun null => given ⟨fromAddress, null⟩
    rw [if_pos fromAddress, if_pos fromAddress, rtlPcToFileHeader, if_neg (by simp [present])]
    split <;> rename_i same <;> rw [same]
  · rw [if_neg fromAddress, if_neg fromAddress]
    rfl

/-- The path is that of the main module alone. -/
theorem file_name_iff (adopted : process.moduleSpace = some space) (laid : LaidOut space)
    {main : Nat} {path : List UInt16} (holds : Holds process space main path)
    (adoptable : Adoptable space main path) (size : UInt32) :
    (getModuleFileNameW (some process) handle true size).length ≠ 0 ↔
      size ≠ 0 ∧ (handle = 0 ∨ IsBase space main handle) := by
  obtain ⟨mapped, known, -⟩ := adoptable.base
  have requested : (if handle ≠ 0 then moduleOfHandle (some process) handle
      else process.mainModule) = process.mainModule ↔ handle = 0 ∨ IsBase space main handle := by
    rw [← module_of_handle_iff adopted laid, holds.main]
    by_cases null : handle = 0 <;> simp [null]
  have filled : path.length ≠ 0 := fun empty =>
    adoptable.path.nonempty (List.eq_nil_iff_length_eq_zero.mpr empty)
  have mappedMain : (process.mainModule.bind fun main =>
      process.moduleSpace.bind fun space => mappedOf space main).isNone = false := by
    simp [holds.main, adopted, known]
  have zero : size.toNat = 0 ↔ size = 0 := by
    rw [← UInt32.toNat_inj]
    rfl
  simp only [getModuleFileNameW, holds.path, holds.length]
  rw [← requested, mappedMain]
  generalize (if handle ≠ 0 then moduleOfHandle (some process) handle
      else process.mainModule) = asked
  by_cases main' : asked = process.mainModule
  · rw [if_neg (by simp [main'])]
    by_cases empty : size = 0
    · simp [empty]
    · rw [if_neg empty, if_neg Bool.noConfusion]
      simp only [main', empty, not_false_eq_true, ne_eq, and_true, iff_true]
      split
      · exact zero.not.mpr empty
      · exact filled
  · simp [main']

end Lookups

/-! ### Handles -/

theorem Guest.invariant (guest : Guest) :
    ∃ main path, Holds guest.process guest.space main path ∧ Adoptable guest.space main path := by
  have configured := (invariant_run guest.calls).configured
  have adopted := guest.adopted
  cases configured with
  | unset none' => rw [none'] at adopted; contradiction
  | set holds adoptable =>
    rw [holds.space, Option.some_inj] at adopted
    subst adopted
    exact ⟨_, _, holds, adoptable⟩

theorem Guest.laid_out (guest : Guest) : LaidOut guest.space := by
  obtain ⟨main, path, -, adoptable⟩ := guest.invariant
  exact ModuleHandles.laid_out (consistent_run guest.operations) adoptable.finalized
    guest.mappingsApart

/-- In a process that took over a space, however the space was built and whatever was called since:
a name gives the base of the module it spells and no name that of the main module, an address that
of the module it is in; every such base leads back to its module and no other handle to any. -/
theorem module_handles_agree (guest : Guest) :
    ∃ main, guest.process.mainModule = some main ∧
      (∀ moduleName base, (getModuleHandleW (some guest.process) moduleName).handle = some base ↔
        ∃ module, AsksFor guest.space main moduleName module ∧ IsBase guest.space module base) ∧
      (∀ address base, rtlPcToFileHeader (some guest.process) address true = some base ↔
        ∃ module, Covers guest.space module address ∧ IsBase guest.space module base) ∧
      (∀ flags moduleName,
        (getModuleHandleExW (some guest.process) flags moduleName true).lastError ≠
          some errorInvalidParameter →
        (getModuleHandleExW (some guest.process) flags moduleName true).handle =
          if flags &&& getModuleHandleExFlagFromAddress ≠ 0 then
            rtlPcToFileHeader (some guest.process) moduleName.address true
          else (getModuleHandleW (some guest.process) moduleName).handle) ∧
      (∀ moduleName reserved flags,
        (loadLibraryExW (some guest.process) moduleName reserved flags).lastError ≠
          some errorInvalidParameter →
        (loadLibraryExW (some guest.process) moduleName reserved flags).handle =
          (getModuleHandleW (some guest.process) moduleName).handle) ∧
      (∀ handle, (freeLibrary (some guest.process) handle).1 = true ↔
        ∃ module, IsBase guest.space module handle) ∧
      (∀ module handle, IsBase guest.space module handle →
        moduleOfHandle (some guest.process) handle = some module ∧
          rtlPcToFileHeader (some guest.process) handle true = some handle) ∧
      ∀ handle size, (getModuleFileNameW (some guest.process) handle true size).length ≠ 0 ↔
        size ≠ 0 ∧ (handle = 0 ∨ IsBase guest.space main handle) := by
  obtain ⟨main, path, holds, adoptable⟩ := guest.invariant
  have laid := guest.laid_out
  have registered : Registered guest.space.registry := registered_space_run guest.operations
  have adopted : guest.process.moduleSpace = some guest.space := guest.adopted
  refine ⟨main, holds.main, ?_, ?_, ?_, ?_, ?_, ?_, ?_⟩
  · exact fun moduleName base =>
      get_module_handle_iff adopted registered laid holds.main adoptable.registered moduleName
  · exact fun address base => header_iff adopted laid
  · exact get_module_handle_ex_eq (some guest.process)
  · exact load_library_eq (some guest.process)
  · exact fun handle => free_library_iff adopted laid
  · intro module handle base
    exact ⟨(module_of_handle_iff adopted laid).mpr base,
      (header_iff adopted laid).mpr ⟨module, (laid.base base).2.2, base⟩⟩
  · exact fun handle size => file_name_iff adopted laid holds adoptable size

/-- A 64-bit file of headers and one empty section. -/
def smallFile : ByteView where
  data
    | 0 => 0x4d
    | 1 => 0x5a
    | 0x3c => 0x40
    | 0x40 => 0x50
    | 0x41 => 0x45
    | 0x44 => 0x64
    | 0x45 => 0x86
    | 0x46 => 1
    | 0x54 => 112
    | 0x58 => 0x0b
    | 0x59 => 0x02
    | 0x73 => 0x40
    | 0x74 => 0x01
    | 0x91 => 0x10
    | 0x94 => 240
    | _ => 0
  size := 240

/-- The file added under the name `a`, bound and finalized. -/
def smallOperations : List Space.Operation := [
  .addPe (some [0x61]) (some smallFile) true ⟨4096, some 0x140000000, none, true, true⟩,
  .bindImports (some (.entry 0)) true,
  .finalize (some (.entry 0)) ⟨4096, true, fun _ _ => true, true⟩]

def smallAdoption : ProcessModules.Call :=
  .adoptModuleSpace (some (some (run Space.step {} smallOperations).state)) (some (.entry 0))
    (some [0x61]) true

theorem adoption_ok {space : ModuleSpace} {main : ModulePointer} {path : List UInt16}
    {process : Win32Process}
    (adopts : (adoptModuleSpace process (some (some space)) (some main) (some path) true).1 = .ok) :
    (ProcessModules.step process
      (.adoptModuleSpace (some (some space)) (some main) (some path) true)).1.moduleSpace =
      some space := by
  have effect := @adopt_effect process (some (some space)) (some main) (some path) true
  rcases outcome : adoptModuleSpace process (some (some space)) (some main) (some path) true with
    ⟨status, after, spaceIo⟩
  rw [outcome] at adopts
  simp only [ProcessModules.step, outcome] at effect ⊢
  cases effect with
  | notAdopted failed => exact absurd adopts failed
  | adopted => rfl

def smallGuest : Guest where
  operations := smallOperations
  calls := [smallAdoption]
  mappingsApart := by
    have owned : (run Space.step {} smallOperations).state.ownedCount = 1 := by decide +kernel
    constructor
    · intro index inside
      obtain rfl : index = 0 := by omega
      decide +kernel
    · intro first inside second within different
      omega
  adopted := @adoption_ok (run Space.step {} smallOperations).state (.entry 0) [0x61] create
    (by decide +kernel)

/-- The module `a` under the name `A.`, under no name, and from an address inside. -/
theorem small_guest_handles :
    (getModuleHandleW (some smallGuest.process) ⟨1, [0x41, 0x2e]⟩).handle = some 0x140000000 ∧
      rtlPcToFileHeader (some smallGuest.process) 0x140000123 true = some 0x140000000 ∧
      (loadLibraryExW (some smallGuest.process) ⟨1, [0x41, 0x2e]⟩ 0 0).handle =
        some 0x140000000 ∧
      (freeLibrary (some smallGuest.process) 0x140000000).1 = true ∧
      (freeLibrary (some smallGuest.process) 0x140000123).1 = false ∧
      (getModuleFileNameW (some smallGuest.process) 0x140000000 true 8).length ≠ 0 := by
  obtain ⟨main, -, byName, -, -, loads, frees, -, paths⟩ :=
    module_handles_agree smallGuest
  have found : (getModuleHandleW (some smallGuest.process) ⟨1, [0x41, 0x2e]⟩).handle =
      some 0x140000000 := by
    decide +kernel
  have unnamed : (getModuleHandleW (some smallGuest.process) ⟨0, []⟩).handle =
      some 0x140000000 := by
    decide +kernel
  have covered : rtlPcToFileHeader (some smallGuest.process) 0x140000123 true =
      some 0x140000000 := by
    decide +kernel
  have accepted : (loadLibraryExW (some smallGuest.process) ⟨1, [0x41, 0x2e]⟩ 0 0).lastError ≠
      some errorInvalidParameter := by
    decide +kernel
  have other : (freeLibrary (some smallGuest.process) 0x140000123).1 = false := by decide +kernel
  obtain ⟨module, same, base⟩ := (byName ⟨0, []⟩ 0x140000000).mp unnamed
  have here : module = main := by simpa [AsksFor] using same
  subst here
  exact ⟨found, covered, (loads _ 0 0 accepted).trans found, (frees _).mpr ⟨module, base⟩, other,
    (paths _ 8).mpr ⟨by decide, .inr base⟩⟩

end SadLayer.ModuleHandles
