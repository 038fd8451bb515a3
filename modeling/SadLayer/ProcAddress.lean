import SadLayer.ModuleSpace
import SadLayer.SymbolResolution

/-! `GetProcAddress` and the import resolver: a handle leads to a module and its
name, an import names the module itself, and both ask the same resolution. -/
namespace SadLayer.Module
open SadLayer.Library SadLayer.Pe SadLayer.Loader

def errorModNotFound : Nat := 126
def errorProcNotFound : Nat := 127
def errorInvalidOrdinal : Nat := 182

/-- `sl_module_registry_resolve_handle`. -/
def resolveHandle (memory : Memory) (registry : Registry) (handle : Nat) : Except Status Nat :=
  let isBase (module : Nat) : Bool :=
    match (registry.modules module).contents with
    | .native _ => false
    | .pe _ mapped => (memory.mappings mapped).loadBase == handle
  if handle = 0 then .error .invalidArgument
  else match firstIndex isBase registry.count with
    | none => .error .moduleNotFound
    | some module => .ok module

/-- A zeroed `sl_resolved_symbol`. -/
def noSymbol : ResolvedSymbol where
  module := 0
  export_ := { name := none, forwarder := none, ordinal := 0, rva := 0, isForwarder := false }
  guestAddress := 0
  forwardDepth := 0
  isNative := false

/-- `sl_module_registry_import_resolver` over any registry, with the address that it stores. -/
def registryImportResolver (memory : Memory) (registry : Registry) (import_ : ImportSymbol) :
    Status × Option Nat :=
  match resolve memory registry import_ noSymbol with
  | (.ok, resolved) => (.ok, some resolved.guestAddress)
  | (status, _) => (status, none)

/-- The `procedure_name` argument: a pointer of at most `UINT16_MAX` is an ordinal. -/
inductive ProcedureName where
  | name (text : CString)
  | ordinal (value : UInt16)
  deriving DecidableEq, Repr

/-- The symbol that is asked of a module. -/
def procedureSymbol (moduleName : CString) : ProcedureName → Symbol
  | .name text =>
    { moduleName := some moduleName, symbolName := some text, ordinal := 0, byOrdinal := false }
  | .ordinal value =>
    { moduleName := some moduleName, symbolName := none, ordinal := value.toNat,
      byOrdinal := true }

/-- What a call returns, `none` for `NULL`, and the last error it sets. -/
structure ProcAddress where
  address : Option Nat := none
  lastError : Option Nat := none
  deriving DecidableEq, Repr

/-- `sl_kernel32_get_proc_address` in a process whose module space has this registry, if it has
one, and this main module. -/
def getProcAddress (memory : Memory) (registry : Option Registry) (mainModule : Option Nat)
    (moduleHandle : Nat) (procedureName : ProcedureName) : ProcAddress :=
  match registry with
  | none => { lastError := some errorModNotFound }
  | some registry =>
    let mainModule := if moduleHandle = 0 then mainModule else none
    match mainModule.or (resolveHandle memory registry moduleHandle).toOption with
    | none => { lastError := some errorModNotFound }
    | some module =>
      let symbol := procedureSymbol (registry.modules module).name procedureName
      let (status, resolved) := resolveSymbol memory registry symbol noSymbol
      if status ≠ .ok ∨ resolved.guestAddress = 0 ∨ resolved.guestAddress > uint64Max then
        { lastError := some (
            if status = .moduleNotFound then errorModNotFound
            else if symbol.byOrdinal = true ∧ status = .exportNotFound then errorInvalidOrdinal
            else errorProcNotFound) }
      else { address := some resolved.guestAddress }

/-! ### Handles -/

/-- The load bases of the PE modules are distinct and not zero, and the addresses of the native
ones have 64 bits. -/
structure Placed (memory : Memory) (registry : Registry) : Prop where
  base : ∀ module < registry.count, ∀ image mapped,
    (registry.modules module).contents = .pe image mapped → (memory.mappings mapped).loadBase ≠ 0
  distinct : ∀ module < registry.count, ∀ image mapped,
    (registry.modules module).contents = .pe image mapped → ∀ other < registry.count,
    ∀ image' mapped', (registry.modules other).contents = .pe image' mapped' →
    (memory.mappings mapped).loadBase = (memory.mappings mapped').loadBase → module = other
  narrow : ∀ module < registry.count, ∀ exports,
    (registry.modules module).contents = .native exports → ∀ native ∈ exports,
    native.guestAddress ≤ uint64Max

/-- An import that asks for what a procedure name asks for. -/
def Asks (import_ : ImportSymbol) : ProcedureName → Prop
  | .name text => import_.byOrdinal = false ∧ import_.symbolName = some text
  | .ordinal value => import_.byOrdinal = true ∧ import_.ordinal = value.toNat

variable {memory : Memory} {registry : Registry} {module image mapped : Nat}

theorem resolve_handle_base (placed : Placed memory registry) (inside : module < registry.count)
    (contents : (registry.modules module).contents = .pe image mapped) :
    resolveHandle memory registry (memory.mappings mapped).loadBase = .ok module := by
  unfold resolveHandle
  dsimp only
  rw [if_neg (placed.base module inside image mapped contents)]
  have first : firstIndex (fun other => match (registry.modules other).contents with
      | .native _ => false
      | .pe _ mapped' =>
        (memory.mappings mapped').loadBase == (memory.mappings mapped).loadBase)
      registry.count = some module := by
    rw [first_index_eq_some]
    refine ⟨inside, by rw [contents]; exact beq_self_eq_true _, fun earlier before => ?_⟩
    cases other : (registry.modules earlier).contents with
    | native exports => rfl
    | pe image' mapped' =>
      refine beq_eq_false_iff_ne.mpr fun same => ?_
      have one := placed.distinct module inside image mapped contents earlier
        (by omega) image' mapped' other same.symm
      omega
  rw [first]

/-- The handle of a module asks its name, whatever the main module is. -/
theorem get_proc_address_base (placed : Placed memory registry) (inside : module < registry.count)
    (contents : (registry.modules module).contents = .pe image mapped) {mainModule : Option Nat}
    {procedure : ProcedureName} :
    getProcAddress memory (some registry) mainModule (memory.mappings mapped).loadBase procedure =
      let symbol := procedureSymbol (registry.modules module).name procedure
      let (status, resolved) := resolveSymbol memory registry symbol noSymbol
      if status ≠ .ok ∨ resolved.guestAddress = 0 ∨ resolved.guestAddress > uint64Max then
        { lastError := some (
            if status = .moduleNotFound then errorModNotFound
            else if symbol.byOrdinal = true ∧ status = .exportNotFound then errorInvalidOrdinal
            else errorProcNotFound) }
      else { address := some resolved.guestAddress } := by
  have handle := resolve_handle_base placed inside contents
  have base := placed.base module inside image mapped contents
  simp only [getProcAddress, handle, base, if_false, Option.none_or, Except.toOption]

/-! ### Symbols -/

/-- Two symbols that ask for the same of the same module. -/
structure SameQuery (registry : Registry) (first second : Symbol) : Prop where
  module : resolveModule registry first.moduleName = resolveModule registry second.moduleName
  byOrdinal : first.byOrdinal = second.byOrdinal
  ordinal : first.byOrdinal = true → first.ordinal = second.ordinal
  name : first.byOrdinal = false → first.symbolName = second.symbolName

theorem lookup_same_query {first second : Symbol} (same : SameQuery registry first second) :
    lookupSymbol memory registry first = lookupSymbol memory registry second := by
  have native (exports : List NativeExport) :
      findNativeExport exports first = findNativeExport exports second := by
    unfold findNativeExport
    rw [← same.byOrdinal]
    cases kind : first.byOrdinal with
    | true => rw [same.ordinal kind]; rfl
    | false => rw [same.name kind]; rfl
  have pe (image : Image) : findPeExport image first = findPeExport image second := by
    unfold findPeExport
    rw [← same.byOrdinal]
    cases kind : first.byOrdinal with
    | true => rw [same.ordinal kind, if_pos rfl, if_pos rfl]
    | false => rw [same.name kind, if_neg Bool.false_ne_true, if_neg Bool.false_ne_true]
  unfold lookupSymbol
  simp only [same.module, native, pe]

theorem resolve_same_query {first second : Symbol} (same : SameQuery registry first second)
    (named : first.moduleName ≠ none) (named' : second.moduleName ≠ none)
    (result : ResolvedSymbol) :
    resolveSymbol memory registry first result = resolveSymbol memory registry second result := by
  have recursive : resolveSymbolRecursive memory registry first 0 =
      resolveSymbolRecursive memory registry second 0 := by
    rw [resolveSymbolRecursive, resolveSymbolRecursive, lookup_same_query same]
  have complete : (first.byOrdinal = false ∧ first.symbolName = none) ↔
      second.byOrdinal = false ∧ second.symbolName = none := by
    rw [← same.byOrdinal]
    exact and_congr_right fun kind => by rw [same.name kind]
  unfold resolveSymbol
  simp only [recursive, complete, named, named', false_or]

/-! ### Addresses -/

/-- No symbol is found at the address zero, which stands for a failure. -/
theorem resolved_address (registered : Registered registry) (placed : Placed memory registry)
    {symbol : Symbol} {result resolved : ResolvedSymbol}
    (found : resolveSymbol memory registry symbol result = (.ok, resolved)) :
    resolved.guestAddress ≠ 0 ∧ resolved.guestAddress ≤ uint64Max := by
  obtain ⟨-, last, -, target⟩ := resolve_symbol_ok_iff.mp found
  generalize resolved.forwardDepth = depth at target
  have registers {given : Option CString} {index : Nat}
      (resolves : resolveModule registry given = .ok index) : index < registry.count := by
    cases given with
    | none => simp [resolveModule] at resolves
    | some name => exact (registered.resolve_iff.mp resolves).2.1
  cases target with
  | native module contents first direct =>
    have inside := registers module
    have member := List.mem_of_find?_eq_some first
    have exported := (registered.exports _ inside _ contents).target _ member
    refine ⟨?_, placed.narrow _ inside _ contents _ member⟩
    rcases exported with ⟨address, -⟩ | ⟨-, forwarder, forwards, -⟩
    · exact address
    · rw [direct] at forwards
      cases forwards
  | pe module contents first direct fits =>
    have base := placed.base _ (registers module) _ _ contents
    unfold uint64Max
    dsimp only
    omega

/-- A name that leads to a module has the length of a name that was registered. -/
theorem Registered.names_valid (registered : Registered registry) {name : CString}
    (names : Names registry name module) : ValidName name := by
  have measured {registeredName : CString} (same : folded registeredName = folded name)
      (valid : ValidName registeredName) : ValidName name := by
    have length : registeredName.length = name.length := by
      simpa only [folded, List.length_map] using congrArg List.length same
    refine ⟨?_, length ▸ valid.2⟩
    rintro rfl
    exact valid.1 (List.length_eq_zero_iff.mp length)
  obtain ⟨inside, own | ⟨alias_, within, contract, -⟩⟩ := names
  · exact measured own (registered.valid module inside)
  · exact measured contract (registered.alias_valid alias_ within)

/-- An import of a module by any of its names asks what its handle asks. -/
theorem import_same_query (registered : Registered registry) {import_ : ImportSymbol}
    (names : Names registry import_.moduleName module) {procedure : ProcedureName}
    (asks : Asks import_ procedure) :
    SameQuery registry (procedureSymbol (registry.modules module).name procedure) {
      moduleName := some import_.moduleName
      symbolName := import_.symbolName
      ordinal := import_.ordinal
      byOrdinal := import_.byOrdinal } := by
  have own : Names registry (registry.modules module).name module := ⟨names.1, .inl rfl⟩
  have first := registered.resolve_iff.mpr ⟨registered.valid module names.1, own⟩
  have second := registered.resolve_iff.mpr ⟨registered.names_valid names, names⟩
  cases procedure with
  | name text =>
    obtain ⟨byName, text⟩ := asks
    exact ⟨first.trans second.symm, byName.symm, nofun, fun _ => text.symm⟩
  | ordinal value =>
    obtain ⟨byOrdinal, value⟩ := asks
    exact ⟨first.trans second.symm, byOrdinal.symm, fun _ => value.symm, nofun⟩

theorem import_resolver_eq {import_ : ImportSymbol} {procedure : ProcedureName}
    (asks : Asks import_ procedure) :
    registryImportResolver memory registry import_ =
      match resolveSymbol memory registry {
        moduleName := some import_.moduleName
        symbolName := import_.symbolName
        ordinal := import_.ordinal
        byOrdinal := import_.byOrdinal } noSymbol with
      | (.ok, resolved) => (.ok, some resolved.guestAddress)
      | (status, _) => (status, none) := by
  unfold registryImportResolver resolve
  rw [if_neg]
  cases procedure with
  | name text => simp [asks.2]
  | ordinal value => simp [asks.1]

/-- The import resolver of a module space is that of its registry. -/
theorem space_import_resolver (space : Space.ModuleSpace) (import_ : ImportSymbol) :
    Space.importResolver space import_ () =
      (((registryImportResolver space.memory space.registry import_).1,
        .ofNat ((registryImportResolver space.memory space.registry import_).2.getD 0)), ()) := by
  unfold Space.importResolver registryImportResolver noSymbol
  obtain ⟨status, resolved⟩ := resolve space.memory space.registry import_ {
    module := 0
    export_ := { name := none, forwarder := none, ordinal := 0, rva := 0, isForwarder := false }
    guestAddress := 0
    forwardDepth := 0
    isNative := false }
  cases status <;> rfl

/-- The handle of a module and any name of it lead `GetProcAddress` and an import to one address,
or both to none. -/
theorem get_proc_address_agrees (memory : Memory) (calls : List Call)
    (placed : Placed memory (run step init calls).state) (mainModule : Option Nat)
    (module image mapped : Nat) (inside : module < (run step init calls).state.count)
    (contents : ((run step init calls).state.modules module).contents = .pe image mapped)
    (procedure : ProcedureName) (import_ : ImportSymbol) (asks : Asks import_ procedure)
    (names : Names (run step init calls).state import_.moduleName module) :
    let registry := (run step init calls).state
    let returned := getProcAddress memory (some registry) mainModule
      (memory.mappings mapped).loadBase procedure
    let bound := registryImportResolver memory registry import_
    (∀ address, returned.address = some address ↔ bound = (.ok, some address)) ∧
      (returned.address = none ↔ bound.1 ≠ .ok) := by
  have registered := registered_run calls
  generalize (run step init calls).state = registry at *
  intro _ returned bound
  have named : (procedureSymbol (registry.modules module).name procedure).moduleName ≠ none := by
    cases procedure <;> exact Option.some_ne_none _
  have resolves := @resolve_same_query memory _ _ _ (import_same_query registered names asks)
    named (Option.some_ne_none _) noSymbol
  rw [show returned = _ from get_proc_address_base placed inside contents,
    show bound = _ from import_resolver_eq asks, ← resolves]
  dsimp only
  cases found : resolveSymbol memory registry
      (procedureSymbol (registry.modules module).name procedure) noSymbol with
  | mk status resolved =>
    by_cases fine : status = .ok
    · subst fine
      obtain ⟨positive, narrow⟩ := resolved_address registered placed found
      have kept : ¬ (Status.ok ≠ .ok ∨ resolved.guestAddress = 0 ∨
          resolved.guestAddress > uint64Max) := by
        simp [positive, narrow]
      dsimp only
      rw [if_neg kept]
      simp
    · dsimp only
      rw [if_pos (.inl fine)]
      cases status with
      | ok => exact absurd rfl fine
      | _ => simp

/-- An image whose ordinal 7 is forwarded to `n.#3`, inside its export directory. -/
def forwardingImage : Image where
  file := {
    data
      | 0x20 => 7
      | 0x24 => 1
      | 0x2c => 0x50
      | 0x40 => 0x6e
      | 0x41 => 0x2e
      | 0x42 => 0x23
      | 0x43 => 0x33
      | 0x50 => 0x40
      | _ => 0
    size := 0x80 }
  imageSize := 0x1000
  headersSize := 0x80
  directories := fun index => if index = directoryExport then { rva := 0x10, size := 0x40 } else {}

def forwardingMemory : Memory where
  images := fun _ => forwardingImage
  mappings := fun _ => { address := 0x1000, size := 0x1000, loadBase := 0x1000 }

/-- A registry of the modules `a.dll` and `n.dll`, the first with the alias `b`. -/
def aliasedCalls : List Call := [
  .add forwardingMemory (some [0x61, 0x2e, 0x64, 0x6c, 0x6c]) 0 0,
  .addNative (some [0x6e, 0x2e, 0x64, 0x6c, 0x6c]) [
    { name := none, forwarder := none, ordinal := 3, hasOrdinal := true, guestAddress := 0x4000 }],
  .addAlias (some [0x62]) (some [0x41, 0x2e, 0x64, 0x6c, 0x6c])]

/-- Ordinal 7 of `a.dll` by its handle and by its alias `B` is ordinal 3 of `n.dll`. -/
theorem aliased_ordinal_agrees :
    let registry := (run step init aliasedCalls).state
    (getProcAddress forwardingMemory (some registry) none 0x1000 (.ordinal 7)).address =
        some 0x4000 ∧
      registryImportResolver forwardingMemory registry {
        moduleName := [0x42], symbolName := none, iatRva := 0, hint := 0, ordinal := 7
        byOrdinal := true } = (.ok, some 0x4000) := by
  intro registry
  have returned : (getProcAddress forwardingMemory (some registry) none 0x1000
      (.ordinal 7)).address = some 0x4000 := by
    decide +kernel
  have contents : (registry.modules 0).contents = .pe 0 0 := rfl
  have first {module image mapped : Nat} (inside : module < registry.count)
      (pe : (registry.modules module).contents = .pe image mapped) : module = 0 := by
    match module, (inside : module < 2) with
    | 0, _ => rfl
    | 1, _ => cases pe
  have placed : Placed forwardingMemory registry := {
    base := fun _ _ _ _ _ => Nat.succ_ne_zero 0xfff
    distinct := fun module inside _ _ pe other inside' _ _ pe' _ =>
      (first inside pe).trans (first inside' pe').symm
    narrow := by
      intro module inside exports native
      match module, (inside : module < 2) with
      | 0, _ => cases native
      | 1, _ =>
        cases native
        decide }
  have names : Names registry [0x42] 0 :=
    ⟨Nat.succ_pos 1, .inr ⟨0, Nat.one_pos, by decide, rfl⟩⟩
  exact ⟨returned, ((get_proc_address_agrees forwardingMemory aliasedCalls placed none 0 0 0
    (Nat.succ_pos 1) contents (.ordinal 7) _ ⟨rfl, rfl⟩ names).1 0x4000).mp returned⟩

end SadLayer.Module
