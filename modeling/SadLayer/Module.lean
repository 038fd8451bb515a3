import Mathlib.Logic.Function.Basic
import SadLayer.Library.FirstIndex
import SadLayer.Loader

/-! The module registry: PE and native modules, the aliases that name them, and
the resolution of symbols through forwarders. -/
namespace SadLayer.Module
open SadLayer.Library SadLayer.Pe SadLayer.Loader

/-- `SL_MODULE_REGISTRY_CAPACITY`. -/
def registryCapacity : Nat := 128

/-- `SL_MODULE_ALIAS_CAPACITY`. -/
def aliasCapacity : Nat := 128

/-- `SL_MODULE_NAME_CAPACITY`. -/
def nameCapacity : Nat := 128

def forwarderModuleCapacity : Nat := 128
def forwarderDepthLimit : Nat := 16

/-- `sl_native_export`. -/
structure NativeExport where
  name : Option CString
  forwarder : Option CString
  ordinal : Nat
  hasOrdinal : Bool
  guestAddress : Nat
  deriving DecidableEq, Repr

/-- `sl_module_kind`, with what a module of that kind borrows. An image and a mapping are the
objects a pointer leads to, which may change; export tables are immutable. -/
inductive Contents where
  | pe (image mapped : Nat)
  | native (exports : List NativeExport)
  deriving DecidableEq, Repr

/-- `sl_loaded_module`. -/
structure LoadedModule where
  name : CString := []
  contents : Contents := .pe 0 0
  deriving DecidableEq, Repr

/-- `sl_module_alias`. -/
structure Alias where
  contractName : CString := []
  targetName : CString := []
  deriving DecidableEq, Repr

/-- `sl_module_registry`. -/
structure Registry where
  modules : Nat → LoadedModule := fun _ => {}
  count : Nat := 0
  aliases : Nat → Alias := fun _ => {}
  aliasCount : Nat := 0

/-- The images and mappings that pointers lead to. -/
structure Memory where
  images : Nat → Image
  mappings : Nat → MappedImage

def asciiFold (character : UInt8) : UInt8 :=
  if 0x41 ≤ character ∧ character ≤ 0x5a then character + (0x61 - 0x41) else character

def asciiEqualIgnoreCase : CString → CString → Bool
  | [], [] => true
  | left :: lefts, right :: rights =>
    asciiFold left == asciiFold right && asciiEqualIgnoreCase lefts rights
  | _, _ => false

/-- The length of a name that is neither absent, empty nor too long for its array. -/
def moduleNameLength : Option CString → Option Nat
  | none => none
  | some name => if name = [] ∨ name.length ≥ nameCapacity then none else some name.length

def findAlias (registry : Registry) (name : CString) : Option Nat :=
  firstIndex (fun index => asciiEqualIgnoreCase (registry.aliases index).contractName name)
    registry.aliasCount

/-- `sl_module_registry_init`. -/
def init : Registry := {}

/-- `sl_module_registry_find`. -/
def find (registry : Registry) (name : CString) : Option Nat :=
  firstIndex (fun index => asciiEqualIgnoreCase (registry.modules index).name name) registry.count

/-- What both registrations check of a valid name, and the entry they append. -/
def register (registry : Registry) (name : CString) (acceptable : Bool) (contents : Contents) :
    Status × Registry :=
  if (find registry name).isSome ∨ (findAlias registry name).isSome then
    (.duplicateModule, registry)
  else if registry.count ≥ registryCapacity then (.moduleRegistryFull, registry)
  else if !acceptable then (.invalidArgument, registry)
  else (.ok, { registry with
    modules := Function.update registry.modules registry.count
      { name := name, contents := contents }
    count := registry.count + 1 })

/-- `sl_module_registry_add`. -/
def add (memory : Memory) (registry : Registry) (name : Option CString) (image mapped : Nat) :
    Status × Registry :=
  if (memory.mappings mapped).address = 0 ∨
      (memory.mappings mapped).size ≠ (memory.images image).imageSize then
    (.invalidArgument, registry)
  else match name, moduleNameLength name with
    | some name, some _ => register registry name true (.pe image mapped)
    | _, _ => (.invalidArgument, registry)

def hasName (candidate : NativeExport) : Bool :=
  match candidate.name with
  | none => false
  | some name => name != []

/-- What the export loop asks of a candidate alone. -/
def exportIsValid (candidate : NativeExport) : Bool :=
  let hasTarget := candidate.guestAddress != 0 ||
    match candidate.forwarder with
    | none => false
    | some forwarder => forwarder != []
  (hasName candidate || candidate.hasOrdinal) && hasTarget &&
    !(candidate.guestAddress != 0 && candidate.forwarder.isSome)

/-- What the inner loop rejects: the name or the ordinal of an earlier export. -/
def exportsCollide (candidate existing : NativeExport) : Bool :=
  (hasName candidate && existing.name.isSome && candidate.name == existing.name) ||
    (candidate.hasOrdinal && existing.hasOrdinal && candidate.ordinal == existing.ordinal)

/-- The export loop of `sl_module_registry_add_native`. -/
def exportsAreValid : List NativeExport → List NativeExport → Bool
  | _, [] => true
  | earlier, candidate :: rest =>
    exportIsValid candidate && !earlier.any (exportsCollide candidate) &&
      exportsAreValid (earlier ++ [candidate]) rest

/-- `sl_module_registry_add_native`. -/
def addNative (registry : Registry) (name : Option CString) (exports : List NativeExport) :
    Status × Registry :=
  if exports = [] then (.invalidArgument, registry)
  else match name, moduleNameLength name with
    | some name, some _ => register registry name (exportsAreValid [] exports) (.native exports)
    | _, _ => (.invalidArgument, registry)

/-- `sl_module_registry_add_alias`. The target is copied from the module it found, by the length
of the name it was found under. -/
def addAlias (registry : Registry) (contractName targetName : Option CString) :
    Status × Registry :=
  match contractName, targetName, moduleNameLength contractName, moduleNameLength targetName with
  | some contractName, some targetName, some _, some targetLength =>
    if (find registry contractName).isSome ∨ (findAlias registry contractName).isSome then
      (.duplicateModule, registry)
    else match find registry targetName with
      | none => (.moduleNotFound, registry)
      | some target =>
        if registry.aliasCount ≥ aliasCapacity then (.moduleRegistryFull, registry)
        else (.ok, { registry with
          aliases := Function.update registry.aliases registry.aliasCount {
            contractName := contractName
            targetName := (registry.modules target).name.take (targetLength + 1) }
          aliasCount := registry.aliasCount + 1 })
  | _, _, _, _ => (.invalidArgument, registry)

/-- `sl_module_registry_resolve_module`. -/
def resolveModule (registry : Registry) (name : Option CString) : Except Status Nat :=
  match name, moduleNameLength name with
  | some name, some _ =>
    match find registry name with
    | some module => .ok module
    | none =>
      match findAlias registry name with
      | none => .error .moduleNotFound
      | some alias_ =>
        match find registry (registry.aliases alias_).targetName with
        | none => .error .moduleNotFound
        | some module => .ok module
  | _, _ => .error .invalidArgument

/-- `sl_module_registry_resolve_address`. -/
def resolveAddress (memory : Memory) (registry : Registry) (address : Nat) : Except Status Nat :=
  let contains (module : Nat) : Bool :=
    match (registry.modules module).contents with
    | .native _ => false
    | .pe _ mapped =>
      let mapping := memory.mappings mapped
      mapping.loadBase != 0 && mapping.loadBase ≤ address &&
        address - mapping.loadBase < mapping.size
  if address = 0 then .error .invalidArgument
  else match firstIndex contains registry.count with
    | none => .error .moduleNotFound
    | some module => .ok module

/-! ### Forwarders -/

/-- What is before and after the last separator. -/
def splitLast (separator : UInt8) : CString → Option (CString × CString)
  | [] => none
  | character :: rest =>
    match splitLast separator rest with
    | some (before, after) => some (character :: before, after)
    | none => if character = separator then some ([], rest) else none

/-- `isspace` in the C locale. -/
def isSpace (character : UInt8) : Bool :=
  character == 0x20 || (0x09 ≤ character && character ≤ 0x0d)

def isDigit (character : UInt8) : Bool :=
  0x30 ≤ character && character ≤ 0x39

def decimalValue (digits : CString) : Nat :=
  digits.foldl (fun value digit => value * 10 + (digit.toNat - 0x30)) 0

/-- `strtoul` in base ten: the value and the rest of the text, or `none` when it sets `errno`. -/
def strtoul (text : CString) : Option (Nat × CString) :=
  let trimmed := text.dropWhile isSpace
  let (negative, unsigned) := match trimmed with
    | 0x2d :: rest => (true, rest)
    | 0x2b :: rest => (false, rest)
    | _ => (false, trimmed)
  let digits := unsigned.takeWhile isDigit
  if digits = [] then some (0, text)
  else
    let value := decimalValue digits
    if value > uint64Max then none
    else some (if negative then (2 ^ 64 - value) % 2 ^ 64 else value, unsigned.dropWhile isDigit)

/-- Where a forwarder leads. -/
structure Forward where
  moduleName : CString
  symbol : CString
  ordinal : Nat
  byOrdinal : Bool
  deriving DecidableEq, Repr

def dllSuffix : CString := [0x2e, 0x64, 0x6c, 0x6c]

def hasDllSuffix (name : CString) : Bool :=
  4 ≤ name.length && (name.drop (name.length - 4)).map asciiFold == dllSuffix

/-- The module name of a forwarder, with its suffix. -/
def forwardedModule (name : CString) : CString :=
  if hasDllSuffix name then name else name ++ dllSuffix

/-- The ordinal of a symbol that begins with `#`, and whether it does. -/
def parseOrdinal : CString → Except Status (Nat × Bool)
  | 0x23 :: digits =>
    match strtoul digits with
    | none => .error .invalidForwarder
    | some (value, rest) =>
      if digits = [] ∨ rest ≠ [] ∨ value > uint32Max then .error .invalidForwarder
      else .ok (value, true)
  | _ => .ok (0, false)

def parseForwarder (forwarder : CString) (moduleCapacity : Nat) : Except Status Forward :=
  match splitLast 0x2e forwarder with
  | none => .error .invalidForwarder
  | some (moduleName, symbol) =>
    if moduleName = [] ∨ symbol = [] then .error .invalidForwarder
    else if (forwardedModule moduleName).length + 1 > moduleCapacity then .error .invalidForwarder
    else match parseOrdinal symbol with
      | .error status => .error status
      | .ok (ordinal, byOrdinal) => .ok {
          moduleName := forwardedModule moduleName
          symbol := symbol
          ordinal := ordinal
          byOrdinal := byOrdinal }

/-- What `parse_forwarder` stores in the caller's buffer: the text before the separator, and the
suffix or a terminator behind it. -/
def storeModuleName (bytes : Nat → UInt8) (buffer : Nat) (moduleName : CString) : Nat → UInt8 :=
  let copied := copyBytes bytes buffer (fun index => moduleName.getD index 0) 0 moduleName.length
  if hasDllSuffix moduleName then storeLe copied (buffer + moduleName.length) 1 0
  else copyBytes copied (buffer + moduleName.length) (fun index => dllSuffix.getD index 0) 0
    (dllSuffix.length + 1)

/-- `parse_forwarder` with the memory its buffer is in. The ordinal is looked at after the module
name has been stored. -/
def parseForwarderInto (bytes : Nat → UInt8) (buffer : Nat) (forwarder : CString)
    (moduleCapacity : Nat) : Except Status Forward × (Nat → UInt8) :=
  match splitLast 0x2e forwarder with
  | none => (.error .invalidForwarder, bytes)
  | some (moduleName, symbol) =>
    if moduleName = [] ∨ symbol = [] then (.error .invalidForwarder, bytes)
    else if moduleName.length + (if hasDllSuffix moduleName then 1 else dllSuffix.length + 1) >
        moduleCapacity then (.error .invalidForwarder, bytes)
    else
      let stored := storeModuleName bytes buffer moduleName
      match parseOrdinal symbol with
      | .error status => (.error status, stored)
      | .ok (ordinal, byOrdinal) => (.ok {
          moduleName := forwardedModule moduleName
          symbol := symbol
          ordinal := ordinal
          byOrdinal := byOrdinal }, stored)

/-! ### Symbols -/

/-- `sl_module_symbol`. -/
structure Symbol where
  moduleName : Option CString
  symbolName : Option CString
  ordinal : Nat
  byOrdinal : Bool
  deriving DecidableEq, Repr

/-- `sl_resolved_symbol`. -/
structure ResolvedSymbol where
  module : Nat
  export_ : Export
  guestAddress : Nat
  forwardDepth : Nat
  isNative : Bool
  deriving DecidableEq, Repr

/-- The first native export a symbol names. -/
def findNativeExport (exports : List NativeExport) (symbol : Symbol) : Option NativeExport :=
  exports.find? fun candidate =>
    (symbol.byOrdinal && candidate.hasOrdinal && candidate.ordinal == symbol.ordinal) ||
      (!symbol.byOrdinal && candidate.name.isSome && candidate.name == symbol.symbolName)

/-- The PE export a symbol names. -/
def findPeExport (image : Image) (symbol : Symbol) : Except Status Export :=
  if symbol.byOrdinal then findExportByOrdinal image symbol.ordinal
  else match symbol.symbolName with
    | none => .error .invalidArgument
    | some name => findExportByName image name

def forwardSymbol (forward : Forward) : Symbol := {
  moduleName := some forward.moduleName
  symbolName := some forward.symbol
  ordinal := forward.ordinal
  byOrdinal := forward.byOrdinal }

/-- What one module makes of a symbol. -/
inductive Lookup where
  | failed (status : Status)
  /-- An export, all of its result but the depth. -/
  | found (module : Nat) (export_ : Export) (guestAddress : Nat) (isNative : Bool)
  | forwarded (forwarder : CString)
  deriving DecidableEq, Repr

/-- The body of `resolve_symbol_recursive` below its depth check, up to the forwarder it meets. -/
def lookupSymbol (memory : Memory) (registry : Registry) (symbol : Symbol) : Lookup :=
  match resolveModule registry symbol.moduleName with
  | .error status => .failed status
  | .ok module =>
    match (registry.modules module).contents with
    | .native exports =>
      match findNativeExport exports symbol with
      | none => .failed .exportNotFound
      | some native =>
        match native.forwarder with
        | some forwarder => .forwarded forwarder
        | none => .found module {
            name := native.name
            forwarder := none
            ordinal := native.ordinal
            rva := 0
            isForwarder := false } native.guestAddress true
    | .pe image mapped =>
      match findPeExport (memory.images image) symbol with
      | .error status => .failed status
      | .ok export_ =>
        match export_.isForwarder, export_.forwarder with
        | true, some forwarder => .forwarded forwarder
        | _, _ =>
          if (memory.mappings mapped).loadBase > uint64Max - export_.rva then .failed .invalidImage
          else .found module export_ ((memory.mappings mapped).loadBase + export_.rva) false

/-- `resolve_symbol_recursive`. -/
def resolveSymbolRecursive (memory : Memory) (registry : Registry) (symbol : Symbol)
    (depth : Nat) : Except Status ResolvedSymbol :=
  if depth > forwarderDepthLimit then .error .forwarderLimit
  else match lookupSymbol memory registry symbol with
    | .failed status => .error status
    | .found module export_ guestAddress isNative => .ok {
        module := module
        export_ := export_
        guestAddress := guestAddress
        forwardDepth := depth
        isNative := isNative }
    | .forwarded forwarder =>
      match parseForwarder forwarder forwarderModuleCapacity with
      | .error status => .error status
      | .ok forward =>
        resolveSymbolRecursive memory registry (forwardSymbol forward) (depth + 1)
termination_by forwarderDepthLimit + 1 - depth

/-- `sl_module_registry_resolve_symbol`: its status, and the caller's result after it. -/
def resolveSymbol (memory : Memory) (registry : Registry) (symbol : Symbol)
    (result : ResolvedSymbol) : Status × ResolvedSymbol :=
  if symbol.moduleName = none ∨ (symbol.byOrdinal = false ∧ symbol.symbolName = none) then
    (.invalidArgument, result)
  else match resolveSymbolRecursive memory registry symbol 0 with
    | .error status => (status, result)
    | .ok resolved => (.ok, resolved)

/-- `sl_module_registry_resolve`. -/
def resolve (memory : Memory) (registry : Registry) (symbol : ImportSymbol)
    (result : ResolvedSymbol) : Status × ResolvedSymbol :=
  if symbol.byOrdinal = false ∧ symbol.symbolName = none then (.invalidArgument, result)
  else resolveSymbol memory registry {
    moduleName := some symbol.moduleName
    symbolName := symbol.symbolName
    ordinal := symbol.ordinal
    byOrdinal := symbol.byOrdinal } result

end SadLayer.Module
