import SadLayer.ModuleSpace

/-! The module space over whole runs of its operations: what it owns and what its
registry lists stay in step whatever fails, and a module that was finalized keeps
the mapping it then had. -/
namespace SadLayer.Space
open SadLayer.Library SadLayer.Pe SadLayer.Loader SadLayer.Module

/-! ### No failure is a success -/

/-- A computation that fails says so. -/
def Fails (outcome : Except Status α) : Prop := outcome ≠ .error .ok

theorem fails_pure (value : α) : Fails (pure value) := by
  simp [Fails, pure, Except.pure]

theorem fails_bind {outcome : Except Status α} {next : α → Except Status β}
    (first : Fails outcome) (rest : ∀ value, Fails (next value)) : Fails (outcome >>= next) := by
  cases outcome with
  | error status => exact fun ok => first (by cases ok; rfl)
  | ok value => exact rest value

theorem fails_or_fail {status : Status} (failed : status ≠ .ok) (outcome : Option α) :
    Fails (orFail status outcome) := by
  cases outcome with
  | none => exact fun ok => failed (by cases ok; rfl)
  | some value => exact fails_pure value

theorem fails_check {status : Status} (failed : status ≠ .ok) (holds : Bool) :
    Fails (check holds status) := by
  cases holds with
  | false => exact fun ok => failed (by cases ok; rfl)
  | true => exact fails_pure ()

theorem fails_mapM {f : α → Except Status β} (each : ∀ value, Fails (f value)) (values : List α) :
    Fails (values.mapM f) := by
  induction values with
  | nil => exact fails_pure []
  | cons value values ih =>
    rw [List.mapM_cons]
    exact fails_bind (each value) fun _ => fails_bind ih fun _ => fails_pure _

theorem parse_magic_fails (file : ByteView) (offset size magic : Nat) :
    Fails (parseMagic file offset size magic) := by
  unfold parseMagic
  split
  · refine fails_bind (fails_check (by decide) _) fun _ => ?_
    refine fails_bind (fails_or_fail (by decide) _) fun _ => ?_
    exact fails_bind (fails_or_fail (by decide) _) fun _ => fails_pure _
  split
  · refine fails_bind (fails_check (by decide) _) fun _ => ?_
    refine fails_bind (fails_or_fail (by decide) _) fun _ => ?_
    exact fails_bind (fails_or_fail (by decide) _) fun _ => fails_pure _
  · simp [Fails]

/-- No check and no read of the parser fails with success. -/
theorem parse_fails (file : ByteView) : Fails (parse file) := by
  unfold parse parseOptionalHeader
  repeat' first
    | exact fails_pure _
    | exact fails_check (by decide) _
    | exact fails_or_fail (by decide) _
    | exact parse_magic_fails _ _ _ _
    | refine fails_bind ?_ fun _ => ?_
    | refine fails_mapM (fun index => ?_) _

theorem resolve_module_fails (registry : Registry) (name : Option CString) :
    Fails (resolveModule registry name) := by
  unfold resolveModule
  split
  · split
    · simp [Fails]
    split
    · simp [Fails]
    split
    · simp [Fails]
    · simp [Fails]
  · simp [Fails]

/-! ### Mapping and finalizing -/

section Mapping
variable {image : Image} {mapped after : MappedImage}

theorem apply_relocations_ok {loadBase : Nat}
    (applied : applyRelocations image mapped loadBase = (.ok, after)) :
    mapped.address ≠ 0 ∧ mapped.size = image.imageSize ∧
      ∃ bytes base, after = { mapped with bytes := bytes, loadBase := base } := by
  unfold applyRelocations at applied
  split at applied
  · cases applied
  rename_i arguments
  rw [not_or, not_not] at arguments
  refine ⟨arguments.1, arguments.2, ?_⟩
  split at applied
  · cases applied
  split at applied
  · cases applied
  split at applied
  · cases applied
  split at applied
  · cases applied
    exact ⟨_, _, rfl⟩
  dsimp only at applied
  split at applied
  · cases applied
  split at applied
  · cases applied
  split at applied
  · split at applied
    · cases applied
      exact ⟨_, _, rfl⟩
    · cases applied
      exact ⟨_, mapped.loadBase, rfl⟩
  · cases applied
    exact ⟨_, mapped.loadBase, rfl⟩

/-- A mapping that is ready for binding. -/
structure Mapped (image : Image) (mapped : MappedImage) : Prop where
  address : mapped.address ≠ 0
  size : mapped.size = image.imageSize
  storage : mapped.storage = .virtual ∨ mapped.storage = .virtualTainted

theorem populate_sections_fails {size : Nat} {status : Status} (sections : List Section)
    {bytes : Nat → UInt8} (failed : populateSections image size sections bytes = .error status) :
    status ≠ .ok := by
  induction sections generalizing bytes with
  | nil => cases failed
  | cons header rest ih =>
    unfold populateSections at failed
    split at failed
    · exact ih failed
    split at failed
    · cases failed
      simp
    · exact ih failed

theorem map_for_execution_ok {host : MappingHost}
    (maps : mapImageForExecution image host = (.ok, mapped)) :
    Mapped image mapped ∧ mapped.protectionsFinalized = false := by
  unfold mapImageForExecution at maps
  split at maps
  · rename_i invalid
    exact absurd (congrArg Prod.fst maps) invalid
  split at maps
  · cases maps
  split at maps
  · rename_i status failed
    exact absurd (congrArg Prod.fst maps) (host_page_size_fails failed)
  split at maps
  · cases maps
  dsimp only at maps
  split at maps
  · cases maps
  split at maps
  · rename_i status failed
    exact absurd (congrArg Prod.fst maps) (populate_sections_fails _ failed)
  split at maps
  · rename_i last applied
    cases maps
    obtain ⟨address, size, bytes, base, rfl⟩ := apply_relocations_ok applied
    exact ⟨⟨address, size, .inl rfl⟩, rfl⟩
  · rename_i status last failed applied
    have status_ : status = .ok := congrArg Prod.fst maps
    subst status_
    exact (failed rfl).elim

/-- Finalizing fixes the protections, or taints the mapping, or leaves it as it is; it never
touches what is mapped, and nothing of a mapping that is finalized already. -/
theorem finalize_image_effect (image : Image) (mapped : MappedImage) (host : ProtectionHost) :
    (finalizeImage image mapped host).2 = mapped ∨
    mapped.protectionsFinalized = false ∧
      ((finalizeImage image mapped host).2 = { mapped with protectionsFinalized := true } ∨
        (finalizeImage image mapped host).2 = { mapped with storage := .virtualTainted }) := by
  unfold finalizeImage
  split
  · exact .inl rfl
  split
  · exact .inl rfl
  split
  · exact .inl rfl
  rename_i open_
  rw [Bool.not_eq_true] at open_
  split
  · exact .inl rfl
  split
  · exact .inl rfl
  split
  · exact .inl rfl
  dsimp only
  split
  · exact .inr ⟨open_, .inl rfl⟩
  split
  · exact .inr ⟨open_, .inr rfl⟩
  · exact .inl rfl

/-- Binding returns, and changes nothing but bytes, and nothing at all when it fails, as it does
once the mapping is finalized. -/
theorem bind_imports_effect {file : ByteView} (parsed : parse file = .ok image)
    (mapped : MappedImage) (resolver : Resolver Unit) (allocated : Bool) :
    ∃ binding, Loader.bindImports image mapped resolver () allocated = some binding ∧
      (∃ bytes, binding.mapped = { mapped with bytes := bytes }) ∧
      (binding.status ≠ .ok → binding.mapped = mapped) ∧
      (mapped.protectionsFinalized = true → binding.status ≠ .ok) := by
  obtain ⟨symbols, enumerated, offers⟩ :=
    for_each_import_symbol_offers (parse_well_formed parsed).2
  obtain ⟨after, bound⟩ := bind_imports_eq offers mapped resolver () allocated
  refine ⟨_, bound, ⟨_, rfl⟩, fun failed => ?_, fun finalized => ?_⟩
  · obtain ⟨-, nothing⟩ | ⟨ok, -⟩ :=
      binding_plan_outcome image mapped resolver () allocated enumerated symbols
    · rw [Binding.ofPlan, nothing]
      rfl
    · exact absurd ok failed
  · rw [Binding.ofPlan, bindingPlan]
    split
    · simp
    · rw [if_pos (.inl finalized)]
      simp

end Mapping

/-! ### What registering appends -/

def IsPe : Contents → Bool
  | .pe _ _ => true
  | .native _ => false

/-- What the PE entries of a registry point at, in order. -/
def peEntries (registry : Registry) : List Contents :=
  ((List.range registry.count).map fun index => (registry.modules index).contents).filter IsPe

section Registering
variable {registry : Registry}

def appended (registry : Registry) (name : CString) (contents : Contents) : Registry :=
  { registry with
    modules := Function.update registry.modules registry.count
      { name := name, contents := contents }
    count := registry.count + 1 }

theorem pe_entries_congr {other : Registry} (count : other.count = registry.count)
    (same : ∀ index < registry.count, other.modules index = registry.modules index) :
    peEntries other = peEntries registry := by
  unfold peEntries
  rw [count]
  congr 1
  apply List.map_congr_left
  intro index inside
  rw [same index (List.mem_range.mp inside)]

theorem pe_entries_appended (name : CString) (contents : Contents) :
    peEntries (appended registry name contents) =
      peEntries registry ++ [contents].filter IsPe := by
  unfold peEntries appended
  dsimp only
  rw [List.range_succ, List.map_append, List.filter_append, List.map_singleton,
    Function.update_self]
  congr 2
  apply List.map_congr_left
  intro index inside
  have below := List.mem_range.mp inside
  rw [Function.update_of_ne (by omega)]

/-- A registration is refused without a trace, or appends one module. -/
inductive Registers (registry : Registry) (contents : Contents) : Status × Registry → Prop where
  | refused {status : Status} (failed : status ≠ .ok) : Registers registry contents (status, registry)
  | appended (name : CString) : Registers registry contents (.ok, appended registry name contents)

theorem register_registers (name : CString) (acceptable : Bool) (contents : Contents) :
    Registers registry contents (register registry name acceptable contents) := by
  unfold register
  split
  · exact .refused (by simp)
  split
  · exact .refused (by simp)
  split
  · exact .refused (by simp)
  · exact .appended name

theorem add_registers (memory : Memory) (name : Option CString) (image mapped : Nat) :
    Registers registry (.pe image mapped) (add memory registry name image mapped) := by
  unfold add
  split
  · exact .refused (by simp)
  split
  · exact register_registers _ _ _
  · exact .refused (by simp)

theorem add_native_registers (name : Option CString) (exports : List NativeExport) :
    Registers registry (.native exports) (Module.addNative registry name exports) := by
  unfold Module.addNative
  split
  · exact .refused (by simp)
  split
  · exact register_registers _ _ _
  · exact .refused (by simp)

/-- An alias leaves the modules alone. -/
theorem add_alias_modules (contractName targetName : Option CString) :
    (Module.addAlias registry contractName targetName).2.modules = registry.modules ∧
      (Module.addAlias registry contractName targetName).2.count = registry.count := by
  unfold Module.addAlias
  split
  · split
    · exact ⟨rfl, rfl⟩
    split
    · exact ⟨rfl, rfl⟩
    split
    · exact ⟨rfl, rfl⟩
    · exact ⟨rfl, rfl⟩
  · exact ⟨rfl, rfl⟩

end Registering

/-! ### The operations -/

/-- An operation on a space, with what the host answers meanwhile. -/
inductive Operation where
  | addPe (name : Option CString) (file : Option ByteView) (allocated : Bool) (host : MappingHost)
  | addNative (name : Option CString) (exports : List NativeExport)
  | addAlias (contractName targetName : Option CString)
  | bindImports (module : Option ModulePointer) (allocated : Bool)
  | finalize (module : Option ModulePointer) (host : ProtectionHost)

/-- The space after an operation and the status it answers; none when it never returns. -/
def step (space : ModuleSpace) : Operation → ModuleSpace × Option Status
  | .addPe name file allocated host =>
    let (status, space, _) := addPe space name file allocated host
    (space, some status)
  | .addNative name exports =>
    let (status, space) := addNative space name exports
    (space, some status)
  | .addAlias contractName targetName =>
    let (status, space) := addAlias space contractName targetName
    (space, some status)
  | .bindImports module allocated =>
    match bindImports space module allocated with
    | none => (space, none)
    | some (status, space, _) => (space, some status)
  | .finalize module host =>
    let (status, space) := finalize space module host
    (space, some status)

/-- What holds of a module that a space owns. -/
structure OwnedEntry (owned : OwnedPeModule) : Prop where
  parsed : ∃ file, owned.fileBytes = some file ∧ parse file = .ok owned.image
  mapped : Mapped owned.image owned.mapped
  bound : owned.mapped.protectionsFinalized = true → owned.importsBound = true

/-- The registry of a space lists what the space owns. -/
structure Consistent (space : ModuleSpace) : Prop where
  entries : peEntries space.registry =
    (List.range space.ownedCount).map fun index => .pe index index
  owned : ∀ index < space.ownedCount, OwnedEntry (space.owned index)
  unused : ∀ index, space.ownedCount ≤ index → space.owned index = {}
  room : space.ownedCount ≤ registryCapacity

/-- What an operation does to a space. -/
inductive Effect (space : ModuleSpace) : Operation → ModuleSpace → Status → Prop where
  | unchanged {operation : Operation} {status : Status}
      (failed : status ≠ .ok ∨ ∀ name file allocated host,
        operation ≠ .addPe name file allocated host) : Effect space operation space status
  | addPe {name : Option CString} {file : ByteView} {allocated : Bool} {host : MappingHost}
      {image : Image} {mapped : MappedImage} (parsed : parse file = .ok image)
      (maps : mapImageForExecution image host = (.ok, mapped)) (registered : CString)
      (room : space.ownedCount < registryCapacity) :
      Effect space (.addPe name (some file) allocated host) {
        registry := appended space.registry registered (.pe space.ownedCount space.ownedCount)
        owned := Function.update space.owned space.ownedCount
          { fileBytes := some file, image := image, mapped := mapped }
        ownedCount := space.ownedCount + 1 } .ok
  | addNative {name : Option CString} {exports : List NativeExport} (registered : CString) :
      Effect space (.addNative name exports)
        { space with registry := appended space.registry registered (.native exports) } .ok
  | addAlias {contractName targetName : Option CString} {registry : Registry} {status : Status}
      (modules : registry.modules = space.registry.modules)
      (count : registry.count = space.registry.count) :
      Effect space (.addAlias contractName targetName) { space with registry := registry } status
  | bound {entry index : Nat} {allocated : Bool} {bytes : Nat → UInt8}
      (found : findOwnedModule space (.entry entry) = some index)
      (open_ : (space.owned index).mapped.protectionsFinalized = false) :
      Effect space (.bindImports (some (.entry entry)) allocated)
        (space.setOwned index { space.owned index with
          mapped := { (space.owned index).mapped with bytes := bytes }
          importsBound := true }) .ok
  | finalized {entry index : Nat} {host : ProtectionHost} {mapped : MappedImage} {status : Status}
      (found : findOwnedModule space (.entry entry) = some index)
      (bound : (space.owned index).importsBound = true)
      (open_ : (space.owned index).mapped.protectionsFinalized = false)
      (settled : mapped = { (space.owned index).mapped with protectionsFinalized := true } ∨
        mapped = { (space.owned index).mapped with storage := .virtualTainted }) :
      Effect space (.finalize (some (.entry entry)) host)
        (space.setOwned index { space.owned index with mapped := mapped }) status

section Effects
variable {space : ModuleSpace}

theorem set_owned_self (space : ModuleSpace) (index : Nat) :
    space.setOwned index (space.owned index) = space := by
  unfold ModuleSpace.setOwned
  rw [Function.update_eq_self]

theorem found_entry {module : ModulePointer} {index : Nat}
    (found : findOwnedModule space module = some index) :
    ∃ entry, module = .entry entry ∧ entry < space.registry.count ∧
      (space.registry.modules entry).contents = .pe index index ∧ index < space.ownedCount := by
  cases module with
  | foreign module => cases found
  | entry entry =>
    unfold findOwnedModule at found
    dsimp only at found
    split at found
    · cases found
    rename_i image mapped contents
    rw [Option.ite_none_left_eq_some, first_index_eq_some] at found
    obtain ⟨inside, owns, same, -⟩ := found
    rw [Bool.and_eq_true, beq_iff_eq, beq_iff_eq] at same
    obtain ⟨rfl, rfl⟩ := same
    exact ⟨entry, rfl, by omega, contents, owns⟩

theorem preflight_ok {name : Option CString} (ready : preflightPeName space name = .ok) :
    space.ownedCount < registryCapacity := by
  unfold preflightPeName at ready
  split at ready
  · cases ready
  · split at ready
    · cases ready
    · omega
  · rename_i status other failed
    subst ready
    exact absurd failed (resolve_module_fails _ _)

/-- What is filled is registered as a whole, or refused. -/
theorem fill_owned_effect {name : Option CString} {file : ByteView} {host : MappingHost} :
    (fillOwned space name file host).1 ≠ .ok ∧
        (∃ owned, (fillOwned space name file host).2 =
          space.setOwned space.ownedCount owned) ∨
      ∃ image mapped registered, parse file = .ok image ∧
        mapImageForExecution image host = (.ok, mapped) ∧
        fillOwned space name file host = (.ok, { space with
          registry := appended space.registry registered (.pe space.ownedCount space.ownedCount)
          owned := Function.update space.owned space.ownedCount
            { fileBytes := some file, image := image, mapped := mapped } }) := by
  unfold fillOwned
  dsimp only
  cases parsed : parse file with
  | error status =>
    refine .inl ⟨?_, _, rfl⟩
    rintro rfl
    exact parse_fails file parsed
  | ok image =>
    dsimp only
    split
    · rename_i mapped maps
      have registers := @add_registers space.registry (space.setOwned space.ownedCount
        { fileBytes := some file, image := image, mapped := mapped }).memory name space.ownedCount
        space.ownedCount
      rcases added : add (space.setOwned space.ownedCount
        { fileBytes := some file, image := image, mapped := mapped }).memory space.registry name
          space.ownedCount space.ownedCount with ⟨status, registry⟩
      rw [added] at registers
      have same : (space.setOwned space.ownedCount
        { fileBytes := some file, image := image, mapped := mapped }).registry =
          space.registry := rfl
      rw [same, added]
      cases registers with
      | refused failed => exact .inl ⟨failed, _, rfl⟩
      | appended registered => exact .inr ⟨image, mapped, registered, rfl, maps, rfl⟩
    · rename_i status mapped failed maps
      exact .inl ⟨failed, _, rfl⟩

/-- An entry that is not in use is cleared already, so that a failure leaves no trace. -/
theorem add_pe_effect (consistent : Consistent space) (name : Option CString)
    (file : Option ByteView) (allocated : Bool) (host : MappingHost) :
    Effect space (.addPe name file allocated host) (addPe space name file allocated host).2.1
      (addPe space name file allocated host).1 := by
  have cleared : space.setOwned space.ownedCount {} = space := by
    rw [← consistent.unused space.ownedCount (Nat.le_refl _), set_owned_self]
  unfold addPe
  split
  · rename_i name file
    split
    · exact .unchanged (.inl (by simp))
    split
    · rename_i refused
      exact .unchanged (.inl refused)
    rename_i ready
    rw [not_not] at ready
    dsimp only
    rw [cleared]
    split
    · exact .unchanged (.inl (by simp))
    obtain ⟨failed, owned, filled⟩ | ⟨image, mapped, registered, parsed, maps, filled⟩ :=
      @fill_owned_effect space (some name) file host
    · rcases outcome : fillOwned space (some name) file host with ⟨status, after⟩
      rw [outcome] at failed filled
      dsimp only at failed filled
      subst filled
      have restored : (space.setOwned space.ownedCount owned).setOwned space.ownedCount {} =
          space := by
        unfold ModuleSpace.setOwned
        dsimp only
        rw [Function.update_idem]
        exact cleared
      cases status with
      | ok => exact absurd rfl failed
      | _ =>
        dsimp only
        rw [restored]
        exact .unchanged (.inl (by simp))
    · rw [filled]
      exact .addPe parsed maps registered (preflight_ok ready)
  · exact .unchanged (.inl (by simp))

theorem bind_imports_step (consistent : Consistent space) (module : Option ModulePointer)
    (allocated : Bool) :
    ∃ status after count, bindImports space module allocated = some (status, after, count) ∧
      Effect space (.bindImports module allocated) after status := by
  unfold bindImports
  cases module with
  | none => exact ⟨_, _, _, rfl, .unchanged (.inl (by simp))⟩
  | some module =>
    dsimp only
    cases found : findOwnedModule space module with
    | none => exact ⟨_, _, _, rfl, .unchanged (.inl (by simp))⟩
    | some index =>
      obtain ⟨entry, rfl, -, -, inside⟩ := found_entry found
      obtain ⟨⟨file, -, parsed⟩, -, -⟩ := consistent.owned index inside
      obtain ⟨binding, binds, ⟨bytes, mapped⟩, kept, finalized⟩ := bind_imports_effect parsed
        (space.owned index).mapped (importResolver space) allocated
      simp only [binds, Option.map_some]
      refine ⟨_, _, _, rfl, ?_⟩
      by_cases ok : binding.status = .ok
      · rw [ok, mapped, beq_self_eq_true, Bool.or_true]
        exact .bound found (by simpa [ok] using finalized)
      · rw [kept ok, beq_false_of_ne ok, Bool.or_false]
        have same : space.setOwned index { space.owned index with } = space :=
          set_owned_self space index
        rw [same]
        exact .unchanged (.inl ok)

theorem finalize_effect (module : Option ModulePointer) (host : ProtectionHost) :
    Effect space (.finalize module host) (finalize space module host).2
      (finalize space module host).1 := by
  unfold finalize
  cases module with
  | none => exact .unchanged (.inl (by simp))
  | some module =>
    dsimp only
    cases found : findOwnedModule space module with
    | none => exact .unchanged (.inl (by simp))
    | some index =>
      obtain ⟨entry, rfl, -, -, -⟩ := found_entry found
      dsimp only
      split
      · exact .unchanged (.inl (by simp))
      rename_i bound
      rw [Bool.not_eq_false] at bound
      have effect := finalize_image_effect (space.owned index).image (space.owned index).mapped host
      rcases outcome : finalizeImage (space.owned index).image (space.owned index).mapped host with
        ⟨status, mapped⟩
      rw [outcome] at effect
      obtain same | ⟨open_, settled⟩ := effect
      · dsimp only at same ⊢
        rw [same]
        have unchanged : space.setOwned index { space.owned index with } = space :=
          set_owned_self space index
        rw [unchanged]
        exact .unchanged (.inr (by simp))
      · exact .finalized found bound open_ settled

theorem add_native_effect (name : Option CString) (exports : List NativeExport) :
    Effect space (.addNative name exports) (addNative space name exports).2
      (addNative space name exports).1 := by
  have registers := @add_native_registers space.registry name exports
  unfold Space.addNative
  rcases outcome : Module.addNative space.registry name exports with ⟨status, registry⟩
  rw [outcome] at registers
  cases registers with
  | refused failed => exact .unchanged (.inl failed)
  | appended registered => exact .addNative registered

/-- What an operation does; every one returns. -/
theorem step_effect (consistent : Consistent space) (operation : Operation) :
    ∃ status, (step space operation).2 = some status ∧
      Effect space operation (step space operation).1 status := by
  cases operation with
  | addPe name file allocated host =>
    exact ⟨_, rfl, add_pe_effect consistent name file allocated host⟩
  | addNative name exports =>
    exact ⟨_, rfl, add_native_effect name exports⟩
  | addAlias contractName targetName =>
    obtain ⟨modules, count⟩ := @add_alias_modules space.registry contractName targetName
    exact ⟨_, rfl, .addAlias modules count⟩
  | bindImports module allocated =>
    obtain ⟨status, after, count, binds, effect⟩ :=
      bind_imports_step consistent module allocated
    exact ⟨status, by simp only [step, binds], by simp only [step, binds]; exact effect⟩
  | finalize module host => exact ⟨_, rfl, finalize_effect module host⟩

end Effects

/-! ### Runs -/

section Runs
variable {space after : ModuleSpace} {operation : Operation} {status : Status}

theorem set_owned_other {index other : Nat} {owned : OwnedPeModule} (apart : other ≠ index) :
    (space.setOwned index owned).owned other = space.owned other :=
  Function.update_of_ne apart ..

theorem set_owned_this (index : Nat) (owned : OwnedPeModule) :
    (space.setOwned index owned).owned index = owned :=
  Function.update_self ..

/-- A module of the space may be changed as long as what is known of it stays. -/
theorem consistent_set_owned (consistent : Consistent space) {index : Nat}
    {owned : OwnedPeModule} (inside : index < space.ownedCount) (entry : OwnedEntry owned) :
    Consistent (space.setOwned index owned) where
  entries := consistent.entries
  owned := by
    intro other within
    by_cases same : other = index
    · rw [same, set_owned_this]
      exact entry
    · rw [set_owned_other same]
      exact consistent.owned other within
  unused := by
    intro other beyond
    change space.ownedCount ≤ other at beyond
    rw [set_owned_other (by omega)]
    exact consistent.unused other beyond
  room := consistent.room

theorem consistent_add_pe (consistent : Consistent space) {file : ByteView} {image : Image}
    {mapped : MappedImage} {host : MappingHost} (parsed : parse file = .ok image)
    (maps : mapImageForExecution image host = (.ok, mapped)) (registered : CString)
    (room : space.ownedCount < registryCapacity) :
    Consistent {
      registry := appended space.registry registered (.pe space.ownedCount space.ownedCount)
      owned := Function.update space.owned space.ownedCount
        { fileBytes := some file, image := image, mapped := mapped }
      ownedCount := space.ownedCount + 1 } where
  entries := by
    rw [pe_entries_appended, consistent.entries, List.range_succ, List.map_append]
    rfl
  owned := by
    intro index inside
    dsimp only at inside ⊢
    rcases update_last inside with ⟨-, has⟩ | ⟨old, has⟩ <;> rw [has]
    · obtain ⟨ready, open_⟩ := map_for_execution_ok maps
      exact ⟨⟨file, rfl, parsed⟩, ready, fun finalized => by simp [open_] at finalized⟩
    · exact consistent.owned index old
  unused := by
    intro index beyond
    dsimp only at beyond ⊢
    rw [Function.update_of_ne (by omega)]
    exact consistent.unused index (by omega)
  room := room

/-- Every operation keeps the invariant. -/
theorem consistent_step (consistent : Consistent space)
    (effect : Effect space operation after status) : Consistent after := by
  cases effect with
  | unchanged => exact consistent
  | addPe parsed maps registered room =>
    exact consistent_add_pe consistent parsed maps registered room
  | addNative registered =>
    refine ⟨?_, consistent.owned, consistent.unused, consistent.room⟩
    rw [pe_entries_appended, consistent.entries]
    exact List.append_nil _
  | addAlias modules count =>
    refine ⟨?_, consistent.owned, consistent.unused, consistent.room⟩
    rw [← consistent.entries]
    exact pe_entries_congr count fun index _ => congrFun modules index
  | @bound entry index allocated bytes found open_ =>
    obtain ⟨-, -, -, -, inside⟩ := found_entry found
    obtain ⟨parsed, mapped, -⟩ := consistent.owned index inside
    exact consistent_set_owned consistent inside
      ⟨parsed, ⟨mapped.address, mapped.size, mapped.storage⟩, fun _ => rfl⟩
  | @finalized entry index host mapped status found bound open_ settled =>
    obtain ⟨-, -, -, -, inside⟩ := found_entry found
    obtain ⟨parsed, ready, -⟩ := consistent.owned index inside
    apply consistent_set_owned consistent inside
    rcases settled with rfl | rfl
    · exact ⟨parsed, ⟨ready.address, ready.size, ready.storage⟩, fun _ => bound⟩
    · exact ⟨parsed, ⟨ready.address, ready.size, .inr rfl⟩, fun _ => bound⟩

theorem consistent_run (operations : List Operation) :
    Consistent (run step {} operations).state := by
  apply run_invariant step fun _ space => Consistent space
  · exact {
      entries := rfl
      owned := fun index inside => absurd inside (Nat.not_lt_zero index)
      unused := fun _ _ => rfl
      room := Nat.zero_le _ }
  · intro trace space operation consistent
    obtain ⟨status, -, effect⟩ := step_effect consistent operation
    exact consistent_step consistent effect

/-- Modules that are bound were bound by an operation that succeeded. -/
def BoundBefore (trace : List (Operation × Option Status)) (space : ModuleSpace) : Prop :=
  ∀ index, (space.owned index).importsBound = true → ∃ entry allocated,
    (.bindImports (some (.entry entry)) allocated, some .ok) ∈ trace ∧
      entry < space.registry.count ∧
      (space.registry.modules entry).contents = .pe index index

theorem bound_before_step {trace : List (Operation × Option Status)}
    (before : BoundBefore trace space)
    (effect : Effect space operation after status) :
    BoundBefore (trace ++ [(operation, some status)]) after := by
  have kept {registry : Registry} (index : Nat)
      (bound : (space.owned index).importsBound = true)
      (grows : space.registry.count ≤ registry.count)
      (modules : ∀ entry < space.registry.count,
        registry.modules entry = space.registry.modules entry) :
      ∃ entry allocated, (.bindImports (some (.entry entry)) allocated, some .ok) ∈
          trace ++ [(operation, some status)] ∧ entry < registry.count ∧
        (registry.modules entry).contents = .pe index index := by
    obtain ⟨entry, allocated, member, inside, contents⟩ := before index bound
    exact ⟨entry, allocated, List.mem_append_left _ member, by omega,
      by rw [modules entry inside, contents]⟩
  have grown (name : CString) (contents : Contents) (entry : Nat)
      (inside : entry < space.registry.count) :
      (appended space.registry name contents).modules entry = space.registry.modules entry :=
    Function.update_of_ne (by omega) ..
  intro index bound
  cases effect with
  | unchanged => exact kept index bound (Nat.le_refl _) fun _ _ => rfl
  | addPe parsed maps registered room =>
    dsimp only at bound ⊢
    by_cases new : index = space.ownedCount
    · rw [new, Function.update_self] at bound
      cases bound
    · rw [Function.update_of_ne new] at bound
      exact kept index bound (Nat.le_succ _) (grown _ _)
  | addNative registered => exact kept index bound (Nat.le_succ _) (grown _ _)
  | addAlias modules count =>
    exact kept index bound (Nat.le_of_eq count.symm) fun entry _ => congrFun modules entry
  | @bound entry owned allocated bytes found open_ =>
    by_cases same : index = owned
    · obtain ⟨_, named, inside, contents, -⟩ := found_entry found
      cases named
      subst same
      exact ⟨entry, allocated, by simp, inside, contents⟩
    · rw [set_owned_other same] at bound
      exact kept index bound (Nat.le_refl _) fun _ _ => rfl
  | @finalized entry owned host mapped status found already open_ settled =>
    by_cases same : index = owned
    · subst same
      exact kept index already (Nat.le_refl _) fun _ _ => rfl
    · rw [set_owned_other same] at bound
      exact kept index bound (Nat.le_refl _) fun _ _ => rfl

theorem bound_before_run (operations : List Operation) :
    BoundBefore (run step {} operations).trace (run step {} operations).state := by
  have both : Consistent (run step {} operations).state ∧
      BoundBefore (run step {} operations).trace (run step {} operations).state := by
    apply run_invariant step fun trace space => Consistent space ∧ BoundBefore trace space
    · exact ⟨consistent_run [], fun index bound => by cases bound⟩
    · rintro trace space operation ⟨consistent, before⟩
      obtain ⟨status, answers, effect⟩ := step_effect consistent operation
      rw [answers]
      exact ⟨consistent_step consistent effect, bound_before_step before effect⟩
  exact both.2

/-- The mapping of a finalized module stays what it is. -/
theorem finalized_step (consistent : Consistent space)
    (effect : Effect space operation after status) {index : Nat}
    (finalized : (space.owned index).mapped.protectionsFinalized = true) :
    (after.owned index).mapped = (space.owned index).mapped := by
  cases effect with
  | unchanged => rfl
  | addPe parsed maps registered room =>
    have old : index ≠ space.ownedCount := by
      rintro rfl
      rw [consistent.unused _ (Nat.le_refl _)] at finalized
      cases finalized
    dsimp only
    rw [Function.update_of_ne old]
  | addNative => rfl
  | addAlias => rfl
  | @bound entry owned allocated bytes found open_ =>
    have other : index ≠ owned := by
      rintro rfl
      rw [open_] at finalized
      cases finalized
    rw [set_owned_other other]
  | @finalized entry owned host mapped status found bound open_ settled =>
    have other : index ≠ owned := by
      rintro rfl
      rw [open_] at finalized
      cases finalized
    rw [set_owned_other other]

theorem finalized_run (operations more : List Operation) {index : Nat}
    (finalized : ((run step {} operations).state.owned index).mapped.protectionsFinalized =
      true) :
    ((run step {} (operations ++ more)).state.owned index).mapped =
      ((run step {} operations).state.owned index).mapped := by
  induction more using List.reverseRecOn with
  | nil => rw [List.append_nil]
  | append_singleton more operation ih =>
    rw [← List.append_assoc, run_concat]
    have consistent := consistent_run (operations ++ more)
    obtain ⟨status, -, effect⟩ := step_effect consistent operation
    exact (finalized_step consistent effect (by rw [ih]; exact finalized)).trans ih

theorem add_pe_failed {name : Option CString} {file : Option ByteView} {allocated : Bool}
    {host : MappingHost} (consistent : Consistent space)
    (failed : (addPe space name file allocated host).1 ≠ .ok) :
    (addPe space name file allocated host).2.1 = space := by
  have effect := add_pe_effect consistent name file allocated host
  generalize (addPe space name file allocated host).2.1 = after at effect ⊢
  generalize (addPe space name file allocated host).1 = status at effect failed
  cases effect with
  | unchanged => rfl
  | addPe => exact absurd rfl failed

/-- In every state that operations lead to, whatever fails meanwhile, the PE entries of the
registry are the owned modules in their order, each at its own image and mapping; a module that
could not be added leaves no trace; a module is finalized only once it was bound, and its mapping
stays then. -/
theorem module_space_lifecycle (operations : List Operation) :
    let space := (run step {} operations).state
    peEntries space.registry = (List.range space.ownedCount).map (fun index => .pe index index) ∧
    (∀ index < space.ownedCount, OwnedEntry (space.owned index)) ∧
    (∀ name file allocated host, (addPe space name file allocated host).1 ≠ .ok →
      (addPe space name file allocated host).2.1 = space) ∧
    (∀ index, (space.owned index).mapped.protectionsFinalized = true → ∃ entry allocated,
      (.bindImports (some (.entry entry)) allocated, some .ok) ∈ (run step {} operations).trace ∧
        entry < space.registry.count ∧
        (space.registry.modules entry).contents = .pe index index) ∧
    (∀ index more, (space.owned index).mapped.protectionsFinalized = true →
      ((run step {} (operations ++ more)).state.owned index).mapped =
        (space.owned index).mapped) ∧
    ∀ operation, (step space operation).2 ≠ none := by
  intro space
  have consistent : Consistent space := consistent_run operations
  refine ⟨consistent.entries, consistent.owned, fun name file allocated host =>
    add_pe_failed consistent, ?_, fun index more => finalized_run operations more, ?_⟩
  · intro index finalized
    apply bound_before_run operations index
    by_cases inside : index < space.ownedCount
    · exact (consistent.owned index inside).bound finalized
    · rw [consistent.unused index (by omega)] at finalized
      cases finalized
  · intro operation
    obtain ⟨status, answers, -⟩ := step_effect consistent operation
    simp [answers]

end Runs

end SadLayer.Space
