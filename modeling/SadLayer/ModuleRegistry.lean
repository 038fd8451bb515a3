import SadLayer.Library.Run
import SadLayer.Module

/-! The registry over whole runs of its three registrations: names and aliases
are distinct up to case, an alias names a module and never an alias, and what a
name resolves to is settled by the first registration that makes it resolve. -/
namespace SadLayer.Module
open SadLayer.Library SadLayer.Pe SadLayer.Loader

variable {registry before after : Registry} {name : CString} {index : Nat}

/-- A name up to ASCII case. -/
def folded (name : CString) : CString :=
  name.map asciiFold

theorem ascii_equal_iff {left right : CString} :
    asciiEqualIgnoreCase left right = true ↔ folded left = folded right := by
  unfold folded
  induction left generalizing right with
  | nil => cases right <;> simp [asciiEqualIgnoreCase]
  | cons character left ih =>
    cases right with
    | nil => simp [asciiEqualIgnoreCase]
    | cons other right => simp [asciiEqualIgnoreCase, ih]

/-- A name that `module_name_length` accepts. -/
def ValidName (name : CString) : Prop :=
  name ≠ [] ∧ name.length < nameCapacity

theorem module_name_length_some {length : Nat} {given : Option CString} :
    moduleNameLength given = some length ↔
      ∃ name, given = some name ∧ ValidName name ∧ name.length = length := by
  cases given with
  | none => simp [moduleNameLength]
  | some name =>
    simp only [moduleNameLength, Option.some.injEq, exists_eq_left', ValidName]
    split
    · rename_i invalid
      simp only [reduceCtorEq, false_iff, not_and, and_imp]
      intro nonempty short
      rcases invalid with empty | long
      · exact absurd empty nonempty
      · omega
    · rename_i valid
      simp only [not_or, Nat.not_le, ge_iff_le] at valid
      simp [valid]

/-! ### Lookups -/

theorem find_eq_some : find registry name = some index ↔
    index < registry.count ∧ folded (registry.modules index).name = folded name ∧
      ∀ earlier < index, folded (registry.modules earlier).name ≠ folded name := by
  simp only [find, first_index_eq_some, ascii_equal_iff, ← Bool.not_eq_true, ne_eq]

theorem find_eq_none : find registry name = none ↔
    ∀ index < registry.count, folded (registry.modules index).name ≠ folded name := by
  simp only [find, first_index_eq_none, ← Bool.not_eq_true, ascii_equal_iff, ne_eq]

theorem find_alias_eq_some : findAlias registry name = some index ↔
    index < registry.aliasCount ∧
      folded (registry.aliases index).contractName = folded name ∧
      ∀ earlier < index, folded (registry.aliases earlier).contractName ≠ folded name := by
  simp only [findAlias, first_index_eq_some, ascii_equal_iff, ← Bool.not_eq_true, ne_eq]

theorem find_alias_eq_none : findAlias registry name = none ↔
    ∀ index < registry.aliasCount,
      folded (registry.aliases index).contractName ≠ folded name := by
  simp only [findAlias, first_index_eq_none, ← Bool.not_eq_true, ascii_equal_iff, ne_eq]

/-! ### Export tables -/

/-- An export leads to one place: an address, or a forwarder. -/
def OneTarget (native : NativeExport) : Prop :=
  native.guestAddress ≠ 0 ∧ native.forwarder = none ∨
    native.guestAddress = 0 ∧ ∃ forwarder, native.forwarder = some forwarder ∧ forwarder ≠ []

/-- Two exports that no name and no ordinal confuses. -/
def Distinct (first second : NativeExport) : Prop :=
  (∀ name, name ≠ [] → first.name = some name → second.name ≠ some name) ∧
    (first.hasOrdinal = true → second.hasOrdinal = true → first.ordinal ≠ second.ordinal)

structure ExportTable (exports : List NativeExport) : Prop where
  named : ∀ native ∈ exports, hasName native = true ∨ native.hasOrdinal = true
  target : ∀ native ∈ exports, OneTarget native
  distinct : exports.Pairwise Distinct

theorem one_target_of_valid {native : NativeExport} (valid : exportIsValid native = true) :
    (hasName native = true ∨ native.hasOrdinal = true) ∧ OneTarget native := by
  unfold exportIsValid at valid
  simp only [Bool.and_eq_true, Bool.or_eq_true, bne_iff_ne, Bool.not_eq_true',
    Bool.and_eq_false_iff] at valid
  obtain ⟨⟨named, target⟩, single⟩ := valid
  refine ⟨named, ?_⟩
  unfold OneTarget
  cases forwarder : native.forwarder with
  | none => simpa [forwarder] using target
  | some text => simp_all

theorem distinct_of_apart {candidate existing : NativeExport}
    (apart : exportsCollide candidate existing = false) : Distinct existing candidate := by
  simp only [exportsCollide, Bool.or_eq_false_iff, Bool.and_eq_false_iff] at apart
  obtain ⟨names, ordinals⟩ := apart
  constructor
  · intro name nonempty first second
    simp [hasName, first, second, nonempty] at names
  · intro first second
    simp only [first, second, Bool.true_eq_false, false_or] at ordinals
    exact fun same => by simp [same] at ordinals

/-- The two loops accept exactly the tables they should; here, what they accept. -/
theorem export_table_of_valid {exports : List NativeExport}
    (valid : exportsAreValid [] exports = true) : ExportTable exports := by
  have loop : ∀ earlier, earlier.Pairwise Distinct → exportsAreValid earlier exports = true →
      (∀ native ∈ exports, (hasName native = true ∨ native.hasOrdinal = true) ∧
        OneTarget native) ∧ (earlier ++ exports).Pairwise Distinct := by
    clear valid
    induction exports with
    | nil => exact fun earlier distinct _ => ⟨by simp, by simpa using distinct⟩
    | cons candidate rest ih =>
      intro earlier distinct valid
      simp only [exportsAreValid, Bool.and_eq_true, Bool.not_eq_true', List.any_eq_false] at valid
      obtain ⟨⟨alone, apart⟩, valid⟩ := valid
      have extended : (earlier ++ [candidate]).Pairwise Distinct := by
        rw [List.pairwise_append]
        refine ⟨distinct, List.pairwise_singleton _ _, ?_⟩
        intro existing member other same
        rw [List.mem_singleton] at same
        subst same
        exact distinct_of_apart (Bool.eq_false_iff.mpr (apart existing member))
      obtain ⟨targets, pairwise⟩ := ih _ extended valid
      refine ⟨?_, by simpa using pairwise⟩
      intro native member
      rcases List.mem_cons.mp member with rfl | later
      · exact one_target_of_valid alone
      · exact targets native later
  obtain ⟨each, distinct⟩ := loop [] List.Pairwise.nil valid
  exact ⟨fun native member => (each native member).1, fun native member => (each native member).2,
    by simpa using distinct⟩

/-! ### What a registration does -/

/-- A call of one of the three registrations. The memory is what its pointers lead to then. -/
inductive Call where
  | add (memory : Memory) (name : Option CString) (image mapped : Nat)
  | addNative (name : Option CString) (exports : List NativeExport)
  | addAlias (contractName targetName : Option CString)

def step (registry : Registry) : Call → Registry × Status
  | .add memory name image mapped => (add memory registry name image mapped).swap
  | .addNative name exports => (addNative registry name exports).swap
  | .addAlias contractName targetName => (addAlias registry contractName targetName).swap

/-- The name is taken by no module and no alias. -/
def Fresh (registry : Registry) (name : CString) : Prop :=
  find registry name = none ∧ findAlias registry name = none

inductive Effect (registry : Registry) : Registry → Status → Prop where
  | refused (failed : status ≠ .ok) : Effect registry registry status
  | module {name : CString} (fresh : Fresh registry name) (room : registry.count < registryCapacity)
      (valid : ValidName name)
      (exports : ∀ table, contents = .native table → ExportTable table) :
      Effect registry { registry with
        modules := Function.update registry.modules registry.count
          { name := name, contents := contents }
        count := registry.count + 1 } .ok
  | alias_ {name target : CString} {index : Nat} (fresh : Fresh registry name) (room : registry.aliasCount < aliasCapacity)
      (valid : ValidName name) (found : find registry target = some index) :
      Effect registry { registry with
        aliases := Function.update registry.aliases registry.aliasCount
          { contractName := name, targetName := (registry.modules index).name }
        aliasCount := registry.aliasCount + 1 } .ok

theorem fresh_of_not_taken (free : ¬ ((find registry name).isSome = true ∨
    (findAlias registry name).isSome = true)) : Fresh registry name := by
  simp only [not_or, Bool.not_eq_true, Option.isSome_eq_false_iff, Option.isNone_iff_eq_none]
    at free
  exact free

theorem register_effect {acceptable : Bool} {contents : Contents} (valid : ValidName name)
    (exports : acceptable = true → ∀ table, contents = .native table → ExportTable table) :
    Effect registry (register registry name acceptable contents).2
      (register registry name acceptable contents).1 := by
  unfold register
  split
  · exact .refused (by simp)
  · rename_i free
    split
    · exact .refused (by simp)
    · rename_i room
      split
      · exact .refused (by simp)
      · rename_i accepted
        simp only [Bool.not_eq_true, Bool.not_eq_false'] at accepted
        exact .module (fresh_of_not_taken free) (by omega) valid (exports accepted)

/-- Folding keeps the length, so the copied target is the whole stored name. -/
theorem target_copied (found : find registry name = some index) :
    (registry.modules index).name.take (name.length + 1) = (registry.modules index).name := by
  obtain ⟨-, same, -⟩ := find_eq_some.mp found
  have length : (registry.modules index).name.length = name.length := by
    simpa [folded] using congrArg List.length same
  exact List.take_of_length_le (by omega)

/-- Every call is refused, or appends one entry. -/
theorem step_effect (registry : Registry) (call : Call) :
    Effect registry (step registry call).1 (step registry call).2 := by
  cases call with
  | add memory name image mapped =>
    simp only [step, add]
    split
    · exact .refused (by simp)
    · split
      · rename_i given length valid
        obtain ⟨_, same, valid, -⟩ := module_name_length_some.mp valid
        cases same
        exact register_effect valid fun _ table native => by contradiction
      · exact .refused (by simp)
  | addNative name exports =>
    simp only [step, addNative]
    split
    · exact .refused (by simp)
    · split
      · rename_i given length valid
        obtain ⟨_, same, valid, -⟩ := module_name_length_some.mp valid
        cases same
        refine register_effect valid fun accepted table native => ?_
        cases native
        exact export_table_of_valid accepted
      · exact .refused (by simp)
  | addAlias contractName targetName =>
    simp only [step, addAlias]
    split
    · rename_i given target contractLength targetLength valid named
      obtain ⟨_, same, valid, -⟩ := module_name_length_some.mp valid
      cases same
      obtain ⟨_, same, -, length⟩ := module_name_length_some.mp named
      cases same
      subst length
      split
      · exact .refused (by simp)
      · rename_i free
        split
        · exact .refused (by simp)
        · rename_i index found
          split
          · exact .refused (by simp)
          · rename_i room
            rw [target_copied found]
            exact .alias_ (fresh_of_not_taken free) (by omega) valid found
    · exact .refused (by simp)

/-! ### The invariant -/

/-- What holds of a registry that only the three registrations have changed. -/
structure Registered (registry : Registry) : Prop where
  count_le : registry.count ≤ registryCapacity
  alias_count_le : registry.aliasCount ≤ aliasCapacity
  modules_distinct : ∀ first < registry.count, ∀ second < registry.count,
    folded (registry.modules first).name = folded (registry.modules second).name → first = second
  aliases_distinct : ∀ first < registry.aliasCount, ∀ second < registry.aliasCount,
    folded (registry.aliases first).contractName = folded (registry.aliases second).contractName →
      first = second
  apart : ∀ module < registry.count, ∀ alias_ < registry.aliasCount,
    folded (registry.modules module).name ≠ folded (registry.aliases alias_).contractName
  target : ∀ alias_ < registry.aliasCount, ∃ module < registry.count,
    (registry.aliases alias_).targetName = (registry.modules module).name
  valid : ∀ module < registry.count, ValidName (registry.modules module).name
  alias_valid : ∀ alias_ < registry.aliasCount, ValidName (registry.aliases alias_).contractName
  exports : ∀ module < registry.count, ∀ table,
    (registry.modules module).contents = .native table → ExportTable table

theorem registered_init : Registered init where
  count_le := Nat.zero_le _
  alias_count_le := Nat.zero_le _
  modules_distinct := fun _ inside => absurd inside (Nat.not_lt_zero _)
  aliases_distinct := fun _ inside => absurd inside (Nat.not_lt_zero _)
  apart := fun _ inside => absurd inside (Nat.not_lt_zero _)
  target := fun _ inside => absurd inside (Nat.not_lt_zero _)
  valid := fun _ inside => absurd inside (Nat.not_lt_zero _)
  alias_valid := fun _ inside => absurd inside (Nat.not_lt_zero _)
  exports := fun _ inside => absurd inside (Nat.not_lt_zero _)

/-- An entry of a table that has grown by one is the new one or an old one. -/
theorem update_last {entries : Nat → α} {count : Nat} {value : α}
    (inside : index < count + 1) :
    index = count ∧ Function.update entries count value index = value ∨
      index < count ∧ Function.update entries count value index = entries index := by
  by_cases last : index = count
  · subst last
    exact .inl ⟨rfl, Function.update_self _ _ _⟩
  · exact .inr ⟨by omega, Function.update_of_ne last _ _⟩

theorem registered_module {contents : Contents} (registered : Registered registry)
    (fresh : Fresh registry name) (room : registry.count < registryCapacity)
    (valid : ValidName name) (exports : ∀ table, contents = .native table → ExportTable table) :
    Registered { registry with
      modules := Function.update registry.modules registry.count
        { name := name, contents := contents }
      count := registry.count + 1 } := by
  obtain ⟨free, unaliased⟩ := fresh
  rw [find_eq_none] at free
  rw [find_alias_eq_none] at unaliased
  exact {
    count_le := room
    alias_count_le := registered.alias_count_le
    modules_distinct := by
      intro first one second two same
      dsimp only at one two same
      rcases update_last one with ⟨firstIs, firstHas⟩ | ⟨firstOld, firstHas⟩ <;>
        rcases update_last two with ⟨secondIs, secondHas⟩ | ⟨secondOld, secondHas⟩ <;>
        rw [firstHas, secondHas] at same
      · omega
      · exact absurd same.symm (free second secondOld)
      · exact absurd same (free first firstOld)
      · exact registered.modules_distinct first firstOld second secondOld same
    aliases_distinct := registered.aliases_distinct
    apart := by
      intro module inside alias_ aliased same
      dsimp only at inside aliased same
      rcases update_last inside with ⟨-, has⟩ | ⟨old, has⟩ <;> rw [has] at same
      · exact unaliased alias_ aliased same.symm
      · exact registered.apart module old alias_ aliased same
    target := by
      intro alias_ aliased
      obtain ⟨module, inside, target⟩ := registered.target alias_ aliased
      refine ⟨module, Nat.lt_succ_of_lt inside, ?_⟩
      dsimp only
      rw [Function.update_of_ne (Nat.ne_of_lt inside)]
      exact target
    valid := by
      intro module inside
      dsimp only at inside ⊢
      rcases update_last inside with ⟨-, has⟩ | ⟨old, has⟩ <;> rw [has]
      · exact valid
      · exact registered.valid module old
    alias_valid := registered.alias_valid
    exports := by
      intro module inside table native
      dsimp only at inside native
      rcases update_last inside with ⟨-, has⟩ | ⟨old, has⟩ <;> rw [has] at native
      · exact exports table native
      · exact registered.exports module old table native }

theorem registered_alias {target : CString} (registered : Registered registry)
    (fresh : Fresh registry name) (room : registry.aliasCount < aliasCapacity)
    (valid : ValidName name) (found : find registry target = some index) :
    Registered { registry with
      aliases := Function.update registry.aliases registry.aliasCount
        { contractName := name, targetName := (registry.modules index).name }
      aliasCount := registry.aliasCount + 1 } := by
  obtain ⟨free, unaliased⟩ := fresh
  rw [find_eq_none] at free
  rw [find_alias_eq_none] at unaliased
  exact {
    count_le := registered.count_le
    alias_count_le := room
    modules_distinct := registered.modules_distinct
    aliases_distinct := by
      intro first one second two same
      dsimp only at one two same
      rcases update_last one with ⟨firstIs, firstHas⟩ | ⟨firstOld, firstHas⟩ <;>
        rcases update_last two with ⟨secondIs, secondHas⟩ | ⟨secondOld, secondHas⟩ <;>
        rw [firstHas, secondHas] at same
      · omega
      · exact absurd same.symm (unaliased second secondOld)
      · exact absurd same (unaliased first firstOld)
      · exact registered.aliases_distinct first firstOld second secondOld same
    apart := by
      intro module inside alias_ aliased same
      dsimp only at inside aliased same
      rcases update_last aliased with ⟨-, has⟩ | ⟨old, has⟩ <;> rw [has] at same
      · exact free module inside same
      · exact registered.apart module inside alias_ old same
    target := by
      intro alias_ aliased
      dsimp only at aliased ⊢
      rcases update_last aliased with ⟨-, has⟩ | ⟨old, has⟩ <;> rw [has]
      · exact ⟨index, (find_eq_some.mp found).1, rfl⟩
      · exact registered.target alias_ old
    valid := registered.valid
    alias_valid := by
      intro alias_ aliased
      dsimp only at aliased ⊢
      rcases update_last aliased with ⟨-, has⟩ | ⟨old, has⟩ <;> rw [has]
      · exact valid
      · exact registered.alias_valid alias_ old
    exports := registered.exports }

/-- Every call keeps the invariant. -/
theorem registered_step (registered : Registered registry) (call : Call) :
    Registered (step registry call).1 := by
  have effect := step_effect registry call
  generalize (step registry call).1 = after at effect ⊢
  generalize (step registry call).2 = status at effect
  cases effect with
  | refused failed => exact registered
  | module fresh room valid exports => exact registered_module registered fresh room valid exports
  | alias_ fresh room valid found => exact registered_alias registered fresh room valid found

theorem registered_run (calls : List Call) : Registered (run step init calls).state := by
  apply run_invariant step fun _ registry => Registered registry
  · exact registered_init
  · exact fun _ registry call registered => registered_step registered call

/-! ### What a name resolves to -/

/-- A name leads to a module: its own, or that of an alias. -/
def Names (registry : Registry) (name : CString) (module : Nat) : Prop :=
  module < registry.count ∧ (folded (registry.modules module).name = folded name ∨
    ∃ alias_ < registry.aliasCount, folded (registry.aliases alias_).contractName = folded name ∧
      (registry.aliases alias_).targetName = (registry.modules module).name)

theorem Registered.find_iff (registered : Registered registry) :
    find registry name = some index ↔
      index < registry.count ∧ folded (registry.modules index).name = folded name := by
  rw [find_eq_some]
  constructor
  · exact fun ⟨inside, same, _⟩ => ⟨inside, same⟩
  · rintro ⟨inside, same⟩
    refine ⟨inside, same, fun earlier before other => ?_⟩
    have one := registered.modules_distinct earlier (by omega) index inside (other.trans same.symm)
    omega

theorem Registered.find_alias_iff (registered : Registered registry) :
    findAlias registry name = some index ↔ index < registry.aliasCount ∧
      folded (registry.aliases index).contractName = folded name := by
  rw [find_alias_eq_some]
  constructor
  · exact fun ⟨inside, same, _⟩ => ⟨inside, same⟩
  · rintro ⟨inside, same⟩
    refine ⟨inside, same, fun earlier before other => ?_⟩
    have one := registered.aliases_distinct earlier (by omega) index inside (other.trans same.symm)
    omega

/-- A valid name resolves to the modules it leads to, of which there is one at most. -/
theorem Registered.resolve_iff (registered : Registered registry) :
    resolveModule registry (some name) = .ok index ↔
      ValidName name ∧ Names registry name index := by
  unfold resolveModule Names
  split
  · rename_i same measured
    cases same
    obtain ⟨_, same, valid, -⟩ := module_name_length_some.mp measured
    cases same
    simp only [valid, true_and]
    cases found : find registry name with
    | some module =>
      obtain ⟨inside, same, -⟩ := find_eq_some.mp found
      simp only [Except.ok.injEq]
      constructor
      · rintro rfl
        exact ⟨inside, .inl same⟩
      · rintro ⟨within, direct | ⟨alias_, aliased, contract, -⟩⟩
        · exact registered.modules_distinct module inside index within (same.trans direct.symm)
        · exact absurd (same.trans contract.symm) (registered.apart module inside alias_ aliased)
    | none =>
      rw [find_eq_none] at found
      cases aliased : findAlias registry name with
      | none =>
        rw [find_alias_eq_none] at aliased
        simp only [reduceCtorEq, false_iff]
        rintro ⟨within, direct | ⟨alias_, inside, contract, -⟩⟩
        · exact found index within direct
        · exact aliased alias_ inside contract
      | some alias_ =>
        obtain ⟨inside, contract⟩ := registered.find_alias_iff.mp aliased
        obtain ⟨module, within, target⟩ := registered.target alias_ inside
        have reached : find registry (registry.aliases alias_).targetName = some module :=
          registered.find_iff.mpr ⟨within, by rw [target]⟩
        simp only [reached, Except.ok.injEq]
        constructor
        · rintro rfl
          exact ⟨within, .inr ⟨alias_, inside, contract, target⟩⟩
        · rintro ⟨other, direct | ⟨second, also, contract', target'⟩⟩
          · exact absurd direct (found index other)
          · have one := registered.aliases_distinct alias_ inside second also
              (contract.trans contract'.symm)
            subst one
            exact registered.modules_distinct module within index other
              (by rw [← target, ← target'])
  · rename_i invalid
    simp only [reduceCtorEq, false_iff]
    rintro ⟨valid, -⟩
    exact invalid name _ rfl (module_name_length_some.mpr ⟨name, rfl, valid, rfl⟩)

theorem Registered.names_unique {other : Nat} (registered : Registered registry)
    (valid : ValidName name) (first : Names registry name index)
    (second : Names registry name other) : index = other := by
  have one := registered.resolve_iff.mpr ⟨valid, first⟩
  rw [registered.resolve_iff.mpr ⟨valid, second⟩, Except.ok.injEq] at one
  exact one.symm

/-- A registry that keeps the entries of another and may have more. -/
structure Grows (before after : Registry) : Prop where
  count : before.count ≤ after.count
  modules : ∀ index < before.count, after.modules index = before.modules index
  aliasCount : before.aliasCount ≤ after.aliasCount
  aliases : ∀ index < before.aliasCount, after.aliases index = before.aliases index

theorem Grows.refl (registry : Registry) : Grows registry registry :=
  ⟨Nat.le_refl _, fun _ _ => rfl, Nat.le_refl _, fun _ _ => rfl⟩

theorem Grows.trans (first second third : Registry) (one : Grows first second)
    (two : Grows second third) : Grows first third where
  count := Nat.le_trans one.count two.count
  modules := fun index inside => by
    rw [two.modules index (Nat.lt_of_lt_of_le inside one.count), one.modules index inside]
  aliasCount := Nat.le_trans one.aliasCount two.aliasCount
  aliases := fun index inside => by
    rw [two.aliases index (Nat.lt_of_lt_of_le inside one.aliasCount), one.aliases index inside]

theorem grows_step (registry : Registry) (call : Call) :
    Grows registry (step registry call).1 := by
  have effect := step_effect registry call
  generalize (step registry call).1 = after at effect ⊢
  generalize (step registry call).2 = status at effect
  cases effect with
  | refused failed => exact .refl registry
  | module fresh room valid exports =>
    exact ⟨Nat.le_succ _, fun index inside => Function.update_of_ne (Nat.ne_of_lt inside) _ _,
      Nat.le_refl _, fun _ _ => rfl⟩
  | alias_ fresh room valid found =>
    exact ⟨Nat.le_refl _, fun _ _ => rfl, Nat.le_succ _,
      fun index inside => Function.update_of_ne (Nat.ne_of_lt inside) _ _⟩

theorem Names.grow (grows : Grows before after) (names : Names before name index) :
    Names after name index := by
  obtain ⟨inside, leads⟩ := names
  refine ⟨Nat.lt_of_lt_of_le inside grows.count, ?_⟩
  rw [grows.modules index inside]
  rcases leads with direct | ⟨alias_, aliased, contract, target⟩
  · exact .inl direct
  · refine .inr ⟨alias_, Nat.lt_of_lt_of_le aliased grows.aliasCount, ?_⟩
    rw [grows.aliases alias_ aliased]
    exact ⟨contract, target⟩

/-- A name keeps its module in every larger registry. -/
theorem resolve_grow {given : Option CString} (grows : Grows before after)
    (registered : Registered before) (later : Registered after)
    (resolved : resolveModule before given = .ok index) :
    resolveModule after given = .ok index ∧ after.modules index = before.modules index := by
  cases given with
  | none => simp [resolveModule] at resolved
  | some name =>
    obtain ⟨valid, names⟩ := registered.resolve_iff.mp resolved
    exact ⟨later.resolve_iff.mpr ⟨valid, names.grow grows⟩, grows.modules index names.1⟩

theorem Registered.resolve_alias (registered : Registered registry) (alias_ : Nat)
    (inside : alias_ < registry.aliasCount) :
    ∃ index, resolveModule registry (some (registry.aliases alias_).contractName) = .ok index ∧
      (registry.modules index).name = (registry.aliases alias_).targetName := by
  obtain ⟨module, within, target⟩ := registered.target alias_ inside
  exact ⟨module, registered.resolve_iff.mpr ⟨registered.alias_valid alias_ inside, within,
    .inr ⟨alias_, inside, rfl, target⟩⟩, target.symm⟩

/-- A target is a module's name, so no alias has it. -/
theorem Registered.target_not_alias (registered : Registered registry) (alias_ : Nat)
    (inside : alias_ < registry.aliasCount) :
    findAlias registry (registry.aliases alias_).targetName = none := by
  obtain ⟨module, within, target⟩ := registered.target alias_ inside
  rw [find_alias_eq_none, target]
  exact fun other also same => registered.apart module within other also same.symm

theorem step_refused {call : Call} (failed : (step registry call).2 ≠ .ok) :
    (step registry call).1 = registry := by
  have effect := step_effect registry call
  generalize (step registry call).1 = after at effect ⊢
  generalize (step registry call).2 = status at effect failed
  cases effect with
  | refused _ => rfl
  | module _ _ _ _ => exact absurd rfl failed
  | alias_ _ _ _ _ => exact absurd rfl failed

/-- The registry after any calls: the invariant, and what it gives each lookup. -/
theorem registry_invariant (calls : List Call) :
    let registry := (run step init calls).state
    Registered registry ∧
      (∀ alias_ < registry.aliasCount,
        findAlias registry (registry.aliases alias_).targetName = none ∧
        ∃ index, resolveModule registry (some (registry.aliases alias_).contractName) = .ok index ∧
          (registry.modules index).name = (registry.aliases alias_).targetName) ∧
      (∀ name index, resolveModule registry (some name) = .ok index ↔
        ValidName name ∧ Names registry name index) ∧
      (∀ name first second, ValidName name → Names registry name first →
        Names registry name second → first = second) ∧
      (∀ call, (step registry call).2 ≠ .ok → (step registry call).1 = registry) ∧
      ∀ more name index, resolveModule registry name = .ok index →
        resolveModule (run step init (calls ++ more)).state name = .ok index ∧
          (run step init (calls ++ more)).state.modules index = registry.modules index := by
  have registered := registered_run calls
  refine ⟨registered, fun alias_ inside => ⟨registered.target_not_alias alias_ inside,
    registered.resolve_alias alias_ inside⟩, fun name index => registered.resolve_iff,
    fun name first second => registered.names_unique, fun call => step_refused, ?_⟩
  intro more name index resolved
  have grows := run_steps step Grows Grows.refl Grows.trans grows_step init calls more
  exact resolve_grow grows registered (registered_run (calls ++ more)) resolved

end SadLayer.Module
