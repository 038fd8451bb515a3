import SadLayer.SecondPass

/-! A lookup in the function table reads all of it: it answers with the one
entry that holds an address only when the whole table is in order, and stores
nothing otherwise. -/
namespace SadLayer.Unwind
open SadLayer.Library SadLayer.Pe SadLayer.Loader SadLayer.Module

/-- The addresses that a loaded PE module covers. -/
structure Contains (memory : Memory) (module : LoadedModule) (controlPc : Nat)
    (found : PeModule) : Prop where
  loaded : peModule memory module = some found
  based : found.mapped.loadBase ≠ 0
  above : found.mapped.loadBase ≤ controlPc
  below : controlPc - found.mapped.loadBase < found.mapped.size

/-- Modules may cover the same address; the one registered first is asked. -/
structure FirstContaining (memory : Memory) (registry : Registry) (controlPc index : Nat)
    (found : PeModule) : Prop where
  registered : index < registry.count
  contains : Contains memory (registry.modules index) controlPc found
  first : ∀ earlier < index, ∀ other,
    ¬ Contains memory (registry.modules earlier) controlPc other

/-- A 64-bit module whose exception directory is a table of entries inside the mapping. -/
structure ExceptionTable (module : PeModule) (table count : Nat) : Prop where
  wide : module.image.isPe32Plus = true
  amd64 : module.image.machine = machineAmd64
  starts : (module.image.directories directoryException).rva = table
  nonzero : table ≠ 0
  sized : (module.image.directories directoryException).size = count * runtimeFunctionSize
  nonempty : count ≠ 0
  mapped : moduleWindow module table (count * runtimeFunctionSize) = true

def entryAt (module : PeModule) (table place : Nat) : RuntimeFunction :=
  readRuntimeFunction module (table + place * runtimeFunctionSize)

/-- Every entry is well formed, and each one ends before any later one begins. -/
structure TableSound (module : PeModule) (table count : Nat) : Prop where
  wellFormed : ∀ place < count,
    runtimeFunctionIsValid module (entryAt module table place) = true
  sorted : ∀ second < count, ∀ first < second,
    (entryAt module table first).endAddress ≤ (entryAt module table second).beginAddress

/-- The half-open range of an entry. -/
def Holds (entry : RuntimeFunction) (relativePc : Nat) : Prop :=
  entry.beginAddress ≤ relativePc ∧ relativePc < entry.endAddress

section Module
variable {memory : Memory} {registry : Registry} {controlPc index table count : Nat}
  {module : PeModule}

/-- What `sl_module_registry_resolve_address` asks of one place of the registry. -/
def containsAddress (memory : Memory) (registry : Registry) (controlPc place : Nat) : Bool :=
  match peModule memory (registry.modules place) with
  | none => false
  | some found => found.mapped.loadBase != 0 && found.mapped.loadBase ≤ controlPc &&
      controlPc - found.mapped.loadBase < found.mapped.size

theorem contains_address_iff {place : Nat} :
    containsAddress memory registry controlPc place = true ↔
      ∃ found, Contains memory (registry.modules place) controlPc found := by
  unfold containsAddress
  cases loaded : peModule memory (registry.modules place) with
  | none =>
    constructor
    · intro impossible
      cases impossible
    · rintro ⟨found, contains⟩
      cases loaded.symm.trans contains.loaded
  | some module =>
    simp only [Bool.and_eq_true, decide_eq_true_eq, bne_iff_ne]
    constructor
    · intro inside
      exact ⟨module, loaded, inside.1.1, inside.1.2, inside.2⟩
    · rintro ⟨found, contains⟩
      cases loaded.symm.trans contains.loaded
      exact ⟨⟨contains.based, contains.above⟩, contains.below⟩

theorem resolve_address_first : resolveAddress memory registry controlPc = .ok index ↔
    controlPc ≠ 0 ∧
      firstIndex (containsAddress memory registry controlPc) registry.count = some index := by
  have same {test : Nat → Bool}
      (asks : ∀ place, containsAddress memory registry controlPc place = test place) :
      firstIndex test registry.count =
        firstIndex (containsAddress memory registry controlPc) registry.count := by
    rw [funext asks]
  unfold resolveAddress
  dsimp only
  split
  · rename_i zero
    constructor
    · intro impossible
      cases impossible
    · intro given
      exact absurd zero given.1
  · rename_i nonzero
    generalize found : firstIndex _ registry.count = first
    rw [same] at found
    · rw [found]
      cases first with
      | none => simp
      | some module => simp [nonzero]
    · intro place
      cases contents : (registry.modules place).contents <;>
        simp only [containsAddress, peModule, contents]

theorem resolve_address_iff : resolveAddress memory registry controlPc = .ok index ↔
    ∃ found, FirstContaining memory registry controlPc index found := by
  rw [resolve_address_first, first_index_eq_some, contains_address_iff]
  constructor
  · rintro ⟨nonzero, registered, ⟨found, contains⟩, first⟩
    refine ⟨found, registered, contains, ?_⟩
    intro earlier before other otherContains
    have asked := contains_address_iff.mpr ⟨other, otherContains⟩
    rw [first earlier before] at asked
    cases asked
  · rintro ⟨found, registered, contains, first⟩
    refine ⟨?_, registered, ⟨found, contains⟩, ?_⟩
    · have based := contains.based
      have above := contains.above
      omega
    · intro earlier before
      rw [← Bool.not_eq_true, contains_address_iff]
      rintro ⟨other, otherContains⟩
      exact first earlier before other otherContains

theorem exception_directory_iff :
    exceptionDirectory module = some (table, count) ↔ ExceptionTable module table count := by
  unfold exceptionDirectory
  dsimp only
  constructor
  · intro found
    split at found
    · cases found
    rename_i kind
    split at found
    · cases found
    rename_i directory
    split at found
    · cases found
    rename_i nonempty
    rw [Option.some.injEq, Prod.mk.injEq] at found
    obtain ⟨starts, counted⟩ := found
    simp only [not_or, ne_eq, Decidable.not_not, Bool.not_eq_false] at kind directory
    obtain ⟨nonzero, -, whole, mapped⟩ := directory
    have sized := Nat.div_mul_cancel (Nat.dvd_of_mod_eq_zero whole)
    rw [counted] at sized nonempty
    exact {
      wide := kind.1
      amd64 := kind.2
      starts := starts
      nonzero := starts ▸ nonzero
      sized := sized.symm
      nonempty := nonempty
      mapped := starts ▸ sized ▸ mapped }
  · intro known
    obtain ⟨wide, amd64, starts, nonzero, sized, nonempty, mapped⟩ := known
    have some_ : count * runtimeFunctionSize ≠ 0 := by
      unfold runtimeFunctionSize
      omega
    have counted : count * runtimeFunctionSize / runtimeFunctionSize = count :=
      Nat.mul_div_cancel _ (by decide)
    simp [wide, amd64, starts, nonzero, sized, nonempty, mapped, some_, counted]

end Module

section Scan
variable {module : PeModule} {table relativePc remaining index previousEnd count : Nat}
  {match_ : Option Nat}

theorem entry_at_valid (sound : TableSound module table count) {place : Nat}
    (inside : place < count) : (entryAt module table place).beginAddress <
      (entryAt module table place).endAddress := by
  have valid := sound.wellFormed place inside
  unfold runtimeFunctionIsValid at valid
  simp only [Bool.and_eq_true, decide_eq_true_eq] at valid
  exact valid.1.1.1.1.2

/-- Comparing neighbours is enough: an entry that is well formed does not end before it begins. -/
theorem table_sound_succ : TableSound module table (count + 1) ↔
    TableSound module table count ∧
      runtimeFunctionIsValid module (entryAt module table count) = true ∧
      (count ≠ 0 → (entryAt module table (count - 1)).endAddress ≤
        (entryAt module table count).beginAddress) := by
  constructor
  · intro sound
    refine ⟨⟨fun place inside => ?_, fun second inside => ?_⟩, ?_, fun nonzero => ?_⟩
    · exact sound.wellFormed place (by omega)
    · exact sound.sorted second (by omega)
    · exact sound.wellFormed count (by omega)
    · exact sound.sorted count (by omega) (count - 1) (by omega)
  · rintro ⟨sound, valid, behind⟩
    constructor
    · intro place inside
      rcases Nat.lt_succ_iff_lt_or_eq.mp inside with earlier | rfl
      · exact sound.wellFormed place earlier
      · exact valid
    · intro second inside first before
      rcases Nat.lt_succ_iff_lt_or_eq.mp inside with earlier | rfl
      · exact sound.sorted second earlier first before
      · have next := behind (by omega)
        by_cases last : first = second - 1
        · rw [last]
          exact next
        · have ordered := sound.sorted (second - 1) (by omega) first (by omega)
          have forward := @entry_at_valid _ _ _ sound (second - 1) (by omega)
          omega

theorem sound_prefix (sound : TableSound module table count) (below : index ≤ count) :
    TableSound module table index :=
  ⟨fun place inside => sound.wellFormed place (by omega),
    fun second inside => sound.sorted second (by omega)⟩

/-- In a sound table at most one entry holds an address. -/
theorem holding_entry_unique (sound : TableSound module table count) {first second : Nat}
    (firstInside : first < count) (secondInside : second < count)
    (firstHolds : Holds (entryAt module table first) relativePc)
    (secondHolds : Holds (entryAt module table second) relativePc) : first = second := by
  obtain ⟨firstAbove, firstBelow⟩ := firstHolds
  obtain ⟨secondAbove, secondBelow⟩ := secondHolds
  rcases Nat.lt_trichotomy first second with before | same | behind
  · have ordered := sound.sorted second secondInside first before
    omega
  · exact same
  · have ordered := sound.sorted first firstInside second behind
    omega

/-- What the loop remembers of the entries it has read. -/
structure Remembers (module : PeModule) (table relativePc count : Nat) (match_ : Option Nat) :
    Prop where
  missed : match_ = none → ∀ place < count, ¬ Holds (entryAt module table place) relativePc
  matched : ∀ entryRva, match_ = some entryRva → ∃ place < count,
    Holds (entryAt module table place) relativePc ∧
      entryRva = table + place * runtimeFunctionSize

theorem remembers_next (remembers : Remembers module table relativePc index match_) :
    Remembers module table relativePc (index + 1)
      (if (entryAt module table index).beginAddress ≤ relativePc ∧
          relativePc < (entryAt module table index).endAddress
        then some (table + index * runtimeFunctionSize) else match_) := by
  split
  · rename_i holds
    constructor
    · intro impossible
      cases impossible
    · intro entryRva found
      cases found
      exact ⟨index, Nat.lt_succ_self index, holds, rfl⟩
  · rename_i outside
    constructor
    · intro missing place inside
      rcases Nat.lt_succ_iff_lt_or_eq.mp inside with earlier | rfl
      · exact remembers.missed missing place earlier
      · exact outside
    · intro entryRva found
      obtain ⟨place, inside, facts⟩ := remembers.matched entryRva found
      exact ⟨place, Nat.lt_succ_of_lt inside, facts⟩

/-- The scan of a sound table goes to its end. -/
theorem scan_entries_sound (sound : TableSound module table (index + remaining))
    (behind : index ≠ 0 → previousEnd = (entryAt module table (index - 1)).endAddress)
    (remembers : Remembers module table relativePc index match_) :
    ∃ result, scanEntries module table relativePc remaining index previousEnd match_ = .ok result ∧
      Remembers module table relativePc (index + remaining) result := by
  induction remaining generalizing index previousEnd match_ with
  | zero => exact ⟨match_, rfl, remembers⟩
  | succ remaining ih =>
    have read : ¬ (runtimeFunctionIsValid module (entryAt module table index) = false ∨
        (index ≠ 0 ∧ (entryAt module table index).beginAddress < previousEnd)) := by
      have upTo : TableSound module table (index + 1) := sound_prefix sound (by omega)
      obtain ⟨-, valid, ordered⟩ := table_sound_succ.mp upTo
      rintro (malformed | ⟨nonzero, disordered⟩)
      · rw [valid] at malformed
        cases malformed
      · have next := ordered nonzero
        rw [behind nonzero] at disordered
        omega
    have rest : index + 1 + remaining = index + (remaining + 1) := by omega
    obtain ⟨result, scanned, reaches⟩ :=
      ih (rest ▸ sound) (fun _ => rfl) (remembers_next remembers)
    rw [rest] at reaches
    refine ⟨result, ?_, reaches⟩
    unfold scanEntries
    exact (if_neg read).trans scanned

/-- Wherever a table is out of order, the scan stops there. -/
theorem scan_entries_unsound (before : TableSound module table index)
    (behind : index ≠ 0 → previousEnd = (entryAt module table (index - 1)).endAddress)
    (broken : ¬ TableSound module table (index + remaining)) :
    scanEntries module table relativePc remaining index previousEnd match_ =
      .error .invalidImage := by
  induction remaining generalizing index previousEnd match_ with
  | zero => exact absurd before broken
  | succ remaining ih =>
    unfold scanEntries
    by_cases stops : runtimeFunctionIsValid module (entryAt module table index) = false ∨
        (index ≠ 0 ∧ (entryAt module table index).beginAddress < previousEnd)
    · exact if_pos stops
    · refine (if_neg stops).trans (ih ?_ (fun _ => rfl) ?_)
      · rw [not_or, Bool.not_eq_false, not_and, Nat.not_lt] at stops
        refine table_sound_succ.mpr ⟨before, stops.1, ?_⟩
        intro nonzero
        rw [← behind nonzero]
        exact stops.2 nonzero
      · have rest : index + 1 + remaining = index + (remaining + 1) := by omega
        rw [rest]
        exact broken

theorem table_sound_zero : TableSound module table 0 :=
  ⟨fun _ inside => absurd inside (Nat.not_lt_zero _),
    fun _ inside => absurd inside (Nat.not_lt_zero _)⟩

theorem remembers_zero : Remembers module table relativePc 0 none :=
  ⟨fun _ _ inside => absurd inside (Nat.not_lt_zero _), fun _ found => by cases found⟩

/-- The scan of a whole table in order. -/
theorem scan_table_sound (sound : TableSound module table count) :
    ∃ result, scanEntries module table relativePc count 0 0 none = .ok result ∧
      Remembers module table relativePc count result := by
  have whole : TableSound module table (0 + count) := by
    rw [Nat.zero_add]
    exact sound
  obtain ⟨result, scanned, remembers⟩ :=
    scan_entries_sound whole (fun nonzero => absurd rfl nonzero) remembers_zero
  rw [Nat.zero_add] at remembers
  exact ⟨result, scanned, remembers⟩

/-- The scan of a whole table that is out of order. -/
theorem scan_table_unsound (broken : ¬ TableSound module table count) :
    scanEntries module table relativePc count 0 0 none = .error .invalidImage := by
  apply scan_entries_unsound table_sound_zero
  · exact fun nonzero => absurd rfl nonzero
  · rw [Nat.zero_add]
    exact broken

end Scan

section Lookup
variable {memory : Memory} {registry : Registry} {controlPc index table count : Nat}
  {module : PeModule} {places : LookupPlaces}

/-- A caller that names every place. -/
def Given (places : LookupPlaces) : Prop :=
  places.imageBase ≠ none ∧ places.functionEntry ≠ none ∧ places.moduleOut ≠ none

/-- What a scan of the table of a module lets the lookup answer. -/
def scanAnswer (module : PeModule) (index : Nat) :
    Except Status (Option Nat) → Except Status FunctionEntry
  | .error status => .error status
  | .ok none => .error .addressOutOfRange
  | .ok (some entryRva) => .ok {
      imageBase := module.mapped.loadBase
      functionEntry := module.mapped.address + entryRva
      index := index
      module := module }

/-- A lookup in a module with a table scans it. -/
theorem lookup_scans (covering : FirstContaining memory registry controlPc index module)
    (directory : ExceptionTable module table count) :
    lookupFunctionEntry memory registry controlPc =
      if controlPc - module.mapped.loadBase > uint32Max then .error .addressOutOfRange
      else scanAnswer module index
        (scanEntries module table (controlPc - module.mapped.loadBase) count 0 0 none) := by
  have resolved := resolve_address_iff.mpr ⟨module, covering⟩
  have known := exception_directory_iff.mpr directory
  have above := Nat.not_lt.mpr covering.contains.above
  unfold lookupFunctionEntry
  simp only [resolved, covering.contains.loaded, if_neg above, known]
  rfl

/-- A lookup that succeeds has asked a module with a table. -/
theorem lookup_asks {found : FunctionEntry}
    (looked : lookupFunctionEntry memory registry controlPc = .ok found) :
    ∃ index module table count, FirstContaining memory registry controlPc index module ∧
      ExceptionTable module table count := by
  unfold lookupFunctionEntry at looked
  cases resolved : resolveAddress memory registry controlPc with
  | error status =>
    rw [resolved] at looked
    cases looked
  | ok index =>
    obtain ⟨module, covering⟩ := resolve_address_iff.mp resolved
    have above := Nat.not_lt.mpr covering.contains.above
    simp only [resolved, covering.contains.loaded, if_neg above] at looked
    cases known : exceptionDirectory module with
    | none =>
      rw [known] at looked
      cases looked
    | some directory =>
      exact ⟨index, module, directory.1, directory.2, covering, exception_directory_iff.mp known⟩

/-- The entries of a table are found by words, so an address that one holds is in their reach. -/
theorem holds_in_reach {place relativePc : Nat}
    (holds : Holds (entryAt module table place) relativePc) : relativePc ≤ uint32Max := by
  have below := holds.2
  have word : (entryAt module table place).endAddress < 2 ^ 32 := load_le_lt ..
  unfold uint32Max
  omega

theorem lookup_found (covering : FirstContaining memory registry controlPc index module)
    (directory : ExceptionTable module table count) (sound : TableSound module table count)
    {place : Nat} (inside : place < count)
    (holds : Holds (entryAt module table place) (controlPc - module.mapped.loadBase)) :
    lookupFunctionEntry memory registry controlPc = .ok {
      imageBase := module.mapped.loadBase
      functionEntry := module.mapped.address + (table + place * runtimeFunctionSize)
      index := index
      module := module } := by
  obtain ⟨result, scanned, remembers⟩ := scan_table_sound sound
  rw [lookup_scans covering directory, if_neg (Nat.not_lt.mpr (holds_in_reach holds)), scanned]
  cases result with
  | none => exact absurd holds (remembers.missed rfl place inside)
  | some entryRva =>
    obtain ⟨other, otherInside, otherHolds, same⟩ := remembers.matched entryRva rfl
    rw [holding_entry_unique sound inside otherInside holds otherHolds, ← same]
    rfl

theorem lookup_malformed (covering : FirstContaining memory registry controlPc index module)
    (directory : ExceptionTable module table count) (broken : ¬ TableSound module table count)
    (reach : module.image.imageSize < 2 ^ 32) :
    lookupFunctionEntry memory registry controlPc = .error .invalidImage := by
  have near : ¬ controlPc - module.mapped.loadBase > uint32Max := by
    have window := directory.mapped
    unfold moduleWindow at window
    simp only [Bool.and_eq_true, decide_eq_true_eq, beq_iff_eq] at window
    have below := covering.contains.below
    unfold uint32Max
    omega
  rw [lookup_scans covering directory, if_neg near, scan_table_unsound broken]
  rfl

/-- A lookup that succeeds has read a sound table, and found the entry it answers with. -/
theorem lookup_ok {found : FunctionEntry}
    (looked : lookupFunctionEntry memory registry controlPc = .ok found) :
    ∃ index module table count place, FirstContaining memory registry controlPc index module ∧
      ExceptionTable module table count ∧ TableSound module table count ∧ place < count ∧
      Holds (entryAt module table place) (controlPc - module.mapped.loadBase) := by
  obtain ⟨index, module, table, count, covering, directory⟩ := lookup_asks looked
  rw [lookup_scans covering directory] at looked
  split at looked
  · cases looked
  by_cases sound : TableSound module table count
  · obtain ⟨result, scanned, remembers⟩ := scan_table_sound sound
    rw [scanned] at looked
    cases result with
    | none => cases looked
    | some entryRva =>
      obtain ⟨place, inside, holds, -⟩ := remembers.matched entryRva rfl
      exact ⟨index, module, table, count, place, covering, directory, sound, inside, holds⟩
  · rw [scan_table_unsound sound] at looked
    cases looked

end Lookup

/-! ### The lookup as a whole -/

/-- The entry that a lookup of an address is to find: that of a sound table, in the first module
that covers the address. -/
structure CoveringEntry (memory : Memory) (registry : Registry) (controlPc index : Nat)
    (module : PeModule) (table count place : Nat) : Prop where
  containing : FirstContaining memory registry controlPc index module
  directory : ExceptionTable module table count
  sound : TableSound module table count
  inside : place < count
  holds : Holds (entryAt module table place) (controlPc - module.mapped.loadBase)

section Into
variable {memory : Memory} {asked : Option Registry} {controlPc : Nat} {places : LookupPlaces}

variable {registry : Registry}

theorem given_places (given : Given places) : ¬ (places.imageBase = none ∨
    places.functionEntry = none ∨ places.moduleOut = none) := by
  obtain ⟨imageBase, functionEntry, moduleOut⟩ := given
  simp [imageBase, functionEntry, moduleOut]

theorem lookup_into_error {status : Status} (given : Given places)
    (looked : lookupFunctionEntry memory registry controlPc = .error status) :
    lookupFunctionEntryInto memory (some registry) controlPc places = (status, places) := by
  simp only [lookupFunctionEntryInto, if_neg (given_places given), looked]

theorem lookup_into_ok {found : FunctionEntry} (given : Given places)
    (looked : lookupFunctionEntry memory registry controlPc = .ok found) :
    lookupFunctionEntryInto memory (some registry) controlPc places = (.ok, {
      imageBase := some found.imageBase
      functionEntry := some found.functionEntry
      moduleOut := some (some found.index) }) := by
  simp only [lookupFunctionEntryInto, if_neg (given_places given), looked]

theorem lookup_into_succeeds
    (succeeded : (lookupFunctionEntryInto memory (some registry) controlPc places).1 = .ok) :
    Given places ∧ ∃ found, lookupFunctionEntry memory registry controlPc = .ok found := by
  have given : Given places := by
    by_contra absent
    have stops : places.imageBase = none ∨ places.functionEntry = none ∨
        places.moduleOut = none := by
      unfold Given at absent
      tauto
    rw [lookupFunctionEntryInto, if_pos stops] at succeeded
    cases succeeded
  refine ⟨given, ?_⟩
  cases looked : lookupFunctionEntry memory registry controlPc with
  | ok found => exact ⟨found, rfl⟩
  | error status =>
    rw [lookup_into_error given looked] at succeeded
    dsimp only at succeeded
    subst succeeded
    rcases lookup_function_entry_fails looked with impossible | impossible <;> cases impossible

/-- What a lookup stores, it stores with `SL_OK`. -/
theorem lookup_into_keeps
    (failed : (lookupFunctionEntryInto memory asked controlPc places).1 ≠ .ok) :
    (lookupFunctionEntryInto memory asked controlPc places).2 = places := by
  unfold lookupFunctionEntryInto at failed ⊢
  split at failed
  · rename_i absent
    rw [if_pos absent]
  rename_i given
  rw [if_neg given]
  cases asked with
  | none => rfl
  | some registry =>
    dsimp only at failed ⊢
    cases looked : lookupFunctionEntry memory registry controlPc with
    | error status => rfl
    | ok found =>
      rw [looked] at failed
      exact absurd rfl failed

end Into

/-- A lookup succeeds just when the first module that covers the address has a sound table one of
whose entries holds it. That entry is the only one, and it is stored with the module and its base; a
table out of order anywhere is refused, and without success nothing is stored. -/
theorem function_lookup (memory : Memory) (registry : Registry) (controlPc : Nat)
    (places : LookupPlaces) (words : ∀ image, (memory.images image).imageSize < 2 ^ 32) :
    ((lookupFunctionEntryInto memory (some registry) controlPc places).1 = .ok ↔
      Given places ∧ ∃ index module table count place,
        CoveringEntry memory registry controlPc index module table count place) ∧
    (∀ index module table count place, Given places →
      CoveringEntry memory registry controlPc index module table count place →
      (∀ other < count, Holds (entryAt module table other) (controlPc - module.mapped.loadBase) →
        other = place) ∧
      lookupFunctionEntryInto memory (some registry) controlPc places = (.ok, {
        imageBase := some module.mapped.loadBase
        functionEntry := some (module.mapped.address + (table + place * runtimeFunctionSize))
        moduleOut := some (some index) })) ∧
    (∀ index module table count, Given places →
      FirstContaining memory registry controlPc index module → ExceptionTable module table count →
      ¬ TableSound module table count →
      (lookupFunctionEntryInto memory (some registry) controlPc places).1 = .invalidImage) ∧
    ∀ asked, (lookupFunctionEntryInto memory asked controlPc places).1 ≠ .ok →
      (lookupFunctionEntryInto memory asked controlPc places).2 = places := by
  refine ⟨⟨?_, ?_⟩, ?_, ?_, ?_⟩
  · intro succeeded
    obtain ⟨given, found, looked⟩ := lookup_into_succeeds succeeded
    obtain ⟨index, module, table, count, place, containing, directory, sound, inside, holds⟩ :=
      lookup_ok looked
    exact ⟨given, index, module, table, count, place, containing, directory, sound, inside, holds⟩
  · rintro ⟨given, index, module, table, count, place, entry⟩
    have looked := lookup_found entry.containing entry.directory entry.sound entry.inside
      entry.holds
    rw [lookup_into_ok given looked]
  · intro index module table count place given entry
    constructor
    · intro other inside holds
      exact holding_entry_unique entry.sound inside entry.inside holds entry.holds
    · have looked := lookup_found entry.containing entry.directory entry.sound entry.inside
        entry.holds
      exact lookup_into_ok given looked
  · intro index module table count given containing directory broken
    obtain ⟨image, wide⟩ : ∃ image, module.image = memory.images image := by
      have loaded := containing.contains.loaded
      unfold peModule at loaded
      split at loaded
      · cases loaded
      · cases loaded
        exact ⟨_, rfl⟩
    have reach : module.image.imageSize < 2 ^ 32 := wide ▸ words image
    rw [lookup_into_error given (lookup_malformed containing directory broken reach)]
  · intro asked
    exact lookup_into_keeps

/-! ### Two modules at one base -/

/-- A table of one entry at 16: a function from 0 to 8 with its record at 12. -/
def shadowBytes (index : Nat) : UInt8 :=
  [0, 0, 0, 0, 0, 0, 0, 0, 0, 0, 0, 0, 0, 0, 0, 0, 0, 0, 0, 0, 8, 0, 0, 0, 12].getD index 0

/-- The first module has no functions, and the others have that table. -/
def shadowMemory : Memory where
  images image := {
    file := { size := 0, data := fun _ => 0 }
    machine := machineAmd64
    isPe32Plus := true
    imageSize := 32
    directories := fun place =>
      if image ≠ 0 ∧ place = directoryException then { rva := 16, size := 12 } else {} }
  mappings _ := { address := 0x7000, bytes := shadowBytes, size := 32, loadBase := 0x1000 }

def tableModule : PeModule :=
  ⟨shadowMemory.images 1, shadowMemory.mappings 1⟩

def plainRegistry : Registry := (add shadowMemory init (some [0x62]) 1 1).2

def shadowRegistry : Registry :=
  (add shadowMemory (add shadowMemory init (some [0x61]) 0 0).2
    (some [0x62]) 1 1).2

def clearPlaces : LookupPlaces := ⟨some 0, some 0, some none⟩

theorem table_module_directory : ExceptionTable tableModule 16 1 where
  wide := rfl
  amd64 := rfl
  starts := rfl
  nonzero := by decide
  sized := rfl
  nonempty := by decide
  mapped := by decide

theorem table_module_sound : TableSound tableModule 16 1 := by
  apply table_sound_succ.mpr
  refine ⟨table_sound_zero, by decide, ?_⟩
  intro nonzero
  exact absurd rfl nonzero

theorem table_module_holds : Holds (entryAt tableModule 16 0) (0x1000 - 0x1000) := by
  constructor <;> decide

theorem plain_registry_contains :
    FirstContaining shadowMemory plainRegistry 0x1000 0 tableModule where
  registered := by decide
  contains := ⟨rfl, by decide, by decide, by decide⟩
  first := fun _ earlier => absurd earlier (Nat.not_lt_zero _)

/-- The function of the one module of a registry is found. -/
theorem plain_lookup : lookupFunctionEntryInto shadowMemory (some plainRegistry) 0x1000
    clearPlaces = (.ok, ⟨some 0x1000, some 0x7010, some (some 0)⟩) := by
  have words (image : Nat) : (shadowMemory.images image).imageSize < 2 ^ 32 := by
    change 32 < 2 ^ 32
    decide
  have given : Given clearPlaces := by
    refine ⟨?_, ?_, ?_⟩ <;> simp [clearPlaces]
  exact ((function_lookup shadowMemory plainRegistry 0x1000 clearPlaces words).2.1 0 tableModule
    16 1 0 given ⟨plain_registry_contains, table_module_directory, table_module_sound,
      Nat.zero_lt_one, table_module_holds⟩).2

/-- Behind a module without functions at the same base it is not: that module is the one asked,
though the address lies in one with a sound table as well. -/
theorem shadowed_function_missed :
    (∃ index module table count place, index < shadowRegistry.count ∧
      Contains shadowMemory (shadowRegistry.modules index) 0x1000 module ∧
      ExceptionTable module table count ∧ TableSound module table count ∧ place < count ∧
      Holds (entryAt module table place) (0x1000 - module.mapped.loadBase)) ∧
    lookupFunctionEntryInto shadowMemory (some shadowRegistry) 0x1000 clearPlaces =
      (.addressOutOfRange, clearPlaces) := by
  constructor
  · exact ⟨1, tableModule, 16, 1, 0, by decide, ⟨rfl, by decide, by decide, by decide⟩,
      table_module_directory, table_module_sound, Nat.zero_lt_one, table_module_holds⟩
  · rfl

end SadLayer.Unwind
