import SadLayer.ExportLookups
import SadLayer.ImportEnumeration

/-! Where an enumeration of imports reads. Both loops are written once more with
the cursors they go by, computed on `uint32_t`; the cursors are found to go
forward without a wrap, so that the loops end, and a callback is only called
for a descriptor inside the directory. -/
namespace SadLayer.Pe
open SadLayer.Library

/-- What a walk over thunks leaves behind: the lookup and table cursors of its rounds, and how often
it called back. -/
structure Walk where
  thunks : List (Nat × Nat) := []
  callbacks : Nat := 0

/-- A round of the descriptor loop: the cursor of its descriptor, and what was done with that. -/
structure DescriptorVisit where
  cursor : Nat
  walk : Walk := {}

/-! ### The loops, with their cursors -/

def tracedThunks (image : Image) (moduleName : CString) (callback : ImportSymbol → σ → σ × Bool) :
    Nat → Nat → Nat → σ → Option (Walk × Status × σ × Bool)
  | 0, _, _, _ => none
  | rounds + 1, lookupRva, iatRva, state =>
    match readThunk image lookupRva iatRva with
    | .error status => some (⟨[(lookupRva, iatRva)], 0⟩, status, state, true)
    | .ok 0 => some (⟨[(lookupRva, iatRva)], 0⟩, .ok, state, true)
    | .ok thunk =>
      match importSymbol image moduleName iatRva thunk with
      | .error status => some (⟨[(lookupRva, iatRva)], 0⟩, status, state, true)
      | .ok symbol =>
        let (state, more) := callback symbol state
        if !more then some (⟨[(lookupRva, iatRva)], 1⟩, .ok, state, false)
        else if lookupRva > uint32Max - entrySize image ∨ iatRva > uint32Max - entrySize image then
          some (⟨[(lookupRva, iatRva)], 1⟩, .invalidImage, state, true)
        else (tracedThunks image moduleName callback rounds (u32Add lookupRva (entrySize image))
          (u32Add iatRva (entrySize image)) state).map fun answer =>
            (⟨(lookupRva, iatRva) :: answer.1.thunks, answer.1.callbacks + 1⟩, answer.2)

/-- What `sl_pe_for_each_import_symbol` does with a descriptor. A table has fewer than `2^32`
thunks. -/
def tracedSymbols (image : Image) (callback : ImportSymbol → σ → σ × Bool)
    (descriptor : Descriptor) (moduleName : CString) (state : σ) :
    Option (Walk × Status × σ × Bool) :=
  let lookupRva := if descriptor.originalThunk ≠ 0 then descriptor.originalThunk
    else descriptor.firstThunk
  if lookupRva = 0 ∨ descriptor.firstThunk = 0 then some ({}, .invalidImage, state, true)
  else tracedThunks image moduleName callback (2 ^ 32) lookupRva descriptor.firstThunk state

/-- What `sl_pe_for_each_import` does with a descriptor. -/
def tracedModule (callback : CString → σ → σ × Bool) (_ : Descriptor) (moduleName : CString)
    (state : σ) : Option (Walk × Status × σ × Bool) :=
  some (⟨[], 1⟩, .ok, callback moduleName state)

/-- The descriptor loop of both. -/
def tracedDescriptors (image : Image) (imports : DataDirectory)
    (body : Descriptor → CString → σ → Option (Walk × Status × σ × Bool)) :
    Nat → Nat → σ → Option (List DescriptorVisit × Status × σ)
  | 0, _, _ => none
  | rounds + 1, consumed, state =>
    if u32Add consumed 20 > imports.size then some ([], .invalidImage, state)
    else
      let cursor := u32Add imports.rva consumed
      if cursor < imports.rva then some ([⟨cursor, {}⟩], .invalidImage, state)
      else match readDescriptor image cursor with
        | .error _ => some ([⟨cursor, {}⟩], .invalidImage, state)
        | .ok descriptor =>
          if descriptor = ⟨0, 0, 0, 0, 0⟩ then some ([⟨cursor, {}⟩], .ok, state)
          else match readRvaString image descriptor.nameRva with
            | .error _ => some ([⟨cursor, {}⟩], .invalidImage, state)
            | .ok moduleName =>
              match body descriptor moduleName state with
              | none => none
              | some (walk, status, state, more) =>
                if status ≠ .ok then some ([⟨cursor, walk⟩], status, state)
                else if !more then some ([⟨cursor, walk⟩], .ok, state)
                else (tracedDescriptors image imports body rounds (u32Add consumed 20) state).map
                  fun answer => (⟨cursor, walk⟩ :: answer.1, answer.2)

/-- Both enumerations, by what they do with a descriptor. -/
def tracedImports (image : Image)
    (body : Descriptor → CString → σ → Option (Walk × Status × σ × Bool)) (state : σ) :
    Option (List DescriptorVisit × Status × σ) :=
  let imports := image.directories directoryImport
  if imports.rva = 0 ∨ imports.size = 0 then some ([], .ok, state)
  else if imports.rva ≥ image.imageSize ∨ imports.size > image.imageSize - imports.rva then
    some ([], .invalidImage, state)
  else tracedDescriptors image imports body (2 ^ 32) 0 state

/-- The fields of a descriptor, with their addresses watched. -/
def exactReadDescriptor (image : Image) (cursor : Nat) : Except (Halt Status) Descriptor := do
  let originalThunk ← exactReadRvaU32 image cursor
  let timestamp ← exactReadRvaU32 image (← exactAdd (2 ^ 32) cursor 4)
  let forwarderChain ← exactReadRvaU32 image (← exactAdd (2 ^ 32) cursor 8)
  let nameRva ← exactReadRvaU32 image (← exactAdd (2 ^ 32) cursor 12)
  let firstThunk ← exactReadRvaU32 image (← exactAdd (2 ^ 32) cursor 16)
  return {
    originalThunk := originalThunk
    timestamp := timestamp
    forwarderChain := forwarderChain
    nameRva := nameRva
    firstThunk := firstThunk }

/-! ### The cursors do not change what the loops do -/

section Erased
variable {image : Image} {imports : DataDirectory}
  {body : Descriptor → CString → σ → Option (Walk × Status × σ × Bool)}

theorem traced_descriptors_symbols {callback : ImportSymbol → σ → σ × Bool}
    (erased : ∀ descriptor moduleName state, (body descriptor moduleName state).map Prod.snd =
      some (visitImportThunks image moduleName descriptor.originalThunk descriptor.firstThunk
        callback state)) (rounds consumed : Nat) (state : σ) :
    (tracedDescriptors image imports body rounds consumed state).map Prod.snd =
      visitDescriptors image imports callback rounds consumed state := by
  induction rounds generalizing consumed state with
  | zero => rfl
  | succ rounds ih =>
    rw [tracedDescriptors, visitDescriptors]
    split
    · rfl
    dsimp only
    split
    · rfl
    cases readDescriptor image (u32Add imports.rva consumed) with
    | error status => rfl
    | ok descriptor =>
      dsimp only
      split
      · rfl
      cases readRvaString image descriptor.nameRva with
      | error status => rfl
      | ok moduleName =>
        have same := erased descriptor moduleName state
        cases done : body descriptor moduleName state with
        | none =>
          rw [done] at same
          cases same
        | some answer =>
          rw [done, Option.map_some, Option.some.injEq] at same
          obtain ⟨walk, status, left, more⟩ := answer
          dsimp only
          rw [done, ← same]
          dsimp only
          split
          · rfl
          split
          · rfl
          · rw [Option.map_map]
            exact ih (u32Add consumed 20) left

theorem traced_descriptors_modules {callback : CString → σ → σ × Bool} (rounds consumed : Nat)
    (state : σ) :
    (tracedDescriptors image imports (tracedModule callback) rounds consumed state).map Prod.snd =
      visitModules image imports callback rounds consumed state := by
  induction rounds generalizing consumed state with
  | zero => rfl
  | succ rounds ih =>
    rw [tracedDescriptors, visitModules]
    split
    · rfl
    dsimp only
    split
    · rfl
    cases readDescriptor image (u32Add imports.rva consumed) with
    | error status => rfl
    | ok descriptor =>
      dsimp only
      split
      · rfl
      cases readRvaString image descriptor.nameRva with
      | error status => rfl
      | ok moduleName =>
        dsimp only [tracedModule]
        rcases callback moduleName state with ⟨left, more⟩
        dsimp only
        rw [if_neg (by decide)]
        split
        · rfl
        · rw [Option.map_map]
          exact ih (u32Add consumed 20) left

end Erased

/-! ### Thunks -/

/-- Both cursors of a walk over thunks go forward by the size of an entry. -/
structure Ascends (step lookupRva iatRva : Nat) (thunks : List (Nat × Nat)) : Prop where
  lookups : thunks.map Prod.fst = List.range' lookupRva thunks.length step
  slots : thunks.map Prod.snd = List.range' iatRva thunks.length step

section Thunks
variable {image : Image} {moduleName : CString} {lookupRva iatRva rounds : Nat}

theorem ascends_nil {step : Nat} : Ascends step lookupRva iatRva [] := ⟨rfl, rfl⟩

theorem ascends_cons {step : Nat} {thunks : List (Nat × Nat)}
    (rest : Ascends step (lookupRva + step) (iatRva + step) thunks) :
    Ascends step lookupRva iatRva ((lookupRva, iatRva) :: thunks) := by
  constructor
  · rw [List.map_cons, List.length_cons, List.range'_succ, rest.lookups]
  · rw [List.map_cons, List.length_cons, List.range'_succ, rest.slots]

theorem entry_size_bounds (image : Image) : 0 < entrySize image ∧ entrySize image ≤ 8 := by
  unfold entrySize
  split <;> omega

/-- The loop over thunks ends, as its guard lets neither cursor wrap. -/
theorem traced_thunks (callback : ImportSymbol → σ → σ × Bool)
    (enough : uint32Max - lookupRva < rounds) (state : σ) :
    ∃ walk, tracedThunks image moduleName callback rounds lookupRva iatRva state =
        some (walk, visitThunks image moduleName callback lookupRva iatRva state) ∧
      Ascends (entrySize image) lookupRva iatRva walk.thunks := by
  induction rounds generalizing lookupRva iatRva state with
  | zero => omega
  | succ rounds ih =>
    rw [tracedThunks, visitThunks]
    cases readThunk image lookupRva iatRva with
    | error status => exact ⟨⟨[(lookupRva, iatRva)], _⟩, rfl, ascends_cons ascends_nil⟩
    | ok thunk =>
      cases thunk with
      | zero => exact ⟨⟨[(lookupRva, iatRva)], _⟩, rfl, ascends_cons ascends_nil⟩
      | succ thunk =>
        cases named : importSymbol image moduleName iatRva (thunk + 1) with
        | error status =>
          simp only [named]
          exact ⟨⟨[(lookupRva, iatRva)], _⟩, rfl, ascends_cons ascends_nil⟩
        | ok symbol =>
          simp only [named]
          rcases callback symbol state with ⟨left, _ | _⟩
          · exact ⟨⟨[(lookupRva, iatRva)], _⟩, rfl, ascends_cons ascends_nil⟩
          have goesOn : ¬ (!true) = true := by decide
          rw [if_neg goesOn, if_neg goesOn]
          by_cases last : lookupRva > uint32Max - entrySize image ∨
              iatRva > uint32Max - entrySize image
          · rw [if_pos last, if_pos last]
            exact ⟨⟨[(lookupRva, iatRva)], _⟩, rfl, ascends_cons ascends_nil⟩
          · rw [if_neg last, if_neg last]
            have sized := entry_size_bounds image
            have widest : uint32Max = 2 ^ 32 - 1 := rfl
            have nextLookup : u32Add lookupRva (entrySize image) = lookupRva + entrySize image :=
              u32_add_eq (by omega)
            have nextSlot : u32Add iatRva (entrySize image) = iatRva + entrySize image :=
              u32_add_eq (by omega)
            obtain ⟨walk, traced, ascends⟩ := @ih (lookupRva + entrySize image)
              (iatRva + entrySize image) (by omega) left
            rw [nextLookup, nextSlot, traced]
            exact ⟨_, rfl, ascends_cons ascends⟩

end Thunks

/-! ### Descriptors -/

/-- A callback is only called for a descriptor inside the directory. -/
def CallsInside (imports : DataDirectory) (visit : DescriptorVisit) : Prop :=
  visit.walk.callbacks ≠ 0 →
    imports.rva ≤ visit.cursor ∧ visit.cursor + 20 ≤ imports.rva + imports.size

section Descriptors
variable {image : Image} {imports : DataDirectory} {consumed rounds : Nat}
  {body : Descriptor → CString → σ → Option (Walk × Status × σ × Bool)}
  {keeps : Walk → Prop}

/-- What is found of the visits from a descriptor on. -/
structure VisitsFrom (imports : DataDirectory) (keeps : Walk → Prop) (cursor : Nat)
    (visits : List DescriptorVisit) : Prop where
  cursors : visits.map DescriptorVisit.cursor = List.range' cursor visits.length 20
  walks : ∀ visit ∈ visits, keeps visit.walk
  inside : ∀ visit ∈ visits, CallsInside imports visit

theorem visits_none (cursor : Nat) : VisitsFrom imports keeps cursor [] where
  cursors := rfl
  walks := fun _ member => by cases member
  inside := fun _ member => by cases member

theorem visits_cons {cursor : Nat} {walk : Walk} {visits : List DescriptorVisit}
    (kept : keeps walk) (inside : CallsInside imports ⟨cursor, walk⟩)
    (rest : VisitsFrom imports keeps (cursor + 20) visits) :
    VisitsFrom imports keeps cursor (⟨cursor, walk⟩ :: visits) where
  cursors := by rw [List.map_cons, List.length_cons, List.range'_succ, rest.cursors]
  walks := List.forall_mem_cons.mpr ⟨kept, rest.walks⟩
  inside := List.forall_mem_cons.mpr ⟨inside, rest.inside⟩

/-- The descriptor loop ends, and its cursor goes forward without a wrap: in a well-formed image a
descriptor whose last field can be read ends below `2^32`. Only the sum in the condition of the loop
may wrap, and then a field behind it cannot be read. -/
theorem traced_descriptors (formed : WellFormed image)
    (inImage : imports.rva + imports.size ≤ image.imageSize) (started : consumed ≤ imports.size)
    (enough : imports.size < consumed + 20 * rounds) (idle : keeps {})
    (total : ∀ descriptor moduleName state, ∃ walk left,
      body descriptor moduleName state = some (walk, left) ∧ keeps walk) (state : σ) :
    ∃ visits answer, tracedDescriptors image imports body rounds consumed state =
        some (visits, answer) ∧ VisitsFrom imports keeps (imports.rva + consumed) visits := by
  have narrow := formed.narrow
  induction rounds generalizing consumed state with
  | zero => omega
  | succ rounds ih =>
    rw [tracedDescriptors]
    by_cases past : u32Add consumed 20 > imports.size
    · rw [if_pos past]
      exact ⟨[], _, rfl, visits_none _⟩
    rw [if_neg past]
    have place : u32Add imports.rva consumed = imports.rva + consumed := u32_add_eq (by omega)
    have noWrap : ¬ imports.rva + consumed < imports.rva := by omega
    have quiet : CallsInside imports ⟨imports.rva + consumed, {}⟩ :=
      fun called => absurd rfl called
    have alone := visits_cons idle quiet (visits_none _)
    dsimp only
    rw [place, if_neg noWrap]
    cases read : readDescriptor image (imports.rva + consumed) with
    | error failure => exact ⟨_, _, rfl, alone⟩
    | ok descriptor =>
      dsimp only
      split
      · exact ⟨_, _, rfl, alone⟩
      cases readRvaString image descriptor.nameRva with
      | error failure => exact ⟨_, _, rfl, alone⟩
      | ok moduleName =>
        have whole := read_descriptor_in_image formed read
        have next : u32Add consumed 20 = consumed + 20 := u32_add_eq (by omega)
        have inside (walk : Walk) : CallsInside imports ⟨imports.rva + consumed, walk⟩ :=
          fun _ => ⟨by dsimp only; omega, by dsimp only; omega⟩
        obtain ⟨walk, ⟨status, left, more⟩, done, kept⟩ := total descriptor moduleName state
        dsimp only
        rw [done]
        dsimp only
        split
        · exact ⟨_, _, rfl, visits_cons kept (inside walk) (visits_none _)⟩
        split
        · exact ⟨_, _, rfl, visits_cons kept (inside walk) (visits_none _)⟩
        · obtain ⟨visits, answer, traced, from_⟩ :=
            @ih (consumed + 20) (by omega) (by omega) left
          rw [next, traced]
          exact ⟨_, _, rfl, visits_cons kept (inside walk) from_⟩

end Descriptors

/-! ### Fields -/

section Fields
variable {image : Image} {cursor offset value : Nat}

theorem exact_read_rva_u32 (image : Image) (rva : Nat) :
    exactReadRvaU32 image rva = exactly (readRvaU32 image rva) := exact_read_rva

theorem exact_next_field (formed : WellFormed image) (reached : cursor + offset ≤ image.imageSize)
    (next : Nat → Except (Halt Status) α) :
    (exactAdd (2 ^ 32) cursor offset >>= fun place => exactReadRvaU32 image place >>= next) =
      exactly (readRvaU32 image (u32Add cursor offset)) >>= next := by
  have narrow := formed.narrow
  rw [exact_add_fits (by omega), ok_bind, u32_add_eq (by omega), exact_read_rva_u32]

theorem next_field_reached (formed : WellFormed image) (reached : cursor + offset ≤ image.imageSize)
    (read : readRvaU32 image (u32Add cursor offset) = .ok value) :
    cursor + (offset + 4) ≤ image.imageSize := by
  have narrow := formed.narrow
  have inside := read_rva_in_image formed read
  rw [u32_add_eq (by omega)] at inside
  omega

/-- A field is only read behind one that lies in the image, so that no address of one wraps. -/
theorem exact_read_descriptor (formed : WellFormed image) (cursor : Nat) :
    exactReadDescriptor image cursor = exactly (readDescriptor image cursor) := by
  unfold exactReadDescriptor readDescriptor
  rw [exactly_bind, exact_read_rva_u32 image cursor]
  cases first : readRvaU32 image cursor with
  | error status => rfl
  | ok originalThunk =>
    have firstWord := read_rva_in_image formed first
    rw [exactly_ok, ok_bind, ok_bind, exact_next_field formed firstWord, exactly_bind]
    cases second : readRvaU32 image (u32Add cursor 4) with
    | error status => rfl
    | ok timestamp =>
      have secondWord := next_field_reached formed firstWord second
      rw [exactly_ok, ok_bind, ok_bind, exact_next_field formed secondWord, exactly_bind]
      cases third : readRvaU32 image (u32Add cursor 8) with
      | error status => rfl
      | ok forwarderChain =>
        have thirdWord := next_field_reached formed secondWord third
        rw [exactly_ok, ok_bind, ok_bind, exact_next_field formed thirdWord, exactly_bind]
        cases fourth : readRvaU32 image (u32Add cursor 12) with
        | error status => rfl
        | ok nameRva =>
          have fourthWord := next_field_reached formed thirdWord fourth
          rw [exactly_ok, ok_bind, ok_bind, exact_next_field formed fourthWord, exactly_bind]
          rfl

end Fields

/-! ### Both enumerations -/

section Enumerations
variable {image : Image} {file : ByteView}
  {body : Descriptor → CString → σ → Option (Walk × Status × σ × Bool)}

/-- How the cursors of an enumeration go: those of the descriptors forward from the start of the
directory, and those of the thunks of one forward from where its fields say, all as the exact sums;
and what is called back is called back for a descriptor inside the directory. -/
structure Disciplined (image : Image) (visits : List DescriptorVisit) : Prop where
  exact : visits.map DescriptorVisit.cursor =
    List.range' (image.directories directoryImport).rva visits.length 20
  increasing : (visits.map DescriptorVisit.cursor).Pairwise (· < ·)
  walks : ∀ visit ∈ visits, ∃ lookupRva iatRva,
    Ascends (entrySize image) lookupRva iatRva visit.walk.thunks
  lookups : ∀ visit ∈ visits, (visit.walk.thunks.map Prod.fst).Pairwise (· < ·)
  slots : ∀ visit ∈ visits, (visit.walk.thunks.map Prod.snd).Pairwise (· < ·)
  inside : ∀ visit ∈ visits, CallsInside (image.directories directoryImport) visit

def Ascending (image : Image) (walk : Walk) : Prop :=
  ∃ lookupRva iatRva, Ascends (entrySize image) lookupRva iatRva walk.thunks

theorem disciplined_of_visits {visits : List DescriptorVisit}
    (from_ : VisitsFrom (image.directories directoryImport) (Ascending image)
      (image.directories directoryImport).rva visits) : Disciplined image visits := by
  have positive := (entry_size_bounds image).1
  constructor
  · exact from_.cursors
  · rw [from_.cursors]
    exact List.pairwise_lt_range' _ (by decide)
  · exact from_.walks
  · intro visit member
    obtain ⟨lookupRva, iatRva, ascends⟩ := from_.walks visit member
    rw [ascends.lookups]
    exact List.pairwise_lt_range' _ positive
  · intro visit member
    obtain ⟨lookupRva, iatRva, ascends⟩ := from_.walks visit member
    rw [ascends.slots]
    exact List.pairwise_lt_range' _ positive
  · exact from_.inside

theorem traced_imports (formed : WellFormed image)
    (total : ∀ descriptor moduleName state, ∃ walk left,
      body descriptor moduleName state = some (walk, left) ∧ Ascending image walk) (state : σ) :
    ∃ visits answer, tracedImports image body state = some (visits, answer) ∧
      Disciplined image visits := by
  have narrow := formed.narrow
  unfold tracedImports
  dsimp only
  split
  · exact ⟨[], _, rfl, disciplined_of_visits (visits_none _)⟩
  split
  · exact ⟨[], _, rfl, disciplined_of_visits (visits_none _)⟩
  · rename_i outside
    have idle : Ascending image {} := ⟨0, 0, ascends_nil⟩
    obtain ⟨visits, answer, traced, from_⟩ := @traced_descriptors _ image
      (image.directories directoryImport) 0 (2 ^ 32) body (Ascending image) formed (by omega)
      (by omega) (by omega) idle total state
    exact ⟨visits, answer, traced, disciplined_of_visits from_⟩

theorem traced_symbols_total (callback : ImportSymbol → σ → σ × Bool) (descriptor : Descriptor)
    (moduleName : CString) (state : σ) :
    ∃ walk, tracedSymbols image callback descriptor moduleName state = some (walk,
        visitImportThunks image moduleName descriptor.originalThunk descriptor.firstThunk callback
          state) ∧ Ascending image walk := by
  unfold tracedSymbols visitImportThunks
  dsimp only
  by_cases missing : (if descriptor.originalThunk ≠ 0 then descriptor.originalThunk
      else descriptor.firstThunk) = 0 ∨ descriptor.firstThunk = 0
  · rw [if_pos missing, if_pos missing]
    exact ⟨{}, rfl, 0, 0, ascends_nil⟩
  · rw [if_neg missing, if_neg missing]
    have enough (start : Nat) : uint32Max - start < 2 ^ 32 := by
      unfold uint32Max
      omega
    obtain ⟨walk, traced, ascends⟩ := traced_thunks callback (enough _) state
    exact ⟨walk, traced, _, _, ascends⟩

/-- Every enumeration of the imports of a parsed image ends, its cursors go forward without a wrap,
and it only calls back for descriptors inside the directory. -/
theorem import_enumeration_ends (file : ByteView) (image : Image) (parsed : parse file = .ok image) :
    (∀ (State : Type) (callback : CString → State → State × Bool) (state : State),
      ∃ visits answer, tracedImports image (tracedModule callback) state = some (visits, answer) ∧
        forEachImport image callback state = some answer ∧ Disciplined image visits) ∧
    (∀ (State : Type) (callback : ImportSymbol → State → State × Bool) (state : State),
      ∃ visits answer,
        tracedImports image (tracedSymbols image callback) state = some (visits, answer) ∧
        forEachImportSymbol image callback state = some answer ∧ Disciplined image visits) ∧
    ∀ cursor, exactReadDescriptor image cursor = exactly (readDescriptor image cursor) := by
  have formed := (parse_well_formed parsed).2
  refine ⟨?_, ?_, exact_read_descriptor formed⟩
  · intro State callback state
    have total (descriptor : Descriptor) (moduleName : CString) (state : State) :
        ∃ walk left, tracedModule callback descriptor moduleName state = some (walk, left) ∧
          Ascending image walk := ⟨_, _, rfl, 0, 0, ascends_nil⟩
    obtain ⟨visits, answer, traced, disciplined⟩ := traced_imports formed total state
    refine ⟨visits, answer, traced, ?_, disciplined⟩
    have erased : (tracedImports image (tracedModule callback) state).map Prod.snd =
        forEachImport image callback state := by
      unfold tracedImports forEachImport
      dsimp only
      split
      · rfl
      split
      · rfl
      · exact traced_descriptors_modules (2 ^ 32) 0 state
    rw [← erased, traced]
    rfl
  · intro State callback state
    have total (descriptor : Descriptor) (moduleName : CString) (state : State) :
        ∃ walk left, tracedSymbols image callback descriptor moduleName state =
          some (walk, left) ∧ Ascending image walk := by
      obtain ⟨walk, done, ascending⟩ :=
        traced_symbols_total callback descriptor moduleName state
      exact ⟨walk, _, done, ascending⟩
    obtain ⟨visits, answer, traced, disciplined⟩ := traced_imports formed total state
    refine ⟨visits, answer, traced, ?_, disciplined⟩
    have erased : (tracedImports image (tracedSymbols image callback) state).map Prod.snd =
        forEachImportSymbol image callback state := by
      unfold tracedImports forEachImportSymbol
      dsimp only
      split
      · rfl
      split
      · rfl
      · refine traced_descriptors_symbols ?_ (2 ^ 32) 0 state
        intro descriptor moduleName state
        obtain ⟨walk, done, -⟩ :=
          @traced_symbols_total _ image callback descriptor moduleName state
        rw [done]
        rfl
    rw [← erased, traced]
    rfl

end Enumerations

/-- A 32-bit file that imports one symbol, the ordinal 5 of `A`; the directory, its thunks and the
name lie behind the headers. -/
def importingFile : ByteView where
  data
    | 0 => 0x4d
    | 1 => 0x5a
    | 0x3c => 0x40
    | 0x40 => 0x50
    | 0x41 => 0x45
    | 0x44 => 0x4c
    | 0x45 => 0x01
    | 0x46 => 1
    | 0x54 => 112
    | 0x58 => 0x0b
    | 0x59 => 0x01
    | 0x91 => 0x10
    | 0x94 => 0x24
    | 0x95 => 0x01
    | 0xb4 => 2
    | 0xc0 => 0xf0
    | 0xc4 => 40
    | 0xf0 => 0x18
    | 0xf1 => 0x01
    | 0xfc => 0x20
    | 0xfd => 0x01
    | 0x100 => 0x18
    | 0x101 => 0x01
    | 0x118 => 5
    | 0x11b => 0x80
    | 0x120 => 0x41
    | _ => 0
  size := 0x124

theorem importing_file_enumerated : ∃ image visits, parse importingFile = .ok image ∧
    tracedImports image (tracedSymbols image fun _ calls => (calls + 1, true)) 0 =
      some (visits, .ok, 1) ∧ Disciplined image visits := by
  have once : ((parse importingFile).toOption.bind fun image =>
      forEachImportSymbol image (fun _ calls => (calls + 1, true)) 0) = some (.ok, 1) := by
    decide +kernel
  obtain ⟨image, parsed, once⟩ := parse_evaluated once
  obtain ⟨-, symbols, -⟩ := import_enumeration_ends importingFile image parsed
  obtain ⟨visits, answer, traced, enumerated, disciplined⟩ :=
    symbols Nat (fun _ calls => (calls + 1, true)) 0
  have same : some answer = some (.ok, 1) := enumerated.symm.trans once
  cases same
  exact ⟨image, visits, parsed, traced, disciplined⟩

end SadLayer.Pe
