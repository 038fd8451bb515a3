import SadLayer.Library.Exact
import SadLayer.ParsedImage

/-! The two lookups of the export table. Each is written once more with every
computation on `uint32_t` watched, as the source has it between its guards, and
is found to halt nowhere; and what a name leads to is what its ordinal leads to,
since both come to the same function slot. -/
namespace SadLayer.Pe
open SadLayer.Library

variable {image : Image} {file : ByteView} {rva offset available value index slot : Nat}
  {directory : ExportDirectory} {name : CString} {result : Export}

/-! ### The lookups, with their arithmetic watched -/

def exactSectionWindow (file : ByteView) (rva : Nat) :
    List Section → Except (Halt Status) (Nat × Nat)
  | [] => .error (.failed .rvaNotMapped)
  | header :: rest =>
    let span := max header.virtualSize header.rawSize
    if header.virtualAddress ≤ rva then do
      let delta ← exactSub rva header.virtualAddress
      if delta < span then
        let offset := header.rawOffset + delta
        if delta ≥ header.rawSize ∨ rangeFits offset 1 file.size = false then
          .error (.failed .rvaNotMapped)
        else .ok (offset, min (header.rawSize - delta) (file.size - offset))
      else exactSectionWindow file rva rest
    else exactSectionWindow file rva rest

def exactRvaFileWindow (image : Image) (rva : Nat) : Except (Halt Status) (Nat × Nat) :=
  if rva < image.headersSize ∧ rva < image.file.size then
    .ok (rva, min (image.headersSize - rva) (image.file.size - rva))
  else exactSectionWindow image.file rva image.sections

def exactReadRva (read : ByteView → Nat → Option Nat) (width : Nat) (image : Image) (rva : Nat) :
    Except (Halt Status) Nat := do
  let (offset, available) ← exactRvaFileWindow image rva
  exactly (check (width ≤ available) .truncatedFile)
  exactly (orFail .truncatedFile (read image.file offset))

def exactReadRvaU16 : Image → Nat → Except (Halt Status) Nat := exactReadRva readU16 2
def exactReadRvaU32 : Image → Nat → Except (Halt Status) Nat := exactReadRva readU32 4

def exactReadRvaString (image : Image) (rva : Nat) : Except (Halt Status) CString := do
  let (offset, available) ← exactRvaFileWindow image rva
  exactly (orFail .truncatedFile (cString image.file.data offset available))

/-- A failure becomes an invalid image, a wrap remains one. -/
def orInvalid : Except (Halt Status) α → Except (Halt Status) α
  | .error (.failed _) => .error (.failed .invalidImage)
  | other => other

def exactRvaTableFits (image : Image) (rva count elementSize : Nat) : Except (Halt Status) Bool :=
  if count = 0 then .ok true
  else if count > uint64Max / elementSize then .ok false
  else match exactRvaFileWindow image rva with
    | .error (.failed _) => .ok false
    | .error .wrapped => .error .wrapped
    | .ok (_, available) => do
      let bytes ← exactMul (2 ^ 64) count elementSize
      return bytes ≤ available

def exactReadExportHeader (image : Image) (range : DataDirectory) :
    Except (Halt Status) ExportDirectory := do
  exactly (check (40 ≤ range.size ∧ range.rva < image.imageSize) .invalidImage)
  let room ← exactSub image.imageSize range.rva
  exactly (check (range.size ≤ room) .invalidImage)
  let ordinalBase ← exactReadRvaU32 image (← exactAdd (2 ^ 32) range.rva 16)
  let functionCount ← exactReadRvaU32 image (← exactAdd (2 ^ 32) range.rva 20)
  let nameCount ← exactReadRvaU32 image (← exactAdd (2 ^ 32) range.rva 24)
  let functionsRva ← exactReadRvaU32 image (← exactAdd (2 ^ 32) range.rva 28)
  let namesRva ← exactReadRvaU32 image (← exactAdd (2 ^ 32) range.rva 32)
  let nameOrdinalsRva ← exactReadRvaU32 image (← exactAdd (2 ^ 32) range.rva 36)
  exactly (check (functionCount != 0 && nameCount ≤ functionCount) .invalidImage)
  exactly (check (← exactRvaTableFits image functionsRva functionCount 4) .invalidImage)
  exactly (check (← exactRvaTableFits image namesRva nameCount 4) .invalidImage)
  exactly (check (← exactRvaTableFits image nameOrdinalsRva nameCount 2) .invalidImage)
  return {
    range := range
    ordinalBase := ordinalBase
    functionCount := functionCount
    nameCount := nameCount
    functionsRva := functionsRva
    namesRva := namesRva
    nameOrdinalsRva := nameOrdinalsRva }

def exactReadExportDirectory (image : Image) : Except (Halt Status) ExportDirectory :=
  let range := image.directories directoryExport
  if range.rva = 0 ∨ range.size = 0 then .error (.failed .exportNotFound)
  else orInvalid (exactReadExportHeader image range)

def exactBuildExportResult (image : Image) (directory : ExportDirectory) (functionIndex : Nat)
    (name : Option CString) : Except (Halt Status) Export := do
  exactly (check (functionIndex < directory.functionCount) .invalidImage)
  let room ← exactSub uint32Max directory.functionsRva
  exactly (check (functionIndex ≤ room / 4) .invalidImage)
  let slotRva ← exactAdd (2 ^ 32) directory.functionsRva (← exactMul (2 ^ 32) functionIndex 4)
  let functionRva ← orInvalid (exactReadRvaU32 image slotRva)
  exactly (check (functionRva ≠ 0) .exportNotFound)
  exactly (check (functionRva < image.imageSize) .invalidImage)
  let spare ← exactSub uint32Max directory.ordinalBase
  exactly (check (functionIndex ≤ spare) .invalidImage)
  let ordinal ← exactAdd (2 ^ 32) directory.ordinalBase functionIndex
  let exportsEnd ← exactAdd (2 ^ 32) directory.range.rva directory.range.size
  if directory.range.rva ≤ functionRva ∧ functionRva < exportsEnd then
    let forwarder ← orInvalid (exactReadRvaString image functionRva)
    return {
      name := name
      forwarder := some forwarder
      ordinal := ordinal
      rva := functionRva
      isForwarder := true }
  else return {
    name := name
    forwarder := none
    ordinal := ordinal
    rva := functionRva
    isForwarder := false }

def exactSearchExportNames (image : Image) (directory : ExportDirectory) (name : CString) :
    Nat → Nat → Except (Halt Status) Export
  | 0, _ => .error (.failed .exportNotFound)
  | remaining + 1, index => do
    let namesRoom ← exactSub uint32Max directory.namesRva
    exactly (check (index ≤ namesRoom / 4) .invalidImage)
    let ordinalsRoom ← exactSub uint32Max directory.nameOrdinalsRva
    exactly (check (index ≤ ordinalsRoom / 2) .invalidImage)
    let nameSlot ← exactAdd (2 ^ 32) directory.namesRva (← exactMul (2 ^ 32) index 4)
    let nameRva ← orInvalid (exactReadRvaU32 image nameSlot)
    let ordinalSlot ← exactAdd (2 ^ 32) directory.nameOrdinalsRva (← exactMul (2 ^ 32) index 2)
    let functionIndex ← orInvalid (exactReadRvaU16 image ordinalSlot)
    let candidate ← orInvalid (exactReadRvaString image nameRva)
    if candidate = name then
      exactBuildExportResult image directory functionIndex (some candidate)
    else exactSearchExportNames image directory name remaining (← exactAdd (2 ^ 32) index 1)

def exactFindExportByName (image : Image) (name : CString) : Except (Halt Status) Export := do
  let directory ← exactReadExportDirectory image
  exactSearchExportNames image directory name directory.nameCount 0

def exactFindExportByOrdinal (image : Image) (ordinal : Nat) : Except (Halt Status) Export := do
  let directory ← exactReadExportDirectory image
  exactly (check (directory.ordinalBase ≤ ordinal) .exportNotFound)
  let functionIndex ← exactSub ordinal directory.ordinalBase
  exactly (check (functionIndex < directory.functionCount) .exportNotFound)
  exactBuildExportResult image directory functionIndex none

/-! ### They halt nowhere -/

theorem exact_section_window (sections : List Section) :
    exactSectionWindow file rva sections = exactly (sectionWindow file rva sections) := by
  induction sections with
  | nil => rfl
  | cons header rest ih =>
    rw [exactSectionWindow, sectionWindow]
    dsimp only
    by_cases starts : header.virtualAddress ≤ rva
    · rw [if_pos starts, exact_sub_fits starts]
      by_cases within : rva - header.virtualAddress < max header.virtualSize header.rawSize
      · rw [if_pos ⟨starts, within⟩]
        refine (if_pos within).trans ?_
        split <;> rfl
      · rw [if_neg fun contains => within contains.2]
        exact (if_neg within).trans ih
    · rw [if_neg starts, if_neg fun contains => starts contains.1, ih]

theorem exact_rva_file_window : exactRvaFileWindow image rva = exactly (rvaFileWindow image rva) := by
  unfold exactRvaFileWindow rvaFileWindow
  split
  · rfl
  · exact exact_section_window image.sections

theorem exact_read_rva {read : ByteView → Nat → Option Nat} {width : Nat} :
    exactReadRva read width image rva = exactly (readRva read width image rva) := by
  unfold exactReadRva readRva
  simp only [exact_rva_file_window, exactly_bind]

theorem exact_read_rva_string :
    exactReadRvaString image rva = exactly (readRvaString image rva) := by
  unfold exactReadRvaString readRvaString
  simp only [exact_rva_file_window, exactly_bind]

theorem exact_rva_table_fits (count elementSize : Nat) :
    exactRvaTableFits image rva count elementSize =
      .ok (rvaTableFits image rva count elementSize) := by
  unfold exactRvaTableFits rvaTableFits
  by_cases empty : count = 0
  · rw [if_pos empty, if_pos empty]
  rw [if_neg empty, if_neg empty]
  by_cases many : count > uint64Max / elementSize
  · rw [if_pos many, if_pos many]
  rw [if_neg many, if_neg many, exact_rva_file_window]
  cases rvaFileWindow image rva with
  | error status => rfl
  | ok window =>
    have product : count * elementSize ≤ uint64Max := Nat.mul_le_of_le_div _ _ _ (by omega)
    have fits : count * elementSize < 2 ^ 64 := by
      unfold uint64Max at product
      omega
    simp only [exactly_ok, exact_mul_fits fits]
    rfl

theorem guard_pass {holds : Prop} [Decidable holds] {status : Status}
    {next : Unit → Except (Halt Status) α} (passes : holds) :
    (exactly (check holds status) >>= next) = next () := by
  rw [decide_eq_true passes]
  rfl

theorem guard_stop {holds : Prop} [Decidable holds] {status : Status}
    {next : Unit → Except (Halt Status) α} (stops : ¬ holds) :
    (exactly (check holds status) >>= next) = .error (.failed status) := by
  rw [decide_eq_false stops]
  rfl

theorem check_and {first second : Bool} {status : Status} :
    check (first && second) status = (check first status >>= fun _ => check second status) := by
  cases first <;> rfl

theorem u32_add_fits {left right : Nat} (fits : left + right < 2 ^ 32) :
    u32Add left right = left + right := Nat.mod_eq_of_lt fits

theorem exact_read_export_header (formed : WellFormed image) (range : DataDirectory) :
    exactReadExportHeader image range = exactly (readExportHeader image range) := by
  have narrow := formed.narrow
  unfold exactReadExportHeader readExportHeader
  by_cases starts : 40 ≤ range.size ∧ range.rva < image.imageSize
  · have starts' : (40 ≤ range.size && range.rva < image.imageSize) = true := by simpa using starts
    rw [guard_pass starts, exact_sub_fits (by omega), ok_bind, starts', Bool.true_and]
    by_cases ends : range.size ≤ image.imageSize - range.rva
    · -- the fields of the header lie inside the image, hence below `2^32`
      rw [guard_pass ends, decide_eq_true ends]
      simp (disch := omega) only [exact_add_fits, u32_add_fits, ok_bind, exactReadRvaU32,
        exact_read_rva, exact_rva_table_fits, check_and, exactly_bind, readRvaU32, bind_assoc]
      rfl
    · rw [guard_stop ends, decide_eq_false ends]
      rfl
  · have starts' : (40 ≤ range.size && range.rva < image.imageSize) = false := by
      simpa using starts
    rw [guard_stop starts, starts']
    rfl

theorem or_invalid_exactly (computation : Except Status α) :
    orInvalid (exactly computation) = match computation with
      | .error _ => .error (.failed .invalidImage)
      | .ok value => .ok value := by
  cases computation <;> rfl

theorem exact_read_export_directory (formed : WellFormed image) :
    exactReadExportDirectory image = exactly (readExportDirectory image) := by
  unfold exactReadExportDirectory readExportDirectory
  dsimp only
  split
  · rfl
  · rw [exact_read_export_header formed]
    cases readExportHeader image (image.directories directoryExport) <;> rfl

/-- What a directory that was read has in store for the lookups. -/
structure SoundDirectory (image : Image) (directory : ExportDirectory) : Prop where
  range : directory.range = image.directories directoryExport
  inside : directory.range.rva + directory.range.size ≤ image.imageSize
  ordinalBase : directory.ordinalBase < 2 ^ 32
  functionCount : directory.functionCount < 2 ^ 32
  functionsRva : directory.functionsRva < 2 ^ 32
  nameCount : directory.nameCount < 2 ^ 32
  namesRva : directory.namesRva < 2 ^ 32
  nameOrdinalsRva : directory.nameOrdinalsRva < 2 ^ 32

theorem read_export_directory_ok (found : readExportDirectory image = .ok directory) :
    SoundDirectory image directory := by
  unfold readExportDirectory at found
  dsimp only at found
  split at found
  · contradiction
  split at found
  · contradiction
  rename_i header
  cases found
  simp only [readExportHeader, bind_ok, check_ok, Bool.and_eq_true, decide_eq_true_eq, pure,
    Except.pure, Except.ok.injEq] at header
  obtain ⟨-, ⟨⟨-, starts⟩, ends⟩, ordinalBase, ordinalBaseRead, functionCount, functionCountRead,
    nameCount, nameCountRead, functionsRva, functionsRead, namesRva, namesRead, nameOrdinalsRva,
    nameOrdinalsRead, -, -, rfl⟩ := header
  exact {
    range := rfl
    inside := by dsimp only; omega
    ordinalBase := read_rva_u32_lt ordinalBaseRead
    functionCount := read_rva_u32_lt functionCountRead
    functionsRva := read_rva_u32_lt functionsRead
    nameCount := read_rva_u32_lt nameCountRead
    namesRva := read_rva_u32_lt namesRead
    nameOrdinalsRva := read_rva_u32_lt nameOrdinalsRead }

theorem exact_build_export_result (formed : WellFormed image)
    (sound : SoundDirectory image directory) (name : Option CString) :
    exactBuildExportResult image directory slot name =
      exactly (buildExportResult image directory slot name) := by
  have narrow := formed.narrow
  have inside := sound.inside
  have functions := sound.functionsRva
  have ordinals := sound.ordinalBase
  unfold exactBuildExportResult buildExportResult
  have room : directory.functionsRva ≤ uint32Max := Nat.le_of_lt_succ functions
  have below : directory.ordinalBase ≤ uint32Max := Nat.le_of_lt_succ ordinals
  by_cases inTable : slot < directory.functionCount
  · rw [guard_pass inTable, exact_sub_fits room, ok_bind]
    by_cases near : slot ≤ (uint32Max - directory.functionsRva) / 4
    · have fits : directory.functionsRva + slot * 4 < 2 ^ 32 := by
        unfold uint32Max at near
        omega
      rw [guard_pass near, exact_mul_fits (by omega), ok_bind, exact_add_fits fits, ok_bind,
        exactReadRvaU32, exact_read_rva, or_invalid_exactly, if_neg (by omega), readRvaU32]
      cases readRva readU32 4 image (directory.functionsRva + slot * 4) with
      | error status => rfl
      | ok functionRva =>
        dsimp only
        rw [ok_bind]
        by_cases present : functionRva ≠ 0
        · by_cases inImage : functionRva < image.imageSize
          · by_cases spare : slot ≤ uint32Max - directory.ordinalBase
            · have ordinal : directory.ordinalBase + slot < 2 ^ 32 := by
                unfold uint32Max at spare
                omega
              have exportsEnd : directory.range.rva + directory.range.size < 2 ^ 32 := by omega
              rw [guard_pass present, guard_pass inImage, exact_sub_fits below, ok_bind,
                guard_pass spare, exact_add_fits ordinal, ok_bind, exact_add_fits exportsEnd, ok_bind,
                u32_add_fits exportsEnd, if_neg present, if_neg (not_or.mpr ⟨by omega, by omega⟩)]
              split
              · rw [exact_read_rva_string]
                cases readRvaString image functionRva <;> rfl
              · rfl
            · rw [guard_pass present, guard_pass inImage, exact_sub_fits below, ok_bind,
                guard_stop spare, if_neg present, if_pos (.inr (by omega))]
              rfl
          · rw [guard_pass present, guard_stop inImage, if_neg present, if_pos (.inl (by omega))]
            rfl
        · rw [guard_stop present, if_pos (not_not.mp present)]
          rfl
    · rw [guard_stop near, if_pos (.inr (by omega))]
      rfl
  · rw [guard_stop inTable, if_pos (.inl (by omega))]
    rfl

theorem exact_search_export_names (formed : WellFormed image)
    (sound : SoundDirectory image directory) (remaining : Nat)
    (within : index + remaining ≤ directory.nameCount) :
    exactSearchExportNames image directory name remaining index =
      exactly (searchExportNames image directory name remaining index) := by
  have names : directory.namesRva ≤ uint32Max := Nat.le_of_lt_succ sound.namesRva
  have ordinals : directory.nameOrdinalsRva ≤ uint32Max := Nat.le_of_lt_succ sound.nameOrdinalsRva
  have count := sound.nameCount
  induction remaining generalizing index with
  | zero => rfl
  | succ remaining ih =>
    unfold exactSearchExportNames searchExportNames
    rw [exact_sub_fits names, ok_bind]
    by_cases nameFits : index ≤ (uint32Max - directory.namesRva) / 4
    · rw [guard_pass nameFits, exact_sub_fits ordinals, ok_bind]
      by_cases ordinalFits : index ≤ (uint32Max - directory.nameOrdinalsRva) / 2
      · have nameSlot : directory.namesRva + index * 4 < 2 ^ 32 := by
          unfold uint32Max at *
          omega
        have ordinalSlot : directory.nameOrdinalsRva + index * 2 < 2 ^ 32 := by
          unfold uint32Max at *
          omega
        rw [guard_pass ordinalFits, exact_mul_fits (by omega), ok_bind, exact_add_fits nameSlot, ok_bind,
          exactReadRvaU32, exact_read_rva, or_invalid_exactly, if_neg (by omega), readRvaU32]
        cases readRva readU32 4 image (directory.namesRva + index * 4) with
        | error status => rfl
        | ok nameRva =>
          dsimp only
          rw [ok_bind, exact_mul_fits (by omega), ok_bind, exact_add_fits ordinalSlot, ok_bind,
            exactReadRvaU16, exact_read_rva, or_invalid_exactly, readRvaU16]
          cases readRva readU16 2 image (directory.nameOrdinalsRva + index * 2) with
          | error status => rfl
          | ok functionIndex =>
            dsimp only
            rw [ok_bind, exact_read_rva_string, or_invalid_exactly]
            cases readRvaString image nameRva with
            | error status => rfl
            | ok candidate =>
              dsimp only
              rw [ok_bind]
              split
              · exact exact_build_export_result formed sound _
              · rw [exact_add_fits (by omega), ok_bind]
                exact ih (by omega)
      · rw [guard_stop ordinalFits, if_pos (.inr (by omega))]
        rfl
    · rw [guard_stop nameFits, if_pos (.inl (by omega))]
      rfl

theorem exact_find_export_by_name (formed : WellFormed image) (name : CString) :
    exactFindExportByName image name = exactly (findExportByName image name) := by
  unfold exactFindExportByName findExportByName
  rw [exact_read_export_directory formed, exactly_bind]
  cases found : readExportDirectory image with
  | error status => rfl
  | ok directory =>
    exact exact_search_export_names formed (read_export_directory_ok found) _ (by omega)

theorem exact_find_export_by_ordinal (formed : WellFormed image) (ordinal : Nat) :
    exactFindExportByOrdinal image ordinal = exactly (findExportByOrdinal image ordinal) := by
  unfold exactFindExportByOrdinal findExportByOrdinal
  rw [exact_read_export_directory formed, exactly_bind]
  cases found : readExportDirectory image with
  | error status => rfl
  | ok directory =>
    simp only [exactly_ok, ok_bind]
    by_cases above : directory.ordinalBase ≤ ordinal
    · rw [guard_pass above, exact_sub_fits above, ok_bind]
      by_cases inTable : ordinal - directory.ordinalBase < directory.functionCount
      · rw [guard_pass inTable, if_neg (not_or.mpr ⟨by omega, by omega⟩)]
        exact exact_build_export_result formed (read_export_directory_ok found) none
      · rw [guard_stop inTable, if_pos (.inr (by omega))]
        rfl
    · rw [guard_stop above, if_pos (.inl (by omega))]
      rfl

/-! ### What a lookup finds -/

/-- The name at a place of the name table. -/
def exportName (image : Image) (directory : ExportDirectory) (index : Nat) :
    Except Status CString := do
  let nameRva ← readRvaU32 image (directory.namesRva + index * 4)
  readRvaString image nameRva

/-- The function slot that belongs to a place of the name table. -/
def exportSlot (image : Image) (directory : ExportDirectory) (index : Nat) : Except Status Nat :=
  readRvaU16 image (directory.nameOrdinalsRva + index * 2)

/-- The first place of the name table that has the name. -/
structure FirstMatch (image : Image) (directory : ExportDirectory) (name : CString) (index : Nat) :
    Prop where
  inTable : index < directory.nameCount
  named : exportName image directory index = .ok name
  first : ∀ earlier < index,
    ∃ other, exportName image directory earlier = .ok other ∧ other ≠ name

/-- The export of a function slot. It is a forwarder exactly when its address lies in the export
directory, which no sum on the way there leaves behind. -/
structure SlotExport (image : Image) (directory : ExportDirectory) (slot : Nat) (result : Export) :
    Prop where
  inTable : slot < directory.functionCount
  address : readRvaU32 image (directory.functionsRva + slot * 4) = .ok result.rva
  inImage : 0 < result.rva ∧ result.rva < image.imageSize
  ordinal : result.ordinal = directory.ordinalBase + slot
  forwards : result.isForwarder = true ↔
    (image.directories directoryExport).rva ≤ result.rva ∧
      result.rva < (image.directories directoryExport).rva + (image.directories directoryExport).size
  forwarder : if result.isForwarder
    then ∃ text, readRvaString image result.rva = .ok text ∧ result.forwarder = some text
    else result.forwarder = none

theorem slot_export_of_built (formed : WellFormed image) (sound : SoundDirectory image directory)
    {name : Option CString} (built : buildExportResult image directory slot name = .ok result) :
    SlotExport image directory slot result ∧ result.name = name := by
  have narrow := formed.narrow
  have inside := sound.inside
  have exportsEnd : directory.range.rva + directory.range.size < 2 ^ 32 := by omega
  unfold buildExportResult at built
  rw [u32_add_fits exportsEnd, sound.range] at built
  split at built
  · contradiction
  rename_i inTable
  split at built
  · contradiction
  rename_i functionRva read
  split at built
  · contradiction
  split at built
  · contradiction
  dsimp only at built
  split at built
  · rename_i inDirectory
    split at built
    · contradiction
    rename_i forwarder text
    cases built
    exact ⟨{
      inTable := by omega
      address := read
      inImage := by dsimp only; omega
      ordinal := rfl
      forwards := by simpa using inDirectory
      forwarder := ⟨forwarder, text, rfl⟩ }, rfl⟩
  · rename_i outside
    cases built
    exact ⟨{
      inTable := by omega
      address := read
      inImage := by dsimp only; omega
      ordinal := rfl
      forwards := by simpa using outside
      forwarder := rfl }, rfl⟩

/-- The name given to a slot's export is not looked at. -/
theorem build_export_renamed (name other : Option CString) :
    buildExportResult image directory slot other =
      (buildExportResult image directory slot name).map fun result => { result with name := other } := by
  unfold buildExportResult
  split
  · rfl
  split
  · rfl
  split
  · rfl
  split
  · rfl
  dsimp only
  split
  · split
    · rfl
    · rfl
  · rfl

/-- A search that finds something goes past names that differ, to the first that does not. -/
theorem search_export_names_first {remaining : Nat}
    (found : searchExportNames image directory name remaining index = .ok result) :
    ∃ place slot, index ≤ place ∧ place < index + remaining ∧
      exportName image directory place = .ok name ∧
      (∀ earlier, index ≤ earlier → earlier < place →
        ∃ other, exportName image directory earlier = .ok other ∧ other ≠ name) ∧
      exportSlot image directory place = .ok slot ∧
      buildExportResult image directory slot (some name) = .ok result := by
  induction remaining generalizing index with
  | zero => contradiction
  | succ remaining ih =>
    unfold searchExportNames at found
    split at found
    · contradiction
    split at found
    · rename_i nameRva functionIndex nameRead slotRead
      split at found
      · contradiction
      rename_i candidate text
      have here : exportName image directory index = .ok candidate := by
        rw [exportName, nameRead]
        exact text
      split at found
      · rename_i same
        subst same
        refine ⟨index, functionIndex, Nat.le_refl _, by omega, here, ?_, slotRead, found⟩
        intro earlier above below
        omega
      · rename_i different
        obtain ⟨place, slot, above, below, named, before, rest⟩ := ih found
        refine ⟨place, slot, by omega, by omega, named, ?_, rest⟩
        intro earlier from' below
        rcases Nat.eq_or_lt_of_le from' with rfl | later
        · exact ⟨candidate, here, different⟩
        · exact before earlier later below
    · contradiction

/-- The export of a slot is found again under its ordinal. -/
theorem find_by_ordinal_of_slot (directoryRead : readExportDirectory image = .ok directory)
    (slotExport : SlotExport image directory slot result) :
    findExportByOrdinal image result.ordinal = buildExportResult image directory slot none := by
  have ordinal := slotExport.ordinal
  have inTable := slotExport.inTable
  unfold findExportByOrdinal
  rw [directoryRead]
  refine (if_neg (not_or.mpr ⟨by omega, by omega⟩)).trans ?_
  rw [ordinal, Nat.add_sub_cancel_left]

/-- The two lookups of every parsed image wrap nowhere, and what one finds by name the other finds
by its ordinal. -/
theorem export_lookups_agree (parsed : parse file = .ok image) :
    (∀ name, exactFindExportByName image name = exactly (findExportByName image name) ∧
        exactFindExportByName image name ≠ .error .wrapped) ∧
      (∀ ordinal, exactFindExportByOrdinal image ordinal =
          exactly (findExportByOrdinal image ordinal) ∧
        exactFindExportByOrdinal image ordinal ≠ .error .wrapped) ∧
      (∀ name result, findExportByName image name = .ok result →
        ∃ directory index slot, readExportDirectory image = .ok directory ∧
          FirstMatch image directory name index ∧ exportSlot image directory index = .ok slot ∧
          SlotExport image directory slot result ∧ result.name = some name ∧
          findExportByOrdinal image result.ordinal = .ok { result with name := none }) ∧
      ∀ ordinal result, findExportByOrdinal image ordinal = .ok result →
        ∃ directory, readExportDirectory image = .ok directory ∧
          SlotExport image directory (ordinal - directory.ordinalBase) result ∧
          result.ordinal = ordinal := by
  have formed := (parse_ok parsed).toWellFormed
  refine ⟨fun name => ?_, fun ordinal => ?_, ?_, ?_⟩
  · have same := exact_find_export_by_name formed name
    exact ⟨same, same ▸ exactly_ne_wrapped⟩
  · have same := exact_find_export_by_ordinal formed ordinal
    exact ⟨same, same ▸ exactly_ne_wrapped⟩
  · intro name result found
    simp only [findExportByName, bind_ok] at found
    obtain ⟨directory, directoryRead, found⟩ := found
    obtain ⟨index, slot, -, inTable, named, before, slotRead, built⟩ :=
      search_export_names_first found
    have sound := read_export_directory_ok directoryRead
    obtain ⟨slotExport, named'⟩ := slot_export_of_built formed sound built
    refine ⟨directory, index, slot, directoryRead, {
      inTable := by omega
      named := named
      first := fun earlier below => before earlier (Nat.zero_le _) below }, slotRead, slotExport,
      named', ?_⟩
    rw [find_by_ordinal_of_slot directoryRead slotExport, build_export_renamed (some name) none, built]
    rfl
  · intro ordinal result found
    simp only [findExportByOrdinal, bind_ok] at found
    obtain ⟨directory, directoryRead, found⟩ := found
    split at found
    · contradiction
    have sound := read_export_directory_ok directoryRead
    obtain ⟨slotExport, -⟩ := slot_export_of_built formed sound found
    refine ⟨directory, directoryRead, slotExport, ?_⟩
    rw [slotExport.ordinal]
    omega

/-- A 32-bit file that exports one function, `A`, under the ordinal 5; the directory and its tables
lie behind the headers. -/
def exportingFile : ByteView where
  data
    | 0 => 0x4d
    | 1 => 0x5a
    | 0x3c => 0x40
    | 0x40 => 0x50
    | 0x41 => 0x45
    | 0x44 => 0x4c
    | 0x45 => 0x01
    | 0x46 => 1
    | 0x54 => 104
    | 0x58 => 0x0b
    | 0x59 => 0x01
    | 0x91 => 0x10
    | 0x94 => 0x1c
    | 0x95 => 0x01
    | 0xb4 => 1
    | 0xb8 => 0xe8
    | 0xbc => 40
    | 0xf8 => 5
    | 0xfc => 1
    | 0x100 => 1
    | 0x104 => 0x10
    | 0x105 => 0x01
    | 0x108 => 0x14
    | 0x109 => 0x01
    | 0x10c => 0x18
    | 0x10d => 0x01
    | 0x111 => 0x02
    | 0x114 => 0x1a
    | 0x115 => 0x01
    | 0x11a => 0x41
    | _ => 0
  size := 0x11c

theorem exporting_file_lookups :
    ∃ image result, parse exportingFile = .ok image ∧
      findExportByName image [0x41] = .ok result ∧ result.name = some [0x41] ∧
      findExportByOrdinal image result.ordinal = .ok { result with name := none } := by
  have found : (parse exportingFile).toOption.bind (fun image =>
      some (findExportByName image [0x41]).isOk) = some true := by decide +kernel
  obtain ⟨image, parsed, found⟩ := parse_evaluated found
  cases looked : findExportByName image [0x41] with
  | error status =>
    rw [looked] at found
    cases found
  | ok result =>
    obtain ⟨-, -, byName, -⟩ := export_lookups_agree parsed
    obtain ⟨directory, index, slot, -, -, -, -, named, again⟩ := byName _ _ looked
    exact ⟨image, result, parsed, looked, named, again⟩

end SadLayer.Pe
