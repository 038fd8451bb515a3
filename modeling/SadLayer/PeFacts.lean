import SadLayer.Pe

/-! What a successful read, window or parse says about the file. -/
namespace SadLayer.Pe
open SadLayer.Library

variable {image : Image} {file : ByteView} {rva offset available value : Nat} {status : Status}

/-! ### Checks and reads -/

theorem bind_ok {first : Except Status α} {next : α → Except Status β} {result : β} :
    (first >>= next) = .ok result ↔ ∃ middle, first = .ok middle ∧ next middle = .ok result := by
  cases first with
  | error status => simp [bind, Except.bind]
  | ok middle => simp [bind, Except.bind]

@[simp] theorem check_ok {holds : Bool} {answer : Unit} :
    check holds status = .ok answer ↔ holds = true := by
  cases holds <;> simp [check]

@[simp] theorem or_fail_ok {read : Option α} {result : α} :
    orFail status read = .ok result ↔ read = some result := by
  cases read <;> simp [orFail]

@[simp] theorem range_fits_iff {length total : Nat} :
    rangeFits offset length total = true ↔ offset + length ≤ total := by
  simp only [rangeFits, Bool.and_eq_true, decide_eq_true_eq]
  omega

theorem read_u32_eq_some : readU32 file offset = some value ↔
    offset + 4 ≤ file.size ∧ loadLe file.data offset 4 = value := by
  simp [readU32]

theorem read_u32_lt (read : readU32 file offset = some value) : value < 2 ^ 32 := by
  obtain ⟨-, rfl⟩ := read_u32_eq_some.mp read
  exact load_le_lt file.data offset 4

/-- A word is read through a window wide enough for it. -/
theorem read_rva_ok {read : ByteView → Nat → Option Nat} {width : Nat}
    (found : readRva read width image rva = .ok value) :
    ∃ offset available, rvaFileWindow image rva = .ok (offset, available) ∧ width ≤ available ∧
      read image.file offset = some value := by
  simp only [readRva, bind_ok, check_ok, or_fail_ok, decide_eq_true_eq] at found
  obtain ⟨⟨offset, available⟩, window, -, wide, found⟩ := found
  exact ⟨offset, available, window, wide, found⟩

theorem read_rva_u32_lt (found : readRvaU32 image rva = .ok value) : value < 2 ^ 32 := by
  obtain ⟨offset, available, -, -, read⟩ := read_rva_ok found
  exact read_u32_lt read

/-! ### Exports -/

/-- An export has a 32-bit address, and a forwarder exactly when it says so. -/
theorem build_export_ok {directory : ExportDirectory} {functionIndex : Nat}
    {name : Option CString} {result : Export}
    (built : buildExportResult image directory functionIndex name = .ok result) :
    result.rva < 2 ^ 32 ∧ result.isForwarder = result.forwarder.isSome := by
  unfold buildExportResult at built
  split at built
  · contradiction
  · split at built
    · contradiction
    · rename_i functionRva found
      have narrow := read_rva_u32_lt found
      split at built
      · contradiction
      · split at built
        · contradiction
        · split at built
          · split at built
            · contradiction
            · cases built
              exact ⟨narrow, rfl⟩
          · cases built
            exact ⟨narrow, rfl⟩

theorem search_export_names_ok {directory : ExportDirectory} {name : CString}
    {remaining index : Nat} {result : Export}
    (found : searchExportNames image directory name remaining index = .ok result) :
    ∃ functionIndex candidate,
      buildExportResult image directory functionIndex candidate = .ok result := by
  induction remaining generalizing index with
  | zero => contradiction
  | succ remaining ih =>
    unfold searchExportNames at found
    split at found
    · contradiction
    · split at found
      · split at found
        · contradiction
        · split at found
          · exact ⟨_, _, found⟩
          · exact ih found
      · contradiction

theorem find_export_by_name_ok {name : CString} {result : Export}
    (found : findExportByName image name = .ok result) :
    result.rva < 2 ^ 32 ∧ result.isForwarder = result.forwarder.isSome := by
  simp only [findExportByName, bind_ok] at found
  obtain ⟨directory, -, found⟩ := found
  obtain ⟨functionIndex, candidate, built⟩ := search_export_names_ok found
  exact build_export_ok built

theorem find_export_by_ordinal_ok {ordinal : Nat} {result : Export}
    (found : findExportByOrdinal image ordinal = .ok result) :
    result.rva < 2 ^ 32 ∧ result.isForwarder = result.forwarder.isSome := by
  simp only [findExportByOrdinal, bind_ok] at found
  obtain ⟨directory, -, found⟩ := found
  split at found
  · contradiction
  · exact build_export_ok found

/-! ### Failures -/

/-- A failure is reported with a failing status. -/
def FailsProperly (answer : Except Status α) : Prop :=
  ∀ status, answer = .error status → status ≠ .ok

theorem fails_ok (result : α) : FailsProperly (Except.ok result) := by
  intro status failed
  contradiction

theorem fails_error (failed : status ≠ .ok) : FailsProperly (Except.error status : Except Status α) := by
  intro other same
  cases same
  exact failed

theorem fails_bind {first : Except Status α} {next : α → Except Status β}
    (fails : FailsProperly first) (later : ∀ middle, FailsProperly (next middle)) :
    FailsProperly (first >>= next) := by
  cases first with
  | error status => exact fails_error (fails status rfl)
  | ok middle => exact later middle

theorem read_export_directory_fails (image : Image) :
    FailsProperly (readExportDirectory image) := by
  unfold readExportDirectory
  dsimp only
  split
  · exact fails_error nofun
  · split
    · exact fails_error nofun
    · exact fails_ok _

theorem build_export_fails (image : Image) (directory : ExportDirectory) (functionIndex : Nat)
    (name : Option CString) :
    FailsProperly (buildExportResult image directory functionIndex name) := by
  unfold buildExportResult
  split
  · exact fails_error nofun
  · split
    · exact fails_error nofun
    · split
      · exact fails_error nofun
      · split
        · exact fails_error nofun
        · dsimp only
          split
          · split
            · exact fails_error nofun
            · exact fails_ok _
          · exact fails_ok _

theorem search_export_names_fails (image : Image) (directory : ExportDirectory) (name : CString)
    (remaining index : Nat) :
    FailsProperly (searchExportNames image directory name remaining index) := by
  induction remaining generalizing index with
  | zero => exact fails_error nofun
  | succ remaining ih =>
    unfold searchExportNames
    split
    · exact fails_error nofun
    · split
      · split
        · exact fails_error nofun
        · split
          · exact build_export_fails _ _ _ _
          · exact ih (index + 1)
      · exact fails_error nofun

theorem find_export_by_name_fails (image : Image) (name : CString) :
    FailsProperly (findExportByName image name) :=
  fails_bind (read_export_directory_fails image) fun directory =>
    search_export_names_fails image directory name directory.nameCount 0

theorem find_export_by_ordinal_fails (image : Image) (ordinal : Nat) :
    FailsProperly (findExportByOrdinal image ordinal) := by
  refine fails_bind (read_export_directory_fails image) fun directory => ?_
  split
  · exact fails_error nofun
  · exact build_export_fails _ _ _ _

/-- What was evaluated on the image of a file was so on one that the parser accepted. -/
theorem parse_evaluated {evaluate : Image → Option α} {value : α}
    (evaluated : (parse file).toOption.bind evaluate = some value) :
    ∃ image, parse file = .ok image ∧ evaluate image = some value := by
  cases parsed : parse file with
  | error status =>
    rw [parsed] at evaluated
    cases evaluated
  | ok image =>
    rw [parsed] at evaluated
    exact ⟨image, rfl, evaluated⟩

end SadLayer.Pe
