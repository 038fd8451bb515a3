import SadLayer.Loader

/-! Base relocation is all or nothing. What the validating pass accepts, the
applying pass decodes again from the same bytes, because no fixup it applies
touches the directory it is still reading. -/
namespace SadLayer.Loader
open SadLayer.Library SadLayer.Pe

variable {image : Image} {mapped : MappedImage} {bytes later : Nat → UInt8}
  {directory : DataDirectory} {size delta pageRva cursor blockEnd entry : Nat} {status : Status}

/-! ### The fixups of a directory -/

/-- A word of the image that relocation adds the delta to. -/
structure Fixup where
  rva : Nat
  type : Nat
  deriving DecidableEq, Repr

/-- Eight bytes for `DIR64`, four for `HIGHLOW`. -/
def Fixup.width (fixup : Fixup) : Nat :=
  if fixup.type = relocationDir64 then 8 else 4

/-- The fixup of an entry, none for an absolute one. -/
def entryFixup (pageRva entry : Nat) : Option Fixup :=
  if entry / 2 ^ 12 = relocationAbsolute then none
  else some { rva := pageRva + entry % 2 ^ 12, type := entry / 2 ^ 12 }

/-- The fixups of a block, in the order of its entries. -/
def blockFixups (bytes : Nat → UInt8) (pageRva blockEnd cursor : Nat) :
    List Fixup :=
  if cursor < blockEnd then
    (entryFixup pageRva (loadLe bytes cursor 2)).toList ++
      blockFixups bytes pageRva blockEnd (cursor + 2)
  else []
termination_by blockEnd - cursor

/-- The fixups of a directory that ends at `finish`, in the order of its blocks. -/
def directoryFixups (bytes : Nat → UInt8) (finish cursor : Nat) : List Fixup :=
  if cursor < finish ∧ 8 ≤ loadLe bytes (cursor + 4) 4 then
    blockFixups bytes (loadLe bytes cursor 4) (cursor + loadLe bytes (cursor + 4) 4)
        (cursor + 8) ++
      directoryFixups bytes finish (cursor + loadLe bytes (cursor + 4) 4)
  else []
termination_by finish - cursor

/-- Adds the delta at each fixup in turn. -/
def applyFixups (delta : Nat) (bytes : Nat → UInt8) (fixups : List Fixup) : Nat → UInt8 :=
  fixups.foldl (fun bytes fixup => addDelta bytes fixup.rva fixup.width delta) bytes

/-- A fixup of the image's own type, inside the image and off the directory. -/
structure Sound (image : Image) (size : Nat) (directory : DataDirectory) (fixup : Fixup) :
    Prop where
  supported : fixupWidth image fixup.type = some fixup.width
  inside : fixup.rva + fixup.width ≤ size
  apart : fixup.rva + fixup.width ≤ directory.rva ∨ directory.rva + directory.size ≤ fixup.rva

/-- The bytes of the directory are the same. -/
def SameDirectory (directory : DataDirectory) (bytes later : Nat → UInt8) : Prop :=
  ∀ index, directory.rva ≤ index → index < directory.rva + directory.size →
    later index = bytes index

theorem apply_fixups_append (delta : Nat) (bytes : Nat → UInt8) (first second : List Fixup) :
    applyFixups delta bytes (first ++ second) =
      applyFixups delta (applyFixups delta bytes first) second :=
  List.foldl_append

/-- A byte that no fixup covers keeps its value. -/
theorem apply_fixups_outside {fixups : List Fixup} {index : Nat}
    (outside : ∀ fixup ∈ fixups, index < fixup.rva ∨ fixup.rva + fixup.width ≤ index) :
    applyFixups delta bytes fixups index = bytes index := by
  induction fixups generalizing bytes with
  | nil => rfl
  | cons fixup rest ih =>
    have kept : addDelta bytes fixup.rva fixup.width delta index = bytes index :=
      store_le_outside (outside fixup List.mem_cons_self)
    rw [← kept]
    exact ih fun other member => outside other (List.mem_cons_of_mem _ member)

theorem apply_fixups_directory {fixups : List Fixup}
    (sound : ∀ fixup ∈ fixups, Sound image size directory fixup)
    (same : SameDirectory directory bytes later) :
    SameDirectory directory bytes (applyFixups delta later fixups) := by
  intro index above below
  rw [apply_fixups_outside, same index above below]
  intro fixup member
  have apart := (sound fixup member).apart
  omega

theorem load_same_directory {width : Nat} (same : SameDirectory directory bytes later)
    (starts : directory.rva ≤ cursor) (ends : cursor + width ≤ directory.rva + directory.size) :
    loadLe later cursor width = loadLe bytes cursor width :=
  load_le_congr fun index above below => same index (by omega) (by omega)

/-! ### One entry -/

theorem fixup_width_of_supported {fixup : Fixup} {width : Nat}
    (supported : fixupWidth image fixup.type = some width) : fixup.width = width := by
  unfold fixupWidth at supported
  unfold Fixup.width
  split at supported
  · rename_i dir64
    rw [if_pos dir64.1]
    exact Option.some.inj supported
  · split at supported
    · rename_i highLow
      have other : fixup.type ≠ relocationDir64 := by
        rw [highLow.1]
        nofun
      rw [if_neg other]
      exact Option.some.inj supported
    · contradiction

/-- What becomes of an entry, in either pass and over any bytes: it is rejected, it is absolute, or
it is a sound fixup. -/
inductive EntryOutcome (image : Image) (size : Nat) (directory : DataDirectory) (delta : Nat)
    (pageRva entry : Nat) : Prop where
  | rejected (status : Status) (failed : status ≠ .ok)
      (process : ∀ apply bytes, processEntry image size directory delta apply pageRva entry bytes =
        (status, bytes))
  | absolute (none' : entryFixup pageRva entry = none)
      (process : ∀ apply bytes, processEntry image size directory delta apply pageRva entry bytes =
        (.ok, bytes))
  | fixup (fixup : Fixup) (decoded : entryFixup pageRva entry = some fixup)
      (sound : Sound image size directory fixup)
      (process : ∀ apply bytes, processEntry image size directory delta apply pageRva entry bytes =
        (.ok, if apply then addDelta bytes fixup.rva fixup.width delta else bytes))

theorem entry_outcome (image : Image) (size : Nat) (directory : DataDirectory)
    (delta pageRva entry : Nat) : EntryOutcome image size directory delta pageRva entry := by
  by_cases far : pageRva > uint32Max - entry % 2 ^ 12
  · refine .rejected .invalidImage nofun fun apply bytes => ?_
    unfold processEntry
    rw [if_pos far]
  by_cases absolute : entry / 2 ^ 12 = relocationAbsolute
  · refine .absolute (if_pos absolute) fun apply bytes => ?_
    unfold processEntry
    rw [if_neg far, if_pos absolute]
  cases supported : fixupWidth image (entry / 2 ^ 12) with
  | none =>
    refine .rejected .unsupportedRelocation nofun fun apply bytes => ?_
    unfold processEntry
    rw [if_neg far, if_neg absolute, supported]
  | some width =>
    by_cases outside : pageRva + entry % 2 ^ 12 > size ∨ width > size - (pageRva + entry % 2 ^ 12)
    · refine .rejected .invalidImage nofun fun apply bytes => ?_
      unfold processEntry
      rw [if_neg far, if_neg absolute, supported]
      exact if_pos outside
    by_cases overlaps : pageRva + entry % 2 ^ 12 < directory.rva + directory.size ∧
        pageRva + entry % 2 ^ 12 + width > directory.rva
    · refine .rejected .invalidImage nofun fun apply bytes => ?_
      unfold processEntry
      rw [if_neg far, if_neg absolute, supported]
      exact (if_neg outside).trans (if_pos overlaps)
    · refine .fixup { rva := pageRva + entry % 2 ^ 12, type := entry / 2 ^ 12 } ?_ ?_ fun apply bytes => ?_
      · exact if_neg absolute
      · exact {
          supported := by rw [supported, fixup_width_of_supported supported]
          inside := by rw [fixup_width_of_supported supported]; dsimp only; omega
          apart := by rw [fixup_width_of_supported supported]; dsimp only; omega }
      · unfold processEntry
        rw [if_neg far, if_neg absolute, supported]
        rw [fixup_width_of_supported supported]
        refine ((if_neg outside).trans (if_neg overlaps)).trans ?_
        cases apply <;> rfl

/-! ### One pass validates, the other applies -/

/-- The validating pass over a part of the directory either fails, or every fixup there is sound
and the applying pass adds the delta at each of them, whatever was patched before. -/
def Validated (image : Image) (size : Nat) (directory : DataDirectory) (delta : Nat) (bytes : Nat → UInt8)
    (pass : Bool → (Nat → UInt8) → Status × (Nat → UInt8)) (fixups : List Fixup) : Prop :=
  (∃ status, status ≠ .ok ∧ pass false bytes = (status, bytes)) ∨
    (pass false bytes = (.ok, bytes) ∧ (∀ fixup ∈ fixups, Sound image size directory fixup) ∧
      ∀ later, SameDirectory directory bytes later →
        pass true later = (.ok, applyFixups delta later fixups))

theorem process_block_next {apply : Bool} (more : cursor < blockEnd) (current : Nat → UInt8) :
    processBlock image size directory delta apply pageRva blockEnd cursor current =
      match processEntry image size directory delta apply pageRva (loadLe current cursor 2)
          current with
      | (.ok, next) =>
        processBlock image size directory delta apply pageRva blockEnd (cursor + 2) next
      | failed => failed := by
  rw [processBlock]
  exact if_pos more

theorem process_block_validated (bytes : Nat → UInt8) (starts : directory.rva ≤ cursor)
    (ends : blockEnd ≤ directory.rva + directory.size) (even : (blockEnd - cursor) % 2 = 0) :
    Validated image size directory delta bytes
      (fun apply => processBlock image size directory delta apply pageRva blockEnd cursor)
      (blockFixups bytes pageRva blockEnd cursor) := by
  induction left : blockEnd - cursor using Nat.strong_induction_on generalizing cursor with
  | _ left' ih =>
    by_cases more : cursor < blockEnd
    · have tail := ih (blockEnd - (cursor + 2)) (by omega) (by omega) (by omega) rfl
      have reread (later : Nat → UInt8) (same : SameDirectory directory bytes later) :
          loadLe later cursor 2 = loadLe bytes cursor 2 :=
        load_same_directory same starts (by omega)
      unfold Validated at tail ⊢
      rw [blockFixups, if_pos more]
      simp only [process_block_next more]
      cases entry_outcome image size directory delta pageRva (loadLe bytes cursor 2) with
      | rejected status failed process =>
        refine .inl ⟨status, failed, ?_⟩
        rw [process]
        cases status with
        | ok => exact absurd rfl failed
        | _ => rfl
      | absolute none' process =>
        simp only [none', Option.toList_none, List.nil_append, process]
        rcases tail with rejected | ⟨accepted, sound, applies⟩
        · exact .inl rejected
        · refine .inr ⟨accepted, sound, fun later same => ?_⟩
          rw [reread later same, process]
          exact applies later same
      | fixup fixup decoded here process =>
        simp only [decoded, Option.toList_some, process]
        rcases tail with rejected | ⟨accepted, sound, applies⟩
        · exact .inl rejected
        · refine .inr ⟨accepted, ?_, fun later same => ?_⟩
          · intro other member
            rcases List.mem_append.mp member with first | rest
            · rw [List.mem_singleton] at first
              exact first ▸ here
            · exact sound other rest
          · rw [reread later same, process, apply_fixups_append]
            have alone : ∀ other ∈ [fixup], Sound image size directory other := by
              intro other member
              rw [List.mem_singleton] at member
              exact member ▸ here
            exact applies _ (apply_fixups_directory alone same)
    · have ended (apply : Bool) (current : Nat → UInt8) :
          processBlock image size directory delta apply pageRva blockEnd cursor current =
            (.ok, current) := by
        rw [processBlock, if_neg more]
      refine .inr ⟨ended false bytes, ?_, fun later _ => ?_⟩
      · intro fixup member
        rw [blockFixups, if_neg more] at member
        contradiction
      · rw [blockFixups, if_neg more]
        exact ended true later

/-- A block header that the loop accepts at this place of the directory. -/
def GoodBlock (directory : DataDirectory) (cursor blockSize : Nat) : Prop :=
  8 ≤ blockSize ∧ (blockSize - 8) % 2 = 0 ∧ cursor + blockSize ≤ directory.rva + directory.size

theorem process_blocks_next {apply : Bool} (current : Nat → UInt8)
    (good : GoodBlock directory cursor (loadLe current (cursor + 4) 4)) :
    processBlocks image size directory delta apply cursor current =
      match processBlock image size directory delta apply (loadLe current cursor 4)
          (cursor + loadLe current (cursor + 4) 4) (cursor + 8) current with
      | (.ok, next) =>
        processBlocks image size directory delta apply (cursor + loadLe current (cursor + 4) 4) next
      | failed => failed := by
  obtain ⟨header, even, ends⟩ := good
  rw [processBlocks]
  dsimp only
  rw [if_pos (by omega), if_neg (by omega)]
  exact if_neg (by omega)

theorem process_blocks_bad {apply : Bool} (current : Nat → UInt8)
    (more : cursor < directory.rva + directory.size)
    (bad : ¬ GoodBlock directory cursor (loadLe current (cursor + 4) 4)) :
    processBlocks image size directory delta apply cursor current = (.invalidImage, current) := by
  unfold GoodBlock at bad
  rw [processBlocks]
  dsimp only
  rw [if_pos more]
  split
  · rfl
  · rw [if_pos (by omega)]

theorem process_blocks_done {apply : Bool} (current : Nat → UInt8)
    (done : ¬ cursor < directory.rva + directory.size) :
    processBlocks image size directory delta apply cursor current = (.ok, current) := by
  rw [processBlocks]
  exact if_neg done

theorem process_blocks_validated (bytes : Nat → UInt8) (starts : directory.rva ≤ cursor) :
    Validated image size directory delta bytes
      (fun apply => processBlocks image size directory delta apply cursor)
      (directoryFixups bytes (directory.rva + directory.size) cursor) := by
  induction left : directory.rva + directory.size - cursor using Nat.strong_induction_on
    generalizing cursor with
  | _ left' ih =>
    by_cases more : cursor < directory.rva + directory.size
    · by_cases good : GoodBlock directory cursor (loadLe bytes (cursor + 4) 4)
      · have ⟨header, even, ends⟩ := good
        have tail : Validated image size directory delta bytes
            (fun apply => processBlocks image size directory delta apply
              (cursor + loadLe bytes (cursor + 4) 4))
            (directoryFixups bytes (directory.rva + directory.size)
              (cursor + loadLe bytes (cursor + 4) 4)) :=
          ih _ (by omega) (by omega) rfl
        have block : Validated image size directory delta bytes
            (fun apply => processBlock image size directory delta apply (loadLe bytes cursor 4)
              (cursor + loadLe bytes (cursor + 4) 4) (cursor + 8))
            (blockFixups bytes (loadLe bytes cursor 4)
              (cursor + loadLe bytes (cursor + 4) 4) (cursor + 8)) :=
          process_block_validated bytes (by omega) ends (by omega)
        unfold Validated at tail block ⊢
        dsimp only at tail block
        rw [directoryFixups, if_pos ⟨more, header⟩]
        simp only [process_blocks_next bytes good]
        rcases block with ⟨status, failed, rejected⟩ | ⟨accepted, blockSound, blockApplies⟩
        · refine .inl ⟨status, failed, ?_⟩
          rw [rejected]
          cases status with
          | ok => exact absurd rfl failed
          | _ => rfl
        · simp only [accepted]
          rcases tail with rejected | ⟨accepted, sound, applies⟩
          · exact .inl rejected
          · refine .inr ⟨accepted, ?_, fun later same => ?_⟩
            · intro fixup member
              rcases List.mem_append.mp member with first | rest
              · exact blockSound fixup first
              · exact sound fixup rest
            · have page : loadLe later cursor 4 = loadLe bytes cursor 4 :=
                load_same_directory same starts (by omega)
              have length : loadLe later (cursor + 4) 4 = loadLe bytes (cursor + 4) 4 :=
                load_same_directory same (by omega) (by omega)
              rw [process_blocks_next later (by rw [length]; exact good), page, length,
                blockApplies later same, apply_fixups_append]
              exact applies _ (apply_fixups_directory blockSound same)
      · exact .inl ⟨.invalidImage, by decide, process_blocks_bad bytes more good⟩
    · refine .inr ⟨process_blocks_done bytes more, ?_, fun later _ => ?_⟩
      · intro fixup member
        rw [directoryFixups, if_neg (by omega)] at member
        contradiction
      · rw [directoryFixups, if_neg (by omega)]
        exact process_blocks_done later more

/-! ### Relocation -/

/-- `load_base - mapped->load_base`. -/
def relocationDelta (mapped : MappedImage) (loadBase : Nat) : Nat :=
  (loadBase + 2 ^ 64 - mapped.loadBase) % 2 ^ 64

/-- The fixups in the relocation directory of an image, as it stands in the mapping. -/
def imageFixups (image : Image) (mapped : MappedImage) : List Fixup :=
  directoryFixups mapped.bytes
    ((image.directories directoryBaseReloc).rva + (image.directories directoryBaseReloc).size)
    (image.directories directoryBaseReloc).rva

/-- A relocation that is carried out: the delta once at every fixup of the original directory, no
other byte changed, and none of the directory among the fixups. -/
structure Relocated (image : Image) (mapped after : MappedImage) (loadBase : Nat) : Prop where
  exact : after = { mapped with
    bytes := applyFixups (relocationDelta mapped loadBase) mapped.bytes (imageFixups image mapped)
    loadBase := loadBase }
  supported : ∀ fixup ∈ imageFixups image mapped,
    fixupWidth image fixup.type = some fixup.width ∧ fixup.rva + fixup.width ≤ mapped.size
  others : ∀ index, (∀ fixup ∈ imageFixups image mapped,
    index < fixup.rva ∨ fixup.rva + fixup.width ≤ index) → after.bytes index = mapped.bytes index
  directory : SameDirectory (image.directories directoryBaseReloc) mapped.bytes after.bytes

/-- Moving a mapping to another base is refused, or carried out. -/
theorem apply_relocations_cases (image : Image) (mapped : MappedImage) {loadBase : Nat}
    (moves : loadBase ≠ mapped.loadBase) :
    (∃ status, status ≠ .ok ∧ applyRelocations image mapped loadBase = (status, mapped)) ∨
      ∃ after, applyRelocations image mapped loadBase = (.ok, after) ∧
        Relocated image mapped after loadBase := by
  unfold applyRelocations
  split
  · exact .inl ⟨_, by simp, rfl⟩
  split
  · exact .inl ⟨_, by simp, rfl⟩
  split
  · exact .inl ⟨_, by simp, rfl⟩
  split
  · exact .inl ⟨_, by simp, rfl⟩
  dsimp only
  split
  · exact .inl ⟨_, by simp, rfl⟩
  split
  · exact .inl ⟨_, by simp, rfl⟩
  have validated : Validated image mapped.size (image.directories directoryBaseReloc)
      (relocationDelta mapped loadBase) mapped.bytes
      (fun apply => processBlocks image mapped.size (image.directories directoryBaseReloc)
        (relocationDelta mapped loadBase) apply (image.directories directoryBaseReloc).rva)
      (imageFixups image mapped) := process_blocks_validated mapped.bytes (Nat.le_refl _)
  unfold Validated at validated
  dsimp only at validated
  simp only [processRelocations]
  rcases validated with ⟨status, failed, rejected⟩ | ⟨accepted, sound, applies⟩
  · left
    simp only [relocationDelta] at rejected
    rw [rejected]
    cases status with
    | ok => exact absurd rfl failed
    | _ => exact ⟨_, by simp, rfl⟩
  · right
    have applied := applies mapped.bytes fun _ _ _ => rfl
    simp only [relocationDelta] at accepted applied
    rw [accepted]
    dsimp only
    rw [applied]
    refine ⟨_, rfl, {
      exact := rfl
      supported := fun fixup member => ⟨(sound fixup member).supported, (sound fixup member).inside⟩
      others := fun index outside => apply_fixups_outside outside
      directory := apply_fixups_directory sound fun _ _ _ => rfl }⟩

/-- What the validating pass accepted cannot fail in the applying pass, which decodes the fixups of
the original directory whatever else of the image has changed by then. -/
def AppliesValidated (image : Image) (mapped : MappedImage) (delta : Nat) : Prop :=
  let directory := image.directories directoryBaseReloc
  (processRelocations image mapped directory delta false).1 = .ok →
    ∀ later, SameDirectory directory mapped.bytes later →
      processRelocations image { mapped with bytes := later } directory delta true =
        (.ok, applyFixups delta later (imageFixups image mapped))

theorem applies_validated (image : Image) (mapped : MappedImage) (delta : Nat) :
    AppliesValidated image mapped delta := by
  intro accepted later same
  rcases process_blocks_validated mapped.bytes
    (Nat.le_refl (image.directories directoryBaseReloc).rva) with
    ⟨status, failed, rejected⟩ | ⟨-, -, applies⟩
  · exact absurd ((congrArg Prod.fst rejected).symm.trans accepted) failed
  · exact applies later same

/-- Moving a mapping to another base fails without a trace, or is carried out exactly; and no
failure comes from the applying pass. -/
theorem relocation_all_or_nothing (image : Image) (mapped : MappedImage) (loadBase : Nat)
    (moves : loadBase ≠ mapped.loadBase) :
    (((applyRelocations image mapped loadBase).1 ≠ .ok ∧
        (applyRelocations image mapped loadBase).2 = mapped) ∨
      ((applyRelocations image mapped loadBase).1 = .ok ∧
        Relocated image mapped (applyRelocations image mapped loadBase).2 loadBase)) ∧
      AppliesValidated image mapped (relocationDelta mapped loadBase) := by
  refine ⟨?_, applies_validated image mapped _⟩
  obtain ⟨status, failed, refused⟩ | ⟨after, moved, relocated⟩ :=
    apply_relocations_cases image mapped moves
  · rw [refused]
    exact .inl ⟨failed, rfl⟩
  · rw [moved]
    exact .inr ⟨rfl, relocated⟩

def smallImage : Image where
  file := { data := fun _ => 0, size := 0 }
  isPe32Plus := true
  imageSize := 32
  directories := fun index => if index = directoryBaseReloc then { rva := 16, size := 12 } else {}

/-- The word `0x34` at zero. One block at 16: a `DIR64` fixup at zero, and an absolute entry. -/
def smallMapping : MappedImage where
  address := 0x7000
  bytes
    | 0 => 0x34
    | 20 => 12
    | 25 => 0xa0
    | _ => 0
  size := 32

theorem small_relocation :
    imageFixups smallImage smallMapping = [{ rva := 0, type := relocationDir64 }] ∧
      loadLe smallMapping.bytes 0 8 = 0x34 ∧
      ∃ after, applyRelocations smallImage smallMapping 0x1000 = (.ok, after) ∧
        loadLe after.bytes 0 8 = 0x1034 ∧ Relocated smallImage smallMapping after 0x1000 ∧
        AppliesValidated smallImage smallMapping 0x1000 := by
  have status : (applyRelocations smallImage smallMapping 0x1000).1 = .ok := by decide +kernel
  have word : loadLe (applyRelocations smallImage smallMapping 0x1000).2.bytes 0 8 = 0x1034 := by
    decide +kernel
  obtain ⟨⟨failed, -⟩ | ⟨-, relocated⟩, applies⟩ :=
    relocation_all_or_nothing smallImage smallMapping 0x1000 (by decide)
  · exact absurd status failed
  · exact ⟨by decide +kernel, by decide +kernel, _, Prod.ext status rfl, word, relocated, applies⟩

end SadLayer.Loader
