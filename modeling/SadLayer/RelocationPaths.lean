import SadLayer.Relocation

/-! Relocation is independent of the path: where no two fixups overlap in part, two
moves come to one, and moving back restores the image. The deltas add up modulo
the width of the words, and each move reads the same directory. -/
namespace SadLayer.Loader
open SadLayer.Library SadLayer.Pe

variable {image : Image} {mapped moved : MappedImage} {bytes later : Nat → UInt8}
  {directory : DataDirectory} {size delta other cursor blockEnd pageRva loadBase : Nat}
  {first second : Nat} {fixup next : Fixup} {fixups : List Fixup}

/-! ### Deltas at one fixup, and at many -/

/-- Two fixups patch one range, or ranges that do not overlap. -/
def Compatible (fixup next : Fixup) : Prop :=
  (fixup.rva = next.rva ∧ fixup.width = next.width) ∨
    fixup.rva + fixup.width ≤ next.rva ∨ next.rva + next.width ≤ fixup.rva

instance : DecidableRel Compatible := fun fixup next => by
  unfold Compatible
  infer_instance

theorem fixup_width_cases (fixup : Fixup) : fixup.width = 8 ∨ fixup.width = 4 := by
  unfold Fixup.width
  split
  · exact .inl rfl
  · exact .inr rfl

/-- Two deltas at one place add up. -/
theorem add_delta_add {rva width : Nat} :
    addDelta (addDelta bytes rva width first) rva width second =
      addDelta bytes rva width (first + second) := by
  unfold addDelta
  rw [load_le_store_le, store_le_store_le, Nat.mod_mod, Nat.mod_add_mod, Nat.add_assoc]

theorem add_delta_comm (compatible : Compatible fixup next) :
    addDelta (addDelta bytes fixup.rva fixup.width first) next.rva next.width second =
      addDelta (addDelta bytes next.rva next.width second) fixup.rva fixup.width first := by
  rcases compatible with ⟨sameRva, sameWidth⟩ | apart
  · rw [sameRva, sameWidth, add_delta_add, add_delta_add, Nat.add_comm]
  · unfold addDelta
    rw [load_le_store_le_disjoint (by omega), load_le_store_le_disjoint (by omega)]
    exact store_le_comm (by omega)

/-- A delta at one fixup can be added before or after the deltas at others. -/
theorem apply_fixups_comm (compatible : ∀ next ∈ fixups, Compatible fixup next) :
    applyFixups second (addDelta bytes fixup.rva fixup.width first) fixups =
      addDelta (applyFixups second bytes fixups) fixup.rva fixup.width first := by
  induction fixups generalizing bytes with
  | nil => rfl
  | cons next rest ih =>
    have tail := fun other member => compatible other (List.mem_cons_of_mem _ member)
    calc applyFixups second (addDelta bytes fixup.rva fixup.width first) (next :: rest)
        = applyFixups second (addDelta (addDelta bytes fixup.rva fixup.width first) next.rva
            next.width second) rest := rfl
      _ = applyFixups second (addDelta (addDelta bytes next.rva next.width second) fixup.rva
            fixup.width first) rest := by
          rw [add_delta_comm (compatible next List.mem_cons_self)]
      _ = addDelta (applyFixups second bytes (next :: rest)) fixup.rva fixup.width first :=
          ih tail

/-- Two rounds over the fixups come to one, with the sum of the deltas. -/
theorem apply_fixups_add (compatible : fixups.Pairwise Compatible) :
    applyFixups second (applyFixups first bytes fixups) fixups =
      applyFixups (first + second) bytes fixups := by
  induction fixups generalizing bytes with
  | nil => rfl
  | cons fixup rest ih =>
    obtain ⟨here, tail⟩ := List.pairwise_cons.mp compatible
    let patched := addDelta bytes fixup.rva fixup.width first
    calc applyFixups second (applyFixups first bytes (fixup :: rest)) (fixup :: rest)
        = applyFixups second (addDelta (applyFixups first patched rest) fixup.rva fixup.width second)
            rest := rfl
      _ = applyFixups second (applyFixups first (addDelta patched fixup.rva fixup.width second) rest)
            rest := congrArg (fun start => applyFixups second start rest)
              (apply_fixups_comm here).symm
      _ = applyFixups (first + second) (addDelta patched fixup.rva fixup.width second) rest := ih tail
      _ = applyFixups (first + second) bytes (fixup :: rest) := by
          rw [add_delta_add]
          rfl

/-- Only the delta's value modulo `2^64` counts. -/
theorem add_delta_congr (same : first % 2 ^ 64 = second % 2 ^ 64) :
    addDelta bytes fixup.rva fixup.width first = addDelta bytes fixup.rva fixup.width second := by
  unfold addDelta
  congr 1
  rcases fixup_width_cases fixup with wide | narrow
  · rw [wide]
    omega
  · rw [narrow]
    omega

theorem apply_fixups_congr (same : first % 2 ^ 64 = second % 2 ^ 64) :
    applyFixups first bytes fixups = applyFixups second bytes fixups := by
  induction fixups generalizing bytes with
  | nil => rfl
  | cons fixup rest ih =>
    exact ih.trans (congrArg (fun start => applyFixups second start rest) (add_delta_congr same))

theorem apply_fixups_zero : applyFixups 0 bytes fixups = bytes := by
  induction fixups with
  | nil => rfl
  | cons fixup rest ih =>
    have nothing : addDelta bytes fixup.rva fixup.width 0 = bytes := by
      unfold addDelta
      rw [Nat.add_zero, Nat.mod_eq_of_lt (load_le_lt _ _ _), store_le_load_le]
    calc applyFixups 0 bytes (fixup :: rest)
        = applyFixups 0 (addDelta bytes fixup.rva fixup.width 0) rest := rfl
      _ = bytes := by rw [nothing, ih]

/-! ### A directory read again -/

/-- The validating pass looks at neither the delta nor the words it would patch. -/
theorem process_entry_validates (entry : Nat) :
    processEntry image size directory delta false pageRva entry bytes =
      ((processEntry image size directory other false pageRva entry later).1, bytes) := by
  unfold processEntry
  dsimp only
  split
  · rfl
  split
  · rfl
  split
  · rfl
  split
  · rfl
  split
  · rfl
  · rfl

/-- A block ends with the status of an entry that is rejected. -/
theorem process_block_stops {apply : Bool} (more : cursor < blockEnd)
    (stops : (processEntry image size directory delta apply pageRva (loadLe bytes cursor 2)
      bytes).1 ≠ .ok) :
    (processBlock image size directory delta apply pageRva blockEnd cursor bytes).1 ≠ .ok := by
  rw [process_block_next more]
  split
  · rename_i next accepted
    rw [accepted] at stops
    exact absurd rfl stops
  · exact stops

theorem process_blocks_stops {apply : Bool}
    (good : GoodBlock directory cursor (loadLe bytes (cursor + 4) 4))
    (stops : (processBlock image size directory delta apply (loadLe bytes cursor 4)
      (cursor + loadLe bytes (cursor + 4) 4) (cursor + 8) bytes).1 ≠ .ok) :
    (processBlocks image size directory delta apply cursor bytes).1 ≠ .ok := by
  rw [process_blocks_next bytes good]
  split
  · rename_i next accepted
    rw [accepted] at stops
    exact absurd rfl stops
  · exact stops

theorem block_fixups_next (more : cursor < blockEnd) (bytes : Nat → UInt8) :
    blockFixups bytes pageRva blockEnd cursor =
      (entryFixup pageRva (loadLe bytes cursor 2)).toList ++
        blockFixups bytes pageRva blockEnd (cursor + 2) := by
  rw [blockFixups, if_pos more]

theorem directory_fixups_next {finish : Nat} (bytes : Nat → UInt8) (more : cursor < finish)
    (header : 8 ≤ loadLe bytes (cursor + 4) 4) :
    directoryFixups bytes finish cursor =
      blockFixups bytes (loadLe bytes cursor 4) (cursor + loadLe bytes (cursor + 4) 4) (cursor + 8) ++
        directoryFixups bytes finish (cursor + loadLe bytes (cursor + 4) 4) := by
  rw [directoryFixups, if_pos ⟨more, header⟩]

/-- A block that was accepted is accepted again and has the same fixups, whatever became of the
image around the directory. -/
theorem process_block_again (same : SameDirectory directory bytes later)
    (starts : directory.rva ≤ cursor) (ends : blockEnd ≤ directory.rva + directory.size)
    (even : (blockEnd - cursor) % 2 = 0)
    (accepted : (processBlock image size directory delta false pageRva blockEnd cursor bytes).1 = .ok) :
    processBlock image size directory delta false pageRva blockEnd cursor bytes = (.ok, bytes) ∧
      processBlock image size directory other false pageRva blockEnd cursor later = (.ok, later) ∧
      blockFixups later pageRva blockEnd cursor = blockFixups bytes pageRva blockEnd cursor := by
  induction left : blockEnd - cursor using Nat.strong_induction_on generalizing cursor with
  | _ left' ih =>
    by_cases more : cursor < blockEnd
    · have entry : loadLe later cursor 2 = loadLe bytes cursor 2 :=
        load_same_directory same starts (by omega)
      have validates := @process_entry_validates image bytes bytes directory size delta delta pageRva
        (loadLe bytes cursor 2)
      have again := @process_entry_validates image later bytes directory size other delta pageRva
        (loadLe bytes cursor 2)
      have status : (processEntry image size directory delta false pageRva (loadLe bytes cursor 2)
          bytes).1 = .ok := by
        by_contra stops
        exact process_block_stops more stops accepted
      rw [status] at validates again
      rw [process_block_next more, validates] at accepted
      rw [process_block_next more, process_block_next more, entry, again, validates,
        block_fixups_next more, block_fixups_next more, entry]
      obtain ⟨here, rest, fixups⟩ := ih (blockEnd - (cursor + 2)) (by omega) (by omega) (by omega)
        accepted rfl
      exact ⟨here, rest, congrArg _ fixups⟩
    · rw [processBlock, if_neg more, processBlock, if_neg more, blockFixups, if_neg more, blockFixups,
        if_neg more]
      exact ⟨rfl, rfl, rfl⟩

/-- So is a whole directory. -/
theorem process_blocks_again (same : SameDirectory directory bytes later)
    (starts : directory.rva ≤ cursor)
    (accepted : (processBlocks image size directory delta false cursor bytes).1 = .ok) :
    processBlocks image size directory other false cursor later = (.ok, later) ∧
      directoryFixups later (directory.rva + directory.size) cursor =
        directoryFixups bytes (directory.rva + directory.size) cursor := by
  induction left : directory.rva + directory.size - cursor using Nat.strong_induction_on
    generalizing cursor with
  | _ left' ih =>
    by_cases more : cursor < directory.rva + directory.size
    · by_cases good : GoodBlock directory cursor (loadLe bytes (cursor + 4) 4)
      · have ⟨header, even, ends⟩ := good
        have page : loadLe later cursor 4 = loadLe bytes cursor 4 :=
          load_same_directory same starts (by omega)
        have length : loadLe later (cursor + 4) 4 = loadLe bytes (cursor + 4) 4 :=
          load_same_directory same (by omega) (by omega)
        have block : (processBlock image size directory delta false (loadLe bytes cursor 4)
            (cursor + loadLe bytes (cursor + 4) 4) (cursor + 8) bytes).1 = .ok := by
          by_contra stops
          exact process_blocks_stops good stops accepted
        obtain ⟨here, again, fixups⟩ := @process_block_again image bytes later directory size delta
          other (cursor + 8) _ _ same (by omega) ends (by omega) block
        rw [process_blocks_next bytes good, here] at accepted
        obtain ⟨rest, others⟩ := ih _ (by omega) (by omega) accepted rfl
        rw [process_blocks_next later (by rw [length]; exact good), page, length, again,
          directory_fixups_next later more (by rw [length]; exact header),
          directory_fixups_next bytes more header, page, length, fixups]
        exact ⟨rest, congrArg _ others⟩
      · rw [process_blocks_bad bytes more good] at accepted
        contradiction
    · rw [process_blocks_done later more, directoryFixups, if_neg (by omega), directoryFixups,
        if_neg (by omega)]
      exact ⟨rfl, rfl⟩

/-! ### Moves -/

/-- What is asked of a mapping before it is moved to a base. -/
structure Movable (image : Image) (mapped : MappedImage) (loadBase : Nat) : Prop where
  buffer : mapped.address ≠ 0
  size : mapped.size = image.imageSize
  open' : mapped.protectionsFinalized ≠ true
  clean : mapped.storage ≠ .virtualTainted
  place : mapped.storage = .virtual → loadBase = mapped.address
  range : image.isPe32Plus = false → loadBase ≤ uint32Max

/-- A relocation directory that the validating pass accepts. It looks at no delta. -/
structure Relocatable (image : Image) (mapped : MappedImage) : Prop where
  present : (image.directories directoryBaseReloc).rva ≠ 0 ∧
    (image.directories directoryBaseReloc).size ≠ 0
  inside : (image.directories directoryBaseReloc).rva ≤ mapped.size ∧
    (image.directories directoryBaseReloc).size ≤
      mapped.size - (image.directories directoryBaseReloc).rva
  accepted : (processBlocks image mapped.size (image.directories directoryBaseReloc) 0 false
    (image.directories directoryBaseReloc).rva mapped.bytes).1 = .ok

theorem movable_of_ok (ok : (applyRelocations image mapped loadBase).1 = .ok) :
    Movable image mapped loadBase ∧ (loadBase ≠ mapped.loadBase → Relocatable image mapped) := by
  unfold applyRelocations at ok
  split at ok
  · contradiction
  split at ok
  · contradiction
  split at ok
  · contradiction
  split at ok
  · contradiction
  rename_i buffer state place range
  refine ⟨{
    buffer := fun none' => buffer (.inl none')
    size := by simpa using fun differs => buffer (.inr differs)
    open' := fun finalized => state (.inl finalized)
    clean := fun tainted => state (.inr tainted)
    place := by simpa using fun virtual differs => place ⟨virtual, differs⟩
    range := fun narrow => Nat.le_of_not_lt fun far => range ⟨narrow, far⟩ }, fun moves => ?_⟩
  rw [if_neg moves] at ok
  dsimp only at ok
  split at ok
  · contradiction
  split at ok
  · contradiction
  rename_i present inside
  have accepted : (processRelocations image mapped (image.directories directoryBaseReloc)
      ((loadBase + 2 ^ 64 - mapped.loadBase) % 2 ^ 64) false).1 = .ok := by
    split at ok
    · rename_i next validated
      rw [validated]
    · rename_i status next _ rejected
      rw [rejected]
      exact ok
  exact {
    present := not_or.mp present
    inside := by omega
    accepted := congrArg Prod.fst (process_blocks_again (fun _ _ _ => rfl) (Nat.le_refl _) accepted).1 }

theorem ok_of_movable (movable : Movable image mapped loadBase)
    (relocatable : loadBase ≠ mapped.loadBase → Relocatable image mapped) :
    (applyRelocations image mapped loadBase).1 = .ok := by
  have buffer := movable.buffer
  have size := movable.size
  have range := movable.range
  unfold applyRelocations
  rw [if_neg (not_or.mpr ⟨buffer, not_not.mpr size⟩),
    if_neg (not_or.mpr ⟨movable.open', movable.clean⟩),
    if_neg fun wrong => wrong.2 (movable.place wrong.1),
    if_neg fun wrong => Nat.not_lt.mpr (range wrong.1) wrong.2]
  by_cases stays : loadBase = mapped.loadBase
  · rw [if_pos stays]
  have ⟨present, inside, accepted⟩ := relocatable stays
  rw [if_neg stays]
  dsimp only
  rw [if_neg (not_or.mpr present), if_neg (by omega)]
  have again := (@process_blocks_again image mapped.bytes mapped.bytes _ _ 0
    ((loadBase + 2 ^ 64 - mapped.loadBase) % 2 ^ 64) _ (fun _ _ _ => rfl) (Nat.le_refl _) accepted).1
  rcases process_blocks_validated mapped.bytes (Nat.le_refl _) with
    ⟨status, failed, rejected⟩ | ⟨-, -, applies⟩
  · dsimp only at rejected
    rw [again] at rejected
    exact absurd (congrArg Prod.fst rejected).symm failed
  · simp only [processRelocations]
    dsimp only at applies
    rw [again]
    dsimp only
    rw [applies mapped.bytes fun _ _ _ => rfl]

/-- A mapping that was moved can be moved on as it could at first, by the same fixups. -/
theorem relocated_directory (relocated : Relocated image mapped moved loadBase)
    (relocatable : Relocatable image mapped) :
    Relocatable image moved ∧ imageFixups image moved = imageFixups image mapped := by
  have again := @process_blocks_again image mapped.bytes moved.bytes _ mapped.size 0 0 _
    relocated.directory (Nat.le_refl _) relocatable.accepted
  have size : moved.size = mapped.size := by rw [relocated.exact]
  refine ⟨{
    present := relocatable.present
    inside := by rw [size]; exact relocatable.inside
    accepted := by rw [size, again.1] }, again.2⟩

/-- The deltas of two moves come to the delta of the direct one. -/
theorem relocation_delta_add {base middle last : Nat} (narrow : base < 2 ^ 64)
    (between : middle < 2 ^ 64) :
    ((middle + 2 ^ 64 - base) % 2 ^ 64 + (last + 2 ^ 64 - middle) % 2 ^ 64) % 2 ^ 64 =
      (last + 2 ^ 64 - base) % 2 ^ 64 % 2 ^ 64 := by
  omega

theorem stays_put (stays : loadBase = mapped.loadBase)
    (moves : applyRelocations image mapped loadBase = (.ok, moved)) : moved = mapped := by
  unfold applyRelocations at moves
  rw [if_pos stays] at moves
  split at moves
  · cases moves
  split at moves
  · cases moves
  split at moves
  · cases moves
  split at moves
  · cases moves
  exact (congrArg Prod.snd moves).symm

theorem relocated_of_moves (stays : loadBase ≠ mapped.loadBase)
    (moves : applyRelocations image mapped loadBase = (.ok, moved)) :
    Relocated image mapped moved loadBase := by
  obtain ⟨status, failed, refused⟩ | ⟨after, carried, relocated⟩ :=
    apply_relocations_cases image mapped stays
  · rw [moves] at refused
    exact absurd (congrArg Prod.fst refused).symm failed
  · rw [moves] at carried
    obtain ⟨-, rfl⟩ := Prod.mk.inj carried
    exact relocated

/-- A move that succeeds adds its delta at every fixup, also where it is no move at all. -/
theorem moved_exactly (moves : applyRelocations image mapped loadBase = (.ok, moved)) :
    moved = { mapped with
      bytes := applyFixups (relocationDelta mapped loadBase) mapped.bytes (imageFixups image mapped)
      loadBase := loadBase } := by
  by_cases stays : loadBase = mapped.loadBase
  · have nothing : relocationDelta mapped loadBase = 0 := by
      unfold relocationDelta
      omega
    rw [stays_put stays moves, nothing, apply_fixups_zero, stays]
  · exact (relocated_of_moves stays moves).exact

/-- Where no two fixups overlap in part, a mapping moved twice is the mapping moved once. -/
theorem moved_onward {middle direct : MappedImage} {between last : Nat}
    (base : mapped.loadBase < 2 ^ 64) (narrow : between < 2 ^ 64)
    (compatible : (imageFixups image mapped).Pairwise Compatible)
    (first : applyRelocations image mapped between = (.ok, middle))
    (directly : applyRelocations image mapped last = (.ok, direct)) :
    applyRelocations image middle last = (.ok, direct) := by
  by_cases stays : between = mapped.loadBase
  · rw [stays_put stays first]
    exact directly
  have relocated := relocated_of_moves stays first
  have relocatable := (movable_of_ok (congrArg Prod.fst first)).2 stays
  have ⟨again, sameFixups⟩ := relocated_directory relocated relocatable
  have movable := (movable_of_ok (congrArg Prod.fst directly)).1
  have onward : Movable image middle last := by
    rw [relocated.exact]
    exact { movable with }
  have ok := ok_of_movable onward fun _ => again
  cases outcome : applyRelocations image middle last with
  | mk status moved =>
    rw [outcome] at ok
    dsimp only at ok
    subst ok
    have twice := moved_exactly outcome
    have delta : (relocationDelta mapped between + relocationDelta middle last) % 2 ^ 64 =
        relocationDelta mapped last % 2 ^ 64 := by
      rw [relocated.exact]
      exact relocation_delta_add base narrow
    have bytes : applyFixups (relocationDelta middle last) middle.bytes (imageFixups image middle) =
        applyFixups (relocationDelta mapped last) mapped.bytes (imageFixups image mapped) := by
      rw [sameFixups, ← apply_fixups_congr delta, ← apply_fixups_add compatible]
      exact congrArg (fun start => applyFixups (relocationDelta middle last) start _)
        (congrArg MappedImage.bytes relocated.exact)
    rw [twice, bytes, moved_exactly directly, relocated.exact]

/-- Relocation is independent of the path, for all bases that it can be carried out for: two moves
leave what the direct one leaves, and a move back restores the mapping. -/
theorem relocation_path_independent {middle : MappedImage} {between last : Nat}
    (base : mapped.loadBase < 2 ^ 64) (narrow : between < 2 ^ 64)
    (compatible : (imageFixups image mapped).Pairwise Compatible)
    (first : applyRelocations image mapped between = (.ok, middle)) :
    (∀ direct, applyRelocations image mapped last = (.ok, direct) →
        applyRelocations image middle last = (.ok, direct)) ∧
      ∀ back, applyRelocations image middle mapped.loadBase = (.ok, back) → back = mapped := by
  refine ⟨fun direct => moved_onward base narrow compatible first, fun back returns => ?_⟩
  have home : Movable image mapped mapped.loadBase := by
    have movable := (movable_of_ok (congrArg Prod.fst returns)).1
    rw [moved_exactly first] at movable
    exact { movable with }
  have ok := ok_of_movable home fun moves => absurd rfl moves
  cases stays : applyRelocations image mapped mapped.loadBase with
  | mk status kept =>
    rw [stays] at ok
    dsimp only at ok
    subst ok
    have again := moved_onward base narrow compatible first stays
    rw [returns] at again
    rw [← stays_put rfl stays]
    exact congrArg Prod.snd again

/-- A 64-bit image whose one fixup, listed twice, is the word at zero. -/
def twiceListedImage : Image where
  file := { data := fun _ => 0, size := 0 }
  isPe32Plus := true
  imageSize := 32
  directories := fun index => if index = directoryBaseReloc then { rva := 16, size := 12 } else {}

def twiceListedMapping : MappedImage where
  address := 0x7000
  bytes
    | 20 => 12
    | 25 => 0xa0
    | 27 => 0xa0
    | _ => 0
  size := 32
  storage := .heap

theorem twice_listed_paths :
    twiceListedMapping.storage = .heap ∧
      (imageFixups twiceListedImage twiceListedMapping).Pairwise Compatible ∧
      ∃ middle, applyRelocations twiceListedImage twiceListedMapping 0x1000 = (.ok, middle) ∧
        (∀ direct, applyRelocations twiceListedImage twiceListedMapping 0x9000 = (.ok, direct) →
          applyRelocations twiceListedImage middle 0x9000 = (.ok, direct)) ∧
        ∀ back, applyRelocations twiceListedImage middle 0 = (.ok, back) →
          back = twiceListedMapping := by
  have compatible : (imageFixups twiceListedImage twiceListedMapping).Pairwise Compatible := by
    decide +kernel
  have moves : (applyRelocations twiceListedImage twiceListedMapping 0x1000).1 = .ok := by
    decide +kernel
  cases first : applyRelocations twiceListedImage twiceListedMapping 0x1000 with
  | mk status middle =>
    rw [first] at moves
    dsimp only at moves
    subst moves
    exact ⟨rfl, compatible, middle, rfl,
      relocation_path_independent (by decide) (by decide) compatible first⟩

end SadLayer.Loader
