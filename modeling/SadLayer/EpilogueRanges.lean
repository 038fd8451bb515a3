import SadLayer.DeclaredEpilogues
import SadLayer.Library.Exact

/-! Where a record of version 2 declares epilogues: inside its function, behind
its prologue, and just where the search for one finds it. -/
namespace SadLayer.Unwind
open SadLayer.Library SadLayer.Pe

/-! ### What the bytes declare -/

def CodeSlot.isDescriptor (slot : CodeSlot) : Bool := slot.operation == .epilog

def describedSlots (codes : List CodeSlot) : List CodeSlot :=
  codes.takeWhile CodeSlot.isDescriptor

/-- The common size of the epilogues, which the first descriptor holds. -/
def declaredSize (codes : List CodeSlot) : Nat := (codes.head?.map CodeSlot.codeOffset).getD 0

/-- How far before the end of its function codes declare an epilogue: its own size, where the first
descriptor says that one ends the function, and what each other descriptor holds that is no
padding. -/
inductive Declares : List CodeSlot → Nat → Prop where
  | atEnd (descriptor : first.isDescriptor = true) (implicit : first.info % 2 = 1) :
      Declares (first :: rest) first.codeOffset
  | before (descriptor : first.isDescriptor = true) (member : slot ∈ describedSlots rest)
      (counted : slot.distance ≠ 0) : Declares (first :: rest) slot.distance

/-- A place in the epilogue that begins so far before the end of the function. -/
def InEpilogue (record : UnwindRecord) (entry : RuntimeFunction) (distance relativePc : Nat) :
    Prop :=
  entry.endAddress - distance ≤ relativePc ∧
    relativePc < entry.endAddress - distance + declaredSize record.codes

/-- An epilogue that is not empty, ends with its function at the latest, and begins behind the
prologue. -/
structure WellPlaced (record : UnwindRecord) (entry : RuntimeFunction) (distance : Nat) : Prop where
  nonempty : 0 < declaredSize record.codes
  begins : distance ≤ entry.endAddress
  behind : entry.beginAddress + record.prologueSize ≤ entry.endAddress - distance
  ends : entry.endAddress - distance + declaredSize record.codes ≤ entry.endAddress

/-! ### The search, with its subtractions watched -/

/-- Whether the epilogue from `start` on holds the place, and where. -/
def exactOffset (start size relativePc : Nat) : Except (Halt Empty) (Option Nat) :=
  if start ≤ relativePc then do
    let offset ← exactSub relativePc start
    .ok (if offset < size then some offset else none)
  else .ok none

def exactFindExplicit (entry : RuntimeFunction) (size relativePc : Nat) :
    List CodeSlot → Except (Halt Empty) (Option Nat)
  | [] => .ok none
  | descriptor :: rest =>
    if descriptor.distance = 0 then .ok none
    else do
      let start ← exactSub entry.endAddress descriptor.distance
      let found ← exactOffset start size relativePc
      if found.isSome then .ok found else exactFindExplicit entry size relativePc rest

def exactFindImplicit (record : UnwindRecord) (entry : RuntimeFunction) (relativePc : Nat) :
    Except (Halt Empty) (Option Nat) :=
  if record.epilogues.implicitAtEnd then do
    let start ← exactSub entry.endAddress record.epilogues.size
    exactOffset start record.epilogues.size relativePc
  else .ok none

/-- `find_v2_epilogue`, which stops where a subtraction would wrap. -/
def exactFindV2Epilogue (record : UnwindRecord) (entry : RuntimeFunction) (relativePc : Nat) :
    Except (Halt Empty) (Option Nat) :=
  if record.epilogues.present = false then .ok none
  else do
    let found ← exactFindImplicit record entry relativePc
    if found.isSome then .ok found
    else exactFindExplicit entry record.epilogues.size relativePc record.descriptors

/-! ### The prefix -/

/-- Descriptors of which only the last one may hold no distance. -/
def PaddingLast : List CodeSlot → Prop
  | [] => True
  | slot :: rest => (slot.distance = 0 → rest = []) ∧ PaddingLast rest

/-- What the parsed prefix tells of the epilogues that codes declare. -/
structure Described (codes : List CodeSlot) (epilogues : V2EpilogueInfo) : Prop where
  size : epilogues.size = declaredSize codes
  nonempty : 0 < epilogues.size
  padding : PaddingLast ((codes.take epilogues.codeSlots).drop 1)
  declares : ∀ distance, Declares codes distance ↔
    (epilogues.implicitAtEnd = true ∧ distance = epilogues.size) ∨
      ∃ slot ∈ (codes.take epilogues.codeSlots).drop 1, slot.distance = distance ∧ distance ≠ 0

section Prefix
variable {codes rest : List CodeSlot} {first : CodeSlot} {epilogues : V2EpilogueInfo}

theorem scan_descriptors_padding {index last : Nat} {hasEpilogue found : Bool}
    (scanned : scanDescriptors codes index hasEpilogue = (last, found)) :
    ∃ count, last = index + count ∧ PaddingLast (codes.take count) ∧
      ∀ slot ∈ codes.take count, slot.isDescriptor = true := by
  induction codes generalizing index hasEpilogue with
  | nil =>
    cases scanned
    exact ⟨0, rfl, trivial, by simp⟩
  | cons descriptor rest ih =>
    rw [scanDescriptors] at scanned
    split at scanned
    · cases scanned
      exact ⟨0, rfl, trivial, by simp⟩
    rename_i epilog
    rw [not_not] at epilog
    have own : descriptor.isDescriptor = true := by simp [CodeSlot.isDescriptor, epilog]
    split at scanned
    · cases scanned
      exact ⟨1, rfl, ⟨fun _ => rfl, trivial⟩, by simpa using own⟩
    · rename_i counted
      obtain ⟨count, reached, padding, all⟩ := ih scanned
      exact ⟨count + 1, by omega, ⟨fun zero => absurd zero counted, padding⟩,
        by simpa using ⟨own, all⟩⟩

/-- Where no descriptor follows, the scan has seen all of them. -/
theorem described_slots_take {count : Nat}
    (all : ∀ slot ∈ codes.take count, slot.isDescriptor = true)
    (stops : ∀ slot ∈ (codes.drop count).head?, slot.isDescriptor = false) :
    describedSlots codes = codes.take count := by
  have behind : (codes.drop count).takeWhile CodeSlot.isDescriptor = [] := by
    cases dropped : codes.drop count with
    | nil => rfl
    | cons slot rest =>
      rw [dropped] at stops
      exact List.takeWhile_cons_of_neg (by simp [stops slot rfl])
  calc codes.takeWhile CodeSlot.isDescriptor
      = (codes.take count ++ codes.drop count).takeWhile CodeSlot.isDescriptor := by
        rw [List.take_append_drop]
    _ = codes.take count ++ (codes.drop count).takeWhile CodeSlot.isDescriptor :=
        List.takeWhile_append_of_pos all
    _ = codes.take count := by rw [behind, List.append_nil]

/-- The parsed prefix is there where a descriptor is, and tells all that they declare. -/
theorem parse_prefix_described (parsed : parseV2EpiloguePrefix codes 2 = some epilogues) :
    (epilogues.present = true → Described codes epilogues) ∧
      (epilogues.present = false → ∀ distance, ¬Declares codes distance) := by
  cases codes with
  | nil =>
    cases parsed
    refine ⟨fun present => absurd present (by decide), ?_⟩
    rintro - distance ⟨⟩
  | cons first descriptors =>
    rw [parseV2EpiloguePrefix] at parsed
    split at parsed
    · rename_i plain
      have none_ : first.isDescriptor = false := by simpa [CodeSlot.isDescriptor] using plain
      cases parsed
      refine ⟨fun present => absurd present (by decide), ?_⟩
      rintro - distance (⟨descriptor, -⟩ | ⟨descriptor, -, -⟩) <;>
        exact absurd (descriptor.symm.trans none_) (by decide)
    rename_i described
    have own : first.isDescriptor = true := by simpa [CodeSlot.isDescriptor] using described
    split at parsed
    · contradiction
    rename_i sized
    rw [not_or] at sized
    cases scanned : scanDescriptors descriptors 1 (first.info == 1) with
    | mk index hasEpilogue =>
      simp only [scanned, Option.ite_none_left_eq_some, Option.some.injEq] at parsed
      obtain ⟨accepted, rfl⟩ := parsed
      obtain ⟨count, rfl, padding, all⟩ := scan_descriptors_padding scanned
      rw [not_or, not_or, Nat.add_comm 1 count, List.drop_succ_cons] at accepted
      have stops : ∀ slot ∈ (descriptors.drop count).head?, slot.isDescriptor = false := by
        intro slot member
        have last := accepted.2.2
        rw [Option.mem_def.mp member] at last
        simpa [CodeSlot.isDescriptor] using last
      have run := described_slots_take all stops
      have behind : ((first :: descriptors).take (1 + count)).drop 1 = descriptors.take count := by
        rw [Nat.add_comm, List.take_succ_cons]
        rfl
      have filled : 0 < first.low.toNat :=
        Nat.pos_of_ne_zero fun zero => sized.1 (UInt8.toNat_inj.mp zero)
      refine ⟨fun _ => ⟨rfl, filled, by rwa [behind], fun distance => ?_⟩,
        fun absent => by cases absent⟩
      rw [behind, ← run]
      constructor
      · rintro (⟨-, implicit⟩ | ⟨-, member, counted⟩)
        · exact .inl ⟨by simp; omega, rfl⟩
        · exact .inr ⟨_, member, rfl, counted⟩
      · rintro (⟨implicit, rfl⟩ | ⟨slot, member, rfl, counted⟩)
        · exact .atEnd own (by simp at implicit; omega)
        · exact .before own member counted

end Prefix

/-! ### The search -/

section Find
variable {record : UnwindRecord} {entry : RuntimeFunction} {descriptors : List CodeSlot}
  {size start relativePc offset : Nat} {answer : Option Nat}

/-- The answer names the one place in an epilogue of that start. -/
theorem exact_offset_spec : exactOffset start size relativePc =
    .ok (if start ≤ relativePc ∧ relativePc - start < size then some (relativePc - start)
      else none) := by
  unfold exactOffset
  by_cases behind : start ≤ relativePc
  · rw [if_pos behind, exact_sub_fits behind, ok_bind]
    simp [behind]
  · simp [behind]

theorem exact_find_explicit (word : entry.endAddress < 2 ^ 32)
    (fits : ∀ descriptor ∈ descriptors, descriptor.distance ≤ entry.endAddress) :
    exactFindExplicit entry size relativePc descriptors =
      .ok (findExplicitEpilogue entry size relativePc descriptors) := by
  induction descriptors with
  | nil => rfl
  | cons descriptor rest ih =>
    have own := fits descriptor (by simp)
    rw [exactFindExplicit, findExplicitEpilogue, sub32_of_le word own]
    by_cases padding : descriptor.distance = 0
    · rw [if_pos padding, if_pos padding]
    rw [if_neg padding, if_neg padding, exact_sub_fits own, ok_bind, exact_offset_spec, ok_bind]
    by_cases inside : entry.endAddress - descriptor.distance ≤ relativePc ∧
        relativePc - (entry.endAddress - descriptor.distance) < size
    · rw [if_pos inside, if_pos inside]
      rfl
    · rw [if_neg inside, if_neg inside]
      exact ih fun other member => fits other (by simp [member])

theorem find_explicit_some (word : entry.endAddress < 2 ^ 32)
    (fits : ∀ descriptor ∈ descriptors, descriptor.distance ≤ entry.endAddress)
    (found : findExplicitEpilogue entry size relativePc descriptors = some offset) :
    offset < size ∧ ∃ descriptor ∈ descriptors, descriptor.distance ≠ 0 ∧
      relativePc = entry.endAddress - descriptor.distance + offset := by
  induction descriptors with
  | nil => cases found
  | cons descriptor rest ih =>
    have own := fits descriptor (by simp)
    rw [findExplicitEpilogue, sub32_of_le word own] at found
    split at found
    · cases found
    rename_i counted
    split at found
    · cases found
      exact ⟨by omega, descriptor, by simp, counted, by omega⟩
    · obtain ⟨small, other, member, counted, place⟩ :=
        ih (fun other member => fits other (by simp [member])) found
      exact ⟨small, other, by simp [member], counted, place⟩

/-- The search stops at padding, behind which there is no epilogue. -/
theorem find_explicit_none (word : entry.endAddress < 2 ^ 32)
    (fits : ∀ descriptor ∈ descriptors, descriptor.distance ≤ entry.endAddress)
    (padding : PaddingLast descriptors)
    (missed : findExplicitEpilogue entry size relativePc descriptors = none) :
    ∀ descriptor ∈ descriptors, descriptor.distance ≠ 0 →
      ¬(entry.endAddress - descriptor.distance ≤ relativePc ∧
        relativePc < entry.endAddress - descriptor.distance + size) := by
  induction descriptors with
  | nil => simp
  | cons descriptor rest ih =>
    have own := fits descriptor (by simp)
    rw [findExplicitEpilogue, sub32_of_le word own] at missed
    intro other member counted
    split at missed
    · rename_i zero
      rw [padding.1 zero, List.mem_singleton] at member
      exact absurd (member ▸ zero) counted
    split at missed
    · cases missed
    rename_i outside
    rcases List.mem_cons.mp member with rfl | member
    · omega
    · exact ih (fun other member => fits other (by simp [member])) padding.2 missed other member
        counted


theorem exact_find_implicit (word : entry.endAddress < 2 ^ 32)
    (fits : record.epilogues.size ≤ entry.endAddress) :
    exactFindImplicit record entry relativePc = .ok (
      if record.epilogues.implicitAtEnd = true ∧
          sub32 entry.endAddress record.epilogues.size ≤ relativePc ∧
          relativePc - sub32 entry.endAddress record.epilogues.size < record.epilogues.size
      then some (relativePc - sub32 entry.endAddress record.epilogues.size) else none) := by
  unfold exactFindImplicit
  rw [sub32_of_le word fits]
  by_cases implicit : record.epilogues.implicitAtEnd = true
  · rw [if_pos implicit, exact_sub_fits fits, ok_bind, exact_offset_spec]
    simp only [implicit, true_and]
  · simp [implicit]

/-- No subtraction of the search wraps. -/
theorem exact_find (ordered : entry.beginAddress ≤ entry.endAddress)
    (word : entry.endAddress < 2 ^ 32) (ranges : validateV2EpilogueRanges record entry = true) :
    exactFindV2Epilogue record entry relativePc =
      .ok (findV2Epilogue record entry relativePc) := by
  unfold exactFindV2Epilogue findV2Epilogue
  dsimp only
  by_cases absent : record.epilogues.present = false
  · rw [if_pos absent, if_pos absent]
  have checked := ranges_checked ordered word ranges (by simpa using absent)
  have sized := checked.size
  rw [if_neg absent, if_neg absent, exact_find_implicit word (by omega), ok_bind]
  split
  · rfl
  · refine exact_find_explicit word fun descriptor member => ?_
    rcases checked.explicit descriptor member with padding | ⟨-, fits, -⟩ <;> omega

/-- What is found is a place in a declared epilogue. -/
theorem find_some_declared (described : Described record.codes record.epilogues)
    (checked : RangesChecked record entry) (word : entry.endAddress < 2 ^ 32)
    (found : findV2Epilogue record entry relativePc = some offset) :
    offset < declaredSize record.codes ∧ ∃ distance, Declares record.codes distance ∧
      relativePc = entry.endAddress - distance + offset := by
  have sized := checked.size
  rw [← described.size]
  unfold findV2Epilogue at found
  dsimp only at found
  rw [sub32_of_le word (by omega)] at found
  split at found
  · cases found
  split at found
  · rename_i inside
    cases found
    exact ⟨inside.2.2, _, (described.declares _).mpr (.inl ⟨inside.1, rfl⟩), by omega⟩
  · obtain ⟨small, descriptor, member, counted, place⟩ := find_explicit_some word
      (fun descriptor member => by
        rcases checked.explicit descriptor member with padding | ⟨-, fits, -⟩ <;> omega) found
    exact ⟨small, _, (described.declares _).mpr (.inr ⟨descriptor, member, rfl, counted⟩), place⟩

/-- All declared epilogues are searched. -/
theorem find_none_declared (described : Described record.codes record.epilogues)
    (present : record.epilogues.present = true)
    (checked : RangesChecked record entry) (word : entry.endAddress < 2 ^ 32)
    (missed : findV2Epilogue record entry relativePc = none) {distance : Nat}
    (declares : Declares record.codes distance) : ¬InEpilogue record entry distance relativePc := by
  have sized := checked.size
  unfold InEpilogue
  rw [← described.size]
  unfold findV2Epilogue at missed
  dsimp only at missed
  rw [sub32_of_le word (by omega), if_neg (by simp [present])] at missed
  split at missed
  · cases missed
  rename_i outside
  rcases (described.declares distance).mp declares with
    ⟨implicit, rfl⟩ | ⟨slot, member, rfl, counted⟩
  · simp only [implicit, true_and] at outside
    omega
  · exact find_explicit_none word (fun descriptor member => by
      rcases checked.explicit descriptor member with padding | ⟨-, fits, -⟩ <;> omega)
      described.padding missed slot member counted

theorem declared_well_placed (described : Described record.codes record.epilogues)
    (checked : RangesChecked record entry) (ordered : entry.beginAddress ≤ entry.endAddress)
    {distance : Nat} (declares : Declares record.codes distance) :
    WellPlaced record entry distance := by
  have sized := checked.size
  have nonempty := described.nonempty
  have same := described.size
  have range : record.epilogues.size ≤ distance ∧
      distance ≤ entry.endAddress - entry.beginAddress ∧
      record.prologueSize ≤ entry.endAddress - entry.beginAddress - distance := by
    rcases (described.declares distance).mp declares with
      ⟨implicit, rfl⟩ | ⟨slot, member, rfl, counted⟩
    · exact ⟨le_refl _, sized, checked.implicit implicit⟩
    · exact (checked.explicit slot member).resolve_left counted
  constructor <;> omega

/-- The epilogues that an accepted record declares lie between the prologue and the end of the
function. The search finds a place just when one of them holds it, tells how far it lies in that
one, and subtracts no larger number from a smaller. A place in the prologue is in none of them. -/
theorem declared_epilogues_placed (module : PeModule) (unwindRva : Nat) (record : UnwindRecord)
    (entry : RuntimeFunction) (read : readUnwindRecord module unwindRva = some record)
    (version : record.version = 2) (ranges : validateV2EpilogueRanges record entry = true)
    (ordered : entry.beginAddress ≤ entry.endAddress) (word : entry.endAddress < 2 ^ 32) :
    (∀ distance, Declares record.codes distance → WellPlaced record entry distance) ∧
      ∀ relativePc,
        exactFindV2Epilogue record entry relativePc =
          .ok (findV2Epilogue record entry relativePc) ∧
        (findV2Epilogue record entry relativePc ≠ none ↔
          ∃ distance, Declares record.codes distance ∧
            InEpilogue record entry distance relativePc) ∧
        ∀ offset, findV2Epilogue record entry relativePc = some offset →
          offset < declaredSize record.codes ∧
          (∃ distance, Declares record.codes distance ∧
            relativePc = entry.endAddress - distance + offset) ∧
          entry.beginAddress + record.prologueSize ≤ relativePc := by
  have checked := unwind_record_at_checked (read_unwind_record_some read).1
  have parsed := (accepted_parsed checked.codes).1
  rw [version] at parsed
  obtain ⟨describes, silent⟩ := parse_prefix_described parsed
  by_cases present : record.epilogues.present = true
  · have described := describes present
    have checked := ranges_checked ordered word ranges present
    have placed (distance : Nat) (declares : Declares record.codes distance) :=
      declared_well_placed described checked ordered declares
    have finds (relativePc offset : Nat)
        (found : findV2Epilogue record entry relativePc = some offset) :=
      find_some_declared described checked word found
    refine ⟨placed, fun relativePc => ⟨exact_find ordered word ranges, ⟨fun some => ?_, ?_⟩,
      fun offset found => ?_⟩⟩
    · obtain ⟨offset, found⟩ := Option.ne_none_iff_exists'.mp some
      obtain ⟨small, distance, declares, place⟩ := finds relativePc offset found
      exact ⟨distance, declares, by omega, by omega⟩
    · rintro ⟨distance, declares, inside⟩ missed
      exact find_none_declared described present checked word missed declares inside
    · obtain ⟨small, distance, declares, place⟩ := finds relativePc offset found
      have behind := (placed distance declares).behind
      exact ⟨small, ⟨distance, declares, place⟩, by omega⟩
  · rw [Bool.not_eq_true] at present
    have missed (relativePc : Nat) : findV2Epilogue record entry relativePc = none := by
      unfold findV2Epilogue
      exact if_pos present
    refine ⟨fun distance declares => absurd declares (silent present distance),
      fun relativePc => ⟨exact_find ordered word ranges, ⟨fun some => absurd (missed relativePc) some,
        ?_⟩, fun offset found => ?_⟩⟩
    · rintro ⟨distance, declares, -⟩
      exact absurd declares (silent present distance)
    · rw [missed] at found
      cases found

/-- The last two bytes of a function are its epilogue, and none before them. -/
theorem declared_epilogue_placed_at_end :
    WellPlaced (declaredRecord 1) declaredEntry 2 ∧
      findV2Epilogue (declaredRecord 1) declaredEntry 46 ≠ none ∧
      ¬∃ distance, Declares (declaredRecord 1).codes distance ∧
        InEpilogue (declaredRecord 1) declaredEntry distance 45 := by
  have read : readUnwindRecord (declaredModule 1) 16 = some (declaredRecord 1) := by
    decide +kernel
  have declares : Declares (declaredRecord 1).codes 2 :=
    @Declares.atEnd ⟨2, 0x16⟩ [⟨0, 0x06⟩, ⟨8, 0x01⟩, ⟨1, 0⟩, ⟨1, 0x30⟩] (by decide) (by decide)
  obtain ⟨placed, finds⟩ := declared_epilogues_placed (declaredModule 1) 16 (declaredRecord 1)
    declaredEntry read rfl (by decide) (by decide) (by decide)
  refine ⟨placed 2 declares, (finds 46).2.1.mpr ⟨2, declares, by decide, by decide⟩,
    fun inside => ?_⟩
  exact (finds 45).2.1.mpr inside (by decide)

end Find

end SadLayer.Unwind
