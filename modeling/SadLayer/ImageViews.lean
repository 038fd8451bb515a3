import Mathlib.Data.List.Induction
import SadLayer.Loader
import SadLayer.ParsedImage

/-! The file view and the mapped view of an image. A window shows the headers or
the first section that claims an address; the mapping holds what was copied
last. They agree exactly where no later section lays other bytes over what a
window shows. -/
namespace SadLayer.Loader
open SadLayer.Library SadLayer.Pe

variable {image : Image} {file : ByteView} {header : Section} {sections : List Section}
  {rva offset available address size : Nat} {bytes : Nat → UInt8}

/-- What a window shows of the file is what the mapping holds. -/
def ViewsAgree (image : Image) (bytes : Nat → UInt8) : Prop :=
  ∀ rva offset available, rvaFileWindow image rva = .ok (offset, available) →
    ∀ index < available, bytes (rva + index) = image.file.data (offset + index)

/-- The raw data of a section covers the address. -/
def Covers (header : Section) (address : Nat) : Prop :=
  header.virtualAddress ≤ address ∧ address < header.virtualAddress + header.rawSize

instance : Decidable (Covers header address) := by
  unfold Covers
  infer_instance

/-- The byte of the file that a section has for an address. -/
def rawByte (file : ByteView) (header : Section) (address : Nat) : UInt8 :=
  file.data (header.rawOffset + (address - header.virtualAddress))

/-! ### The mapped view -/

/-- Copies the raw data of each section in turn. -/
def copySections (file : ByteView) (sections : List Section) (bytes : Nat → UInt8) : Nat → UInt8 :=
  sections.foldl (fun bytes header =>
    copyBytes bytes header.virtualAddress file.data header.rawOffset header.rawSize) bytes

theorem copy_sections_append (first second : List Section) :
    copySections file (first ++ second) bytes =
      copySections file second (copySections file first bytes) :=
  List.foldl_append

/-- The section loop succeeds on sections that fit, and copies them all. -/
theorem populate_sections_eq (inFile : ∀ header ∈ sections, header.rawSize ≠ 0 →
      header.rawOffset + header.rawSize ≤ image.file.size)
    (inImage : ∀ header ∈ sections, header.rawSize ≠ 0 →
      header.virtualAddress + header.rawSize ≤ size) :
    populateSections image size sections bytes = .ok (copySections image.file sections bytes) := by
  induction sections generalizing bytes with
  | nil => rfl
  | cons header rest ih =>
    have tail (bytes : Nat → UInt8) := @ih bytes
      (fun other member => inFile other (List.mem_cons_of_mem _ member))
      (fun other member => inImage other (List.mem_cons_of_mem _ member))
    rw [populateSections]
    by_cases empty : header.rawSize = 0
    · have unchanged : copyBytes bytes header.virtualAddress image.file.data header.rawOffset
          header.rawSize = bytes := by
        funext index
        exact copy_bytes_outside (by omega)
      rw [if_pos empty, tail, copySections, copySections, List.foldl_cons, unchanged]
    · have fileFits := inFile header List.mem_cons_self empty
      have imageFits := inImage header List.mem_cons_self empty
      rw [if_neg empty, if_neg (by omega), tail]
      rfl

/-- An address no section covers keeps its byte. -/
theorem copy_sections_uncovered (uncovered : ∀ header ∈ sections, ¬ Covers header address) :
    copySections file sections bytes address = bytes address := by
  induction sections generalizing bytes with
  | nil => rfl
  | cons header rest ih =>
    have apart := uncovered header List.mem_cons_self
    unfold Covers at apart
    exact (ih fun other member => uncovered other (List.mem_cons_of_mem _ member)).trans
      (copy_bytes_outside (by omega))

/-- The last section that covers an address decides its byte. -/
theorem copy_sections_covered {before after : List Section}
    (split : sections = before ++ header :: after) (covers : Covers header address)
    (last : ∀ later ∈ after, ¬ Covers later address) :
    copySections file sections bytes address = rawByte file header address := by
  rw [split, copy_sections_append]
  exact (copy_sections_uncovered last).trans (copy_bytes_inside covers.1 covers.2)

/-- Either no section covers an address, or there is a last one that does. -/
theorem last_covering (sections : List Section) (address : Nat) :
    (∀ header ∈ sections, ¬ Covers header address) ∨
      ∃ before header after, sections = before ++ header :: after ∧ Covers header address ∧
        ∀ later ∈ after, ¬ Covers later address := by
  induction sections using List.reverseRecOn with
  | nil => exact .inl fun header member => by contradiction
  | append_singleton rest header ih =>
    by_cases covers : Covers header address
    · exact .inr ⟨rest, header, [], rfl, covers, fun later member => by contradiction⟩
    rcases ih with none' | ⟨before, found, after, rfl, covered, last⟩
    · refine .inl fun other member => ?_
      rcases List.mem_append.mp member with earlier | final
      · exact none' other earlier
      · rw [List.mem_singleton] at final
        exact final ▸ covers
    · refine .inr ⟨before, found, after ++ [header], by simp, covered, fun later member => ?_⟩
      rcases List.mem_append.mp member with earlier | final
      · exact last later earlier
      · rw [List.mem_singleton] at final
        exact final ▸ covers

/-- The bytes of a mapping before relocation and binding. -/
def mappedBytes (image : Image) : Nat → UInt8 :=
  copySections image.file image.sections
    (copyBytes (fun _ => 0) 0 image.file.data 0 image.headersSize)

theorem map_image_eq (formed : WellFormed image) (buffer : Nat) (allocated : buffer ≠ 0) :
    mapImage image buffer = (.ok, { initializeMapping image buffer image.imageSize .heap with
      bytes := mappedBytes image }) := by
  have valid : validateMapping image = .ok := by
    have positive := formed.positive
    have inImage := formed.headersInImage
    have inFile := formed.headersInFile
    exact if_neg (by omega)
  have populated : populateMapping image
      (initializeMapping image buffer image.imageSize .heap) = .ok (mappedBytes image) :=
    populate_sections_eq formed.rawInFile formed.rawInImage
  unfold mapImage
  rw [if_neg (not_not.mpr valid), if_neg allocated]
  simp only [populated]

/-! ### The file view -/

theorem section_window_first {before after : List Section}
    (split : sections = before ++ header :: after)
    (first : ∀ earlier ∈ before, ¬ earlier.Contains rva) (covers : Covers header rva)
    (inFile : header.rawOffset + header.rawSize ≤ file.size) :
    sectionWindow file rva sections = .ok (header.rawOffset + (rva - header.virtualAddress),
      header.virtualAddress + header.rawSize - rva) := by
  obtain ⟨starts, ends⟩ := covers
  induction before generalizing sections with
  | nil =>
    rw [split, List.nil_append, sectionWindow]
    dsimp only
    have fits : rangeFits (header.rawOffset + (rva - header.virtualAddress)) 1 file.size = true :=
      range_fits_iff.mpr (by omega)
    rw [if_pos ⟨starts, by omega⟩, if_neg (not_or.mpr ⟨by omega, by rw [fits]; simp⟩)]
    congr 2
    omega
  | cons earlier rest ih =>
    rw [split, List.cons_append, sectionWindow]
    exact (if_neg (first earlier List.mem_cons_self)).trans
      (ih rfl fun other member => first other (List.mem_cons_of_mem _ member))

/-! ### Where the views agree -/

/-- Where a section is the last to cover an address of the headers, it has the byte of the
headers. -/
def HeadersIntact (image : Image) : Prop :=
  ∀ before header after, image.sections = before ++ header :: after →
    ∀ address < image.headersSize, Covers header address →
      (∀ later ∈ after, ¬ Covers later address) →
      rawByte image.file header address = image.file.data address

/-- Where a section is the last to cover an address that a window shows as an earlier section's,
it has the byte of the earlier one. A window shows it as that section's when it starts at an
address of its raw data which neither the headers nor a still earlier section claims. -/
def SectionsIntact (image : Image) : Prop :=
  ∀ before shown between header after,
    image.sections = before ++ shown :: between ++ header :: after →
    ∀ rva address, image.headersSize ≤ rva → (∀ earlier ∈ before, ¬ earlier.Contains rva) →
      shown.virtualAddress ≤ rva → rva ≤ address → Covers shown address →
      Covers header address → (∀ later ∈ after, ¬ Covers later address) →
      rawByte image.file header address = rawByte image.file shown address

theorem mapped_bytes_uncovered (uncovered : ∀ header ∈ image.sections, ¬ Covers header address)
    (inHeaders : address < image.headersSize) : mappedBytes image address = image.file.data address := by
  apply (copy_sections_uncovered uncovered).trans
  rw [copy_bytes_inside (Nat.zero_le _) (by omega), Nat.zero_add, Nat.sub_zero]

/-- What windows on the headers show. -/
theorem headers_agree_iff (image : Image) :
    (∀ address < image.headersSize, mappedBytes image address = image.file.data address) ↔
      HeadersIntact image := by
  constructor
  · intro agree before header after split address inHeaders covers last
    rw [← agree address inHeaders]
    exact (copy_sections_covered split covers last).symm
  · intro intact address inHeaders
    rcases last_covering image.sections address with none' | ⟨before, header, after, split, covers, last⟩
    · exact mapped_bytes_uncovered none' inHeaders
    · exact (copy_sections_covered split covers last).trans
        (intact before header after split address inHeaders covers last)

/-- What a window shows of a section from this address on. -/
def ShownAgrees (image : Image) (header : Section) (rva : Nat) : Prop :=
  ∀ address, rva ≤ address → Covers header address →
    mappedBytes image address = rawByte image.file header address

theorem sections_agree_iff (image : Image) :
    (∀ before header after, image.sections = before ++ header :: after →
      ∀ rva, image.headersSize ≤ rva → (∀ earlier ∈ before, ¬ earlier.Contains rva) →
        header.virtualAddress ≤ rva → ShownAgrees image header rva) ↔ SectionsIntact image := by
  constructor
  · intro agree before shown between header after split rva address past first starts above
      covered covers last
    have shows' := agree before shown (between ++ header :: after) (by simp [split]) rva past first
      starts address above covered
    rw [← shows']
    exact (copy_sections_covered split covers last).symm
  · intro intact before shown after split rva past first starts address above covered
    rcases last_covering after address with none' | ⟨between, header, rest, later, covers, last⟩
    · exact copy_sections_covered split covered none'
    · have split' : image.sections = before ++ shown :: between ++ header :: rest := by
        simp [split, later]
      exact (copy_sections_covered split' covers last).trans
        (intact before shown between header rest split' rva address past first starts above
          covered covers last)

/-- The views agree just when no later section lays other bytes over what a window shows. -/
theorem views_agree_iff (formed : WellFormed image) :
    ViewsAgree image (mappedBytes image) ↔ HeadersIntact image ∧ SectionsIntact image := by
  rw [← headers_agree_iff, ← sections_agree_iff]
  constructor
  · intro agree
    constructor
    · intro address inHeaders
      have inFile := formed.headersInFile
      have window : rvaFileWindow image address = .ok (address,
          min (image.headersSize - address) (image.file.size - address)) :=
        if_pos ⟨inHeaders, by omega⟩
      exact agree _ _ _ window 0 (by omega)
    · intro before header after split rva past first starts address above covered
      have present : header.rawSize ≠ 0 := by
        unfold Covers at covered
        omega
      have covers : Covers header rva := ⟨starts, by have := covered.2; omega⟩
      have inFile := formed.rawInFile header (by simp [split]) present
      have window : rvaFileWindow image rva = .ok (header.rawOffset + (rva - header.virtualAddress),
          header.virtualAddress + header.rawSize - rva) :=
        (if_neg (by omega)).trans (section_window_first split first covers inFile)
      have shown := agree _ _ _ window (address - rva) (by have := covered.2; omega)
      rw [show rva + (address - rva) = address by omega] at shown
      rw [shown, rawByte]
      congr 1
      omega
  · rintro ⟨headers, sections⟩ rva offset available window index within
    cases rva_file_window_ok window with
    | headers inside inFile located reach =>
      rw [located]
      exact headers (rva + index) (by omega)
    | raw header member past shown =>
      have inFile := formed.headersInFile
      obtain ⟨before, after, split, first⟩ := shown.first
      have reach := shown.reach
      have starts := shown.starts
      rw [sections before header after split rva (by omega) first starts (rva + index) (by omega)
        ⟨by omega, by omega⟩, shown.located, rawByte]
      congr 1
      omega

/-- The raw data of a section overlaps neither the headers nor that of another. -/
structure RawDataApart (image : Image) : Prop where
  headers : ∀ header ∈ image.sections, ∀ address < image.headersSize, ¬ Covers header address
  sections : image.sections.Pairwise fun first second =>
    ∀ address, Covers first address → ¬ Covers second address

/-- Raw data that overlaps nothing leaves everything intact. -/
theorem RawDataApart.intact (apart : RawDataApart image) :
    HeadersIntact image ∧ SectionsIntact image := by
  constructor
  · intro before header after split address inHeaders covers
    exact absurd covers (apart.headers header (by simp [split]) address inHeaders)
  · intro before shown between header after split rva address past first starts above covered covers
    have pairs := apart.sections
    rw [split, List.append_assoc, List.pairwise_append] at pairs
    have among : header ∈ between ++ header :: after := by simp
    exact absurd covers (List.rel_of_pairwise_cons pairs.2.1 among address covered)

/-- Of every file the parser accepts: its image can be mapped, and its two views agree just when
no section lays other bytes over what a window shows of the headers or of an earlier section; so
they do where nothing overlaps. -/
theorem image_views (parsed : parse file = .ok image) (buffer : Nat) (allocated : buffer ≠ 0) :
    ∃ mapping, mapImage image buffer = (.ok, mapping) ∧
      (ViewsAgree image mapping.bytes ↔ HeadersIntact image ∧ SectionsIntact image) ∧
      (RawDataApart image → ViewsAgree image mapping.bytes) := by
  have formed := (parse_well_formed parsed).2
  exact ⟨_, map_image_eq formed buffer allocated, views_agree_iff formed,
    fun apart => (views_agree_iff formed).mpr apart.intact⟩

/-- A 32-bit file whose two sections have one byte of raw data each, both at `0x1000`. -/
def overlappingFile : ByteView where
  data
    | 0 => 0x4d
    | 1 => 0x5a
    | 0x3c => 0x40
    | 0x40 => 0x50
    | 0x41 => 0x45
    | 0x44 => 0x4c
    | 0x45 => 0x01
    | 0x46 => 2
    | 0x54 => 96
    | 0x58 => 0x0b
    | 0x59 => 0x01
    | 0x91 => 0x20
    | 0x94 => 0x08
    | 0x95 => 0x01
    | 0xc5 => 0x10
    | 0xc8 => 1
    | 0xed => 0x10
    | 0xf0 => 1
    | 0xf4 => 1
    | _ => 0
  size := 264

theorem overlapping_file_accepted : ∃ image, parse overlappingFile = .ok image := by
  have accepted : (parse overlappingFile).toOption.bind (fun _ => some ()) = some () := by
    decide +kernel
  obtain ⟨image, parsed, -⟩ := parse_evaluated accepted
  exact ⟨image, parsed⟩

theorem overlapping_file_views :
    ∃ image mapping, parse overlappingFile = .ok image ∧ (7 : Nat) ≠ 0 ∧
      mapImage image 7 = (.ok, mapping) ∧
      (ViewsAgree image mapping.bytes ↔ HeadersIntact image ∧ SectionsIntact image) ∧
      (RawDataApart image → ViewsAgree image mapping.bytes) := by
  obtain ⟨image, parsed⟩ := overlapping_file_accepted
  obtain ⟨mapping, mapped, agree⟩ := image_views parsed 7 (by decide)
  exact ⟨image, mapping, parsed, by decide, mapped, agree⟩

/-- Its window at `0x1000` shows the first section, its mapping holds the second. -/
theorem overlapping_file_disagrees :
    ∃ image mapping, parse overlappingFile = .ok image ∧ mapImage image 7 = (.ok, mapping) ∧
      rvaFileWindow image 0x1000 = .ok (0, 1) ∧ image.file.data 0 = 0x4d ∧
      mapping.bytes 0x1000 = 0x5a := by
  have facts : (parse overlappingFile).toOption.bind (fun image =>
      some ((rvaFileWindow image 0x1000).toOption, image.file.data 0, (mapImage image 7).1,
        (mapImage image 7).2.bytes 0x1000)) =
      some (some (0, 1), 0x4d, .ok, 0x5a) := by decide +kernel
  obtain ⟨image, parsed, facts⟩ := parse_evaluated facts
  simp only [Option.some.injEq, Prod.mk.injEq] at facts
  obtain ⟨window, shown, mapped, held⟩ := facts
  refine ⟨image, (mapImage image 7).2, parsed, ?_, ?_, shown, held⟩
  · rw [← mapped]
  · cases found : rvaFileWindow image 0x1000 with
    | error status =>
      rw [found] at window
      contradiction
    | ok place =>
      rw [found] at window
      exact congrArg Except.ok (Option.some.inj window)

end SadLayer.Loader
