import SadLayer.Library.Visit
import SadLayer.PeFacts

/-! What the parser promises of an image it accepts: where the raw data of its
headers and sections lies, hence what a window on it shows and that the import
table, read through such windows, comes to an end. -/
namespace SadLayer.Pe
open SadLayer.Library

variable {image : Image} {file : ByteView} {header : Section} {rva offset available : Nat}

/-- Headers and raw data lie inside the file and inside the image. -/
structure WellFormed (image : Image) : Prop where
  positive : 0 < image.imageSize
  narrow : image.imageSize < 2 ^ 32
  headersInImage : image.headersSize ≤ image.imageSize
  headersInFile : image.headersSize ≤ image.file.size
  rawInFile : ∀ header ∈ image.sections, header.rawSize ≠ 0 →
    header.rawOffset + header.rawSize ≤ image.file.size
  rawInImage : ∀ header ∈ image.sections, header.rawSize ≠ 0 →
    header.virtualAddress + header.rawSize ≤ image.imageSize

theorem map_ok {f : α → Except Status β} {items : List α} {results : List β}
    (mapped : items.mapM f = .ok results) : ∀ result ∈ results, ∃ item, f item = .ok result := by
  induction items generalizing results with
  | nil =>
    cases mapped
    intro result member
    contradiction
  | cons item rest ih =>
    simp only [List.mapM_cons, bind_ok, pure, Except.pure, Except.ok.injEq] at mapped
    obtain ⟨first, here, later, tail, rfl⟩ := mapped
    intro result member
    rcases List.mem_cons.mp member with rfl | member
    · exact ⟨item, here⟩
    · exact ih tail result member

/-- The ranges of a section that are not empty lie inside the image, and its raw data inside the
file. -/
structure SectionInside (file : ByteView) (imageSize : Nat) (header : Section) : Prop where
  rawInFile : header.rawSize ≠ 0 → header.rawOffset + header.rawSize ≤ file.size
  rawInImage : header.rawSize ≠ 0 → header.virtualAddress + header.rawSize ≤ imageSize
  virtualInImage : header.virtualSize ≠ 0 → header.virtualAddress + header.virtualSize ≤ imageSize

theorem parse_section_ok {imageSize sectionsOffset index : Nat}
    (parsed : parseSection file imageSize sectionsOffset index = .ok header) :
    SectionInside file imageSize header := by
  simp only [parseSection, bind_ok, check_ok, or_fail_ok, Bool.or_eq_true, Bool.and_eq_true,
    range_fits_iff, beq_iff_eq, pure, Except.pure, Except.ok.injEq] at parsed
  obtain ⟨virtualSize, -, virtualAddress, -, rawSize, -, rawOffset, -, characteristics, -, -,
    rawFits, -, virtualFits, rfl⟩ := parsed
  exact {
    rawInFile := fun raw => (rawFits.resolve_left raw).1
    rawInImage := fun raw => (rawFits.resolve_left raw).2
    virtualInImage := fun present => virtualFits.resolve_left present }

/-- The optional header keeps what was read before it, and has a headers size within the file and
the image. -/
theorem parse_optional_header_ok {size : Nat} {start : Image}
    (parsed : parseOptionalHeader file offset size start = .ok image) :
    image.file = start.file ∧ image.machine = start.machine ∧ 0 < image.imageSize ∧
      image.imageSize < 2 ^ 32 ∧ image.headersSize ≤ image.imageSize ∧
      image.headersSize ≤ file.size := by
  simp only [parseOptionalHeader, bind_ok, check_ok, or_fail_ok, Bool.and_eq_true, bne_iff_ne,
    decide_eq_true_eq, pure, Except.pure, Except.ok.injEq] at parsed
  obtain ⟨-, -, magic, -, ⟨isPe32Plus, base, count, directoryOffset⟩, -, entryRva, -,
    sectionAlignment, -, fileAlignment, -, imageSize, imageSizeRead, headersSize, -, subsystem, -, -,
    ⟨⟨⟨⟨positive, -⟩, inImage⟩, inFile⟩, -⟩, directories, -, rfl⟩ := parsed
  exact ⟨rfl, rfl, Nat.pos_of_ne_zero positive, read_u32_lt imageSizeRead, inImage, inFile⟩

/-- All that the parser has checked of the image it accepts. -/
structure Parsed (file : ByteView) (image : Image) : Prop extends WellFormed image where
  sameFile : image.file = file
  sectionsInside : ∀ header ∈ image.sections, SectionInside file image.imageSize header
  formats : image.machine = machineAmd64 ↔ image.isPe32Plus = true

theorem parse_ok (parsed : parse file = .ok image) : Parsed file image := by
  simp only [parse, bind_ok, check_ok, or_fail_ok, pure, Except.pure, Except.ok.injEq] at parsed
  obtain ⟨-, -, -, -, peOffset, -, signature, -, -, -, -, -, machine, -, sectionCount, -,
    optionalSize, -, -, -, -, -, start, optional, -, sameFormat, -, -, sections, sectionsParsed,
    rfl⟩ := parsed
  obtain ⟨sameFile, sameMachine, positive, narrow, inImage, inFile⟩ :=
    parse_optional_header_ok optional
  dsimp only at sameFile sameMachine
  have inside : ∀ header ∈ sections, SectionInside file start.imageSize header := by
    intro header member
    obtain ⟨index, parsed⟩ := map_ok sectionsParsed header member
    exact parse_section_ok parsed
  exact {
    positive := positive
    narrow := narrow
    headersInImage := inImage
    headersInFile := by rw [sameFile]; exact inFile
    rawInFile := fun header member => by rw [sameFile]; exact (inside header member).rawInFile
    rawInImage := fun header member => (inside header member).rawInImage
    sameFile := sameFile
    sectionsInside := inside
    formats := by
      rw [sameMachine, ← eq_of_beq sameFormat]
      exact beq_iff_eq.symm }

theorem parse_well_formed (parsed : parse file = .ok image) :
    image.file = file ∧ WellFormed image :=
  ⟨(parse_ok parsed).sameFile, (parse_ok parsed).toWellFormed⟩

/-! ### Windows -/

def Section.span (header : Section) : Nat := max header.virtualSize header.rawSize

/-- The address is among those that the section claims. -/
def Section.Contains (header : Section) (rva : Nat) : Prop :=
  header.virtualAddress ≤ rva ∧ rva - header.virtualAddress < header.span

instance : Decidable (header.Contains rva) := by
  unfold Section.Contains
  infer_instance

/-- The section whose raw data a window shows: the first that claims the address. -/
structure ShowsSection (file : ByteView) (sections : List Section) (header : Section)
    (rva offset available : Nat) : Prop where
  first : ∃ before after, sections = before ++ header :: after ∧
    ∀ earlier ∈ before, ¬ earlier.Contains rva
  starts : header.virtualAddress ≤ rva
  inside : rva < header.virtualAddress + header.rawSize
  located : offset = header.rawOffset + (rva - header.virtualAddress)
  inFile : offset < file.size
  reach : available = min (header.virtualAddress + header.rawSize - rva) (file.size - offset)

theorem section_window_ok {sections : List Section}
    (window : sectionWindow file rva sections = .ok (offset, available)) :
    ∃ header ∈ sections, ShowsSection file sections header rva offset available := by
  induction sections with
  | nil => contradiction
  | cons header rest ih =>
    rw [sectionWindow] at window
    dsimp only at window
    split at window
    · rename_i contains
      split at window
      · contradiction
      · rename_i fits
        cases window
        have inFile : header.rawOffset + (rva - header.virtualAddress) + 1 ≤ file.size := by
          rw [← range_fits_iff]
          simpa using fun fails => fits (.inr fails)
        refine ⟨header, List.mem_cons_self, {
          first := ⟨[], rest, rfl, by simp⟩
          starts := contains.1
          inside := by omega
          located := rfl
          inFile := by omega
          reach := by omega }⟩
    · rename_i elsewhere
      obtain ⟨found, member, shows'⟩ := ih window
      obtain ⟨before, after, split, earlier⟩ := shows'.first
      refine ⟨found, List.mem_cons_of_mem _ member, { shows' with
        first := ⟨header :: before, after, by rw [split, List.cons_append], ?_⟩ }⟩
      intro other member
      rcases List.mem_cons.mp member with rfl | member
      · exact elsewhere
      · exact earlier other member

/-- A window shows the headers, or the raw data of the first section that claims the address. -/
inductive WindowSource (image : Image) (rva offset available : Nat) : Prop where
  | headers (inside : rva < image.headersSize) (inFile : rva < image.file.size)
      (located : offset = rva) (reach : available = min (image.headersSize - rva)
        (image.file.size - rva))
  | raw (header : Section) (member : header ∈ image.sections)
      (past : ¬ (rva < image.headersSize ∧ rva < image.file.size))
      (shown : ShowsSection image.file image.sections header rva offset available)

theorem rva_file_window_ok (window : rvaFileWindow image rva = .ok (offset, available)) :
    WindowSource image rva offset available := by
  unfold rvaFileWindow at window
  split at window
  · rename_i inside
    cases window
    exact .headers inside.1 inside.2 rfl rfl
  · rename_i past
    obtain ⟨header, member, shown⟩ := section_window_ok window
    exact .raw header member past shown

/-- What a window shows lies inside the image. -/
theorem window_in_image (formed : WellFormed image)
    (window : rvaFileWindow image rva = .ok (offset, available)) :
    rva + available ≤ image.imageSize := by
  cases rva_file_window_ok window with
  | headers inside _ _ reach =>
    have headers := formed.headersInImage
    omega
  | raw header member _ shown =>
    have inside := shown.inside
    have reach := shown.reach
    have inImage := formed.rawInImage header member (by have := shown.starts; omega)
    omega

theorem read_rva_in_image {read : ByteView → Nat → Option Nat} {width value : Nat}
    (formed : WellFormed image) (found : readRva read width image rva = .ok value) :
    rva + width ≤ image.imageSize := by
  obtain ⟨offset, available, window, wide, -⟩ := read_rva_ok found
  have inside := window_in_image formed window
  omega

end SadLayer.Pe
