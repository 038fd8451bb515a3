import SadLayer.ImageViews

/-! Mapping a parsed image is safe and exact. What the parser has checked of every
range a header names is all that the loader checks again, so that the copies it
makes stay inside the file they read and the buffer they fill. -/
namespace SadLayer.Loader
open SadLayer.Library SadLayer.Pe

variable {image : Image} {file : ByteView} {mapped : MappedImage} {sections : List Section}
  {bytes : Nat → UInt8} {address size : Nat}

/-- The section copies leave everything from the image's end on alone. -/
theorem copy_sections_outside (inImage : ∀ header ∈ sections, header.rawSize ≠ 0 →
      header.virtualAddress + header.rawSize ≤ size) (outside : size ≤ address) :
    copySections file sections bytes address = bytes address := by
  apply copy_sections_uncovered
  intro header member covers
  unfold Covers at covers
  have inside := inImage header member (by omega)
  omega

theorem mapped_bytes_outside (formed : WellFormed image) (outside : image.imageSize ≤ address) :
    mappedBytes image address = 0 := by
  have headers := formed.headersInImage
  exact (copy_sections_outside formed.rawInImage outside).trans (copy_bytes_outside (by omega))

/-- The error branch of `populate_mapping` is out of reach of a parsed image, whatever kind of
storage is populated. -/
theorem populate_mapping_ok (formed : WellFormed image) (sized : mapped.size = image.imageSize) :
    populateMapping image mapped = .ok (copySections image.file image.sections
      (copyBytes mapped.bytes 0 image.file.data 0 image.headersSize)) := by
  unfold populateMapping
  rw [sized]
  exact populate_sections_eq formed.rawInFile formed.rawInImage

/-- A mapping of `image_size` bytes: zeros, then the headers, then the raw data of the sections in
the order of the table. -/
structure ExactMapping (image : Image) (buffer : Nat) (mapped : MappedImage) : Prop where
  address : mapped.address = buffer
  size : mapped.size = image.imageSize
  allocated : mapped.allocationSize = image.imageSize
  bytes : mapped.bytes = image.sections.foldl
    (fun bytes header =>
      copyBytes bytes header.virtualAddress image.file.data header.rawOffset header.rawSize)
    (copyBytes (fun _ => 0) 0 image.file.data 0 image.headersSize)
  contained : ∀ index, image.imageSize ≤ index → mapped.bytes index = 0

/-- Every file the parser accepts: its headers and sections lie where a mapping needs them, and the
loader maps it without an error, byte for byte. -/
theorem parsed_mapping (parsed : parse file = .ok image) :
    image.file = file ∧ image.headersSize ≤ image.imageSize ∧ image.headersSize ≤ file.size ∧
      (∀ header ∈ image.sections, SectionInside file image.imageSize header) ∧
      (image.machine = machineAmd64 ↔ image.isPe32Plus = true) ∧
      (∀ mapped : MappedImage, mapped.size = image.imageSize →
        ∃ bytes, populateMapping image mapped = .ok bytes) ∧
      ∀ buffer, buffer ≠ 0 →
        ∃ mapped, mapImage image buffer = (.ok, mapped) ∧ ExactMapping image buffer mapped := by
  have checked := parse_ok parsed
  have formed := checked.toWellFormed
  refine ⟨checked.sameFile, formed.headersInImage, ?_, checked.sectionsInside, checked.formats,
    fun mapped sized => ⟨_, populate_mapping_ok formed sized⟩, fun buffer allocated => ?_⟩
  · rw [← checked.sameFile]
    exact formed.headersInFile
  · refine ⟨_, map_image_eq formed buffer allocated, {
      address := rfl
      size := rfl
      allocated := rfl
      bytes := rfl
      contained := fun index outside => mapped_bytes_outside formed outside }⟩

theorem overlapping_file_mapping :
    ∃ image, parse overlappingFile = .ok image ∧
      (image.machine = machineAmd64 ↔ image.isPe32Plus = true) ∧
      ∃ mapped, mapImage image 7 = (.ok, mapped) ∧ ExactMapping image 7 mapped := by
  obtain ⟨image, parsed⟩ := overlapping_file_accepted
  obtain ⟨-, -, -, -, formats, -, maps⟩ := parsed_mapping parsed
  exact ⟨image, parsed, formats, maps 7 (by decide)⟩

end SadLayer.Loader
