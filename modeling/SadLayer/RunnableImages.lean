import SadLayer.ImageSealing
import SadLayer.ParsedImage

/-! An image that is mapped to be run comes to its entry point with all that the
runtime asks of it, whatever was done with the mapping on the way. -/
namespace SadLayer.Loader
open SadLayer.Library SadLayer.Pe

variable {image : Image} {file : ByteView} {mapped : MappedImage} {pageSize : Nat}

/-! ### What the parser leaves -/

theorem map_length {items : List α} {results : List β} {f : α → Except Status β}
    (mapped : items.mapM f = .ok results) : results.length = items.length := by
  induction items generalizing results with
  | nil =>
    cases mapped
    rfl
  | cons item rest ih =>
    simp only [List.mapM_cons, bind_ok, pure, Except.pure, Except.ok.injEq] at mapped
    obtain ⟨first, here, later, tail, rfl⟩ := mapped
    rw [List.length_cons, List.length_cons, ih tail]

theorem parse_section_count (parsed : parse file = .ok image) :
    image.sections.length ≤ maxSections := by
  simp only [parse, bind_ok, check_ok, or_fail_ok, pure, Except.pure, Except.ok.injEq] at parsed
  obtain ⟨-, -, -, -, peOffset, -, signature, -, -, -, -, -, machine, -, sectionCount, -,
    optionalSize, -, -, -, -, counted, start, optional, -, sameFormat, -, -, sections,
    sectionsParsed, rfl⟩ := parsed
  have length := map_length sectionsParsed
  rw [List.length_range] at length
  have bound : sectionCount ≤ maxSections := by
    simp only [Bool.and_eq_true, decide_eq_true_eq] at counted
    exact counted.2
  change sections.length ≤ maxSections
  omega

theorem parse_entry (parsed : parse file = .ok image) :
    image.entryRva = 0 ∨ image.entryRva < image.imageSize := by
  simp only [parse, bind_ok, check_ok, or_fail_ok, pure, Except.pure, Except.ok.injEq] at parsed
  obtain ⟨-, -, -, -, peOffset, -, signature, -, -, -, -, -, machine, -, sectionCount, -,
    optionalSize, -, -, -, -, counted, start, optional, -, sameFormat, -, -, sections,
    sectionsParsed, rfl⟩ := parsed
  simp only [parseOptionalHeader, bind_ok, check_ok, or_fail_ok, Bool.and_eq_true, bne_iff_ne,
    decide_eq_true_eq, pure, Except.pure, Except.ok.injEq] at optional
  obtain ⟨-, -, magic, -, ⟨isPe32Plus, base, count, directoryOffset⟩, -, entryRva, -,
    sectionAlignment, -, fileAlignment, -, imageSize, imageSizeRead, headersSize, -, subsystem, -, -,
    ⟨-, entered⟩, directories, -, rfl⟩ := optional
  simpa using entered

/-! ### The mapping -/

/-- What holds of a mapping that was made to be run, and stays. -/
structure Placed (image : Image) (mapped : MappedImage) : Prop where
  format : image.isPe32Plus = true ∧ image.machine = machineAmd64
  size : mapped.size = image.imageSize
  room : mapped.size ≤ mapped.allocationSize
  preferred : mapped.preferredBase = image.imageBase
  base : mapped.loadBase = mapped.address
  entry : mapped.entryRva = image.entryRva

/-- A mapping that can run, as long as it is one. -/
def Runnable (image : Image) (mapped : MappedImage) : Prop :=
  mapped.storage = .virtual → Placed image mapped

theorem round_up_ge {value alignment rounded : Nat}
    (done : roundUpSize value alignment = some rounded) : value ≤ rounded := by
  unfold roundUpSize at done
  dsimp only at done
  split at done
  · rw [Option.some.inj done]
  · split at done
    · contradiction
    · have same := Option.some.inj done
      omega

/-- Relocating a virtual mapping leaves it based where it is. -/
theorem apply_relocations_placed {loadBase : Nat} (placed : Placed image mapped)
    (storage : mapped.storage = .virtual) :
    Placed image (applyRelocations image mapped loadBase).2 := by
  have moved {bytes : Nat → UInt8} : Placed image { mapped with bytes := bytes } :=
    ⟨placed.format, placed.size, placed.room, placed.preferred, placed.base, placed.entry⟩
  unfold applyRelocations
  split
  · exact placed
  split
  · exact placed
  split
  · exact placed
  rename_i there
  rw [not_and, not_not] at there
  have same := there storage
  split
  · exact placed
  split
  · exact placed
  · rename_i elsewhere
    exact absurd (same.trans placed.base.symm) elsewhere

/-- A relocation that succeeds leaves the mapping at the base it was asked for. -/
theorem apply_relocations_base {loadBase : Nat} {after : MappedImage}
    (applied : applyRelocations image mapped loadBase = (.ok, after)) :
    after.loadBase = loadBase := by
  unfold applyRelocations at applied
  dsimp only at applied
  split at applied
  · cases applied
  split at applied
  · cases applied
  split at applied
  · cases applied
  split at applied
  · cases applied
  split at applied
  · rename_i same
    cases applied
    exact same.symm
  split at applied
  · cases applied
  split at applied
  · cases applied
  split at applied
  · split at applied
    · cases applied
      rfl
    · rename_i failed _
      cases applied
      exact (failed rfl).elim
  · rename_i failed _
    cases applied
    exact (failed rfl).elim

theorem map_for_execution_placed (host : MappingHost) :
    (mapImageForExecution image host).2 = {} ∨
      Placed image (mapImageForExecution image host).2 := by
  unfold mapImageForExecution
  split
  · exact .inl rfl
  split
  · exact .inl rfl
  rename_i supported
  split
  · exact .inl rfl
  split
  · exact .inl rfl
  rename_i allocationSize rounded
  dsimp only
  split
  · exact .inl rfl
  rename_i address found
  split
  · exact .inl rfl
  rename_i bytes populated
  split
  · rename_i after applied
    have base := apply_relocations_base applied
    obtain ⟨moved, loadBase, rfl⟩ := apply_relocations_same applied
    rw [not_or, Bool.not_eq_false, not_not] at supported
    exact .inr ⟨supported, rfl, round_up_ge rounded, rfl, base, rfl⟩
  · exact .inl rfl

theorem runnable_begin (image : Image) (kind : MappingKind) :
    Runnable image (beginMapping image kind).mapped := by
  intro storage
  cases kind with
  | heap buffer =>
    unfold beginMapping mapImage at storage
    dsimp only at storage
    split at storage
    · cases storage
    split at storage
    · cases storage
    split at storage <;> cases storage
  | execution host =>
    rcases @map_for_execution_placed image host with nothing | placed
    · change (mapImageForExecution image host).2.storage = .virtual at storage
      rw [nothing] at storage
      cases storage
    · exact placed

/-! ### What is done with it -/

/-- Binding changes nothing but bytes. -/
theorem bind_imports_bytes {context : Type} {resolver : Resolver context} {start : context}
    {allocated : Bool} {binding : Binding context}
    (bound : bindImports image mapped resolver start allocated = some binding) :
    ∃ bytes, binding.mapped = { mapped with bytes := bytes } := by
  have past {returns : Prop} [Decidable returns] {early : Binding context}
      {rest : Option (Binding context)} (unchanged : early.mapped = mapped)
      (taken : (if returns then some early else rest) = some binding) :
      (∃ bytes, binding.mapped = { mapped with bytes := bytes }) ∨ rest = some binding := by
    by_cases stops : returns
    · rw [if_pos stops] at taken
      cases taken
      exact .inl ⟨mapped.bytes, unchanged⟩
    · rw [if_neg stops] at taken
      exact .inr taken
  unfold bindImports at bound
  rcases past rfl bound with done | bound
  · exact done
  rcases past rfl bound with done | bound
  · exact done
  obtain ⟨⟨status, count⟩, -, bound⟩ := Option.bind_eq_some_iff.mp bound
  rcases past rfl bound with done | bound
  · exact done
  rcases past rfl bound with done | bound
  · exact done
  rcases past rfl bound with done | bound
  · exact done
  rcases past rfl bound with done | bound
  · exact done
  obtain ⟨⟨status, resolved⟩, -, bound⟩ := Option.bind_eq_some_iff.mp bound
  rcases past rfl bound with done | bound
  · exact done
  · cases bound
    exact ⟨_, rfl⟩

theorem runnable_finalize {state : PagedImage} (runnable : Runnable image state.mapped)
    (invariant : SealInvariant image pageSize state) (host : PageHost) :
    Runnable image (finalizePages image pageSize host state).2.mapped := by
  rcases finalize_pages_cases invariant host with ⟨-, unchanged⟩ | ⟨-, unchanged⟩ |
    ⟨-, -, status, -, unchanged⟩ | ⟨-, -, ⟨-, -, positive, -⟩, enters⟩
  · rw [unchanged]
    exact runnable
  · rw [unchanged]
    exact runnable
  · rw [unchanged]
    exact runnable
  rw [enters]
  obtain ⟨-, outcome⟩ := @protect_mapping_outcome image state.mapped state.pages host pageSize
    positive invariant.safe
  generalize protectMapping image state.mapped host pageSize state.pages = after at outcome
  obtain ⟨status, after⟩ := after
  dsimp only at outcome ⊢
  cases outcome with
  | sealed pages calls logged once granted =>
    intro storage
    obtain ⟨format, size, room, preferred, base, entry⟩ := runnable storage
    exact ⟨format, size, room, preferred, base, entry⟩
  | restored status failed pages writable => exact runnable
  | tainted pages =>
    intro storage
    cases storage

theorem runnable_operate {context : Type} {state : PagedImage}
    (runnable : Runnable image state.mapped) (invariant : SealInvariant image pageSize state)
    (operation : Operation context) :
    Runnable image (operate image pageSize state operation).1.mapped := by
  cases operation with
  | relocate loadBase =>
    intro storage
    change (applyRelocations image state.mapped loadBase).2.storage = .virtual at storage
    have before : state.mapped.storage = .virtual := by
      rcases applied : applyRelocations image state.mapped loadBase with ⟨status, after⟩
      obtain ⟨bytes, moved, rfl⟩ := apply_relocations_same applied
      rw [applied] at storage
      exact storage
    exact apply_relocations_placed (runnable before) before
  | bind resolver start allocated =>
    unfold operate
    dsimp only
    cases bound : bindImports image state.mapped resolver start allocated with
    | none => exact runnable
    | some binding =>
      obtain ⟨bytes, same⟩ := bind_imports_bytes bound
      dsimp only
      rw [same]
      intro storage
      obtain ⟨format, size, room, preferred, base, entry⟩ := runnable storage
      exact ⟨format, size, room, preferred, base, entry⟩
  | finalize host => exact runnable_finalize runnable invariant host

theorem runnable_run {context : Type} (image : Image) (pageSize : Nat) (kind : MappingKind)
    (operations : List (Operation context)) :
    Runnable image (run (operate image pageSize) (beginMapping image kind) operations).state.mapped :=
  (run_invariant (operate image pageSize)
    (fun _ state => Runnable image state.mapped ∧ SealInvariant image pageSize state)
    ⟨runnable_begin image kind, seal_invariant_begin image pageSize kind⟩
    (fun _ _ operation ⟨runnable, invariant⟩ =>
      ⟨runnable_operate runnable invariant operation,
        seal_invariant_operate invariant operation⟩) operations).1

/-- However an accepted image was mapped and whatever was relocated, bound and finalized since, the
runtime enters it when its protections are fixed and it has an entry point in an executable
section, and only then. -/
theorem accepted_image_enters {context : Type} (parsed : parse file = .ok image) (pageSize : Nat)
    (kind : MappingKind) (operations : List (Operation context)) :
    let state := (run (operate image pageSize) (beginMapping image kind) operations).state
    validateTrustedEntry image state.mapped =
      if state.mapped.protectionsFinalized = true ∧ image.entryRva ≠ 0 ∧
        entryIsExecutable image image.entryRva = true then .ok else .invalidState := by
  intro state
  have runnable : Runnable image state.mapped := runnable_run image pageSize kind operations
  have invariant : SealInvariant image pageSize state :=
    seal_invariant_run image pageSize kind operations
  have few : image.sections.length ≤ maxSections := parse_section_count parsed
  have entered := parse_entry parsed
  unfold validateTrustedEntry
  by_cases ready : state.mapped.protectionsFinalized = true ∧ image.entryRva ≠ 0 ∧
    entryIsExecutable image image.entryRva = true
  · rw [if_pos ready, if_neg]
    obtain ⟨closed, enters, executable⟩ := ready
    obtain ⟨storage, -⟩ := invariant.sealed closed
    obtain ⟨address, size⟩ := invariant.checked (.inl closed)
    obtain ⟨⟨format, machine⟩, -, room, preferred, base, entry⟩ := runnable storage
    have inside : image.entryRva < image.imageSize := entered.resolve_left enters
    simp only [not_or]
    rw [entry, size]
    exact ⟨by simp [format], fun other => other machine, address,
      fun other => other storage, by simp [closed], fun other => other rfl,
      by omega, fun other => other preferred, fun other => other base, by omega,
      fun other => other rfl, enters, by omega, by simp [executable]⟩
  · rw [if_neg ready, if_pos]
    by_contra passes
    simp only [not_or, not_not, Bool.not_eq_false] at passes
    obtain ⟨-, -, -, -, closed, -, -, -, -, -, entry, enters, -, executable⟩ := passes
    rw [entry] at enters executable
    exact ready ⟨closed, enters, executable⟩

/-- A file that is mapped, bound and finalized is entered, and not before. -/
theorem runnable_file_enters :
    ∃ image, parse runnableFile = .ok image ∧
      validateTrustedEntry image (boundFile image).mapped = .invalidState ∧
      let state := (run (operate image 4096) (beginMapping image preferredPages)
        [.bind oneAddress () true, .finalize grantingHost]).state
      loadLe state.mapped.bytes 0x160 8 = 0x5000 ∧ state.mapped.loadBase = 0x10000 ∧
        validateTrustedEntry image state.mapped = .ok := by
  have evaluated : (parse runnableFile).toOption.bind (fun image =>
      let state := (run (operate image 4096) (beginMapping image preferredPages)
        [.bind oneAddress () true, .finalize grantingHost]).state
      some (loadLe state.mapped.bytes 0x160 8, state.mapped.loadBase,
        state.mapped.protectionsFinalized, image.entryRva,
        entryIsExecutable image image.entryRva, (boundFile image).mapped.protectionsFinalized)) =
      some (0x5000, 0x10000, true, 0x1000, true, false) := by
    decide +kernel
  obtain ⟨image, parsed, evaluated⟩ := parse_evaluated evaluated
  simp only [Option.some.injEq, Prod.mk.injEq] at evaluated
  obtain ⟨bound, base, closed, entry, executable, open_⟩ := evaluated
  refine ⟨image, parsed, ?_, bound, base, ?_⟩
  · refine (accepted_image_enters parsed 4096 preferredPages [.bind oneAddress () true]).trans ?_
    exact if_neg fun ready => Bool.false_ne_true (open_.symm.trans ready.1)
  · refine (accepted_image_enters parsed 4096 preferredPages
      [.bind oneAddress () true, .finalize grantingHost]).trans ?_
    exact if_pos ⟨closed, by rw [entry]; decide, executable⟩

end SadLayer.Loader
