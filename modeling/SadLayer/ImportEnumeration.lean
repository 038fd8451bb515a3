import SadLayer.ParsedImage

/-! Enumerating imports. The import table of a parsed image comes to an end, and
offers every visitor the same symbols in the same order. -/
namespace SadLayer.Pe
open SadLayer.Library

variable {image : Image} {cursor consumed : Nat}

/-- The thunks of one module offer the same symbols and end with the same status for every
visitor. -/
theorem visit_thunks_offers (image : Image) (moduleName : CString) (lookupRva iatRva : Nat) :
    ∃ symbols status, ∀ (State : Type) (callback : ImportSymbol → State → State × Bool)
      (state : State), visitThunks image moduleName callback lookupRva iatRva state =
        visitThen status .ok callback symbols state := by
  induction left : uint32Max - lookupRva using Nat.strong_induction_on
    generalizing lookupRva iatRva with
  | _ left' ih =>
    have positive : 0 < entrySize image := by
      unfold entrySize
      split <;> omega
    have widest : uint32Max = 2 ^ 32 - 1 := rfl
    cases read : readThunk image lookupRva iatRva with
    | error status =>
      refine ⟨[], status, fun State callback state => ?_⟩
      rw [visitThunks, read, visit_then_nil]
    | ok thunk =>
      cases thunk with
      | zero =>
        refine ⟨[], .ok, fun State callback state => ?_⟩
        rw [visitThunks, read, visit_then_nil]
        rfl
      | succ thunk =>
        cases named : importSymbol image moduleName iatRva (thunk + 1) with
        | error status =>
          refine ⟨[], status, fun State callback state => ?_⟩
          rw [visitThunks, read]
          simp only [named]
          rfl
        | ok symbol =>
          by_cases last : lookupRva > uint32Max - entrySize image ∨
              iatRva > uint32Max - entrySize image
          · refine ⟨[symbol], .invalidImage, fun State callback state => ?_⟩
            rw [visitThunks, read, visit_then_cons]
            simp only [named]
            rcases callback symbol state with ⟨next, _ | _⟩
            · rfl
            · exact if_pos last
          · obtain ⟨symbols, status, offers⟩ := ih (uint32Max - (lookupRva + entrySize image))
              (by omega) (lookupRva + entrySize image) (iatRva + entrySize image) rfl
            refine ⟨symbol :: symbols, status, fun State callback state => ?_⟩
            rw [visitThunks, read, visit_then_cons]
            simp only [named]
            rcases callback symbol state with ⟨next, _ | _⟩
            · rfl
            · exact (if_neg last).trans (offers State callback next)

theorem visit_import_thunks_offers (image : Image) (moduleName : CString)
    (originalThunk firstThunk : Nat) :
    ∃ symbols status, ∀ (State : Type) (callback : ImportSymbol → State → State × Bool)
      (state : State), visitImportThunks image moduleName originalThunk firstThunk callback state =
        visitThen status .ok callback symbols state := by
  by_cases missing : (if originalThunk ≠ 0 then originalThunk else firstThunk) = 0 ∨ firstThunk = 0
  · exact ⟨[], .invalidImage, fun State callback state => if_pos missing⟩
  · obtain ⟨symbols, status, offers⟩ := visit_thunks_offers image moduleName
      (if originalThunk ≠ 0 then originalThunk else firstThunk) firstThunk
    exact ⟨symbols, status, fun State callback state =>
      (if_neg missing).trans (offers State callback state)⟩

/-! ### Descriptors -/

theorem u32_add_eq {left right : Nat} (narrow : left + right < 2 ^ 32) :
    u32Add left right = left + right :=
  Nat.mod_eq_of_lt narrow

/-- A descriptor that can be read lies inside the image. -/
theorem read_descriptor_in_image {descriptor : Descriptor} (formed : WellFormed image)
    (read : readDescriptor image cursor = .ok descriptor) : cursor + 20 ≤ image.imageSize := by
  have narrow := formed.narrow
  simp only [readDescriptor, bind_ok] at read
  obtain ⟨originalThunk, first, timestamp, second, forwarderChain, third, nameRva, fourth,
    firstThunk, fifth, -⟩ := read
  have firstWord := read_rva_in_image formed first
  have secondWord := read_rva_in_image formed second
  rw [u32_add_eq (by omega)] at secondWord
  have thirdWord := read_rva_in_image formed third
  rw [u32_add_eq (by omega)] at thirdWord
  have fourthWord := read_rva_in_image formed fourth
  rw [u32_add_eq (by omega)] at fourthWord
  have fifthWord := read_rva_in_image formed fifth
  rw [u32_add_eq (by omega)] at fifthWord
  exact fifthWord

/-- What an enumeration over these symbols answers a visitor. -/
def offered (status : Status) (symbols : List ImportSymbol)
    (callback : ImportSymbol → State → State × Bool) (state : State) : Status × State :=
  ((visitThen status .ok callback symbols state).1,
    (visitThen status .ok callback symbols state).2.1)

/-- The descriptor loop ends within its rounds, whatever visits it. -/
theorem visit_descriptors_offers {imports : DataDirectory} {rounds : Nat} (formed : WellFormed image)
    (inImage : imports.rva + imports.size ≤ image.imageSize) (started : consumed ≤ imports.size)
    (enough : imports.size < consumed + 20 * rounds) :
    ∃ symbols status, ∀ (State : Type) (callback : ImportSymbol → State → State × Bool)
      (state : State), visitDescriptors image imports callback rounds consumed state =
        some (offered status symbols callback state) := by
  have narrow := formed.narrow
  induction rounds generalizing consumed with
  | zero => omega
  | succ rounds ih =>
    by_cases past : u32Add consumed 20 > imports.size
    · exact ⟨[], .invalidImage, fun State callback state => by rw [visitDescriptors, if_pos past]; rfl⟩
    have place : u32Add imports.rva consumed = imports.rva + consumed := u32_add_eq (by omega)
    have noWrap : ¬ imports.rva + consumed < imports.rva := by omega
    cases read : readDescriptor image (imports.rva + consumed) with
    | error failure =>
      refine ⟨[], .invalidImage, fun State callback state => ?_⟩
      rw [visitDescriptors, if_neg past]
      simp only [place, if_neg noWrap, read]
      rfl
    | ok descriptor =>
      by_cases terminator : descriptor = ⟨0, 0, 0, 0, 0⟩
      · refine ⟨[], .ok, fun State callback state => ?_⟩
        rw [visitDescriptors, if_neg past]
        simp only [place, if_neg noWrap, read, if_pos terminator]
        rfl
      cases named : readRvaString image descriptor.nameRva with
      | error failure =>
        refine ⟨[], .invalidImage, fun State callback state => ?_⟩
        rw [visitDescriptors, if_neg past]
        simp only [place, if_neg noWrap, read, if_neg terminator, named]
        rfl
      | ok moduleName =>
        have inside := read_descriptor_in_image formed read
        have next : u32Add consumed 20 = consumed + 20 := u32_add_eq (by omega)
        obtain ⟨symbols, status, offers⟩ := visit_import_thunks_offers image moduleName
          descriptor.originalThunk descriptor.firstThunk
        by_cases ended : status = .ok
        · obtain ⟨more, finished, rest⟩ := @ih (consumed + 20) (by omega) (by omega)
          refine ⟨symbols ++ more, finished, fun State callback state => ?_⟩
          rw [visitDescriptors, if_neg past]
          simp only [place, if_neg noWrap, read, if_neg terminator, named, offers, ended, offered,
            visit_then_append finished .ok .ok symbols more state]
          unfold visitThen
          rcases visitAll callback symbols state with ⟨last, _ | _⟩
          · rfl
          · simp only [next, rest, ne_eq, not_true_eq_false, if_false, Bool.not_true,
              Bool.false_eq_true]
            rfl
        · refine ⟨symbols, status, fun State callback state => ?_⟩
          rw [visitDescriptors, if_neg past]
          simp only [place, if_neg noWrap, read, if_neg terminator, named, offers, offered]
          unfold visitThen
          rcases visitAll callback symbols state with ⟨last, _ | _⟩
          · rfl
          · exact if_pos ended

/-- The imports of a well-formed image come to an end, and every visitor is offered the symbols
that a collecting one collects. -/
theorem for_each_import_symbol_offers (formed : WellFormed image) :
    ∃ symbols status, ∀ (State : Type) (callback : ImportSymbol → State → State × Bool)
      (state : State), forEachImportSymbol image callback state =
        some (offered status symbols callback state) := by
  by_cases none' : (image.directories directoryImport).rva = 0 ∨
      (image.directories directoryImport).size = 0
  · exact ⟨[], .ok, fun State callback state => if_pos none'⟩
  by_cases outside : (image.directories directoryImport).rva ≥ image.imageSize ∨
      (image.directories directoryImport).size >
        image.imageSize - (image.directories directoryImport).rva
  · exact ⟨[], .invalidImage, fun State callback state => (if_neg none').trans (if_pos outside)⟩
  · have narrow := formed.narrow
    obtain ⟨symbols, status, offers⟩ := @visit_descriptors_offers image 0
      (image.directories directoryImport) (2 ^ 32) formed (by omega) (by omega) (by omega)
    exact ⟨symbols, status, fun State callback state =>
      (if_neg none').trans ((if_neg outside).trans (offers State callback state))⟩

end SadLayer.Pe
