import SadLayer.Heap

/-! What a caller sees of the process heap: the contents of the allocations it has. Every
call on the headers and blocks is one step of this smaller heap. -/
namespace SadLayer.Heap
open SadLayer.Library

/-! ### The heap as its callers know it -/

/-- What is in each allocation. -/
abbrev Allocations := UInt64 → Option (List UInt8)

def InPlaceOnly (flags : UInt32) : Prop := flags &&& heapReallocInPlaceOnly ≠ 0
def ZeroMemory (flags : UInt32) : Prop := flags &&& heapZeroMemory ≠ 0

/-- What a call may answer and do that has a defined outcome. -/
inductive HeapStep : Allocations → Call → Answer → Allocations → Prop where
  | allocFails : HeapStep before (.alloc heap flags bytes) (.pointer 0) before
  | alloc (given : memory ≠ 0) (fresh : before memory = none)
      (sized : data.length = bytes.toNat)
      (zeroed : ZeroMemory flags → data = List.replicate bytes.toNat 0) :
      HeapStep before (.alloc processHeapHandle flags bytes) (.pointer memory)
        (Function.update before memory (some data))
  | freeRefused (wrong : heap ≠ processHeapHandle ∨ before memory = none) :
      HeapStep before (.free heap memory) (.bool false) before
  | free (held : before memory = some data) :
      HeapStep before (.free processHeapHandle memory) (.bool true)
        (Function.update before memory none)
  | reallocFails (wrong : InPlaceOnly flags → heap ≠ processHeapHandle ∨ before memory = none ∨
        ∃ data, before memory = some data ∧ data.length < bytes.toNat) :
      HeapStep before (.realloc heap flags memory bytes) (.pointer 0) before
  | shrink (inPlace : InPlaceOnly flags) (held : before memory = some data)
      (fits : bytes.toNat ≤ data.length) :
      HeapStep before (.realloc processHeapHandle flags memory bytes) (.pointer memory)
        (Function.update before memory (some (data.take bytes.toNat)))
  | realloc (anywhere : ¬ InPlaceOnly flags) (held : before memory = some data)
      (given : moved ≠ 0) (fresh : moved = memory ∨ before moved = none)
      (sized : more.length = bytes.toNat)
      (copied : more.take data.length = data.take bytes.toNat)
      (zeroed : ZeroMemory flags →
        more.drop data.length = List.replicate (bytes.toNat - data.length) 0) :
      HeapStep before (.realloc processHeapHandle flags memory bytes) (.pointer moved)
        (Function.update (Function.update before memory none) moved (some more))
  | size (held : before memory = some data) :
      HeapStep before (.size processHeapHandle memory) (.size data.length) before
  | sizeRefused (foreign : heap ≠ processHeapHandle) :
      HeapStep before (.size heap memory) (.size sizeMax) before
  | sizeUnknown (unknown : before memory = none) :
      HeapStep before (.size heap memory) (.size reported) before
  | store (held : before memory = some data) (inside : offset < data.length)
      (there : address.toNat = memory.toNat + offset) :
      HeapStep before (.store address byte) .stored
        (Function.update before memory (some (data.set offset byte)))

/-! ### The contents of the blocks -/

/-- The allocation is in use: the C library has its block out. -/
def Live (state : HeapState) (memory : UInt64) : Prop :=
  ∃ block ∈ state.blocks, block.address = heapHeader memory

instance (state : HeapState) (memory : UInt64) : Decidable (Live state memory) :=
  inferInstanceAs (Decidable (∃ block ∈ state.blocks, _))

def contents (state : HeapState) : Allocations := fun memory =>
  if Live state memory then
    some (readBytes state.bytes memory.toNat (sizeAt state.bytes (heapHeader memory)))
  else none

/-- The calls of which C says nothing: a free or reallocation of a pointer not in use in front of
which the magic stands all the same, and a store that is into no allocation. -/
def Misused (state : HeapState) : Call → Prop
  | .alloc .. => False
  | .free heap memory => heap = processHeapHandle ∧ memory ≠ 0 ∧ contents state memory = none ∧
      magicAt state.bytes (heapHeader memory) = heapMagic
  | .realloc heap flags memory bytes => heap = processHeapHandle ∧ memory ≠ 0 ∧
      contents state memory = none ∧ magicAt state.bytes (heapHeader memory) = heapMagic ∧
      bytes.toNat ≤ sizeMax - headerSize ∧
      (InPlaceOnly flags → bytes.toNat ≤ sizeAt state.bytes (heapHeader memory))
  | .size .. => False
  | .store address _ => ∀ memory data, contents state memory = some data →
      ¬ (memory.toNat ≤ address.toNat ∧ address.toNat < memory.toNat + data.length)

/-- The header of a block is in order. -/
structure Headed (bytes : Nat → UInt8) (block : Block) : Prop where
  roomy : headerSize < block.size
  magic : magicAt bytes block.address = heapMagic
  sized : headerSize + sizeAt bytes block.address ≤ block.size

structure Sound (state : HeapState) : Prop where
  laid : state.Laid addressSpace
  headed : ∀ block ∈ state.blocks, Headed state.bytes block

variable {state after : HeapState} {answer : LibraryAnswer} {block : Block}
  {bytes other : Nat → UInt8} {header : Nat} {memory : UInt64}

/-- The bytes of the block are the same in both memories. -/
def SameBytes (bytes other : Nat → UInt8) (block : Block) : Prop :=
  ∀ index, block.Holds index → bytes index = other index

theorem SameBytes.trans {last : Nat → UInt8} (first : SameBytes bytes other block)
    (second : SameBytes other last block) : SameBytes bytes last block :=
  fun index held => (first index held).trans (second index held)

theorem same_magic (roomy : headerSize < block.size) (same : SameBytes bytes other block) :
    magicAt bytes block.address = magicAt other block.address := by
  apply load_le_congr
  intro index above below
  apply same
  simp only [headerSize, Block.Holds] at *
  omega

theorem same_size (roomy : headerSize < block.size) (same : SameBytes bytes other block) :
    sizeAt bytes block.address = sizeAt other block.address := by
  apply load_le_congr
  intro index above below
  apply same
  simp only [headerSize, Block.Holds] at *
  omega

theorem Headed.congr (headed : Headed bytes block) (same : SameBytes bytes other block) :
    Headed other block where
  roomy := headed.roomy
  magic := (same_magic headed.roomy same).symm.trans headed.magic
  sized := by
    rw [← same_size headed.roomy same]
    exact headed.sized

/-! ### Pointers and headers -/

theorem header_of_payload (inside : header + headerSize < addressSpace) :
    heapHeader (payload header) = header ∧ (payload header).toNat = header + headerSize := by
  have placed : (payload header).toNat = header + headerSize := by
    rw [payload, UInt64.toNat_ofNat']
    exact Nat.mod_eq_of_lt inside
  refine ⟨?_, placed⟩
  rw [heapHeader, UInt64.toNat_sub, placed]
  simp only [headerSize, addressSpace, UInt64.toNat_ofNat'] at *
  omega

theorem header_injective {first second : UInt64} (same : heapHeader first = heapHeader second) :
    first = second := by
  have subtracted := UInt64.toNat_inj.mp same
  rwa [UInt64.sub_left_inj] at subtracted

/-- A pointer whose header begins a block is behind that header. -/
theorem Sound.behind_header (sound : Sound state) (among : block ∈ state.blocks)
    (here : block.address = heapHeader memory) : memory.toNat = block.address + headerSize := by
  have placed := sound.laid.placed block among
  have roomy := (sound.headed block among).roomy
  have small := memory.toNat_lt
  rw [heapHeader, UInt64.toNat_sub] at here
  simp only [headerSize, addressSpace, UInt64.toNat_ofNat'] at *
  omega

theorem Sound.payload_of_block (sound : Sound state) (among : block ∈ state.blocks) :
    heapHeader (payload block.address) = block.address ∧
      (payload block.address).toNat = block.address + headerSize := by
  apply header_of_payload
  have placed := (sound.laid.placed block among).2.2
  have roomy := (sound.headed block among).roomy
  omega

theorem Sound.not_null (sound : Sound state) (live : Live state memory) : memory ≠ 0 := by
  rintro rfl
  obtain ⟨block, among, here⟩ := live
  have behind := sound.behind_header among here
  simp [headerSize] at behind

theorem contents_live (live : Live state memory) : contents state memory =
    some (readBytes state.bytes memory.toNat (sizeAt state.bytes (heapHeader memory))) :=
  if_pos live

theorem contents_not_live (dead : ¬ Live state memory) : contents state memory = none :=
  if_neg dead

theorem Sound.magic_of_live (sound : Sound state) (live : Live state memory) :
    magicAt state.bytes (heapHeader memory) = heapMagic := by
  obtain ⟨block, among, here⟩ := live
  rw [← here]
  exact (sound.headed block among).magic

theorem length_of_contents {data : List UInt8} (held : contents state memory = some data) :
    Live state memory ∧ data.length = sizeAt state.bytes (heapHeader memory) := by
  by_cases live : Live state memory
  · rw [contents_live live] at held
    rw [← Option.some.inj held]
    exact ⟨live, length_read_bytes⟩
  · rw [contents_not_live live] at held
    contradiction

theorem block_at_some (live : Live state memory) :
    ∃ block, blockAt state (heapHeader memory) = some block ∧ block ∈ state.blocks ∧
      block.address = heapHeader memory := by
  obtain ⟨block, among, here⟩ := live
  have found : (blockAt state (heapHeader memory)).isSome := by
    apply List.find?_isSome.mpr
    exact ⟨block, among, by simpa using here⟩
  obtain ⟨first, first_is⟩ := Option.isSome_iff_exists.mp found
  refine ⟨first, first_is, List.mem_of_find?_eq_some first_is, ?_⟩
  simpa using List.find?_some first_is

theorem block_at_none (dead : ¬ Live state memory) : blockAt state (heapHeader memory) = none := by
  apply List.find?_eq_none.mpr
  intro block among here
  exact dead ⟨block, among, by simpa using here⟩

/-! ### What a change leaves alone -/

/-- Contents are the same where neither the blocks nor their bytes changed. -/
theorem Sound.contents_same (sound : Sound state) (Touched : Nat → Prop)
    (blocks : ∀ block, ¬ Touched block.address →
      (block ∈ after.blocks ↔ block ∈ state.blocks))
    (kept : ∀ block ∈ state.blocks, ¬ Touched block.address →
      SameBytes state.bytes after.bytes block)
    (untouched : ¬ Touched (heapHeader memory)) : contents after memory = contents state memory := by
  by_cases live : Live state memory
  · obtain ⟨block, among, here⟩ := live
    have aside : ¬ Touched block.address := by rwa [here]
    have same := kept block among aside
    have headed := sound.headed block among
    have behind := sound.behind_header among here
    have live' : Live after memory := ⟨block, (blocks block aside).mpr among, here⟩
    rw [contents_live ⟨block, among, here⟩, contents_live live', ← here,
      ← same_size headed.roomy same]
    apply congrArg some
    apply read_bytes_congr
    intro index above below
    refine (same index ?_).symm
    have fits := headed.sized
    unfold Block.Holds
    omega
  · have dead : ¬ Live after memory := by
      rintro ⟨block, among, here⟩
      exact live ⟨block, (blocks block (by rwa [here])).mp among, here⟩
    rw [contents_not_live live, contents_not_live dead]

/-- Only one allocation changed. -/
theorem Sound.contents_update (sound : Sound state) {entry : Option (List UInt8)}
    (blocks : ∀ block, block.address ≠ heapHeader memory →
      (block ∈ after.blocks ↔ block ∈ state.blocks))
    (kept : ∀ block ∈ state.blocks, block.address ≠ heapHeader memory →
      SameBytes state.bytes after.bytes block)
    (here : contents after memory = entry) :
    contents after = Function.update (contents state) memory entry := by
  funext pointer
  by_cases same : pointer = memory
  · subst same
    rw [Function.update_self, here]
  · rw [Function.update_of_ne same]
    exact sound.contents_same (· = heapHeader memory) blocks kept
      fun equal => same (header_injective equal)

/-- The invariant holds after a change when what is not as before has its header in order. -/
theorem Sound.change (sound : Sound state) (laid : after.Laid addressSpace)
    (each : ∀ block ∈ after.blocks,
      (block ∈ state.blocks ∧ SameBytes state.bytes after.bytes block) ∨
        Headed after.bytes block) : Sound after where
  laid := laid
  headed block among := by
    rcases each block among with ⟨older, same⟩ | headed
    · exact (sound.headed block older).congr same
    · exact headed

theorem sound_start (bytes : Nat → UInt8) : Sound (start bytes) where
  laid := ⟨List.Pairwise.nil, fun _ among => nomatch among⟩
  headed _ among := nomatch among

theorem contents_start (bytes : Nat → UInt8) : contents (start bytes) = fun _ => none := by
  funext memory
  apply contents_not_live
  rintro ⟨block, among, _⟩
  exact nomatch among

/-- Nothing changed when the blocks and their bytes did not. -/
theorem Sound.same_blocks (sound : Sound state) (blocks : after.blocks = state.blocks)
    (kept : ∀ block ∈ state.blocks, SameBytes state.bytes after.bytes block) :
    Sound after ∧ contents after = contents state := by
  constructor
  · apply sound.change
    · constructor
      · rw [blocks]
        exact sound.laid.apart
      · rw [blocks]
        exact sound.laid.placed
    · intro block among
      rw [blocks] at among
      exact .inl ⟨among, kept block among⟩
  · funext memory
    apply sound.contents_same fun _ => False
    · intro block _
      rw [blocks]
    · exact fun block among _ => kept block among
    · exact not_false

/-- Bytes of no block may change freely. -/
theorem Sound.settled (sound : Sound state) (found : Nat → UInt8) :
    Sound (state.settle found) ∧ contents (state.settle found) = contents state :=
  sound.same_blocks rfl fun _ among _ held => (BlockStore.settle_bytes among held).symm

end SadLayer.Heap
