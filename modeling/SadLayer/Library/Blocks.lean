import Mathlib.Data.List.Pairwise
import SadLayer.Library.Bytes

/-! A byte memory some of whose ranges an allocator has given out as blocks. Blocks lie
apart from each other, and what is written to a byte of none of them is nobody's concern. -/
namespace SadLayer.Library

/-! ### Ranges of a memory -/

/-- The bytes from `start` on. -/
def readBytes (bytes : Nat → UInt8) (start length : Nat) : List UInt8 :=
  (List.range length).map fun offset => bytes (start + offset)

/-- `memset`. -/
def fillBytes (bytes : Nat → UInt8) (start length : Nat) (value : UInt8) : Nat → UInt8 := fun index =>
  if start ≤ index ∧ index < start + length then value else bytes index

variable {bytes other found : Nat → UInt8} {start length index : Nat} {value : UInt8}

@[simp] theorem length_read_bytes : (readBytes bytes start length).length = length := by
  simp [readBytes]

theorem getElem?_read_bytes (offset : Nat) : (readBytes bytes start length)[offset]? =
    if offset < length then some (bytes (start + offset)) else none := by
  unfold readBytes
  split
  · rename_i inside
    rw [List.getElem?_map, List.getElem?_range inside, Option.map_some]
  · rename_i outside
    apply List.getElem?_eq_none
    simpa using outside

/-- A read depends on the bytes it reads only, wherever they are. -/
theorem read_bytes_moved {start' : Nat}
    (same : ∀ offset < length, bytes (start + offset) = other (start' + offset)) :
    readBytes bytes start length = readBytes other start' length := by
  apply List.map_congr_left
  intro offset member
  exact same offset (List.mem_range.mp member)

theorem read_bytes_congr
    (same : ∀ index, start ≤ index → index < start + length → bytes index = other index) :
    readBytes bytes start length = readBytes other start length :=
  read_bytes_moved fun offset inside => same _ (by omega) (by omega)

theorem take_read_bytes (shorter : Nat) : (readBytes bytes start length).take shorter =
    readBytes bytes start (min shorter length) := by
  rw [readBytes, ← List.map_take, List.take_range, readBytes]

theorem drop_read_bytes (skipped : Nat) : (readBytes bytes start length).drop skipped =
    readBytes bytes (start + skipped) (length - skipped) := by
  apply List.ext_getElem?
  intro offset
  rw [List.getElem?_drop, getElem?_read_bytes, getElem?_read_bytes, Nat.add_assoc]
  by_cases inside : skipped + offset < length
  · rw [if_pos inside, if_pos (by omega)]
  · rw [if_neg inside, if_neg (by omega)]

theorem read_bytes_constant (same : ∀ offset < length, bytes (start + offset) = value) :
    readBytes bytes start length = List.replicate length value := by
  apply List.eq_replicate_iff.mpr
  refine ⟨length_read_bytes, ?_⟩
  intro byte member
  obtain ⟨offset, inside, rfl⟩ := List.mem_map.mp member
  exact same offset (List.mem_range.mp inside)

/-- A write to one byte of a range. -/
theorem read_bytes_update {offset : Nat} (inside : offset < length) :
    readBytes (Function.update bytes (start + offset) value) start length =
      (readBytes bytes start length).set offset value := by
  apply List.ext_getElem?
  intro place
  rw [List.getElem?_set, getElem?_read_bytes, getElem?_read_bytes, length_read_bytes]
  by_cases here : offset = place
  · subst here
    simp [inside]
  · rw [if_neg here, Function.update_of_ne (by omega)]

theorem fill_bytes_inside (above : start ≤ index) (below : index < start + length) :
    fillBytes bytes start length value index = value := by
  simp [fillBytes, above, below]

theorem fill_bytes_outside (outside : index < start ∨ start + length ≤ index) :
    fillBytes bytes start length value index = bytes index := by
  unfold fillBytes
  rw [if_neg (by omega)]

/-! ### Blocks -/

structure Block where
  address : Nat
  size : Nat
  deriving DecidableEq, Repr

def Block.Holds (block : Block) (index : Nat) : Prop :=
  block.address ≤ index ∧ index < block.address + block.size

instance (block : Block) (index : Nat) : Decidable (block.Holds index) :=
  inferInstanceAs (Decidable (_ ∧ _))

def Block.Apart (first second : Block) : Prop :=
  first.address + first.size ≤ second.address ∨ second.address + second.size ≤ first.address

instance (first second : Block) : Decidable (first.Apart second) :=
  inferInstanceAs (Decidable (_ ∨ _))

theorem Block.Apart.symm {first second : Block} (apart : first.Apart second) :
    second.Apart first :=
  Or.symm apart

theorem Block.Apart.outside {first second : Block} (apart : first.Apart second)
    (held : first.Holds index) : ¬ second.Holds index := by
  unfold Block.Holds Block.Apart at *
  omega

instance : Std.Symm Block.Apart := ⟨fun _ _ => Block.Apart.symm⟩

/-- A memory and the blocks given out of it. -/
structure BlockStore where
  bytes : Nat → UInt8
  blocks : List Block

namespace BlockStore

variable {store : BlockStore} {block : Block} {address limit : Nat}

/-- The block is one an allocator may give: in the address space and apart from all others. -/
def Admits (store : BlockStore) (limit : Nat) (block : Block) : Prop :=
  0 < block.address ∧ 0 < block.size ∧ block.address + block.size ≤ limit ∧
    ∀ other ∈ store.blocks, block.Apart other

instance (store : BlockStore) (limit : Nat) (block : Block) :
    Decidable (store.Admits limit block) :=
  inferInstanceAs (Decidable (_ ∧ _ ∧ _ ∧ _))

/-- The bytes of no block become what is found there. -/
def settle (store : BlockStore) (found : Nat → UInt8) : BlockStore := { store with
  bytes := fun index => if ∃ block ∈ store.blocks, block.Holds index then store.bytes index
    else found index }

def give (store : BlockStore) (block : Block) (found : Nat → UInt8) : BlockStore :=
  { store.settle found with blocks := block :: store.blocks }

/-- Without the block at an address. -/
def without (store : BlockStore) (address : Nat) : BlockStore :=
  { store with blocks := store.blocks.filter fun block => block.address ≠ address }

def take (store : BlockStore) (address : Nat) (found : Nat → UInt8) : BlockStore :=
  (store.without address).settle found

/-- A block in place of an old one, the first `kept` bytes of which are copied. -/
def resize (store : BlockStore) (old kept : Nat) (block : Block) (found : Nat → UInt8) :
    BlockStore := {
  bytes := copyBytes ((store.without old).settle found).bytes block.address store.bytes old kept
  blocks := block :: (store.without old).blocks }

/-- What holds of the blocks of any run. -/
structure Laid (store : BlockStore) (limit : Nat) : Prop where
  apart : store.blocks.Pairwise Block.Apart
  placed : ∀ block ∈ store.blocks,
    0 < block.address ∧ 0 < block.size ∧ block.address + block.size ≤ limit

theorem Laid.same_address (laid : store.Laid limit) {first second : Block}
    (among : first ∈ store.blocks) (among' : second ∈ store.blocks)
    (same : first.address = second.address) : first = second := by
  by_contra different
  have apart := laid.apart.forall among among' different
  have some_byte := (laid.placed first among).2.1
  have some_byte' := (laid.placed second among').2.1
  unfold Block.Apart at apart
  omega

theorem Laid.blocks_apart (laid : store.Laid limit) {first second : Block}
    (among : first ∈ store.blocks) (among' : second ∈ store.blocks)
    (different : first.address ≠ second.address) : first.Apart second :=
  laid.apart.forall among among'
    fun same => different (congrArg Block.address same)

theorem mem_without {other : Block} : other ∈ (store.without address).blocks ↔
    other ∈ store.blocks ∧ other.address ≠ address := by
  simp [without]

theorem Laid.without (laid : store.Laid limit) (address : Nat) :
    (store.without address).Laid limit where
  apart := laid.apart.filter _
  placed block among := laid.placed block (mem_without.mp among).1

theorem Laid.cons {bytes : Nat → UInt8} (laid : store.Laid limit)
    (admitted : store.Admits limit block) :
    ({ bytes := bytes, blocks := block :: store.blocks } : BlockStore).Laid limit where
  apart := List.pairwise_cons.mpr ⟨admitted.2.2.2, laid.apart⟩
  placed other among := by
    rcases List.mem_cons.mp among with rfl | older
    · exact ⟨admitted.1, admitted.2.1, admitted.2.2.1⟩
    · exact laid.placed other older

/-- The bytes of blocks stay what they are. -/
theorem settle_bytes (among : block ∈ store.blocks) (held : block.Holds index) :
    (store.settle found).bytes index = store.bytes index :=
  if_pos ⟨block, among, held⟩

/-- Blocks other than the one that is moved keep their bytes. -/
theorem resize_bytes_other {old kept : Nat} {moved : Block}
    (admitted : (store.without old).Admits limit moved) (short : kept ≤ moved.size)
    (among : block ∈ store.blocks) (different : block.address ≠ old) (held : block.Holds index) :
    (store.resize old kept moved found).bytes index = store.bytes index := by
  have remains := mem_without.mpr ⟨among, different⟩
  have apart := admitted.2.2.2 block remains
  have outside := apart.symm.outside held
  have beyond : index < moved.address ∨ moved.address + kept ≤ index := by
    unfold Block.Holds at outside
    omega
  exact (copy_bytes_outside beyond).trans (settle_bytes remains held)

/-- What is kept of the old block is at the start of the new one. -/
theorem resize_bytes_kept {old kept : Nat} {moved : Block} {offset : Nat} (inside : offset < kept) :
    (store.resize old kept moved found).bytes (moved.address + offset) =
      store.bytes (old + offset) := by
  have copied : (store.resize old kept moved found).bytes (moved.address + offset) =
      store.bytes (old + (moved.address + offset - moved.address)) :=
    copy_bytes_inside (Nat.le_add_right _ _) (Nat.add_lt_add_left inside _)
  rw [Nat.add_sub_cancel_left] at copied
  exact copied

end BlockStore

end SadLayer.Library
