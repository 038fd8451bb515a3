import SadLayer.Library.Blocks
import SadLayer.Library.Run

/-! The process heap. Every allocation is a block of the C library with a header in front
that says how large it is. Nothing else records what is allocated. -/
namespace SadLayer.Heap
open SadLayer.Library

/-- `sizeof(sl_heap_header)`. -/
def headerSize : Nat := 32
def heapMagic : Nat := 0x534c484541504d47
def heapZeroMemory : UInt32 := 0x8
def heapReallocInPlaceOnly : UInt32 := 0x10
def processHeapHandle : UInt64 := 4
def sizeMax : Nat := 0xffffffffffffffff
def addressSpace : Nat := 2 ^ 64

/-- The memory, and the blocks that `malloc` gave and `free` has not taken back. -/
abbrev HeapState := BlockStore

/-- What the C library answers in a call: the address of a block, and what it leaves in the bytes
that are of no block. -/
structure LibraryAnswer where
  block : Option Nat
  found : Nat → UInt8

inductive Answer where
  | pointer (memory : UInt64)
  | bool (success : Bool)
  | size (bytes : Nat)
  | stored
  /-- C says nothing of what happens. -/
  | undefined
  deriving DecidableEq, Repr

/-! ### The C library -/

/-- The address that was answered, when a block of this size can lie there. -/
def granted (answer : LibraryAnswer) (state : HeapState) (size : Nat) : Option Nat :=
  answer.block.filter fun address => state.Admits addressSpace ⟨address, size⟩

def malloc (answer : LibraryAnswer) (size : Nat) (state : HeapState) : Option Nat × HeapState :=
  match granted answer state size with
  | none => (none, state.settle answer.found)
  | some address => (some address, state.give ⟨address, size⟩ answer.found)

def blockAt (state : HeapState) (address : Nat) : Option Block :=
  state.blocks.find? fun block => block.address = address

/-- Nothing is promised of an address that `malloc` did not give. -/
def free (answer : LibraryAnswer) (address : Nat) (state : HeapState) : Option HeapState :=
  (blockAt state address).map fun _ => state.take address answer.found

def realloc (answer : LibraryAnswer) (address size : Nat) (state : HeapState) :
    Option (Option Nat × HeapState) :=
  (blockAt state address).map fun block =>
    match granted answer (state.without address) size with
    | none => (none, state.settle answer.found)
    | some moved =>
      (some moved, state.resize address (min block.size size) ⟨moved, size⟩ answer.found)

/-! ### Headers -/

def isProcessHeap (heap : UInt64) : Prop := heap = processHeapHandle

instance (heap : UInt64) : Decidable (isProcessHeap heap) :=
  inferInstanceAs (Decidable (_ = _))

/-- `heap_header`, of a pointer that is not null. -/
def heapHeader (memory : UInt64) : Nat := (memory - UInt64.ofNat headerSize).toNat

/-- `header + 1`. -/
def payload (header : Nat) : UInt64 := UInt64.ofNat (header + headerSize)

def magicAt (bytes : Nat → UInt8) (header : Nat) : Nat := loadLe bytes header 8
def sizeAt (bytes : Nat → UInt8) (header : Nat) : Nat := loadLe bytes (header + 8) 8

def setMagic (state : HeapState) (header magic : Nat) : HeapState :=
  { state with bytes := storeLe state.bytes header 8 magic }

def setSize (state : HeapState) (header size : Nat) : HeapState :=
  { state with bytes := storeLe state.bytes (header + 8) 8 size }

/-- `memset` of part of a payload to zero. -/
def clear (state : HeapState) (start length : Nat) : HeapState :=
  { state with bytes := fillBytes state.bytes start length 0 }

def payloadSize (bytes : UInt64) : Nat := if bytes = 0 then 1 else bytes.toNat

/-! ### The functions -/

/-- `sl_kernel32_heap_alloc`. -/
def heapAlloc (answer : LibraryAnswer) (heap : UInt64) (flags : UInt32) (bytes : UInt64)
    (state : HeapState) : HeapState × Answer :=
  if ¬ isProcessHeap heap ∨ bytes.toNat > sizeMax - headerSize then (state, .pointer 0)
  else if payloadSize bytes > sizeMax - headerSize then (state, .pointer 0)
  else match malloc answer (headerSize + payloadSize bytes) state with
    | (none, state) => (state, .pointer 0)
    | (some header, state) =>
      let state := setSize (setMagic state header heapMagic) header bytes.toNat
      let state := if flags &&& heapZeroMemory ≠ 0 then
          clear state (header + headerSize) (payloadSize bytes)
        else state
      (state, .pointer (payload header))

/-- `sl_kernel32_heap_free`. -/
def heapFree (answer : LibraryAnswer) (heap : UInt64) (memory : UInt64) (state : HeapState) :
    Option HeapState × Answer :=
  if ¬ isProcessHeap heap ∨ memory = 0 then (some state, .bool false)
  else if magicAt state.bytes (heapHeader memory) ≠ heapMagic then (some state, .bool false)
  else match free answer (heapHeader memory) (setMagic state (heapHeader memory) 0) with
    | none => (none, .undefined)
    | some state => (some state, .bool true)

/-- `sl_kernel32_heap_realloc`. -/
def heapRealloc (answer : LibraryAnswer) (heap : UInt64) (flags : UInt32) (memory bytes : UInt64)
    (state : HeapState) : Option HeapState × Answer :=
  let header := heapHeader memory
  if ¬ isProcessHeap heap ∨ memory = 0 ∨ bytes.toNat > sizeMax - headerSize then
    (some state, .pointer 0)
  else if magicAt state.bytes header ≠ heapMagic then (some state, .pointer 0)
  else
    let oldSize := sizeAt state.bytes header
    if flags &&& heapReallocInPlaceOnly ≠ 0 then
      if bytes.toNat > oldSize then (some state, .pointer 0)
      -- a header that is no block's would be written to all the same
      else if blockAt state header = none then (none, .undefined)
      else (some (setSize state header bytes.toNat), .pointer memory)
    else match realloc answer header (headerSize + payloadSize bytes) state with
      | none => (none, .undefined)
      | some (none, state) => (some state, .pointer 0)
      | some (some resized, state) =>
        let state := setSize (setMagic state resized heapMagic) resized bytes.toNat
        let state := if flags &&& heapZeroMemory ≠ 0 ∧ bytes.toNat > oldSize then
            clear state (resized + headerSize + oldSize) (bytes.toNat - oldSize)
          else state
        (some state, .pointer (payload resized))

/-- `sl_kernel32_heap_size`. -/
def heapSize (heap memory : UInt64) (state : HeapState) : Nat :=
  if ¬ isProcessHeap heap ∨ memory = 0 then sizeMax
  else if magicAt state.bytes (heapHeader memory) ≠ heapMagic then sizeMax
  else sizeAt state.bytes (heapHeader memory)

/-! ### Runs -/

/-- The bytes a caller may write: those it asked for. -/
def Writable (state : HeapState) (address : Nat) : Prop :=
  ∃ block ∈ state.blocks, block.address + headerSize ≤ address ∧
    address < block.address + headerSize + sizeAt state.bytes block.address

instance (state : HeapState) (address : Nat) : Decidable (Writable state address) :=
  inferInstanceAs (Decidable (∃ block ∈ state.blocks, _ ∧ _))

inductive Call where
  | alloc (heap : UInt64) (flags : UInt32) (bytes : UInt64)
  | free (heap : UInt64) (memory : UInt64)
  | realloc (heap : UInt64) (flags : UInt32) (memory bytes : UInt64)
  | size (heap memory : UInt64)
  /-- The caller writes a byte of the heap. -/
  | store (address : UInt64) (byte : UInt8)
  deriving DecidableEq, Repr

/-- What a call leaves, unless C says nothing of what happens. -/
def perform (state : HeapState) (label : Call × LibraryAnswer) : Option HeapState × Answer :=
  match label.1 with
  | .alloc heap flags bytes =>
    let (after, answer) := heapAlloc label.2 heap flags bytes state
    (some after, answer)
  | .free heap memory => heapFree label.2 heap memory state
  | .realloc heap flags memory bytes => heapRealloc label.2 heap flags memory bytes state
  | .size heap memory => (some state, .size (heapSize heap memory state))
  | .store address byte =>
    if Writable state address.toNat then
      (some { state with bytes := Function.update state.bytes address.toNat byte }, .stored)
    else (none, .undefined)

/-- After a call of which C says nothing, nothing is known of the heap and of later calls. -/
def step (state : Option HeapState) (label : Call × LibraryAnswer) : Option HeapState × Answer :=
  match state with
  | none => (none, .undefined)
  | some state => perform state label

/-- Before the first allocation. -/
def start (bytes : Nat → UInt8) : HeapState := { bytes := bytes, blocks := [] }

end SadLayer.Heap
