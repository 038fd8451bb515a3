import SadLayer.AlignedReservations
import SadLayer.PageProtections
import SadLayer.WorkerReports

/-! What a worker takes from the host: two stacks between guard pages, a pipe, the signal mask, a
hold on the handle table, a reference to the process, and a child. However far its start comes, the
parent gives it all back that the host takes. -/
namespace SadLayer.Runtime
open SadLayer.Loader (Protection MappedImage MprotectAnswer hostPageSize roundUpSize readWrite
  validateTrustedEntry)

/-! ### Stacks -/

/-- What each byte of the address space is mapped for, where it is. -/
abbrev Memory := Nat → Option Protection

def Memory.fill (memory : Memory) (address size : Nat) (use : Option Protection) : Memory :=
  fun byte => if address ≤ byte ∧ byte < address + size then use else memory byte

/-- `sl_guarded_stack`. -/
structure GuardedStack where
  mapping : Nat := 0
  mappingSize : Nat := 0
  limit : Nat := 0
  base : Nat := 0
  deriving DecidableEq, Repr

/-- What `sysconf`, `mmap`, `mprotect` and `munmap` answer. -/
structure StackAnswers where
  pageSize : Int
  mapping : Option Nat
  accessible : MprotectAnswer
  unmapped : Bool

/-- `mprotect`, which may have changed some of the bytes when it fails. -/
def Memory.protect (memory : Memory) (address size : Nat) (use : Protection)
    (answer : MprotectAnswer) : Memory := fun byte =>
  if answer.changed byte then memory.fill address size (some use) byte else memory byte

/-- `munmap`, which changes nothing when it fails. -/
def Memory.unmap (memory : Memory) (address size : Nat) (unmapped : Bool) : Memory :=
  if unmapped then memory.fill address size none else memory

/-- What of the host and of the process a worker takes: the memory, the descriptors, the signal mask
of the calling thread, the references to the process, whether its handle table is held still, and
the children that nobody has waited for. -/
structure Host where
  memory : Memory
  descriptors : List Nat
  mask : UInt64
  references : Nat
  held : Bool
  children : List Int32

namespace Host

def closes (host : Host) (fd : Nat) : Host :=
  { host with descriptors := host.descriptors.erase fd }

end Host

/-- What `sl_runtime_run_trusted_worker` is called with: whether there is a report and a process,
and the addresses of the image and its mapping, here and in the main module. -/
structure Request where
  report : Bool
  process : Bool
  inContext : Bool
  mainModule : Option (Nat × Nat)
  image : Pe.Image
  mapped : MappedImage
  imageAddress : Nat
  mappedAddress : Nat

variable {memory : Memory} {requested : Nat} {answers : StackAnswers} {stack : GuardedStack}
  {address size : Nat}

/-- The byte is of a mapping that was made for a stack and that the host does not take back. -/
def StackAnswers.Leaves (answers : StackAnswers) (requested byte : Nat) : Prop :=
  answers.unmapped = false ∧ ∃ pageSize usableSize mapping,
    hostPageSize answers.pageSize = .ok pageSize ∧
      roundUpSize requested pageSize = some usableSize ∧ answers.mapping = some mapping ∧
      mapping ≤ byte ∧ byte < mapping + (usableSize + pageSize * 2)

/-- A stack of whole pages, no more than needed, all of it accessible, between two pages that are
not. -/
structure Guarded (memory : Memory) (stack : GuardedStack) (requested pageSize : Nat) : Prop where
  mapped : stack.mapping + pageSize = stack.limit ∧
    stack.mapping + stack.mappingSize = stack.base + pageSize
  pages : pageSize ∣ stack.limit ∧ pageSize ∣ stack.base
  enough : stack.limit + requested ≤ stack.base ∧ stack.base < stack.limit + requested + pageSize
  usable : ∀ byte, stack.limit ≤ byte → byte < stack.base → memory byte = some readWrite
  below : ∀ byte, stack.limit ≤ byte + pageSize → byte < stack.limit → memory byte = some {}
  above : ∀ byte, stack.base ≤ byte → byte < stack.base + pageSize → memory byte = some {}

/-- The mapping of a stack. -/
def GuardedStack.Covers (stack : GuardedStack) (byte : Nat) : Prop :=
  stack.mapping ≤ byte ∧ byte < stack.mapping + stack.mappingSize

theorem fill_elsewhere {use : Option Protection} {byte : Nat}
    (apart : ¬ (address ≤ byte ∧ byte < address + size)) :
    memory.fill address size use byte = memory byte := if_neg apart

theorem fill_inside {use : Option Protection} {byte : Nat} (least : address ≤ byte)
    (less : byte < address + size) : memory.fill address size use byte = use := if_pos ⟨least, less⟩

/-- Unmapping what was not mapped before restores it, unless it is refused. -/
theorem unmapped {after : Memory} {taken : Bool} {byte : Nat} {Else : Prop}
    (free : address ≤ byte → byte < address + size → memory byte = none)
    (same : ¬ (address ≤ byte ∧ byte < address + size) → after byte = memory byte ∨ Else) :
    after.unmap address size taken byte = memory byte ∨
      (taken = false ∧ address ≤ byte ∧ byte < address + size) ∨ Else := by
  unfold Memory.unmap
  by_cases inside : address ≤ byte ∧ byte < address + size
  · cases taken with
    | false => exact .inr (.inl ⟨rfl, inside⟩)
    | true => exact .inl ((fill_inside inside.1 inside.2).trans (free inside.1 inside.2).symm)
  · have kept : (if taken then after.fill address size none else after) byte = after byte := by
      split
      · exact fill_elsewhere inside
      · rfl
    rw [kept]
    exact (same inside).imp_right .inr

theorem Guarded.congr {after : Memory} {pageSize : Nat}
    (guarded : Guarded memory stack requested pageSize)
    (same : ∀ byte, stack.Covers byte → after byte = memory byte) :
    Guarded after stack requested pageSize := by
  obtain ⟨start, stop⟩ := guarded.mapped
  have enough := guarded.enough
  refine { guarded with
    usable := fun byte least less => ?_, below := fun byte least less => ?_,
    above := fun byte least less => ?_ }
  · rw [same byte ⟨by omega, by omega⟩, guarded.usable byte least less]
  · rw [same byte ⟨by omega, by omega⟩, guarded.below byte least less]
  · rw [same byte ⟨by omega, by omega⟩, guarded.above byte least less]

variable {host taken : Host} {given : StartAnswers} {signalStack : GuardedStack} {pipe : Nat × Nat}
  {status : Status}

end SadLayer.Runtime
