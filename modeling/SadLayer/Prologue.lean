import Mathlib.Data.List.Induction
import SadLayer.VirtualUnwind

/-! Prologues as the processor runs them: the registers they save, the stack they
claim, and what their slots hold afterwards. This is the meaning of the
operations that unwind codes describe, not a part of the unwinder. -/
namespace SadLayer.Unwind
open SadLayer.Library

inductive SavedRegister where
  | integer (number : Nat)
  | xmm (number : Nat)
  deriving DecidableEq, Repr

def SavedRegister.size : SavedRegister → Nat
  | .integer _ => 8
  | .xmm _ => 16

/-- Two contexts hold the same value in a register. -/
def SavedRegister.SameIn (left right : Context) : SavedRegister → Prop
  | .integer number => left.integer number = right.integer number
  | .xmm number => left.xmm number = right.xmm number

theorem SavedRegister.SameIn.trans {register : SavedRegister} {left middle right : Context}
    (first : register.SameIn left middle) (second : register.SameIn middle right) :
    register.SameIn left right := by
  cases register with
  | integer number => exact Eq.trans first second
  | xmm number => exact Eq.trans first second

/-- Where a register was saved. -/
structure SavedSlot where
  register : SavedRegister
  address : Nat
  deriving DecidableEq, Repr

def SavedSlot.last (slot : SavedSlot) : Nat := slot.address + slot.register.size

/-- A slot holds what a context has in its register. -/
def SavedSlot.Holds (bytes : Nat → UInt8) (context : Context) (slot : SavedSlot) : Prop :=
  match slot.register with
  | .integer number => loadLe bytes slot.address 8 = context.integer number
  | .xmm number => loadLe bytes slot.address 8 = (context.xmm number).low ∧
      loadLe bytes (slot.address + 8) 8 = (context.xmm number).high

def SavedSlot.write (bytes : Nat → UInt8) (context : Context) (slot : SavedSlot) : Nat → UInt8 :=
  match slot.register with
  | .integer number => storeLe bytes slot.address 8 (context.integer number)
  | .xmm number =>
    storeLe (storeLe bytes slot.address 8 (context.xmm number).low) (slot.address + 8) 8
      (context.xmm number).high

/-- Two slots share no byte. -/
def SavedSlot.Apart (left right : SavedSlot) : Prop :=
  left.last ≤ right.address ∨ right.last ≤ left.address

/-- What one instruction of a prologue does. -/
inductive Operation where
  | push (number : Nat)
  | alloc (size : Nat)
  | setFrame
  | save (register : SavedRegister) (offset : Nat)
  deriving DecidableEq, Repr

/-- How far an operation moves the stack pointer. -/
def Operation.size : Operation → Nat
  | .push _ => 8
  | .alloc size => size
  | .setFrame | .save _ _ => 0

def Operation.saved : Operation → Option SavedRegister
  | .push number => some (.integer number)
  | .save register _ => some register
  | .alloc _ | .setFrame => none

def allocated (operations : List Operation) : Nat := (operations.map Operation.size).sum

/-- A prologue in progress: the machine, the stack pointer that the frame register was fixed from,
and the slots written so far. -/
structure Running where
  context : Context
  bytes : Nat → UInt8
  fixedRsp : Option Nat := none
  slots : List SavedSlot := []

/-- The address that saves are relative to. -/
def Running.base (running : Running) : Nat := running.fixedRsp.getD running.context.rsp

def Running.saveAt (running : Running) (slot : SavedSlot) : Running := { running with
  bytes := slot.write running.bytes running.context
  slots := running.slots ++ [slot] }

def Running.moveRsp (running : Running) (size : Nat) : Running := { running with
  context := running.context.setInteger registerRsp (running.context.rsp - size) }

def Running.execute (frameRegister frameOffset : Nat) (running : Running) : Operation → Running
  | .push number =>
    (running.saveAt ⟨.integer number, running.context.rsp - 8⟩).moveRsp 8
  | .alloc size => running.moveRsp size
  | .setFrame => { running with
      context := running.context.setInteger frameRegister
        ((running.context.rsp + frameOffset * 16) % 2 ^ 64)
      fixedRsp := some running.context.rsp }
  | .save register offset => running.saveAt ⟨register, running.base + offset⟩

/-- What a prologue starts from. -/
structure Start where
  frameRegister : Nat
  frameOffset : Nat
  context : Context
  bytes : Nat → UInt8

/-- The machine after these operations. -/
def Start.after (start : Start) (operations : List Operation) : Running :=
  operations.foldl (Running.execute start.frameRegister start.frameOffset)
    { context := start.context, bytes := start.bytes }

/-- The slot of the return address. -/
def Start.returnSlot (start : Start) : Nat := start.context.rsp

section Slots
variable {bytes : Nat → UInt8} {context : Context} {slot other : SavedSlot}

theorem write_outside {index : Nat} (outside : index < slot.address ∨ slot.last ≤ index) :
    slot.write bytes context index = bytes index := by
  obtain ⟨register, address⟩ := slot
  cases register with
  | integer number => exact store_le_outside outside
  | xmm number =>
    change index < address ∨ address + 16 ≤ index at outside
    change storeLe (storeLe bytes address 8 _) (address + 8) 8 _ index = bytes index
    rw [store_le_outside (by omega), store_le_outside (by omega)]

/-- What a slot holds depends on its own bytes only. -/
theorem SavedSlot.Holds.congr {others : Nat → UInt8} (holds : slot.Holds others context)
    (same : ∀ index, slot.address ≤ index → index < slot.last → bytes index = others index) :
    slot.Holds bytes context := by
  obtain ⟨register, address⟩ := slot
  cases register with
  | integer number => exact (load_le_congr same).trans holds
  | xmm number =>
    change ∀ index, address ≤ index → index < address + 16 → _ at same
    have low : loadLe bytes address 8 = loadLe others address 8 :=
      load_le_congr fun index above below => same index above (by omega)
    have high : loadLe bytes (address + 8) 8 = loadLe others (address + 8) 8 :=
      load_le_congr fun index above below => same index (by omega) (by omega)
    exact ⟨low.trans holds.1, high.trans holds.2⟩

theorem write_apart {values : Context} (apart : slot.Apart other)
    (holds : slot.Holds bytes values) : slot.Holds (other.write bytes context) values := by
  refine holds.congr fun index above below => write_outside ?_
  unfold SavedSlot.Apart at apart
  omega

/-- The registers of a context fit their widths. -/
structure Context.Fits (context : Context) : Prop where
  integer : ∀ number, context.integer number < 2 ^ 64
  xmm : ∀ number, (context.xmm number).low < 2 ^ 64 ∧ (context.xmm number).high < 2 ^ 64

/-- A slot holds what was written to it, in every context with that value in the register. -/
theorem write_holds {values : Context} (fits : values.Fits)
    (same : slot.register.SameIn context values) : slot.Holds (slot.write bytes context) values := by
  obtain ⟨register, address⟩ := slot
  have word : 256 ^ 8 = 2 ^ 64 := rfl
  cases register with
  | integer number =>
    change loadLe (storeLe bytes address 8 (context.integer number)) address 8 = _
    rw [load_le_store_le, word, show context.integer number = values.integer number from same,
      Nat.mod_eq_of_lt (fits.integer number)]
  | xmm number =>
    change loadLe (storeLe (storeLe bytes address 8 (context.xmm number).low) (address + 8) 8
        (context.xmm number).high) address 8 = _ ∧
      loadLe (storeLe (storeLe bytes address 8 (context.xmm number).low) (address + 8) 8
        (context.xmm number).high) (address + 8) 8 = _
    rw [load_le_store_le_disjoint (.inl (Nat.le_refl _)), load_le_store_le, load_le_store_le, word,
      show context.xmm number = values.xmm number from same,
      Nat.mod_eq_of_lt (fits.xmm number).1, Nat.mod_eq_of_lt (fits.xmm number).2]
    exact ⟨rfl, rfl⟩

end Slots

section Execution
variable {start : Start} {operations before after : List Operation} {operation : Operation}

theorem after_nil : start.after [] = { context := start.context, bytes := start.bytes } := rfl

theorem after_concat : start.after (operations ++ [operation]) =
    (start.after operations).execute start.frameRegister start.frameOffset operation :=
  List.foldl_append

@[simp] theorem set_integer_rsp (context : Context) (value : Nat) :
    (context.setInteger registerRsp value).rsp = value := by
  simp [Context.rsp, Context.setInteger]

theorem set_integer_of_ne {context : Context} {number other value : Nat} (other_ : other ≠ number) :
    (context.setInteger number value).integer other = context.integer other :=
  Function.update_of_ne other_ ..

@[simp] theorem move_rsp (running : Running) (size : Nat) :
    (running.moveRsp size).context.rsp = running.context.rsp - size := set_integer_rsp ..

/-- The stack pointer moves by the size of the operation. -/
theorem execute_rsp (framed : start.frameRegister ≠ registerRsp) (running : Running) :
    (running.execute start.frameRegister start.frameOffset operation).context.rsp =
      running.context.rsp - operation.size := by
  cases operation with
  | push number => exact move_rsp _ _
  | alloc size => exact move_rsp _ _
  | setFrame => exact Function.update_of_ne framed.symm ..
  | save register offset => rfl

theorem after_rsp_le (framed : start.frameRegister ≠ registerRsp) (operations : List Operation) :
    (start.after operations).context.rsp ≤ start.context.rsp := by
  induction operations using List.reverseRecOn with
  | nil => exact Nat.le_refl _
  | append_singleton operations operation ih =>
    rw [after_concat, execute_rsp framed]
    omega

/-- Once the frame register is fixed it stays, unless it is fixed again. -/
theorem after_fixed_append {fixed : Nat} (isFixed : (start.after before).fixedRsp = some fixed)
    (once : .setFrame ∉ after) : (start.after (before ++ after)).fixedRsp = some fixed := by
  induction after using List.reverseRecOn with
  | nil => rwa [List.append_nil]
  | append_singleton after operation ih =>
    simp only [List.mem_append, List.mem_singleton, not_or] at once
    rw [← List.append_assoc, after_concat]
    cases operation with
    | setFrame => exact absurd rfl once.2
    | push number => exact ih once.1
    | alloc size => exact ih once.1
    | save register offset => exact ih once.1

theorem after_fixed_iff : (start.after operations).fixedRsp = none ↔ .setFrame ∉ operations := by
  induction operations using List.reverseRecOn with
  | nil => simp [after_nil]
  | append_singleton operations operation ih =>
    rw [after_concat]
    cases operation with
    | setFrame => simp [Running.execute]
    | push number => simpa [Running.execute, Running.saveAt, Running.moveRsp] using ih
    | alloc size => simpa [Running.execute, Running.moveRsp] using ih
    | save register offset => simpa [Running.execute, Running.saveAt] using ih

/-- Operations that leave the stack pointer where it is leave the base of the saves there too. -/
theorem after_still (framed : start.frameRegister ≠ registerRsp)
    (unfixed : (start.after before).fixedRsp = none)
    (still : ∀ operation ∈ after, operation.size = 0) :
    (start.after (before ++ after)).context.rsp = (start.after before).context.rsp ∧
      (start.after (before ++ after)).base = (start.after before).context.rsp := by
  induction after using List.reverseRecOn with
  | nil =>
    rw [List.append_nil, Running.base, unfixed]
    exact ⟨rfl, rfl⟩
  | append_singleton after operation ih =>
    obtain ⟨rsp, base⟩ := ih fun operation member =>
      still operation (List.mem_append_left _ member)
    have size : operation.size = 0 := still operation (by simp)
    have moved : ((start.after (before ++ after)).execute start.frameRegister start.frameOffset
        operation).context.rsp = (start.after (before ++ after)).context.rsp := by
      rw [execute_rsp framed, size, Nat.sub_zero]
    rw [← List.append_assoc, after_concat]
    refine ⟨moved.trans rsp, ?_⟩
    cases operation with
    | push number => contradiction
    | alloc amount =>
      simp only [Operation.size] at size
      subst size
      rw [Running.base] at base ⊢
      rw [moved]
      exact base
    | setFrame => exact rsp
    | save register offset => exact base

/-- The slots of a prologue begin with those of every part of it. -/
theorem after_slots_append :
    ∃ later, (start.after (before ++ after)).slots = (start.after before).slots ++ later := by
  induction after using List.reverseRecOn with
  | nil => exact ⟨[], by simp⟩
  | append_singleton after operation ih =>
    obtain ⟨later, extended⟩ := ih
    rw [← List.append_assoc, after_concat]
    cases operation with
    | push number => exact ⟨later ++ [_], by rw [← List.append_assoc, ← extended]; rfl⟩
    | alloc size => exact ⟨later, extended⟩
    | setFrame => exact ⟨later, extended⟩
    | save register offset => exact ⟨later ++ [_], by rw [← List.append_assoc, ← extended]; rfl⟩

/-- Memory outside of the slots is as it was. -/
theorem after_bytes_outside {index : Nat} (outside : ∀ slot ∈ (start.after operations).slots,
    index < slot.address ∨ slot.last ≤ index) :
    (start.after operations).bytes index = start.bytes index := by
  induction operations using List.reverseRecOn with
  | nil => rfl
  | append_singleton operations operation ih =>
    rw [after_concat] at outside ⊢
    cases operation with
    | push number =>
      have own := outside _ (List.mem_append_right _ (List.mem_singleton_self _))
      exact (write_outside own).trans
        (ih fun slot member => outside slot (List.mem_append_left _ member))
    | alloc size => exact ih outside
    | setFrame => exact ih outside
    | save register offset =>
      have own := outside _ (List.mem_append_right _ (List.mem_singleton_self _))
      exact (write_outside own).trans
        (ih fun slot member => outside slot (List.mem_append_left _ member))

/-- The registers that a prologue leaves as they were. -/
theorem after_register {number : Nat} (notRsp : number ≠ registerRsp)
    (unframed : number ≠ start.frameRegister ∨ .setFrame ∉ operations) :
    (start.after operations).context.integer number = start.context.integer number := by
  induction operations using List.reverseRecOn with
  | nil => rfl
  | append_singleton operations operation ih =>
    simp only [List.mem_append, List.mem_singleton, not_or] at unframed
    have earlier := ih (unframed.imp id And.left)
    rw [after_concat]
    cases operation with
    | push saved => exact (set_integer_of_ne notRsp).trans earlier
    | alloc size => exact (set_integer_of_ne notRsp).trans earlier
    | setFrame =>
      have other : number ≠ start.frameRegister := unframed.resolve_right fun set => set.2 rfl
      exact (set_integer_of_ne other).trans earlier
    | save register offset => exact earlier

theorem after_frame_register (framed : start.frameRegister ≠ registerRsp) {fixed : Nat}
    (isFixed : (start.after operations).fixedRsp = some fixed) :
    (start.after operations).context.integer start.frameRegister =
      (fixed + start.frameOffset * 16) % 2 ^ 64 := by
  induction operations using List.reverseRecOn with
  | nil => contradiction
  | append_singleton operations operation ih =>
    rw [after_concat] at isFixed ⊢
    cases operation with
    | push saved => exact (set_integer_of_ne framed).trans (ih isFixed)
    | alloc size => exact (set_integer_of_ne framed).trans (ih isFixed)
    | setFrame =>
      cases isFixed
      exact Function.update_self ..
    | save register offset => exact ih isFixed

theorem after_xmm (operations : List Operation) :
    (start.after operations).context.xmm = start.context.xmm := by
  induction operations using List.reverseRecOn with
  | nil => rfl
  | append_singleton operations operation ih =>
    rw [after_concat]
    cases operation <;> exact ih

end Execution

/-- A prologue whose saves are addressed as a compiler addresses them. -/
structure WellAddressed (frameRegister : Nat) (prologue : List Operation) : Prop where
  /-- No push or allocation after a save that comes before the frame register is set up. -/
  unmoved : ∀ before register offset after, prologue = before ++ .save register offset :: after →
    .setFrame ∉ before → ∀ operation ∈ after, operation.size = 0
  /-- The frame register is saved before it is set up. -/
  frameRegister : ∀ before after, prologue = before ++ .setFrame :: after →
    ∀ operation ∈ after, operation.saved ≠ some (.integer frameRegister)

/-- A prologue runs inside the bounds of a stack, and its slots share no byte. -/
structure RunsInside (start : Start) (stack : Stack) (prologue : List Operation) : Prop where
  fits : start.context.Fits
  addresses : stack.base ≤ uint64Max
  entered : stack.limit ≤ start.context.rsp ∧ start.context.rsp + 8 ≤ stack.base
  room : ∀ before operation after, prologue = before ++ operation :: after →
    stack.limit + operation.size ≤ (start.after before).context.rsp
  slots : ∀ slot ∈ (start.after prologue).slots,
    stack.limit ≤ slot.address ∧ slot.last ≤ stack.base
  framePointer : ∀ fixed, (start.after prologue).fixedRsp = some fixed →
    fixed + start.frameOffset * 16 < 2 ^ 64
  apart : (start.after prologue).slots.Pairwise SavedSlot.Apart
  returnApart : ∀ slot ∈ (start.after prologue).slots,
    slot.last ≤ start.returnSlot ∨ start.returnSlot + 8 ≤ slot.address

section Saves
variable {start : Start} {stack : Stack} {before after operations : List Operation}

theorem WellAddressed.part {frameRegister : Nat}
    (addressed : WellAddressed frameRegister (before ++ after)) :
    WellAddressed frameRegister before := by
  constructor
  · intro earlier register offset later split unset operation member
    refine addressed.unmoved earlier register offset (later ++ after) (by simp [split]) unset
      operation (List.mem_append_left _ member)
  · intro earlier later split operation member
    exact addressed.frameRegister earlier (later ++ after) (by simp [split]) operation
      (List.mem_append_left _ member)

/-- A register that is saved holds what it held at the start. -/
theorem WellAddressed.saved_same {operation : Operation} {register : SavedRegister}
    (addressed : WellAddressed start.frameRegister (before ++ operation :: after))
    (saved : operation.saved = some register) (notRsp : register ≠ .integer registerRsp) :
    register.SameIn (start.after before).context start.context := by
  cases register with
  | xmm number => exact congrFun (after_xmm before) number
  | integer number =>
    refine after_register (fun same => notRsp (congrArg _ same)) ?_
    by_contra neither
    rw [not_or, not_not, not_not] at neither
    obtain ⟨same, set⟩ := neither
    obtain ⟨earlier, later, split⟩ := List.append_of_mem set
    refine addressed.frameRegister earlier (later ++ operation :: after) (by simp [split])
      operation (by simp) ?_
    rw [saved, same]

/-- Every slot holds what its register held at the start. -/
theorem after_holds (fits : start.context.Fits)
    (addressed : WellAddressed start.frameRegister operations)
    (notRsp : ∀ operation ∈ operations, operation.saved ≠ some (.integer registerRsp))
    (apart : (start.after operations).slots.Pairwise SavedSlot.Apart) :
    ∀ slot ∈ (start.after operations).slots,
      slot.Holds (start.after operations).bytes start.context := by
  induction operations using List.reverseRecOn with
  | nil =>
    intro slot member
    contradiction
  | append_singleton operations operation ih =>
    rw [after_concat] at apart ⊢
    have keep := fun operation member => notRsp operation (List.mem_append_left _ member)
    have save (slot : SavedSlot) (saved : operation.saved = some slot.register)
        (apart : ((start.after operations).slots ++ [slot]).Pairwise SavedSlot.Apart) :
        ∀ other ∈ (start.after operations).slots ++ [slot], other.Holds
          (slot.write (start.after operations).bytes (start.after operations).context)
          start.context := by
      obtain ⟨earlier, -, across⟩ := List.pairwise_append.mp apart
      intro other member
      rcases List.mem_append.mp member with member | member
      · exact write_apart (across other member slot (by simp))
          (ih addressed.part keep earlier other member)
      · rw [List.mem_singleton.mp member]
        refine write_holds fits (addressed.saved_same saved ?_)
        exact fun rsp => notRsp operation (by simp) (by rw [saved, rsp])
    cases operation with
    | push number => exact save ⟨.integer number, _⟩ rfl apart
    | alloc size => exact ih addressed.part keep apart
    | setFrame => exact ih addressed.part keep apart
    | save register offset => exact save ⟨register, _⟩ rfl apart

end Saves

end SadLayer.Unwind
