import SadLayer.UnwindRecords

/-! What the codes of a record do to a context: the stack they read, the registers
they restore, and the loop that undoes a prologue one operation at a time. -/
namespace SadLayer.Unwind
open SadLayer.Library

/-- `sl_win64_m128a`, its halves as bits. -/
structure M128a where
  low : Nat
  high : Nat
  deriving DecidableEq, Repr

/-- `sl_win64_xmm_save_area32` without its XMM registers. -/
structure FloatingSave where
  controlWord : Nat := 0
  statusWord : Nat := 0
  tagWord : Nat := 0
  reserved1 : Nat := 0
  errorOpcode : Nat := 0
  errorOffset : Nat := 0
  errorSelector : Nat := 0
  reserved2 : Nat := 0
  dataOffset : Nat := 0
  dataSelector : Nat := 0
  reserved3 : Nat := 0
  mxCsr : Nat := 0
  mxCsrMask : Nat := 0
  floatRegisters : Nat → M128a := fun _ => ⟨0, 0⟩
  reserved4 : Nat → Nat := fun _ => 0

/-- The fields of `sl_win64_context` that unwinding copies along. The home addresses and the debug
registers go by their numbers. -/
structure ContextRest where
  home : Nat → Nat := fun _ => 0
  contextFlags : Nat := 0
  mxCsr : Nat := 0
  segDs : Nat := 0
  segEs : Nat := 0
  segFs : Nat := 0
  segGs : Nat := 0
  debugRegister : Nat → Nat := fun _ => 0
  floatingSave : FloatingSave := {}
  vectorRegister : Nat → M128a := fun _ => ⟨0, 0⟩
  vectorControl : Nat := 0
  debugControl : Nat := 0
  lastBranchToRip : Nat := 0
  lastBranchFromRip : Nat := 0
  lastExceptionToRip : Nat := 0
  lastExceptionFromRip : Nat := 0

/-- `sl_win64_context`. Integer registers go by the number that `integer_register` gives them. -/
structure Context where
  integer : Nat → Nat := fun _ => 0
  rip : Nat := 0
  eFlags : Nat := 0
  segCs : Nat := 0
  segSs : Nat := 0
  xmm : Nat → M128a := fun _ => ⟨0, 0⟩
  rest : ContextRest := {}

/-- The numbers of RAX and RSP. -/
def registerRax : Nat := 0
def registerRsp : Nat := 4

def Context.rsp (context : Context) : Nat := context.integer registerRsp

def Context.setInteger (context : Context) (number value : Nat) : Context :=
  { context with integer := Function.update context.integer number value }

def Context.setXmm (context : Context) (number : Nat) (value : M128a) : Context :=
  { context with xmm := Function.update context.xmm number value }

/-- `sl_win64_nonvolatile_context_pointers`: the address a register was restored from. -/
structure ContextPointers where
  floatingContext : Nat → Nat := fun _ => 0
  integerContext : Nat → Nat := fun _ => 0

/-- `sl_win64_stack_bounds`, with the memory between them. -/
structure Stack where
  limit : Nat
  base : Nat
  bytes : Nat → UInt8

/-- What an unwind works on until it commits. -/
structure UnwindState where
  context : Context
  pointers : Option ContextPointers
  machineFrame : Bool := false

/-! ### Reading the stack -/

def addU64 (left right : Nat) : Option Nat :=
  if right > uint64Max - left then none else some (left + right)

def stackRangeFits (stack : Stack) (address size : Nat) : Bool :=
  stack.limit < stack.base && stack.limit ≤ address && address ≤ stack.base &&
    size ≤ stack.base - address && address ≤ uint64Max

def stackFrameIsValid (stack : Stack) (address : Nat) : Bool :=
  stack.limit < stack.base && stack.limit ≤ address && address < stack.base &&
    address % 8 == 0 && address ≤ uint64Max

def readStackU64 (stack : Stack) (address : Nat) : Option Nat :=
  if stackRangeFits stack address 8 then some (loadLe stack.bytes address 8) else none

def readStackM128 (stack : Stack) (address : Nat) : Option M128a :=
  if stackRangeFits stack address 16 then
    some { low := loadLe stack.bytes address 8, high := loadLe stack.bytes (address + 8) 8 }
  else none

def addStackOffset (base offset : Nat) : Option Nat :=
  (addU64 base offset).filter (· ≤ uint64Max)

/-! ### Restoring registers -/

def restoreInteger (stack : Stack) (state : UnwindState) (number address : Nat) :
    Option UnwindState :=
  if number ≥ 16 then none
  else (readStackU64 stack address).map fun value => { state with
    context := state.context.setInteger number value
    pointers := state.pointers.map fun pointers => { pointers with
      integerContext := Function.update pointers.integerContext number address } }

def restoreXmm (stack : Stack) (state : UnwindState) (number address : Nat) :
    Option UnwindState :=
  (readStackM128 stack address).map fun value => { state with
    context := state.context.setXmm number value
    pointers := state.pointers.map fun pointers => { pointers with
      floatingContext := Function.update pointers.floatingContext number address } }

/-- Adds to the stack pointer. -/
def release (state : UnwindState) (size : Nat) : Option UnwindState :=
  (addU64 state.context.rsp size).map fun rsp =>
    { state with context := state.context.setInteger registerRsp rsp }

/-- Restores a register from the top of the stack and pops it. -/
def popInteger (stack : Stack) (state : UnwindState) (number : Nat) : Option UnwindState :=
  (restoreInteger stack state number state.context.rsp).bind fun state => release state 8

/-- Reads the return address at the top of the stack and pops it. -/
def popReturnAddress (stack : Stack) (state : UnwindState) : Option UnwindState :=
  (readStackU64 stack state.context.rsp).bind fun returnAddress =>
    (release state 8).map fun state =>
      { state with context := { state.context with rip := returnAddress } }

/-! ### Applying codes -/

/-- What a loop over codes comes to. One that meets an operation of no slots never ends. -/
inductive Walked (α : Type) where
  | endless
  | rejected
  | done (value : α)

/-- The loop of `frame_register_is_established`, which passes over `skip` slots first; `none` when
it never ends. -/
def frameRegisterIsEstablished (version : Nat) (inPrologue : Bool) (prologueOffset : Nat) :
    List CodeSlot → Nat → Option Bool
  | [], _ => some false
  | _ :: rest, skip + 1 =>
    frameRegisterIsEstablished version inPrologue prologueOffset rest skip
  | slot :: rest, 0 =>
    if slot.operation = .setFpreg then
      some (!inPrologue || slot.codeOffset ≤ prologueOffset)
    else match unwindOperationSlots version slot.operation slot.info with
      | 0 => none
      | slots + 1 => frameRegisterIsEstablished version inPrologue prologueOffset rest slots

/-- `SL_UWOP_ALLOC_LARGE`. -/
def allocLargeSize (info : Nat) (operands : List CodeSlot) : Nat :=
  if info = 0 then operand16 operands * 8 else operand32 operands

/-- `SL_UWOP_PUSH_MACHFRAME`. -/
def popMachineFrame (stack : Stack) (state : UnwindState) (info : Nat) : Option UnwindState := do
  let bias := if info = 0 then 0 else 8
  let read (offset : Nat) : Option Nat :=
    (addStackOffset state.context.rsp (bias + offset)).bind (readStackU64 stack)
  let rip ← read 0
  let codeSegment ← read 8
  let flags ← read 16
  let oldRsp ← read 24
  let stackSegment ← read 32
  some { state with
    machineFrame := true
    context := { state.context.setInteger registerRsp oldRsp with
      rip := rip
      eFlags := flags % 2 ^ 32
      segCs := codeSegment % 2 ^ 16
      segSs := stackSegment % 2 ^ 16 } }

/-- The `switch` of `apply_unwind_codes`; `operands` are the slots behind the operation. -/
def applyOperation (stack : Stack) (frameBase : Nat) (slot : CodeSlot) (operands : List CodeSlot)
    (state : UnwindState) : Option UnwindState :=
  match slot.operation with
  | .pushNonvol => popInteger stack state slot.info
  | .allocLarge =>
    let offset := allocLargeSize slot.info operands
    if offset = 0 ∨ offset % 8 ≠ 0 then none else release state offset
  | .allocSmall => release state (slot.info * 8 + 8)
  | .setFpreg => some { state with context := state.context.setInteger registerRsp frameBase }
  | .saveNonvol =>
    (addStackOffset frameBase (operand16 operands * 8)).bind
      (restoreInteger stack state slot.info)
  | .saveNonvolFar =>
    (addStackOffset frameBase (operand32 operands)).bind (restoreInteger stack state slot.info)
  | .saveXmm128 =>
    (addStackOffset frameBase (operand16 operands * 16)).bind (restoreXmm stack state slot.info)
  | .saveXmm128Far =>
    (addStackOffset frameBase (operand32 operands)).bind (restoreXmm stack state slot.info)
  | .pushMachframe => popMachineFrame stack state slot.info
  | .epilog => some state
  | .unknown => none

/-- The loop of `apply_unwind_codes`, which passes over `skip` slots first. -/
def applyUnwindCodes (version : Nat) (inPrologue : Bool) (prologueOffset frameBase : Nat)
    (stack : Stack) : List CodeSlot → Nat → UnwindState → Walked UnwindState
  | [], _, state => .done state
  | _ :: rest, skip + 1, state =>
    applyUnwindCodes version inPrologue prologueOffset frameBase stack rest skip state
  | slot :: rest, 0, state =>
    let slots := unwindOperationSlots version slot.operation slot.info
    if inPrologue = true ∧ slot.codeOffset > prologueOffset then
      match slots with
      | 0 => .endless
      | slots + 1 =>
        applyUnwindCodes version inPrologue prologueOffset frameBase stack rest slots state
    else
      match applyOperation stack frameBase slot rest state with
      | none => .rejected
      | some state =>
        match slots with
        | 0 => .endless
        | slots + 1 =>
          applyUnwindCodes version inPrologue prologueOffset frameBase stack rest slots state

end SadLayer.Unwind
