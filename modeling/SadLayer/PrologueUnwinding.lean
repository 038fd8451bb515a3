import SadLayer.PrologueCodes

/-! Unwinding undoes the prologue: wherever a function is interrupted, the caller
comes out with its return address, its stack pointer and its registers. -/
namespace SadLayer.Unwind
open SadLayer.Library

/-- A function whose prologue is described by an unchained record of version 1. -/
structure DescribedFunction where
  module : PeModule
  functionEntry : Nat
  entry : RuntimeFunction
  record : UnwindRecord
  prologue : List Instruction
  found : runtimeEntryFromPointer module functionEntry = some entry
  valid : validateUnwindChain module maxChainDepth none entry = .ok record
  version : record.version = 1
  unchained : hasFlag record.flags flagChainInfo = false
  described : record.codes = prologueCodes prologue

def DescribedFunction.operations (function : DescribedFunction) : List Operation :=
  function.prologue.map Instruction.operation

/-- What the prologue of a function starts from. -/
def DescribedFunction.start (function : DescribedFunction) (context : Context)
    (bytes : Nat → UInt8) : Start := {
  frameRegister := function.record.frameRegister
  frameOffset := function.record.frameOffset
  context := context
  bytes := bytes }

/-- The operations that ran when the function is interrupted at an offset. -/
def DescribedFunction.ran (function : DescribedFunction) (offset : Nat) : List Operation :=
  executed (offset < function.record.prologueSize) offset function.prologue

/-- Where the stack pointer may be after these operations: where they leave it, or anywhere once
the frame register is set up, as long as nothing was pushed since and what was allocated since can
be released from there. -/
def RspMayBe (start : Start) (operations : List Operation) (rsp : Nat) : Prop :=
  rsp = (start.after operations).context.rsp ∨
    ∃ before after, operations = before ++ .setFrame :: after ∧
      (∀ number, .push number ∉ after) ∧ rsp + allocated after ≤ uint64Max

/-- A context and the bytes of the stack at an offset of a function that started so: in the
prologue they are what the prologue made them so far; in the body the slots are intact, the frame
register is where it was set up, and the stack pointer may have moved. -/
structure Interrupted (function : DescribedFunction) (start : Start) (offset : Nat)
    (context : Context) (bytes : Nat → UInt8) : Prop where
  inPrologue : offset < function.record.prologueSize →
    context.integer = (start.after (function.ran offset)).context.integer ∧
      context.xmm = (start.after (function.ran offset)).context.xmm ∧
      bytes = (start.after (function.ran offset)).bytes
  inBody : function.record.prologueSize ≤ offset →
    (∀ index, (start.returnSlot ≤ index ∧ index < start.returnSlot + 8) ∨
      (∃ slot ∈ (start.after function.operations).slots,
        slot.address ≤ index ∧ index < slot.last) →
      bytes index = (start.after function.operations).bytes index) ∧
    (.setFrame ∈ function.operations → context.integer function.record.frameRegister =
      (start.after function.operations).context.integer function.record.frameRegister) ∧
    RspMayBe start function.operations context.rsp

/-- What one context has of the registers that were saved, another has of the rest. -/
def Recovers (operations : List Operation) (saved kept context : Context) : Prop :=
  ∀ register : SavedRegister, register ≠ .integer registerRsp →
    if ∃ operation ∈ operations, operation.saved = some register
    then register.SameIn context saved else register.SameIn context kept

section Undo
variable {start : Start} {stack : Stack} {frameBase : Nat} {operations : List Operation}
  {state : UnwindState}

theorem add_u64_some {left right : Nat} (fits : left + right ≤ uint64Max) :
    addU64 left right = some (left + right) := by
  unfold addU64
  exact if_neg (by omega)

theorem add_stack_offset_some {base offset : Nat} (fits : base + offset ≤ uint64Max) :
    addStackOffset base offset = some (base + offset) := by
  unfold addStackOffset
  rw [add_u64_some fits]
  simp [fits]

theorem release_some {size : Nat} (fits : state.context.rsp + size ≤ uint64Max) :
    release state size = some { state with
      context := state.context.setInteger registerRsp (state.context.rsp + size) } := by
  unfold release
  rw [add_u64_some fits]
  rfl

theorem stack_range_fits {address size : Nat} (addresses : stack.base ≤ uint64Max)
    (above : stack.limit ≤ address) (below : address + size ≤ stack.base) (filled : 0 < size) :
    stackRangeFits stack address size = true := by
  unfold stackRangeFits
  simp only [Bool.and_eq_true, decide_eq_true_eq]
  omega

/-- Popping the return address leaves every register but the stack pointer. -/
theorem pop_return_address_some (fits : stackRangeFits stack state.context.rsp 8 = true)
    (bounded : state.context.rsp + 8 ≤ uint64Max) :
    ∃ caller, popReturnAddress stack state = some caller ∧
      caller.context.rip = loadLe stack.bytes state.context.rsp 8 ∧
      caller.context.rsp = state.context.rsp + 8 ∧
      ∀ register : SavedRegister, register ≠ .integer registerRsp →
        register.SameIn caller.context state.context := by
  unfold popReturnAddress readStackU64
  rw [if_pos fits, Option.bind_some, release_some bounded, Option.map_some]
  -- Named, so that no unification evaluates the word or the sum.
  generalize loadLe stack.bytes state.context.rsp 8 = returnAddress
  generalize state.context.rsp + 8 = released
  refine ⟨_, rfl, rfl, set_integer_rsp state.context released, fun register notRsp => ?_⟩
  cases register with
  | integer number => exact set_integer_of_ne fun same => notRsp (congrArg _ same)
  | xmm number => rfl

/-- A slot that holds a register inside the bounds of the stack. -/
structure SavedSlot.Readable (slot : SavedSlot) (stack : Stack) (values : Context) : Prop where
  above : stack.limit ≤ slot.address
  below : slot.last ≤ stack.base
  holds : slot.Holds stack.bytes values

/-- What restoring from a slot does to a context. -/
structure Restored (register : SavedRegister) (values before after : Context) : Prop where
  same : register.SameIn after values
  others : ∀ other, other ≠ register → SavedRegister.SameIn after before other

theorem Restored.rsp {register : SavedRegister} {values before after : Context}
    (restored : Restored register values before after) (notRsp : register ≠ .integer registerRsp) :
    after.rsp = before.rsp :=
  restored.others (.integer registerRsp) notRsp.symm

theorem restore_integer_some (state : UnwindState) {number address : Nat} {values : Context}
    (addresses : stack.base ≤ uint64Max) (named : number < 16)
    (slot : SavedSlot.Readable ⟨.integer number, address⟩ stack values) :
    ∃ after, restoreInteger stack state number address = some after ∧
      Restored (.integer number) values state.context after.context ∧
      after.machineFrame = state.machineFrame := by
  have fits : stackRangeFits stack address 8 = true :=
    stack_range_fits addresses slot.above slot.below (by decide)
  have holds : loadLe stack.bytes address 8 = values.integer number := slot.holds
  unfold restoreInteger readStackU64
  rw [if_neg (by omega), if_pos fits, holds]
  refine ⟨_, rfl, ⟨?_, ?_⟩, rfl⟩
  · exact Function.update_self number (values.integer number) state.context.integer
  · intro other different
    cases other with
    | integer other => exact set_integer_of_ne fun same => different (congrArg _ same)
    | xmm other => rfl

theorem restore_xmm_some (state : UnwindState) {number address : Nat} {values : Context}
    (addresses : stack.base ≤ uint64Max)
    (slot : SavedSlot.Readable ⟨.xmm number, address⟩ stack values) :
    ∃ after, restoreXmm stack state number address = some after ∧
      Restored (.xmm number) values state.context after.context ∧
      after.machineFrame = state.machineFrame := by
  have fits : stackRangeFits stack address 16 = true :=
    stack_range_fits addresses slot.above slot.below (by decide)
  obtain ⟨low, high⟩ : loadLe stack.bytes address 8 = (values.xmm number).low ∧
    loadLe stack.bytes (address + 8) 8 = (values.xmm number).high := slot.holds
  unfold restoreXmm readStackM128
  rw [if_pos fits, low, high]
  refine ⟨_, rfl, ⟨?_, ?_⟩, rfl⟩
  · exact Function.update_self number (values.xmm number) state.context.xmm
  · intro other different
    cases other with
    | integer other => rfl
    | xmm other =>
      exact Function.update_of_ne (fun same => different (congrArg SavedRegister.xmm same)) ..

/-- What undoing these operations rests on: the bounds, the slots, and the one base from which the
unwinder addresses all of them. -/
structure Undoable (start : Start) (stack : Stack) (frameBase : Nat)
    (operations : List Operation) : Prop where
  framed : start.frameRegister ≠ registerRsp
  addresses : stack.base ≤ uint64Max
  entered : start.context.rsp + 8 ≤ stack.base
  room : ∀ before operation after, operations = before ++ operation :: after →
    operation.size ≤ (start.after before).context.rsp
  slots : ∀ slot ∈ (start.after operations).slots, slot.Readable stack start.context
  named : ∀ operation ∈ operations, operation.saved ≠ some (.integer registerRsp) ∧
    ∀ number, operation.saved = some (.integer number) → number < 16
  fixed : ∀ before after, operations = before ++ .setFrame :: after →
    (start.after before).context.rsp = frameBase
  bases : ∀ before register offset after, operations = before ++ .save register offset :: after →
    (start.after before).base = frameBase

theorem Undoable.part {operation : Operation}
    (undoable : Undoable start stack frameBase (operations ++ [operation])) :
    Undoable start stack frameBase operations := by
  obtain ⟨later, extended⟩ := @after_slots_append start operations [operation]
  refine {
    framed := undoable.framed
    addresses := undoable.addresses
    entered := undoable.entered
    room := fun before middle after split =>
      undoable.room before middle (after ++ [operation]) (by simp [split])
    slots := fun slot member => undoable.slots slot ?_
    named := fun middle member => undoable.named middle (List.mem_append_left _ member)
    fixed := fun before after split =>
      undoable.fixed before (after ++ [operation]) (by simp [split])
    bases := fun before register offset after split =>
      undoable.bases before register offset (after ++ [operation]) (by simp [split]) }
  rw [extended]
  exact List.mem_append_left _ member

/-- The last of a list lies in the middle of a split of it or behind. -/
theorem concat_split {operation middle : Operation} {before after : List Operation}
    (split : operations ++ [operation] = before ++ middle :: after) :
    (after = [] ∧ operation = middle ∧ operations = before) ∨
      ∃ rest, after = rest ++ [operation] ∧ operations = before ++ middle :: rest := by
  rcases List.eq_nil_or_concat after with rfl | ⟨rest, last, rfl⟩
  · obtain ⟨same, lasts⟩ := List.append_inj' split rfl
    exact .inl ⟨rfl, List.singleton_inj.mp lasts, same⟩
  · rw [List.concat_eq_append] at split ⊢
    have split' : operations ++ [operation] = (before ++ middle :: rest) ++ [last] := by
      simp [split]
    obtain ⟨same, lasts⟩ := List.append_inj' split' rfl
    exact .inr ⟨rest, by rw [List.singleton_inj.mp lasts], same⟩

theorem RspMayBe.push {number rsp : Nat} (known : RspMayBe start (operations ++ [.push number]) rsp)
    (framed : start.frameRegister ≠ registerRsp) :
    rsp = (start.after operations).context.rsp - 8 := by
  rcases known with exact_ | ⟨before, after, split, unpushed, -⟩
  · rw [exact_, after_concat, execute_rsp framed]
    rfl
  · rcases concat_split split with ⟨-, isPush, -⟩ | ⟨rest, rfl, -⟩
    · contradiction
    · exact absurd (List.mem_append_right rest (List.mem_singleton_self _)) (unpushed number)

theorem RspMayBe.alloc {size rsp : Nat} (known : RspMayBe start (operations ++ [.alloc size]) rsp)
    (framed : start.frameRegister ≠ registerRsp)
    (room : size ≤ (start.after operations).context.rsp)
    (bounded : (start.after operations).context.rsp ≤ uint64Max) :
    rsp + size ≤ uint64Max ∧ RspMayBe start operations (rsp + size) := by
  rcases known with exact_ | ⟨before, after, split, unpushed, released⟩
  · rw [after_concat, execute_rsp framed] at exact_
    have back : rsp + size = (start.after operations).context.rsp := by
      simp only [Operation.size] at exact_
      omega
    exact ⟨back ▸ bounded, .inl back⟩
  · rcases concat_split split with ⟨-, isAlloc, -⟩ | ⟨rest, rfl, shorter⟩
    · contradiction
    · have total : allocated (rest ++ [.alloc size]) = allocated rest + size := by
        simp [allocated, Operation.size]
      rw [total] at released
      exact ⟨by omega, .inr ⟨before, rest, shorter,
        fun number member => unpushed number (List.mem_append_left _ member), by omega⟩⟩

theorem RspMayBe.save {register : SavedRegister} {offset rsp : Nat}
    (known : RspMayBe start (operations ++ [.save register offset]) rsp) :
    RspMayBe start operations rsp := by
  rcases known with exact_ | ⟨before, after, split, unpushed, released⟩
  · rw [after_concat] at exact_
    exact .inl exact_
  · rcases concat_split split with ⟨-, isSave, -⟩ | ⟨rest, rfl, shorter⟩
    · contradiction
    · have total : allocated (rest ++ [.save register offset]) = allocated rest := by
        simp [allocated, Operation.size]
      rw [total] at released
      exact .inr ⟨before, rest, shorter,
        fun number member => unpushed number (List.mem_append_left _ member), released⟩

/-- Recovering all but the last operation goes on from what the last one left. -/
theorem Recovers.concat {operation : Operation} {saved before middle after : Context}
    (recovers : Recovers operations saved middle after)
    (own : ∀ register, register ≠ .integer registerRsp →
      if operation.saved = some register then register.SameIn middle saved
      else register.SameIn middle before) :
    Recovers (operations ++ [operation]) saved before after := by
  intro register notRsp
  have earlier := recovers register notRsp
  have last := own register notRsp
  by_cases among : ∃ operation ∈ operations, operation.saved = some register
  · rw [if_pos among] at earlier
    obtain ⟨other, member, saves⟩ := among
    rwa [if_pos ⟨other, List.mem_append_left _ member, saves⟩]
  · rw [if_neg among] at earlier
    by_cases saves : operation.saved = some register
    · rw [if_pos saves] at last
      rw [if_pos ⟨operation, by simp, saves⟩]
      exact earlier.trans last
    · rw [if_neg saves] at last
      rw [if_neg]
      · exact earlier.trans last
      · rintro ⟨other, member, otherSaves⟩
        rcases List.mem_append.mp member with member | member
        · exact among ⟨other, member, otherSaves⟩
        · exact saves (List.mem_singleton.mp member ▸ otherSaves)

theorem Restored.own {operation : Operation} {register : SavedRegister}
    {saved before after : Context} (restored : Restored register saved before after)
    (saves : operation.saved = some register) (other : SavedRegister) :
    if operation.saved = some other then other.SameIn after saved
    else other.SameIn after before := by
  by_cases same : operation.saved = some other
  · rw [if_pos same]
    rw [saves, Option.some.injEq] at same
    exact same ▸ restored.same
  · rw [if_neg same]
    exact restored.others other fun equal => same (by rw [saves, equal])

/-- Moving the stack pointer changes no other register. -/
theorem same_in_set_rsp {register : SavedRegister} {context other : Context} {rsp : Nat}
    (notRsp : register ≠ .integer registerRsp) :
    register.SameIn (context.setInteger registerRsp rsp) other ↔ register.SameIn context other := by
  cases register with
  | integer number =>
    have kept : (context.setInteger registerRsp rsp).integer number = context.integer number :=
      set_integer_of_ne fun same => notRsp (congrArg _ same)
    simp only [SavedRegister.SameIn, kept]
  | xmm number => exact Iff.rfl

theorem own_of_set_rsp {operation : Operation} {saved before : Context} {rsp : Nat}
    (unsaved : operation.saved = none) (register : SavedRegister)
    (notRsp : register ≠ .integer registerRsp) :
    if operation.saved = some register then
      register.SameIn (before.setInteger registerRsp rsp) saved
    else register.SameIn (before.setInteger registerRsp rsp) before := by
  rw [if_neg (by rw [unsaved]; simp), same_in_set_rsp notRsp]
  cases register <;> rfl

/-- Undoing the last operation of a prologue, which leaves the others to be undone. -/
theorem undo_last {operation : Operation}
    (undoable : Undoable start stack frameBase (operations ++ [operation]))
    (known : RspMayBe start (operations ++ [operation]) state.context.rsp) :
    ∃ middle, undo stack frameBase state operation = some middle ∧
      RspMayBe start operations middle.context.rsp ∧
      middle.machineFrame = state.machineFrame ∧
      ∀ register, register ≠ .integer registerRsp →
        if operation.saved = some register then register.SameIn middle.context start.context
        else register.SameIn middle.context state.context := by
  have bounded := after_rsp_le undoable.framed operations
  have entered := undoable.entered
  have addresses := undoable.addresses
  have room := undoable.room operations operation [] rfl
  have named := undoable.named operation (by simp)
  have slot {register : SavedRegister} {address : Nat}
      (member : ⟨register, address⟩ ∈ (start.after (operations ++ [operation])).slots) :
      SavedSlot.Readable ⟨register, address⟩ stack start.context := undoable.slots _ member
  rw [after_concat] at slot
  cases operation with
  | push number =>
    have top := known.push undoable.framed
    have readable : SavedSlot.Readable ⟨.integer number, state.context.rsp⟩ stack
        start.context := slot (by
      rw [top]
      exact List.mem_append_right _ (List.mem_singleton_self _))
    obtain ⟨middle, restored, values, machine⟩ :=
      restore_integer_some state addresses (named.2 number rfl) readable
    have rsp := values.rsp fun same => named.1 (congrArg some same)
    simp only [Operation.size] at room
    have popped : middle.context.rsp + 8 = (start.after operations).context.rsp := by omega
    refine ⟨{ middle with
      context := middle.context.setInteger registerRsp (middle.context.rsp + 8) }, ?_, ?_,
      machine, fun register notRsp => ?_⟩
    · change (restoreInteger stack state number state.context.rsp).bind
        (fun state => release state 8) = _
      rw [restored, Option.bind_some, release_some (by omega)]
    · rw [set_integer_rsp, popped]
      exact .inl rfl
    · simp only [same_in_set_rsp notRsp]
      exact @Restored.own (.push number) _ _ _ _ values rfl register
  | alloc size =>
    obtain ⟨fits, released⟩ := known.alloc undoable.framed room (by omega)
    exact ⟨_, release_some fits, by rwa [set_integer_rsp], rfl,
      fun register notRsp => own_of_set_rsp rfl register notRsp⟩
  | setFrame =>
    refine ⟨_, rfl, ?_, rfl, fun register notRsp => own_of_set_rsp rfl register notRsp⟩
    rw [set_integer_rsp]
    exact .inl (undoable.fixed operations [] rfl).symm
  | save register offset =>
    have base := undoable.bases operations register offset [] rfl
    have readable : SavedSlot.Readable ⟨register, frameBase + offset⟩ stack start.context :=
      slot (by
        rw [← base]
        exact List.mem_append_right _ (List.mem_singleton_self _))
    have below := readable.below
    unfold SavedSlot.last at below
    have offset_ : addStackOffset frameBase offset = some (frameBase + offset) :=
      add_stack_offset_some (by simp only at below; omega)
    cases register with
    | integer number =>
      obtain ⟨middle, restored, values, machine⟩ :=
        restore_integer_some state addresses (named.2 number rfl) readable
      refine ⟨middle, ?_, ?_, machine, fun register _ => values.own rfl register⟩
      · change (addStackOffset frameBase offset).bind
          (restoreInteger stack state number) = some middle
        rwa [offset_, Option.bind_some]
      · rw [values.rsp fun same => named.1 (congrArg some same)]
        exact known.save
    | xmm number =>
      obtain ⟨middle, restored, values, machine⟩ := restore_xmm_some state addresses readable
      refine ⟨middle, ?_, ?_, machine, fun register _ => values.own rfl register⟩
      · change (addStackOffset frameBase offset).bind
          (restoreXmm stack state number) = some middle
        rwa [offset_, Option.bind_some]
      · rw [values.rsp (by simp)]
        exact known.save

/-- Undoing what ran of a prologue leads back to the stack pointer and the registers it started
from. The induction is on the operations from the last one on, in the order of the codes. -/
theorem undo_all_recovers (undoable : Undoable start stack frameBase operations)
    (known : RspMayBe start operations state.context.rsp) :
    ∃ after, undoAll stack frameBase operations state = some after ∧
      after.context.rsp = start.context.rsp ∧ after.machineFrame = state.machineFrame ∧
      Recovers operations start.context state.context after.context := by
  induction operations using List.reverseRecOn generalizing state with
  | nil =>
    refine ⟨state, rfl, ?_, rfl, fun register _ => ?_⟩
    · rcases known with exact_ | ⟨before, after, split, -⟩
      · exact exact_
      · simp at split
    · cases register <;> simp [SavedRegister.SameIn]
  | append_singleton operations operation ih =>
    obtain ⟨middle, undone, known, machine, own⟩ := undo_last undoable known
    obtain ⟨after, undoneAll, rsp, machineAfter, recovers⟩ := ih undoable.part known
    rw [undo_all_concat, undone]
    exact ⟨after, undoneAll, rsp, machineAfter.trans machine, recovers.concat own⟩

end Undo

/-! ### The unwinder -/

theorem executed_behind (offset : Nat) (prologue : List Instruction) :
    executed false offset prologue = prologue.map Instruction.operation := by
  unfold executed
  congr 1
  exact List.filter_eq_self.mpr fun instruction _ => rfl

section Function
variable {function : DescribedFunction} {start : Start} {stack : Stack} {offset : Nat}
  {context : Context} {bytes : Nat → UInt8}

theorem DescribedFunction.read (function : DescribedFunction) :
    unwindRecordAt function.module function.entry.unwindData = some function.record ∧
      function.record.trailerRva ≤ uint32Max :=
  read_unwind_record_some (validated_first function.valid)

theorem DescribedFunction.checked (function : DescribedFunction) : RecordChecked function.record :=
  unwind_record_at_checked function.read.1

theorem DescribedFunction.accepted (function : DescribedFunction) :
    AcceptedPrologue function.record.frameRegister 255 false function.prologue := by
  have codes := function.checked.codes
  have undescribed (codes : List CodeSlot) : parseV2EpiloguePrefix codes 1 = some {} := by
    cases codes <;> rfl
  unfold validateUnwindCodes at codes
  rw [function.version, undescribed, function.described] at codes
  obtain ⟨found, validated, -⟩ := Option.map_eq_some_iff.mp codes
  exact validate_prologue_codes function.prologue validated

/-- The frame register is set up once at most. -/
theorem DescribedFunction.once {before after : List Operation}
    (split : function.operations = before ++ .setFrame :: after) :
    .setFrame ∉ before ∧ .setFrame ∉ after := by
  have once : function.operations.Pairwise
      (fun left right => ¬ (left = .setFrame ∧ right = .setFrame)) :=
    List.pairwise_map.mpr function.accepted.once
  rw [split] at once
  obtain ⟨-, later, across⟩ := List.pairwise_append.mp once
  exact ⟨fun member => across .setFrame member .setFrame (by simp) ⟨rfl, rfl⟩,
    fun member => (List.pairwise_cons.mp later).1 .setFrame member ⟨rfl, rfl⟩⟩

theorem DescribedFunction.ran_part (function : DescribedFunction) (offset : Nat) :
    ∃ later, function.operations = function.ran offset ++ later :=
  executed_part function.prologue function.accepted.ordered

theorem DescribedFunction.ran_body (behind : function.record.prologueSize ≤ offset) :
    function.ran offset = function.operations := by
  unfold DescribedFunction.ran
  rw [decide_eq_false (by omega)]
  exact executed_behind offset function.prologue

theorem DescribedFunction.named {operation : Operation} (member : operation ∈ function.operations) :
    operation.saved ≠ some (.integer registerRsp) ∧
      ∀ number, operation.saved = some (.integer number) → number < 16 := by
  obtain ⟨instruction, described, rfl⟩ := List.mem_map.mp member
  exact instruction.encodes.saved_valid (function.accepted.valid instruction described)

/-- The scan for the frame register tells whether its setup ran. -/
theorem DescribedFunction.established (function : DescribedFunction) (inPrologue : Bool)
    (prologueOffset : Nat) :
    frameIsEstablished function.record inPrologue prologueOffset =
      some (decide (.setFrame ∈ executed inPrologue prologueOffset function.prologue)) := by
  unfold frameIsEstablished
  by_cases none_ : function.record.frameRegister = 0
  · have unset : .setFrame ∉ executed inPrologue prologueOffset function.prologue := by
      intro member
      obtain ⟨instruction, kept, isSet⟩ := List.mem_map.mp member
      exact (function.accepted.frame instruction (List.mem_of_mem_filter kept) isSet).1 none_
    rw [if_pos none_, decide_eq_false unset]
  · rw [if_neg none_, if_neg (by simp [function.unchained]), function.version, function.described]
    exact established_prologue_codes function.prologue function.accepted.once

/-- Behind its setup the frame register keeps the stack pointer it was set up from. -/
theorem DescribedFunction.base_at_setup {before after later : List Operation}
    (whole : function.operations = before ++ .setFrame :: (after ++ later)) :
    (start.after before).context.rsp = (start.after (before ++ .setFrame :: after)).base := by
  have fixed : (start.after (before ++ [.setFrame])).fixedRsp =
      some (start.after before).context.rsp := by
    rw [after_concat]
    rfl
  have kept := after_fixed_append fixed
    fun member => (function.once whole).2 (List.mem_append_left _ member)
  rw [List.append_assoc, List.singleton_append] at kept
  rw [Running.base, kept]
  rfl

/-- Nothing that follows a save changes the base it is relative to. -/
theorem DescribedFunction.base_at_save {register : SavedRegister} {offset : Nat}
    {before after later : List Operation} (framed : start.frameRegister ≠ registerRsp)
    (addressed : WellAddressed start.frameRegister function.operations)
    (whole : function.operations = before ++ .save register offset :: (after ++ later)) :
    (start.after before).base = (start.after (before ++ .save register offset :: after)).base := by
  by_cases set : .setFrame ∈ before
  · -- Behind the setup the base is the fixed stack pointer, which stays.
    obtain ⟨fixed, isFixed⟩ := Option.ne_none_iff_exists'.mp
      (fun none_ => after_fixed_iff.mp none_ set)
    have kept := @after_fixed_append start before (.save register offset :: after) fixed isFixed
      (by
        intro again
        obtain ⟨first, second, two⟩ := List.append_of_mem set
        have once := @DescribedFunction.once function first
          (second ++ .save register offset :: (after ++ later)) (by rw [whole, two]; simp)
        refine once.2 (List.mem_append_right _ ?_)
        rw [← List.cons_append]
        exact List.mem_append_left _ again)
    rw [Running.base, Running.base, isFixed, kept]
    rfl
  · -- Before it nothing moves the stack pointer any more.
    have unfixed : (start.after before).fixedRsp = none := after_fixed_iff.mpr set
    have still (operation : Operation) (member : operation ∈ .save register offset :: after) :
        operation.size = 0 := by
      rcases List.mem_cons.mp member with rfl | member
      · rfl
      · exact addressed.unmoved before register offset (after ++ later) whole set operation
          (List.mem_append_left _ member)
    rw [(after_still framed unfixed still).2, Running.base, unfixed]
    rfl

variable (function)

/-- What ran of a prologue can be undone from the base that its saves are relative to. -/
theorem DescribedFunction.undoable (frameRegister : start.frameRegister =
      function.record.frameRegister)
    (addressed : WellAddressed start.frameRegister function.operations)
    (inside : RunsInside start stack function.operations)
    (holds : ∀ slot ∈ (start.after (function.ran offset)).slots,
      slot.Holds bytes start.context) :
    Undoable start { stack with bytes := bytes } (start.after (function.ran offset)).base
      (function.ran offset) := by
  obtain ⟨later, whole⟩ := function.ran_part offset
  have framed : start.frameRegister ≠ registerRsp := by
    rw [frameRegister]
    exact function.checked.frame_register_ne_rsp
  obtain ⟨more, extended⟩ := @after_slots_append start (function.ran offset) later
  refine {
    framed := framed
    addresses := inside.addresses
    entered := inside.entered.2
    room := fun before operation after split => ?_
    slots := fun slot member => ?_
    named := fun operation member => function.named (by
      rw [whole]
      exact List.mem_append_left _ member)
    fixed := fun before after split => ?_
    bases := fun before register offset_ after split => ?_ }
  · have room := inside.room before operation (after ++ later) (by rw [whole, split]; simp)
    omega
  · have bounds := inside.slots slot (by
      rw [whole, extended]
      exact List.mem_append_left _ member)
    exact ⟨bounds.1, bounds.2, holds slot member⟩
  · rw [split]
    exact @DescribedFunction.base_at_setup function start before after later
      (by rw [whole, split]; simp)
  · rw [split]
    exact @DescribedFunction.base_at_save function start register offset_ before after later framed
      addressed (by rw [whole, split]; simp)

/-- The base that the unwinder finds is the one the saves are relative to. -/
theorem DescribedFunction.frame_base (frameRegister : start.frameRegister =
      function.record.frameRegister) (frameOffset : start.frameOffset = function.record.frameOffset)
    (inside : RunsInside start stack function.operations) {inPrologue : Bool} {prologueOffset : Nat}
    (ran : executed inPrologue prologueOffset function.prologue = function.ran offset)
    (rsp : .setFrame ∉ function.ran offset →
      context.rsp = (start.after (function.ran offset)).context.rsp)
    (frame : .setFrame ∈ function.ran offset → context.integer start.frameRegister =
      (start.after (function.ran offset)).context.integer start.frameRegister) :
    frameBaseOf function.record inPrologue prologueOffset context =
      some (.ok (start.after (function.ran offset)).base) := by
  unfold frameBaseOf
  rw [function.established, ran]
  by_cases set : .setFrame ∈ function.ran offset
  · obtain ⟨fixed, isFixed⟩ := Option.ne_none_iff_exists'.mp
      (fun none_ => (@after_fixed_iff start (function.ran offset)).mp none_ set)
    obtain ⟨later, whole⟩ := function.ran_part offset
    have once : .setFrame ∉ later := by
      obtain ⟨before, after, split⟩ := List.append_of_mem set
      have once := @DescribedFunction.once function before (after ++ later)
        (by rw [whole, split]; simp)
      exact fun member => once.2 (List.mem_append_right _ member)
    have fits := inside.framePointer fixed (by
      rw [whole]
      exact after_fixed_append isFixed once)
    have framed : start.frameRegister ≠ registerRsp := by
      rw [frameRegister]
      exact function.checked.frame_register_ne_rsp
    have value := frame set
    rw [after_frame_register framed isFixed, Nat.mod_eq_of_lt fits, frameRegister, frameOffset]
      at value
    simp only [decide_eq_true set, value]
    rw [if_neg (by omega), Nat.add_sub_cancel, Running.base, isFixed]
    rfl
  · simp only [decide_eq_false set]
    rw [rsp set, Running.base, after_fixed_iff.mpr set]
    rfl

/-- The slots of what ran hold what their registers held at the start, and the return address is
where it was. -/
theorem DescribedFunction.slots_hold
    (addressed : WellAddressed start.frameRegister function.operations)
    (inside : RunsInside start stack function.operations)
    (interrupted : Interrupted function start offset context bytes) :
    (∀ slot ∈ (start.after (function.ran offset)).slots, slot.Holds bytes start.context) ∧
      loadLe bytes start.returnSlot 8 = loadLe start.bytes start.returnSlot 8 := by
  obtain ⟨later, whole⟩ := function.ran_part offset
  obtain ⟨more, extended⟩ := @after_slots_append start (function.ran offset) later
  have apart := inside.apart
  have returnApart := inside.returnApart
  rw [whole, extended] at apart returnApart
  rw [whole] at addressed
  have holds := after_holds inside.fits addressed.part
    (fun operation member => (function.named (by
      rw [whole]
      exact List.mem_append_left _ member)).1) (List.pairwise_append.mp apart).1
  have address : loadLe (start.after (function.ran offset)).bytes start.returnSlot 8 =
      loadLe start.bytes start.returnSlot 8 := by
    refine load_le_congr fun index above below => after_bytes_outside fun slot member => ?_
    have beside := returnApart slot (List.mem_append_left _ member)
    omega
  by_cases inPrologue : offset < function.record.prologueSize
  · obtain ⟨-, -, rfl⟩ := interrupted.inPrologue inPrologue
    exact ⟨holds, address⟩
  · have behind := Nat.le_of_not_lt inPrologue
    obtain ⟨intact, -⟩ := interrupted.inBody behind
    rw [← function.ran_body behind] at intact
    constructor
    · intro slot member
      exact (holds slot member).congr fun index above below =>
        intact index (.inr ⟨slot, member, above, below⟩)
    · rw [← address]
      exact load_le_congr fun index above below => intact index (.inl ⟨above, below⟩)

/-- The stack pointer is where what ran left it, or may be undone from where it is. -/
theorem DescribedFunction.rsp_known (interrupted : Interrupted function start offset context bytes) :
    RspMayBe start (function.ran offset) context.rsp := by
  by_cases inPrologue : offset < function.record.prologueSize
  · exact .inl (congrFun (interrupted.inPrologue inPrologue).1 registerRsp)
  · have behind := Nat.le_of_not_lt inPrologue
    rw [function.ran_body behind]
    exact (interrupted.inBody behind).2.2

theorem DescribedFunction.frame_known
    (frameRegister : start.frameRegister = function.record.frameRegister)
    (interrupted : Interrupted function start offset context bytes)
    (set : .setFrame ∈ function.ran offset) : context.integer start.frameRegister =
      (start.after (function.ran offset)).context.integer start.frameRegister := by
  by_cases inPrologue : offset < function.record.prologueSize
  · exact congrFun (interrupted.inPrologue inPrologue).1 start.frameRegister
  · have behind := Nat.le_of_not_lt inPrologue
    rw [function.ran_body behind] at set ⊢
    rw [frameRegister]
    exact (interrupted.inBody behind).2.1 set

/-- Where the stack pointer was never fixed, it is where what ran left it. -/
theorem RspMayBe.unset {operations : List Operation} {rsp : Nat}
    (known : RspMayBe start operations rsp) (unset : .setFrame ∉ operations) :
    rsp = (start.after operations).context.rsp := by
  rcases known with exact_ | ⟨before, after, split, -⟩
  · exact exact_
  · exact absurd (by simp [split]) unset

end Function

/-- The walk over the one record of a function undoes what ran of its prologue. -/
theorem DescribedFunction.unwind_records (function : DescribedFunction) {controlPc offset : Nat}
    {stack : Stack} {state after : UnwindState} {base : Nat}
    (inside : function.entry.beginAddress ≤ controlPc - function.module.mapped.loadBase)
    (offset_ : controlPc - function.module.mapped.loadBase - function.entry.beginAddress = offset)
    (found : initialEstablisher function.module controlPc function.entry function.record
      state.context = some (.ok base))
    (undone : undoAll stack base (function.ran offset) state = some after) :
    ∃ allowed, unwindRecords function.module controlPc stack maxChainDepth none function.entry
      state = some (.ok {
        state := after
        flags := function.record.flags
        trailerRva := function.record.trailerRva
        establisherFrame := base
        allowHandler := allowed }) := by
  obtain ⟨reread, trailer⟩ := function.read
  unfold initialEstablisher at found
  simp only [offset_] at found
  refine ⟨!decide (offset < function.record.prologueSize), ?_⟩
  rw [show maxChainDepth = 31 + 1 from rfl, unwindRecords, reread]
  simp only [Option.isNone_none, Bool.true_and, if_pos inside, offset_, found, Option.getD_none]
  have ran : executed (decide (offset < function.record.prologueSize))
      (if decide (offset < function.record.prologueSize) = true then offset else 255)
      function.prologue = function.ran offset := by
    unfold DescribedFunction.ran
    by_cases inPrologue : offset < function.record.prologueSize
    · rw [if_pos (decide_eq_true inPrologue)]
    · rw [decide_eq_false inPrologue, executed_behind, executed_behind]
  have applied := @apply_prologue_codes (decide (offset < function.record.prologueSize))
    (if decide (offset < function.record.prologueSize) = true then offset else 255) base stack
    function.prologue state
  rw [ran, undone, ← function.described] at applied
  rw [function.version, applied]
  simp only [Walked.ofOption, if_neg (Nat.not_lt.mpr trailer)]
  rw [if_neg (by simp [function.unchained])]

/-- Wherever a function is interrupted outside of a recognised epilogue, unwinding it succeeds and
gives its caller: the return address, the stack pointer above it, and every register that was saved
so far as it was at the start, the others as they are. -/
theorem prologue_undone (function : DescribedFunction) (context : Context) (stack : Stack)
    (addressed : WellAddressed function.record.frameRegister function.operations)
    (inside : RunsInside (function.start context stack.bytes) stack function.operations)
    (controlPc : Nat) (reached : function.module.mapped.loadBase + function.entry.beginAddress ≤
      controlPc) (within : controlPc < function.module.mapped.loadBase + function.entry.endAddress)
    (now : Context) (bytes : Nat → UInt8) (pointers : Option ContextPointers)
    (interrupted : Interrupted function (function.start context stack.bytes)
      (controlPc - function.module.mapped.loadBase - function.entry.beginAddress) now bytes)
    (unrecognised : simulateEpilogue function.module function.entry function.record.frameRegister
      controlPc { stack with bytes := bytes } { context := now, pointers := pointers } = none)
    (handlerType : HandlerType) :
    ∃ unwound, virtualUnwind function.module handlerType.flag controlPc function.functionEntry now
        { stack with bytes := bytes } pointers = some (.ok unwound) ∧
      unwound.context.rip = loadLe stack.bytes context.rsp 8 ∧
      unwound.context.rsp = context.rsp + 8 ∧
      Recovers (function.ran (controlPc - function.module.mapped.loadBase -
        function.entry.beginAddress)) context now unwound.context := by
  have entered := inside.entered
  have addresses := inside.addresses
  change stack.limit ≤ context.rsp ∧ context.rsp + 8 ≤ stack.base at entered
  generalize offset_ : controlPc - function.module.mapped.loadBase -
    function.entry.beginAddress = offset at interrupted ⊢
  obtain ⟨holds, address⟩ := function.slots_hold addressed inside interrupted
  have known := function.rsp_known interrupted
  have undoable := function.undoable rfl addressed inside holds
  obtain ⟨after, undone, rsp, machineFrame, recovers⟩ := @undo_all_recovers _ _ _ _
    { context := now, pointers := pointers } undoable known
  have found : initialEstablisher function.module controlPc function.entry function.record now =
      some (.ok ((function.start context stack.bytes).after (function.ran offset)).base) := by
    unfold initialEstablisher
    simp only [offset_]
    refine function.frame_base rfl rfl inside ?_ known.unset
      (function.frame_known rfl interrupted)
    unfold DescribedFunction.ran
    by_cases inPrologue : offset < function.record.prologueSize
    · rw [if_pos (decide_eq_true inPrologue)]
    · rw [decide_eq_false inPrologue, executed_behind, executed_behind]
  obtain ⟨allowed, walked⟩ := function.unwind_records (by omega) offset_ found undone
  obtain ⟨record, -, -, -, valid⟩ := (unwind_records_accepted function.valid).last _ walked
  obtain ⟨languageHandler, -, ends⟩ :=
    finish_unwind_accepted valid handlerType { stack with bytes := bytes }
  have top : after.context.rsp = context.rsp := rsp
  have fits : stackRangeFits { stack with bytes := bytes } after.context.rsp 8 = true := by
    rw [top]
    exact stack_range_fits addresses entered.1 entered.2 (by decide)
  obtain ⟨caller, popped, rip, callerRsp, same⟩ := pop_return_address_some fits (by omega)
  rw [top] at rip callerRsp
  refine ⟨{
    context := caller.context
    pointers := caller.pointers
    establisherFrame := ((function.start context stack.bytes).after (function.ran offset)).base
    languageHandler := languageHandler }, ?_, rip.trans address, callerRsp, ?_⟩
  · have typed : ¬ (stack.limit ≥ stack.base ∨ (handlerType.flag ≠ flagNHandler ∧
        handlerType.flag ≠ flagEHandler ∧ handlerType.flag ≠ flagUHandler)) := by
      rintro (empty | unknown)
      · omega
      · exact handler_flag_known handlerType unknown
    simp only [virtualUnwind, function.found, function.valid]
    rw [if_neg typed, if_neg (by omega), unwindValidated]
    simp only [found, unwindEpilogue, if_pos function.version, unrecognised, walked]
    rw [ends, finalState, machineFrame]
    simp only [Bool.false_eq_true, if_false, popped]
    rfl
  · intro register notRsp
    have recovered := recovers register notRsp
    split at recovered
    · rename_i saved
      rw [if_pos saved]
      exact (same register notRsp).trans recovered
    · rename_i unsaved
      rw [if_neg unsaved]
      exact (same register notRsp).trans recovered

/-! ### A function that pushes behind the setup of its frame register -/

/-- A table entry at 4, the record at 16, and the function from 32 to 48. -/
def framedBytes (index : Nat) : UInt8 :=
  [0, 0, 0, 0, 32, 0, 0, 0, 48, 0, 0, 0, 16, 0, 0, 0, 1, 4, 2, 5, 4, 0x30, 3, 0x03].getD index 0

def framedModule : PeModule where
  image := {
    file := { size := 0, data := fun _ => 0 }
    machine := Pe.machineAmd64
    isPe32Plus := true
    imageSize := 64
    directories := fun index =>
      if index = directoryException then { rva := 4, size := 12 } else {} }
  mapped := { address := 0x10000, bytes := framedBytes, size := 64, loadBase := 0x10000 }

/-- `mov rbp, rsp`, then `push rbx`. -/
def framedPrologue : List Instruction := [
  { operation := .setFrame, slot := ⟨3, 0x03⟩, operands := [], encodes := .setFrame rfl },
  { operation := .push 3, slot := ⟨4, 0x30⟩, operands := [],
    encodes := @Encodes.push ⟨4, 0x30⟩ rfl }]

def framedFunction : DescribedFunction where
  module := framedModule
  functionEntry := 0x10004
  entry := { beginAddress := 32, endAddress := 48, unwindData := 16 }
  record := {
    version := 1
    flags := 0
    prologueSize := 4
    frameRegister := 5
    frameOffset := 0
    codes := [⟨4, 0x30⟩, ⟨3, 0x03⟩]
    trailerRva := 24
    hasFrameSetup := true
    epilogues := {} }
  prologue := framedPrologue
  found := by decide +kernel
  valid := by rfl
  version := rfl
  unchained := rfl
  described := rfl

def framedContext : Context where
  integer
    | 3 => 7
    | 4 => 0x1020
    | _ => 0

def framedStack : Stack where
  limit := 0x1000
  base := 0x1040
  bytes index := if index = 0x1020 then 9 else 0

theorem framed_addressed :
    WellAddressed framedFunction.record.frameRegister framedFunction.operations := by
  constructor
  · intro before register offset after split
    have member : .save register offset ∈ framedFunction.operations := by simp [split]
    simp [framedFunction, DescribedFunction.operations, framedPrologue] at member
  · intro before after split operation member
    have among : operation ∈ framedFunction.operations := by simp [split, member]
    have different : operation.saved ≠ some (.integer 5) := by
      simp only [framedFunction, DescribedFunction.operations, framedPrologue, List.map_cons,
        List.map_nil, List.mem_cons, List.not_mem_nil, or_false] at among
      rcases among with rfl | rfl <;> decide
    exact different

theorem framed_inside : RunsInside (framedFunction.start framedContext framedStack.bytes)
    framedStack framedFunction.operations where
  fits := {
    integer := by
      intro number
      change (match number with | 3 => 7 | 4 => 0x1020 | _ => 0) < 2 ^ 64
      split <;> decide
    xmm := fun number => ⟨Nat.two_pow_pos 64, Nat.two_pow_pos 64⟩ }
  addresses := by decide
  entered := by decide
  room := by
    intro before operation after split
    match before with
    | [] =>
      cases split
      decide
    | [first] =>
      cases split
      decide
    | first :: second :: rest =>
      have short := congrArg List.length split
      simp [framedFunction, DescribedFunction.operations, framedPrologue] at short
  slots := by decide
  framePointer := by
    intro fixed isFixed
    cases isFixed
    decide
  apart := List.pairwise_singleton _ _
  returnApart := by decide

/-- The machine behind the prologue. -/
def framedBody : Running :=
  (framedFunction.start framedContext framedStack.bytes).after framedFunction.operations

/-- The body of the function after it claimed more of the stack. -/
def movedContext : Context := framedBody.context.setInteger registerRsp 0x1010

theorem framed_unrecognised (now : Context) (bytes : Nat → UInt8) :
    simulateEpilogue framedFunction.module framedFunction.entry framedFunction.record.frameRegister
      0x10028 { framedStack with bytes := bytes } { context := now, pointers := none } = none := by
  rfl

theorem framed_prologue_undone : ∃ unwound,
    virtualUnwind framedFunction.module HandlerType.exception.flag 0x10028
        framedFunction.functionEntry framedBody.context
        { framedStack with bytes := framedBody.bytes } none = some (.ok unwound) ∧
      unwound.context.rip = 9 ∧ unwound.context.rsp = 0x1028 ∧
      Recovers (framedFunction.ran 8) framedContext framedBody.context unwound.context :=
  prologue_undone framedFunction framedContext framedStack framed_addressed framed_inside 0x10028
    (by decide) (by decide) framedBody.context framedBody.bytes none {
      inPrologue := fun inside => absurd inside (by decide)
      inBody := fun _ => ⟨fun _ _ => rfl, fun _ => rfl, .inl rfl⟩ }
    (framed_unrecognised _ _) .exception

/-- Behind the setup of the frame register the pushes are popped from wherever the stack pointer
has moved to. -/
theorem moved_rsp_misses_push :
    WellAddressed framedFunction.record.frameRegister framedFunction.operations ∧
    RunsInside (framedFunction.start framedContext framedStack.bytes) framedStack
      framedFunction.operations ∧
    framedFunction.record.prologueSize ≤ 8 ∧ .setFrame ∈ framedFunction.operations ∧
    (∀ number, number ≠ registerRsp →
      movedContext.integer number = framedBody.context.integer number) ∧
    simulateEpilogue framedFunction.module framedFunction.entry
      framedFunction.record.frameRegister 0x10028 { framedStack with bytes := framedBody.bytes }
      { context := movedContext, pointers := none } = none ∧
    ∃ unwound, virtualUnwind framedFunction.module HandlerType.exception.flag 0x10028
        framedFunction.functionEntry movedContext
        { framedStack with bytes := framedBody.bytes } none = some (.ok unwound) ∧
      unwound.context.integer 3 ≠ framedContext.integer 3 := by
  refine ⟨framed_addressed, framed_inside, by decide, by decide, fun number other =>
    set_integer_of_ne other, framed_unrecognised _ _, ?_⟩
  refine ⟨_, rfl, ?_⟩
  decide

end SadLayer.Unwind
