import SadLayer.DeclaredEpilogues
import SadLayer.StackReads

/-! What an unwind leaves of a context. Codes and instructions name registers by
number; what they restore is nonvolatile, comes from the stack, and is pointed at. -/
namespace SadLayer.Unwind
open SadLayer.Library SadLayer.Pe

/-- RBX, RBP, RSI, RDI and R12 to R15; XMM6 to XMM15. -/
def SavedRegister.Nonvolatile : SavedRegister → Prop
  | .integer number => number ∈ [3, 5, 6, 7, 12, 13, 14, 15]
  | .xmm number => 6 ≤ number ∧ number ≤ 15

/-- The address that a register has among context pointers. -/
def ContextPointers.place (pointers : ContextPointers) : SavedRegister → Nat
  | .integer number => pointers.integerContext number
  | .xmm number => pointers.floatingContext number

def ContextPointers.point (pointers : ContextPointers) (address : Nat) :
    SavedRegister → ContextPointers
  | .integer number => { pointers with
      integerContext := Function.update pointers.integerContext number address }
  | .xmm number => { pointers with
      floatingContext := Function.update pointers.floatingContext number address }

theorem place_point (pointers : ContextPointers) (address : Nat) (register : SavedRegister) :
    (pointers.point address register).place register = address := by
  cases register <;> exact Function.update_self ..

theorem place_point_of_ne {register other : SavedRegister} (apart : other ≠ register)
    (pointers : ContextPointers) (address : Nat) :
    (pointers.point address register).place other = pointers.place other := by
  cases register with
  | integer number =>
    cases other with
    | integer other => exact Function.update_of_ne (fun same => apart (congrArg _ same)) ..
    | xmm other => rfl
  | xmm number =>
    cases other with
    | integer other => rfl
    | xmm other => exact Function.update_of_ne (fun same => apart (congrArg _ same)) ..

/-- A register that a state has as another, with its pointer; the value of RSP is nobody's. -/
structure Untouched (register : SavedRegister) (before after : UnwindState) : Prop where
  value : register ≠ .integer registerRsp → register.SameIn after.context before.context
  place : after.pointers.map (·.place register) = before.pointers.map (·.place register)

/-- A register that a state has off the stack. -/
structure OffStack (stack : Stack) (register : SavedRegister) (state : UnwindState) : Prop where
  nonvolatile : register.Nonvolatile
  readable : ∀ pointers, state.pointers = some pointers →
    SavedSlot.Readable ⟨register, pointers.place register⟩ stack state.context

def SameSegments (left right : Context) : Prop :=
  left.eFlags = right.eFlags ∧ left.segCs = right.segCs ∧ left.segSs = right.segSs

/-- What an unwind may do to a state, where `frame` says whether a machine frame may be undone. -/
structure Touches (stack : Stack) (frame : Prop) (before after : UnwindState) : Prop where
  registers : ∀ register, Untouched register before after ∨ OffStack stack register after
  rest : after.context.rest = before.context.rest
  segments : frame ∨ SameSegments after.context before.context

theorem SavedSlot.Readable.congr {slot : SavedSlot} {stack : Stack} {left right : Context}
    (readable : slot.Readable stack left) (same : slot.register.SameIn right left) :
    slot.Readable stack right where
  above := readable.above
  below := readable.below
  holds := by
    have holds := readable.holds
    cases slot with
    | mk register address =>
      cases register with
      | integer number => exact Eq.trans holds (Eq.symm same)
      | xmm number =>
        have same : right.xmm number = left.xmm number := same
        show _ = (right.xmm number).low ∧ _ = (right.xmm number).high
        rw [same]
        exact holds

theorem SavedRegister.SameIn.refl (register : SavedRegister) (context : Context) :
    register.SameIn context context := by
  cases register with
  | integer number => rfl
  | xmm number => rfl

theorem rsp_volatile : ¬ SavedRegister.Nonvolatile (.integer registerRsp) := by
  intro named
  have named : registerRsp ∈ [3, 5, 6, 7, 12, 13, 14, 15] := named
  exact absurd named (by decide)

section Steps
variable {stack : Stack} {frame : Prop} {state before middle after : UnwindState}

theorem Untouched.refl (register : SavedRegister) (state : UnwindState) :
    Untouched register state state where
  value _ := SavedRegister.SameIn.refl register state.context
  place := rfl

theorem Touches.refl (state : UnwindState) : Touches stack frame state state where
  registers register := .inl (Untouched.refl register state)
  rest := rfl
  segments := .inr ⟨rfl, rfl, rfl⟩

/-- A later step leaves what an earlier one restored, or restores it again. -/
theorem Touches.trans (first : Touches stack frame before middle)
    (second : Touches stack frame middle after) : Touches stack frame before after where
  registers register := by
    rcases second.registers register with untouched | restored
    · rcases first.registers register with earlier | restored
      · exact .inl {
          value := fun notRsp => (untouched.value notRsp).trans (earlier.value notRsp)
          place := untouched.place.trans earlier.place }
      · refine .inr ⟨restored.nonvolatile, fun pointers held => ?_⟩
        have notRsp : register ≠ .integer registerRsp := by
          rintro rfl
          exact rsp_volatile restored.nonvolatile
        have place := untouched.place
        rw [held, Option.map_some] at place
        obtain ⟨others, held', same⟩ := Option.map_eq_some_iff.mp place.symm
        rw [← same]
        exact (restored.readable others held').congr (untouched.value notRsp)
    · exact .inr restored
  rest := second.rest.trans first.rest
  segments := by
    rcases first.segments with undone | earlier
    · exact .inl undone
    rcases second.segments with undone | later
    · exact .inl undone
    · exact .inr ⟨later.1.trans earlier.1, later.2.1.trans earlier.2.1,
        later.2.2.trans earlier.2.2⟩

theorem Touches.mono {wider : Prop} (touches : Touches stack frame before after)
    (implies : frame → wider) : Touches stack wider before after where
  registers := touches.registers
  rest := touches.rest
  segments := touches.segments.imp_left implies

/-- What only moves RSP, RIP and perhaps a machine frame's flags touches nothing else. -/
theorem touches_of_rsp {rsp : Nat}
    (integer : after.context.integer = Function.update state.context.integer registerRsp rsp)
    (xmm : after.context.xmm = state.context.xmm) (pointers : after.pointers = state.pointers)
    (rest : after.context.rest = state.context.rest)
    (segments : frame ∨ SameSegments after.context state.context) :
    Touches stack frame state after where
  registers register := .inl {
    value := by
      intro notRsp
      cases register with
      | integer number =>
        have other : number ≠ registerRsp := fun same => notRsp (congrArg _ same)
        exact (congrFun integer number).trans (Function.update_of_ne other ..)
      | xmm number => exact congrFun xmm number
    place := by rw [pointers] }
  rest := rest
  segments := segments

theorem touches_moved (state : UnwindState) (rsp rip : Nat) :
    Touches stack frame state { state with
      context := { state.context.setInteger registerRsp rsp with rip := rip } } :=
  touches_of_rsp rfl rfl rfl rfl (.inr ⟨rfl, rfl, rfl⟩)

theorem release_touches {size : Nat} (released : release state size = some after) :
    Touches stack frame state after := by
  obtain ⟨rsp, -, rfl⟩ := Option.map_eq_some_iff.mp released
  exact touches_moved state rsp state.context.rip

theorem nonvolatile_integer {number : Nat} (named : isNonvolatileIntegerRegister number = true)
    (below : number < 16) : SavedRegister.Nonvolatile (.integer number) := by
  show number ∈ [3, 5, 6, 7, 12, 13, 14, 15]
  unfold isNonvolatileIntegerRegister at named
  simp only [Bool.or_eq_true, beq_iff_eq, decide_eq_true_eq] at named
  simp only [List.mem_cons, List.not_mem_nil, or_false]
  omega

theorem nonvolatile_xmm {number : Nat} (named : isNonvolatileXmmRegister number = true) :
    SavedRegister.Nonvolatile (.xmm number) := by
  have bounds : 6 ≤ number ∧ number ≤ 15 := by
    simpa only [isNonvolatileXmmRegister, Bool.and_eq_true, decide_eq_true_eq] using named
  exact bounds

/-- What reads one register off the stack, and points at it, touches nothing else. -/
theorem touches_of_restored {register : SavedRegister} {address : Nat}
    (nonvolatile : register.Nonvolatile)
    (readable : SavedSlot.Readable ⟨register, address⟩ stack after.context)
    (others : ∀ other, other ≠ register → other.SameIn after.context state.context)
    (pointers : after.pointers = state.pointers.map (·.point address register))
    (rest : after.context.rest = state.context.rest)
    (segments : SameSegments after.context state.context) : Touches stack frame state after where
  registers other := by
    by_cases own : other = register
    · rw [own]
      refine .inr ⟨nonvolatile, fun places held => ?_⟩
      rw [pointers] at held
      obtain ⟨old, -, rfl⟩ := Option.map_eq_some_iff.mp held
      rwa [place_point]
    · refine .inl ⟨fun _ => others other own, ?_⟩
      rw [pointers, Option.map_map]
      apply Option.map_congr
      intro old _
      exact place_point_of_ne own old address
  rest := rest
  segments := .inr segments

/-- Restoring an integer register points at the word that it then holds. -/
theorem restore_integer_touches {number address : Nat}
    (named : isNonvolatileIntegerRegister number = true)
    (restored : restoreInteger stack state number address = some after) :
    Touches stack frame state after := by
  unfold restoreInteger at restored
  split at restored
  · contradiction
  rename_i below
  obtain ⟨value, read, rfl⟩ := Option.map_eq_some_iff.mp restored
  unfold readStackU64 at read
  rw [Option.ite_none_right_eq_some, Option.some.injEq] at read
  obtain ⟨fits, loaded⟩ := read
  have inside := stack_range_inside fits
  have holds : (state.context.setInteger number value).integer number = value :=
    Function.update_self ..
  refine @touches_of_restored stack frame state _ (.integer number) address
    (nonvolatile_integer named (Nat.lt_of_not_le below))
    ⟨inside.1, inside.2, loaded.trans holds.symm⟩ (fun other apart => ?_) rfl rfl ⟨rfl, rfl, rfl⟩
  cases other with
  | integer other => exact set_integer_of_ne fun same => apart (congrArg _ same)
  | xmm other => rfl

/-- Restoring an XMM register points at the sixteen bytes that it then holds. -/
theorem restore_xmm_touches {number address : Nat} (named : isNonvolatileXmmRegister number = true)
    (restored : restoreXmm stack state number address = some after) :
    Touches stack frame state after := by
  obtain ⟨value, read, rfl⟩ := Option.map_eq_some_iff.mp restored
  unfold readStackM128 at read
  rw [Option.ite_none_right_eq_some, Option.some.injEq] at read
  obtain ⟨fits, loaded⟩ := read
  have inside := stack_range_inside fits
  have holds : (state.context.setXmm number value).xmm number = value := Function.update_self ..
  refine @touches_of_restored stack frame state _ (.xmm number) address (nonvolatile_xmm named)
    ⟨inside.1, inside.2, ?_⟩ (fun other apart => ?_) rfl rfl ⟨rfl, rfl, rfl⟩
  · show _ = ((state.context.setXmm number value).xmm number).low ∧
      _ = ((state.context.setXmm number value).xmm number).high
    rw [holds, ← loaded]
    exact ⟨rfl, rfl⟩
  · cases other with
    | integer other => rfl
    | xmm other => exact Function.update_of_ne (fun same => apart (congrArg _ same)) ..

theorem pop_integer_touches {number : Nat} (named : isNonvolatileIntegerRegister number = true)
    (popped : popInteger stack state number = some after) : Touches stack frame state after := by
  obtain ⟨middle, restored, released⟩ := Option.bind_eq_some_iff.mp popped
  exact (restore_integer_touches named restored).trans (release_touches released)

theorem pop_return_address_touches (popped : popReturnAddress stack state = some after) :
    Touches stack frame state after := by
  obtain ⟨returnAddress, -, moved⟩ := Option.bind_eq_some_iff.mp popped
  obtain ⟨middle, released, rfl⟩ := Option.map_eq_some_iff.mp moved
  obtain ⟨rsp, -, rfl⟩ := Option.map_eq_some_iff.mp released
  exact touches_moved state rsp returnAddress

/-- A machine frame holds the flags and two segments as well. -/
theorem pop_machine_frame_touches {info : Nat} (undone : frame)
    (popped : popMachineFrame stack state info = some after) : Touches stack frame state after := by
  simp only [popMachineFrame, Option.bind_eq_bind, Option.bind_eq_some_iff, Option.some.injEq]
    at popped
  obtain ⟨rip, -, codeSegment, -, flags, -, oldRsp, -, stackSegment, -, rfl⟩ := popped
  exact touches_of_rsp rfl rfl rfl rfl (.inl undone)

theorem pop_interrupt_frame_touches (popped : popInterruptFrame stack state = some after) :
    Touches stack frame state after := by
  simp only [popInterruptFrame, Option.bind_eq_bind, Option.bind_eq_some_iff, Option.some.injEq]
    at popped
  obtain ⟨rip, -, oldRsp, -, rfl⟩ := popped
  exact touches_moved state oldRsp rip

end Steps

/-! ### Operations -/

/-- The operations that a walk over codes meets, which passes over `skip` slots first. -/
def operationsOf (version : Nat) : List CodeSlot → Nat → List CodeSlot
  | [], _ => []
  | _ :: rest, skip + 1 => operationsOf version rest skip
  | slot :: rest, 0 =>
    slot :: operationsOf version rest (unwindOperationSlots version slot.operation slot.info - 1)

/-- An operation that was checked, or a descriptor, which a walk passes over. -/
def Passable (slot : CodeSlot) : Prop :=
  slot.operation = .epilog ∨ unwindOperationIsValid slot.operation slot.info = true

section Operations
variable {version : Nat} {codes : List CodeSlot} {skip : Nat}

theorem operations_skip (operands rest : List CodeSlot) :
    operationsOf version (operands ++ rest) operands.length = operationsOf version rest 0 := by
  induction operands with
  | nil => cases rest <;> rfl
  | cons operand operands ih => exact ih

theorem validated_operations {prologueSize frameRegister frameOffset previous : Nat}
    {found hasFrameSetup : Bool}
    (accepted : validateOperations version prologueSize frameRegister frameOffset codes skip
      previous found = some hasFrameSetup) :
    ∀ slot ∈ operationsOf version codes skip,
      unwindOperationIsValid slot.operation slot.info = true := by
  induction codes generalizing skip previous found with
  | nil => simp [operationsOf]
  | cons slot rest ih =>
    cases skip with
    | succ skip => exact ih accepted
    | zero =>
      rw [validateOperations, Option.ite_none_right_eq_some] at accepted
      rw [operationsOf, List.forall_mem_cons]
      exact ⟨accepted_valid accepted.1, ih accepted.2⟩

/-- A walk meets every other descriptor, and then the operations behind them. -/
theorem operations_behind_descriptors {descriptors : List CodeSlot}
    (even : descriptors.length % 2 = 0)
    (all : ∀ slot ∈ descriptors, slot.operation = .epilog)
    (valid : ∀ slot ∈ operationsOf 2 codes 0,
      unwindOperationIsValid slot.operation slot.info = true) :
    ∀ slot ∈ operationsOf 2 (descriptors ++ codes) 0, Passable slot := by
  induction length : descriptors.length using Nat.strong_induction_on
    generalizing descriptors with
  | _ length' ih =>
    match descriptors with
    | [] => exact fun slot member => .inr (valid slot member)
    | [descriptor] => simp at even
    | first :: second :: rest =>
      simp only [List.length_cons] at even length
      have later := ih rest.length (by omega) (by omega)
        (fun slot member => all slot (by simp [member])) rfl
      have epilog := all first (by simp)
      have two : unwindOperationSlots 2 first.operation first.info - 1 = [second].length := by
        rw [epilog]
        rfl
      have skipped := @operations_skip 2 [second] (rest ++ codes)
      rw [List.singleton_append] at skipped
      rw [List.cons_append, operationsOf, two, List.cons_append, skipped, List.forall_mem_cons]
      exact ⟨.inl epilog, later⟩

theorem RecordChecked.operations {record : UnwindRecord} (checked : RecordChecked record) :
    (∀ slot ∈ operationsOf record.version record.codes 0, Passable slot) ∧
      ∀ slot ∈ operationsOf record.version record.codes record.epilogues.codeSlots,
        unwindOperationIsValid slot.operation slot.info = true := by
  obtain ⟨fits, even, described, operations⟩ := accepted_codes checked.codes
  have valid := validated_operations operations
  have taken := List.length_take_of_le fits
  have split := List.take_append_drop record.epilogues.codeSlots record.codes
  have behind := @operations_skip record.version (record.codes.take record.epilogues.codeSlots)
    (record.codes.drop record.epilogues.codeSlots)
  rw [split, taken] at behind
  rw [behind]
  refine ⟨?_, valid⟩
  by_cases none_ : record.epilogues.codeSlots = 0
  · rw [none_, List.drop_zero] at valid
    exact fun slot member => .inr (valid slot member)
  · obtain ⟨two, all⟩ := described none_
    rw [two] at valid ⊢
    have passable := operations_behind_descriptors (by rw [taken]; exact even) all valid
    rwa [split] at passable

end Operations

/-! ### Undoing prologues -/

section Codes
variable {version : Nat} {stack : Stack} {frame : Prop} {frameBase : Nat}
  {codes : List CodeSlot} {skip : Nat} {state after : UnwindState}

theorem apply_operation_touches {slot : CodeSlot} {operands : List CodeSlot}
    (passable : Passable slot) (undoes : slot.operation = .pushMachframe → frame)
    (applied : applyOperation stack frameBase slot operands state = some after) :
    Touches stack frame state after := by
  unfold Passable at passable
  unfold applyOperation at applied
  cases kind : slot.operation with
  | pushNonvol =>
    simp only [kind, reduceCtorEq, false_or] at applied passable
    exact pop_integer_touches passable applied
  | allocLarge =>
    simp only [kind, Option.ite_none_left_eq_some] at applied
    exact release_touches applied.2
  | allocSmall =>
    simp only [kind] at applied
    exact release_touches applied
  | setFpreg =>
    simp only [kind, Option.some.injEq] at applied
    rw [← applied]
    exact touches_moved state frameBase state.context.rip
  | saveNonvol | saveNonvolFar =>
    simp only [kind, reduceCtorEq, false_or] at applied passable
    obtain ⟨address, -, restored⟩ := Option.bind_eq_some_iff.mp applied
    exact restore_integer_touches passable restored
  | saveXmm128 | saveXmm128Far =>
    simp only [kind, reduceCtorEq, false_or] at applied passable
    obtain ⟨address, -, restored⟩ := Option.bind_eq_some_iff.mp applied
    exact restore_xmm_touches passable restored
  | pushMachframe =>
    simp only [kind] at applied
    exact pop_machine_frame_touches (undoes kind) applied
  | epilog =>
    simp only [kind, Option.some.injEq] at applied
    rw [← applied]
    exact Touches.refl state
  | unknown =>
    simp only [kind, reduceCtorEq] at applied

/-- Applying codes touches what their operations restore, and the flags and segments for a machine
frame that was pushed before the prologue's offset. -/
theorem apply_codes_touches {inPrologue : Bool} {prologueOffset : Nat}
    (passable : ∀ slot ∈ operationsOf version codes skip, Passable slot)
    (undoes : ∀ slot ∈ operationsOf version codes skip, slot.operation = .pushMachframe →
      (inPrologue = true → slot.codeOffset ≤ prologueOffset) → frame)
    (applied : applyUnwindCodes version inPrologue prologueOffset frameBase stack codes skip state =
      .done after) : Touches stack frame state after := by
  induction codes generalizing skip state with
  | nil =>
    cases applied
    exact Touches.refl after
  | cons slot rest ih =>
    cases skip with
    | succ skip => exact ih passable undoes applied
    | zero =>
      rw [operationsOf, List.forall_mem_cons] at passable undoes
      rw [applyUnwindCodes] at applied
      cases slots : unwindOperationSlots version slot.operation slot.info with
      | zero =>
        simp only [slots] at applied
        split at applied
        · contradiction
        split at applied <;> contradiction
      | succ slots' =>
        simp only [slots, Nat.add_sub_cancel] at applied passable undoes
        split at applied
        · exact ih passable.2 undoes.2 applied
        rename_i reached
        have ran : inPrologue = true → slot.codeOffset ≤ prologueOffset := by
          intro inside
          exact Nat.le_of_not_lt fun beyond => reached ⟨inside, beyond⟩
        cases operation : applyOperation stack frameBase slot rest state with
        | none =>
          rw [operation] at applied
          contradiction
        | some middle =>
          rw [operation] at applied
          have own := apply_operation_touches passable.1 (fun kind => undoes.1 kind ran) operation
          exact own.trans (ih passable.2 undoes.2 applied)

end Codes

/-! ### Leaving epilogues by their instructions -/

/-- A step of an epilogue that touches what an unwind may touch. -/
inductive StepTouches (stack : Stack) (state : UnwindState) : EpilogueStep → Prop where
  | rejected : StepTouches stack state .rejected
  | next (length : Nat) (seen : Bool) (touches : Touches stack False state after) :
      StepTouches stack state (.next length after seen)
  | transfer (touches : Touches stack False state after) :
      StepTouches stack state (.transfer after)

section Instructions
variable {module : PeModule} {entry : RuntimeFunction} {frameRegister : Nat} {stack : Stack}

theorem add_rsp_touches (candidate : UnwindState) (length : Nat) (immediate : Int) (seen : Bool) :
    StepTouches stack candidate (addRsp candidate length immediate seen) := by
  unfold addRsp
  split
  · exact .rejected
  cases released : release candidate immediate.toNat with
  | none => exact .rejected
  | some after => exact .next length seen (release_touches released)

theorem lea_rsp_touches (candidate : UnwindState) (length base : Nat) (displacement : Int)
    (seen : Bool) : StepTouches stack candidate (leaRsp candidate length base displacement seen) := by
  unfold leaRsp
  dsimp only
  split
  · cases addU64 (candidate.context.integer base) displacement.toNat with
    | none => exact .rejected
    | some rsp => exact .next length seen (touches_moved candidate rsp candidate.context.rip)
  split
  · exact .rejected
  · exact .next length seen (touches_moved candidate _ candidate.context.rip)

theorem epilogue_lea_touches (candidate : UnwindState) (cursorRva remaining : Nat) (seen : Bool) :
    StepTouches stack candidate
      (epilogueLea module frameRegister candidate cursorRva remaining seen) := by
  unfold epilogueLea
  dsimp only
  generalize (if byteAt module (cursorRva + 2) % 8 = 4 then 4 else 3) = displacementOffset
  split
  · exact .rejected
  split
  · exact .rejected
  split
  · exact .rejected
  split
  · exact lea_rsp_touches ..
  split
  · exact .rejected
  · exact lea_rsp_touches ..

theorem pop_register_touches (candidate : UnwindState) (length number : Nat) (seen : Bool) :
    StepTouches stack candidate (popRegister stack candidate length number seen) := by
  unfold popRegister
  split
  · exact .rejected
  rename_i named
  cases popped : popInteger stack candidate number with
  | none => exact .rejected
  | some after =>
    exact .next length seen (pop_integer_touches (Bool.eq_true_of_not_eq_false named) popped)

theorem leave_frame_touches (candidate : UnwindState) :
    StepTouches stack candidate (leaveFrame stack candidate) := by
  unfold leaveFrame
  cases popped : popReturnAddress stack candidate with
  | none => exact .rejected
  | some after => exact .transfer (pop_return_address_touches popped)

theorem return_and_release_touches (candidate : UnwindState) (immediate : Nat) :
    StepTouches stack candidate (returnAndRelease stack candidate immediate) := by
  unfold returnAndRelease
  cases readStackU64 stack candidate.context.rsp with
  | none => exact .rejected
  | some returnAddress =>
    cases released : release candidate (immediate + 8) with
    | none => exact .rejected
    | some after =>
      obtain ⟨rsp, -, rfl⟩ := Option.map_eq_some_iff.mp released
      exact .transfer (touches_moved candidate rsp returnAddress)

theorem epilogue_jump_touches (candidate : UnwindState) (cursorRva remaining : Nat) :
    StepTouches stack candidate
      (epilogueJump module entry stack candidate cursorRva remaining) := by
  obtain rejected | leaves :=
    @epilogue_jump_cases module entry stack cursorRva remaining candidate
  · rw [rejected]
    exact .rejected
  · rw [leaves]
    exact leave_frame_touches candidate

theorem epilogue_step_touches (candidate : UnwindState) (cursorRva remaining : Nat)
    (first seen : Bool) :
    StepTouches stack candidate
      (epilogueStep module entry frameRegister stack cursorRva remaining first seen candidate) := by
  unfold epilogueStep
  dsimp only
  split
  · exact add_rsp_touches ..
  split
  · exact add_rsp_touches ..
  split
  · exact epilogue_lea_touches ..
  split
  · exact pop_register_touches ..
  split
  · exact pop_register_touches ..
  split
  · exact .next 1 true (Touches.refl candidate)
  split
  · exact leave_frame_touches candidate
  split
  · exact return_and_release_touches ..
  · exact epilogue_jump_touches ..

/-- The decoder touches what its instructions restore. -/
theorem simulate_touches {count cursorRva : Nat} {first seen : Bool}
    {candidate after : UnwindState}
    (simulated : simulateInstructions module entry frameRegister stack count cursorRva first seen
      candidate = some after) : Touches stack False candidate after := by
  induction count generalizing cursorRva first seen candidate with
  | zero => contradiction
  | succ count ih =>
    rw [simulateInstructions, Option.ite_none_left_eq_some] at simulated
    have step := @epilogue_step_touches module entry frameRegister stack candidate cursorRva
      (entry.endAddress - cursorRva) first seen
    obtain ⟨-, simulated⟩ := simulated
    generalize epilogueStep module entry frameRegister stack cursorRva
      (entry.endAddress - cursorRva) first seen candidate = outcome at step simulated
    cases step with
    | rejected => contradiction
    | transfer touches =>
      cases simulated
      exact touches
    | next length seen touches =>
      rw [Option.ite_none_left_eq_some] at simulated
      exact touches.trans (ih simulated.2)

end Instructions

/-! ### Leaving declared epilogues -/

section Declared
variable {module : PeModule} {stack : Stack} {version epilogueOffset : Nat}
  {codes pushes rest : List CodeSlot} {currentOffset last : Nat} {state after : UnwindState}

/-- The scan ends at an operation, and so meets no other ones from there on. -/
theorem scan_operations {skip : Nat} (scanned : scanToPush version codes skip = some pushes) :
    ∀ slot ∈ operationsOf version pushes 0, slot ∈ operationsOf version codes skip := by
  induction codes generalizing skip with
  | nil =>
    cases scanned
    simp [operationsOf]
  | cons slot rest ih =>
    cases skip with
    | succ skip => exact ih scanned
    | zero =>
      rw [scanToPush] at scanned
      split at scanned
      · cases scanned
        exact fun _ member => member
      rw [Option.ite_none_left_eq_some] at scanned
      intro other member
      rw [operationsOf]
      exact List.mem_cons_of_mem slot (ih scanned.2 other member)

theorem pop_remaining_touches
    (valid : ∀ slot ∈ operationsOf version codes 0,
      unwindOperationIsValid slot.operation slot.info = true)
    (popped : popRemaining stack epilogueOffset codes currentOffset state =
      some (rest, last, after)) : Touches stack False state after := by
  induction codes generalizing currentOffset state with
  | nil =>
    cases popped
    exact Touches.refl after
  | cons slot codes ih =>
    rw [popRemaining] at popped
    split at popped
    · cases popped
      exact Touches.refl after
    rename_i push
    rw [not_not] at push
    rw [operationsOf, push, List.forall_mem_cons] at valid
    simp only at popped
    split at popped
    · obtain ⟨middle, own, later⟩ := Option.bind_eq_some_iff.mp popped
      have named : isNonvolatileIntegerRegister slot.info = true := by
        have valid := valid.1
        rwa [push] at valid
      exact (pop_integer_touches named own).trans (ih valid.2 later)
    · exact ih valid.2 popped

theorem pop_flags_touches (popped : popFlags epilogueOffset currentOffset codes state =
    some (rest, after)) : Touches stack False state after := by
  unfold popFlags at popped
  split at popped
  · cases popped
    exact Touches.refl _
  split at popped
  · split at popped
    · obtain ⟨middle, released, same⟩ := Option.map_eq_some_iff.mp popped
      cases same
      exact release_touches released
    · cases popped
      exact Touches.refl _
  · cases popped
    exact Touches.refl _

theorem leave_v2_touches (left_ : leaveV2Epilogue stack codes state = some after) :
    Touches stack False state after := by
  unfold leaveV2Epilogue at left_
  split at left_
  · exact pop_return_address_touches left_
  · rw [Option.ite_none_right_eq_some] at left_
    exact pop_interrupt_frame_touches left_.2
  · contradiction

theorem record_with_push_valid {entry : RuntimeFunction} {record : UnwindRecord}
    (found : recordWithPush module entry = some (record, pushes)) :
    ∀ slot ∈ operationsOf record.version pushes 0,
      unwindOperationIsValid slot.operation slot.info = true := by
  unfold recordWithPush at found
  cases read : readUnwindRecord module entry.unwindData with
  | none => simp [read] at found
  | some other =>
    simp only [read, Option.ite_none_left_eq_some] at found
    obtain ⟨codes, scanned, same⟩ := Option.map_eq_some_iff.mp found.2
    cases same
    have checked := unwind_record_at_checked (read_unwind_record_some read).1
    exact fun slot member => checked.operations.2 slot (scan_operations scanned slot member)

theorem select_record_valid {depth left : Nat} {entry : RuntimeFunction} {record : UnwindRecord}
    (selected : selectRecord module depth entry = some (record, pushes, left)) :
    ∀ slot ∈ operationsOf record.version pushes 0,
      unwindOperationIsValid slot.operation slot.info = true := by
  induction depth generalizing entry with
  | zero => contradiction
  | succ depth ih =>
    rw [selectRecord] at selected
    cases found : recordWithPush module entry with
    | none => simp [found] at selected
    | some pair =>
      obtain ⟨own, codes⟩ := pair
      simp only [found] at selected
      split at selected
      · cases selected
        exact record_with_push_valid found
      · obtain ⟨parent, -, later⟩ := Option.bind_eq_some_iff.mp selected
        exact ih later

theorem unwind_v2_touches {entry : RuntimeFunction}
    (left_ : unwindV2Epilogue module entry epilogueOffset stack state = some after) :
    Touches stack False state after := by
  unfold unwindV2Epilogue at left_
  obtain ⟨⟨record, pushes, depth⟩, selected, left_⟩ := Option.bind_eq_some_iff.mp left_
  rw [Option.ite_none_left_eq_some] at left_
  obtain ⟨⟨rest, currentOffset, popped⟩, pops, left_⟩ := Option.bind_eq_some_iff.mp left_.2
  obtain ⟨⟨codes, freed⟩, flags, left_⟩ := Option.bind_eq_some_iff.mp left_
  have first := pop_remaining_touches (select_record_valid selected) pops
  exact (first.trans (pop_flags_touches flags)).trans (leave_v2_touches left_)

/-- Leaving an epilogue, by its instructions or its place, touches what it restores. -/
theorem unwind_epilogue_touches {entry : RuntimeFunction} {record : UnwindRecord}
    {controlPc : Nat}
    (left_ : unwindEpilogue module entry record controlPc stack state = .ok (some after)) :
    Touches stack False state after := by
  unfold unwindEpilogue at left_
  split at left_
  · have simulated := Except.ok.inj left_
    unfold simulateEpilogue at simulated
    simp only [Option.ite_none_left_eq_some] at simulated
    exact simulate_touches simulated.2.2
  · split at left_
    · simp at left_
    split at left_
    · contradiction
    rename_i undone
    cases left_
    exact unwind_v2_touches undone

end Declared

/-! ### The whole unwind -/

/-- A machine frame among the operations that a chain undoes. In the first record those behind
`controlPc` have not run. -/
inductive UndoesMachineFrame (module : PeModule) (controlPc : Nat) : Bool → RuntimeFunction → Prop
    where
  | own (read : unwindRecordAt module entry.unwindData = some record)
      (operation : slot ∈ operationsOf record.version record.codes 0)
      (kind : slot.operation = .pushMachframe)
      (ran : isFirst = true →
        controlPc - module.mapped.loadBase - entry.beginAddress < record.prologueSize →
        slot.codeOffset ≤ controlPc - module.mapped.loadBase - entry.beginAddress) :
      UndoesMachineFrame module controlPc isFirst entry
  | link (read : unwindRecordAt module entry.unwindData = some record)
      (chained : hasFlag record.flags flagChainInfo = true)
      (next : chainedEntry module record = some parent)
      (rest : UndoesMachineFrame module controlPc false parent) :
      UndoesMachineFrame module controlPc isFirst entry

section Whole
variable {module : PeModule} {controlPc : Nat} {stack : Stack}

/-- Undoing the records of a chain touches what their operations restore. -/
theorem unwind_records_touch {depth : Nat} {first : Option (Nat × Bool)} {entry : RuntimeFunction}
    {state : UnwindState} {last : ChainEnd}
    (begun : first = none → entry.beginAddress ≤ controlPc - module.mapped.loadBase)
    (undone : unwindRecords module controlPc stack depth first entry state = some (.ok last)) :
    Touches stack (UndoesMachineFrame module controlPc first.isNone entry) state last.state := by
  induction depth generalizing first entry state with
  | zero => simp [unwindRecords] at undone
  | succ depth ih =>
    rw [unwindRecords] at undone
    cases read : unwindRecordAt module entry.unwindData with
    | none => simp [read] at undone
    | some record =>
      simp only [read] at undone
      split at undone
      · cases undone
      · cases undone
      split at undone
      · cases undone
      · cases undone
      rename_i after applied
      have passable := (unwind_record_at_checked read).operations.1
      have own : Touches stack (UndoesMachineFrame module controlPc first.isNone entry) state
          after := by
        refine apply_codes_touches passable (fun slot operation kind ran => ?_) applied
        refine .own read operation kind fun isFirst inside => ?_
        rw [if_pos (begun (Option.isNone_iff_eq_none.mp isFirst))] at ran
        have inPrologue : (first.isNone && decide (controlPc - module.mapped.loadBase -
            entry.beginAddress < record.prologueSize)) = true := by
          rw [isFirst, decide_eq_true inside]
          rfl
        rw [inPrologue] at ran
        exact ran rfl
      split at undone
      · cases undone
      split at undone
      · rename_i chained
        split at undone
        · cases undone
        rename_i parent next
        have later := ih (fun unsettled => absurd unsettled (by simp)) undone
        exact own.trans (later.mono fun parents => .link read chained next parents)
      · cases undone
        exact own

theorem final_state_touches {last : ChainEnd} {after : UnwindState} {frame : Prop}
    (final : finalState stack last = some after) : Touches stack frame last.state after := by
  unfold finalState at final
  split at final
  · cases final
    exact Touches.refl last.state
  · exact pop_return_address_touches final

theorem unwind_validated_touches {handlerType : Nat} {entry : RuntimeFunction}
    {record : UnwindRecord} {state : UnwindState} {unwound : Unwound}
    (begun : entry.beginAddress ≤ controlPc - module.mapped.loadBase)
    (returned : unwindValidated module handlerType controlPc entry record stack state =
      some (.ok unwound)) :
    ∃ after, after.context = unwound.context ∧ after.pointers = unwound.pointers ∧
      Touches stack (unwindEpilogue module entry record controlPc stack state = .ok none ∧
        UndoesMachineFrame module controlPc true entry) state after := by
  unfold unwindValidated at returned
  split at returned
  · cases returned
  · cases returned
  split at returned
  · cases returned
  · rename_i after left_
    cases returned
    exact ⟨after, rfl, rfl, (unwind_epilogue_touches left_).mono False.elim⟩
  rename_i body
  split at returned
  · cases returned
  · cases returned
  rename_i last undone
  have chain := unwind_records_touch (fun _ => begun) undone
  have finished := Option.some.inj returned
  unfold finishUnwind at finished
  split at finished
  · cases finished
  split at finished
  · cases finished
  rename_i after final
  cases finished
  exact ⟨after, rfl, rfl, (chain.mono fun undoes => ⟨body, undoes⟩).trans
    (final_state_touches final)⟩

/-- Pointers after an unwind: each is what it was, or leads to what its register now holds. -/
def PointsAtRestored (stack : Stack) (context : Context) (before after : ContextPointers) : Prop :=
  ∀ register, after.place register = before.place register ∨
    (register.Nonvolatile ∧
      SavedSlot.Readable ⟨register, after.place register⟩ stack context)

theorem Touches.points {frame : Prop} {before after : UnwindState}
    (touches : Touches stack frame before after) :
    Option.Rel (PointsAtRestored stack after.context) before.pointers after.pointers := by
  have held : after.pointers.isSome = before.pointers.isSome := by
    rcases touches.registers (.integer registerRsp) with untouched | restored
    · simpa only [Option.isSome_map] using congrArg Option.isSome untouched.place
    · exact absurd restored.nonvolatile rsp_volatile
  cases old : before.pointers with
  | none =>
    rw [old] at held
    rw [Option.isSome_eq_false_iff.mp held |> Option.isNone_iff_eq_none.mp]
    exact .none
  | some pointers =>
    rw [old] at held
    obtain ⟨others, new⟩ := Option.isSome_iff_exists.mp held
    rw [new]
    refine .some fun register => ?_
    rcases touches.registers register with untouched | restored
    · have place := untouched.place
      rw [old, new] at place
      exact .inl (Option.some.inj place)
    · exact .inr ⟨restored.nonvolatile, restored.readable others new⟩

/-- Whether an unwind undoes a prologue that pushed a machine frame. -/
def PrologueMachineFrame (module : PeModule) (controlPc functionEntry : Nat) (context : Context)
    (stack : Stack) (pointers : Option ContextPointers) : Prop :=
  ∃ entry record, runtimeEntryFromPointer module functionEntry = some entry ∧
    validateUnwindChain module maxChainDepth none entry = .ok record ∧
    unwindEpilogue module entry record controlPc stack
      { context := context, pointers := pointers } = .ok none ∧
    UndoesMachineFrame module controlPc true entry

/-- An unwind changes no more of a context than RSP, RIP, the nonvolatile registers and, where it
undoes a machine frame, the flags and segments. It points at what it restored, and has read the
stack between its bounds only. -/
theorem unwind_touches_what_it_restores (module : PeModule)
    (handlerType controlPc functionEntry : Nat) (context : Context) (stack : Stack)
    (pointers : Option ContextPointers) {unwound : Unwound}
    (returned : virtualUnwind module handlerType controlPc functionEntry context stack pointers =
      some (.ok unwound)) :
    (∀ register : SavedRegister, ¬ register.Nonvolatile → register ≠ .integer registerRsp →
      register.SameIn unwound.context context) ∧
    unwound.context.rest = context.rest ∧
    (SameSegments unwound.context context ∨
      PrologueMachineFrame module controlPc functionEntry context stack pointers) ∧
    Option.Rel (PointsAtRestored stack unwound.context) pointers unwound.pointers ∧
    ∀ other, SameInside stack other →
      virtualUnwind module handlerType controlPc functionEntry context other pointers =
        some (.ok unwound) := by
  have reads (other : Stack) (same : SameInside stack other) :=
    (same.virtual_unwind module handlerType controlPc functionEntry context pointers).trans
      returned
  obtain ⟨entry, record, found, inside, valid, returned⟩ := virtual_unwind_ok returned
  obtain ⟨after, values, places, touches⟩ := unwind_validated_touches inside returned
  have points := touches.points
  rw [values, places] at points
  refine ⟨?_, ?_, ?_, points, reads⟩
  · intro register volatile notRsp
    rcases touches.registers register with untouched | restored
    · rw [← values]
      exact untouched.value notRsp
    · exact absurd restored.nonvolatile volatile
  · rw [← values]
    exact touches.rest
  · rw [← values]
    exact touches.segments.symm.imp_right fun undone =>
      ⟨entry, record, found, valid, undone.1, undone.2⟩

end Whole

/-- RBX and where it was pushed, from the body of a function that pushed it. -/
theorem pushed_register_restored :
    ∃ unwound, virtualUnwind (declaredModule 1) flagEHandler 0x10028 0x10004
        (contextOnStack 0x1008) declaredStack (some {}) = some (.ok unwound) ∧
      unwound.context.integer 3 = 7 ∧
      unwound.pointers.map (·.place (.integer 3)) = some 0x1010 ∧
      (∀ register : SavedRegister, ¬ register.Nonvolatile → register ≠ .integer registerRsp →
        register.SameIn unwound.context (contextOnStack 0x1008)) ∧
      unwound.context.rest = (contextOnStack 0x1008).rest ∧
      (SameSegments unwound.context (contextOnStack 0x1008) ∨
        PrologueMachineFrame (declaredModule 1) 0x10028 0x10004 (contextOnStack 0x1008)
          declaredStack (some {})) ∧
      Option.Rel (PointsAtRestored declaredStack unwound.context) (some {}) unwound.pointers ∧
      ∀ other, SameInside declaredStack other →
        virtualUnwind (declaredModule 1) flagEHandler 0x10028 0x10004 (contextOnStack 0x1008)
          other (some {}) = some (.ok unwound) := by
  have unwinds : ∃ unwound, virtualUnwind (declaredModule 1) flagEHandler 0x10028 0x10004
      (contextOnStack 0x1008) declaredStack (some {}) = some (.ok unwound) ∧
      unwound.context.integer 3 = 7 ∧
      unwound.pointers.map (·.place (.integer 3)) = some 0x1010 := ⟨_, rfl, rfl, rfl⟩
  obtain ⟨unwound, unwinds, value, place⟩ := unwinds
  exact ⟨unwound, unwinds, value, place,
    unwind_touches_what_it_restores (declaredModule 1) flagEHandler 0x10028 0x10004
      (contextOnStack 0x1008) declaredStack (some {}) unwinds⟩

end SadLayer.Unwind
