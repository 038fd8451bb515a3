import SadLayer.VirtualUnwind

/-! What an unwind reads of a stack. Every read is one of a range between the
bounds, so that an unwind cannot tell two memories apart that agree there. -/
namespace SadLayer.Unwind
open SadLayer.Library

/-- Two stacks with the same bounds and the same bytes between them. -/
structure SameInside (stack other : Stack) : Prop where
  limit : other.limit = stack.limit
  base : other.base = stack.base
  bytes : ∀ address, stack.limit ≤ address → address < stack.base →
    other.bytes address = stack.bytes address

section Reads
variable {stack other : Stack} {state : UnwindState} {address size : Nat}

theorem stack_range_inside (fits : stackRangeFits stack address size = true) :
    stack.limit ≤ address ∧ address + size ≤ stack.base := by
  unfold stackRangeFits at fits
  simp only [Bool.and_eq_true, decide_eq_true_eq] at fits
  omega

theorem SameInside.range (same : SameInside stack other) (address size : Nat) :
    stackRangeFits other address size = stackRangeFits stack address size := by
  rw [stackRangeFits, stackRangeFits, same.limit, same.base]

theorem SameInside.load (same : SameInside stack other)
    (fits : stackRangeFits stack address size = true) {offset width : Nat}
    (within : offset + width ≤ size) :
    loadLe other.bytes (address + offset) width = loadLe stack.bytes (address + offset) width := by
  have inside := stack_range_inside fits
  apply load_le_congr
  intro index above below
  exact same.bytes index (by omega) (by omega)

theorem SameInside.read_u64 (same : SameInside stack other) :
    readStackU64 other = readStackU64 stack := by
  funext address
  rw [readStackU64, readStackU64, same.range]
  split
  · rename_i fits
    have word := @SameInside.load stack other address 8 same fits 0 8 (Nat.le_refl 8)
    rw [Nat.add_zero] at word
    rw [word]
  · rfl

theorem SameInside.read_m128 (same : SameInside stack other) :
    readStackM128 other = readStackM128 stack := by
  funext address
  rw [readStackM128, readStackM128, same.range]
  split
  · rename_i fits
    have low := @SameInside.load stack other address 16 same fits 0 8 (by decide)
    have high := @SameInside.load stack other address 16 same fits 8 8 (by decide)
    rw [Nat.add_zero] at low
    rw [low, high]
  · rfl

theorem SameInside.restore_integer (same : SameInside stack other) :
    restoreInteger other = restoreInteger stack := by
  funext state number address
  rw [restoreInteger, restoreInteger, same.read_u64]

theorem SameInside.restore_xmm (same : SameInside stack other) :
    restoreXmm other = restoreXmm stack := by
  funext state number address
  rw [restoreXmm, restoreXmm, same.read_m128]

theorem SameInside.pop_integer (same : SameInside stack other) :
    popInteger other = popInteger stack := by
  funext state number
  rw [popInteger, popInteger, same.restore_integer]

theorem SameInside.pop_return_address (same : SameInside stack other) :
    popReturnAddress other = popReturnAddress stack := by
  funext state
  rw [popReturnAddress, popReturnAddress, same.read_u64]

theorem SameInside.pop_machine_frame (same : SameInside stack other) :
    popMachineFrame other = popMachineFrame stack := by
  funext state info
  rw [popMachineFrame, popMachineFrame, same.read_u64]

theorem SameInside.apply_operation (same : SameInside stack other) :
    applyOperation other = applyOperation stack := by
  funext frameBase slot operands state
  unfold applyOperation
  rw [same.pop_integer, same.restore_integer, same.restore_xmm, same.pop_machine_frame]

theorem SameInside.apply_codes (same : SameInside stack other) (version : Nat)
    (inPrologue : Bool) (prologueOffset frameBase : Nat) (codes : List CodeSlot) (skip : Nat)
    (state : UnwindState) :
    applyUnwindCodes version inPrologue prologueOffset frameBase other codes skip state =
      applyUnwindCodes version inPrologue prologueOffset frameBase stack codes skip state := by
  induction codes generalizing skip state with
  | nil => rfl
  | cons slot rest ih =>
    cases skip with
    | succ skip => exact ih skip state
    | zero =>
      rw [applyUnwindCodes, applyUnwindCodes, same.apply_operation]
      simp only [ih]

/-! ### Epilogues -/

theorem SameInside.pop_register (same : SameInside stack other) :
    popRegister other = popRegister stack := by
  funext candidate length number seen
  rw [popRegister, popRegister, same.pop_integer]

theorem SameInside.leave_frame (same : SameInside stack other) :
    leaveFrame other = leaveFrame stack := by
  funext candidate
  rw [leaveFrame, leaveFrame, same.pop_return_address]

theorem SameInside.return_and_release (same : SameInside stack other) :
    returnAndRelease other = returnAndRelease stack := by
  funext candidate immediate
  rw [returnAndRelease, returnAndRelease, same.read_u64]

theorem SameInside.epilogue_jump (same : SameInside stack other) (module : PeModule)
    (entry : RuntimeFunction) : epilogueJump module entry other = epilogueJump module entry stack := by
  funext candidate cursorRva remaining
  unfold epilogueJump directJump
  rw [same.leave_frame]

theorem SameInside.epilogue_step (same : SameInside stack other) (module : PeModule)
    (entry : RuntimeFunction) (frameRegister : Nat) :
    epilogueStep module entry frameRegister other = epilogueStep module entry frameRegister stack := by
  funext cursorRva remaining first seen candidate
  unfold epilogueStep
  rw [same.pop_register, same.leave_frame, same.return_and_release, same.epilogue_jump]

theorem SameInside.simulate_instructions (same : SameInside stack other) (module : PeModule)
    (entry : RuntimeFunction) (frameRegister count cursorRva : Nat) (first seen : Bool)
    (candidate : UnwindState) :
    simulateInstructions module entry frameRegister other count cursorRva first seen candidate =
      simulateInstructions module entry frameRegister stack count cursorRva first seen
        candidate := by
  induction count generalizing cursorRva first seen candidate with
  | zero => rfl
  | succ count ih =>
    rw [simulateInstructions, simulateInstructions, same.epilogue_step]
    simp only [ih]

theorem SameInside.pop_remaining (same : SameInside stack other) (epilogueOffset : Nat)
    (codes : List CodeSlot) (currentOffset : Nat) (state : UnwindState) :
    popRemaining other epilogueOffset codes currentOffset state =
      popRemaining stack epilogueOffset codes currentOffset state := by
  induction codes generalizing currentOffset state with
  | nil => rfl
  | cons slot rest ih =>
    have next (length : Nat) : popRemaining other epilogueOffset rest (currentOffset + length) =
        popRemaining stack epilogueOffset rest (currentOffset + length) := funext (ih _)
    rw [popRemaining, popRemaining, same.pop_integer]
    simp only [next]

theorem SameInside.leave_v2_epilogue (same : SameInside stack other) :
    leaveV2Epilogue other = leaveV2Epilogue stack := by
  have interrupt : popInterruptFrame other = popInterruptFrame stack := by
    funext state
    rw [popInterruptFrame, popInterruptFrame, same.read_u64]
  funext codes state
  match codes with
  | [] => exact congrFun same.pop_return_address state
  | [slot] => rw [leaveV2Epilogue, leaveV2Epilogue, interrupt]
  | _ :: _ :: _ => rfl

theorem SameInside.unwind_epilogue (same : SameInside stack other) (module : PeModule)
    (entry : RuntimeFunction) (record : UnwindRecord) (controlPc : Nat) (state : UnwindState) :
    unwindEpilogue module entry record controlPc other state =
      unwindEpilogue module entry record controlPc stack state := by
  unfold unwindEpilogue simulateEpilogue unwindV2Epilogue
  simp only [same.simulate_instructions, same.pop_remaining, same.leave_v2_epilogue]

/-! ### The whole unwind -/

theorem SameInside.unwind_records (same : SameInside stack other) (module : PeModule)
    (controlPc depth : Nat) (first : Option (Nat × Bool)) (entry : RuntimeFunction)
    (state : UnwindState) :
    unwindRecords module controlPc other depth first entry state =
      unwindRecords module controlPc stack depth first entry state := by
  induction depth generalizing first entry state with
  | zero => rfl
  | succ depth ih =>
    rw [unwindRecords, unwindRecords]
    simp only [same.apply_codes, ih]

/-- An unwind reads the stack between its bounds only. -/
theorem SameInside.virtual_unwind (same : SameInside stack other) (module : PeModule)
    (handlerType controlPc functionEntry : Nat) (context : Context)
    (pointers : Option ContextPointers) :
    virtualUnwind module handlerType controlPc functionEntry context other pointers =
      virtualUnwind module handlerType controlPc functionEntry context stack pointers := by
  have finish : finishUnwind module handlerType other = finishUnwind module handlerType stack := by
    funext last
    rw [finishUnwind, finishUnwind, finalState, finalState, same.pop_return_address]
  unfold virtualUnwind unwindValidated
  simp only [same.limit, same.base, same.unwind_epilogue, same.unwind_records, finish]

end Reads

end SadLayer.Unwind
