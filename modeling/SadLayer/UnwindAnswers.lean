import SadLayer.UnwindFailures
import SadLayer.DeclaredEpilogues

/-! The reasons for which each part of the unwinder fails, and what it answers for
them. With its reasons told it is the same unwinder, over all records, valid or not. -/
namespace SadLayer.Unwind
open SadLayer.Library SadLayer.Pe

/-! ### Reasons of a frame -/

/-- What may fail of a frame whose records are valid. -/
def frameReasons : List UnwindFailure :=
  [.stackRead, .addressOverflow, .frameUnderflow, .badAllocation, .epilogueShape]

section Reasons
variable {stack : Stack} {state : UnwindState}

theorem release_fails (size : Nat) : FailsFor frameReasons (blamedRelease state size) :=
  .blame (by decide) _

/-- The number of a register comes out of four bits. -/
theorem restore_integer_fails {number address : Nat} (known : number < 16) :
    FailsFor frameReasons (blamedRestoreInteger stack state number address) := by
  unfold blamedRestoreInteger
  rw [if_neg (by omega)]
  exact .blame (by decide) _

theorem pop_integer_fails {number : Nat} (known : number < 16) :
    FailsFor frameReasons (blamedPopInteger stack state number) :=
  (restore_integer_fails known).bind fun _ _ => release_fails 8

theorem pop_return_address_fails : FailsFor frameReasons (blamedPopReturnAddress stack state) :=
  (FailsFor.blame (by decide) _).bind fun _ _ => (release_fails 8).bind fun _ _ => .ok _

theorem read_above_fails (base offset : Nat) :
    FailsFor frameReasons (blamedReadAbove stack base offset) :=
  (FailsFor.blame (by decide) _).bind fun _ _ => .blame (by decide) _

theorem pop_machine_frame_fails (info : Nat) :
    FailsFor frameReasons (blamedPopMachineFrame stack state info) := by
  unfold blamedPopMachineFrame
  refine (read_above_fails _ _).bind fun rip _ => ?_
  refine (read_above_fails _ _).bind fun codeSegment _ => ?_
  refine (read_above_fails _ _).bind fun flags _ => ?_
  refine (read_above_fails _ _).bind fun oldRsp _ => ?_
  exact (read_above_fails _ _).bind fun stackSegment _ => .ok _

theorem pop_interrupt_frame_fails :
    FailsFor frameReasons (blamedPopInterruptFrame stack state) :=
  (FailsFor.blame (by decide) _).bind fun _ _ => (read_above_fails _ _).bind fun _ _ => .ok _

theorem operation_fails {slot : CodeSlot} (known : slot.operation ≠ .unknown) (frameBase : Nat)
    (operands : List CodeSlot) :
    FailsFor frameReasons (blamedOperation stack frameBase slot operands state) := by
  have register := slot.info_lt
  unfold blamedOperation
  cases operation : slot.operation with
  | pushNonvol => exact pop_integer_fails register
  | allocLarge =>
    dsimp only
    split
    · exact .error (by decide)
    · exact release_fails _
  | allocSmall => exact release_fails _
  | setFpreg | epilog => exact .ok _
  | saveNonvol | saveNonvolFar =>
    exact (FailsFor.blame (by decide) _).bind fun _ _ => restore_integer_fails register
  | saveXmm128 | saveXmm128Far =>
    exact (FailsFor.blame (by decide) _).bind fun _ _ => .blame (by decide) _
  | pushMachframe => exact pop_machine_frame_fails _
  | unknown => exact absurd operation known

theorem pop_remaining_fails (offset : Nat) (codes : List CodeSlot) (current : Nat) :
    FailsFor frameReasons (blamedPopRemaining stack offset codes current state) := by
  induction codes generalizing current state with
  | nil => exact .ok _
  | cons slot rest ih =>
    rw [blamedPopRemaining]
    split
    · exact .ok _
    · dsimp only
      split
      · exact (pop_integer_fails slot.info_lt).bind fun _ _ => ih _
      · exact ih _

theorem pop_flags_fails (offset current : Nat) (codes : List CodeSlot) :
    FailsFor frameReasons (blamedPopFlags offset current codes state) := by
  cases codes with
  | nil => exact .ok _
  | cons slot rest =>
    rw [blamedPopFlags]
    split
    · split
      · exact (release_fails 8).bind fun _ _ => .ok _
      · exact .ok _
    · exact .ok _

theorem leave_fails (codes : List CodeSlot) :
    FailsFor frameReasons (blamedLeave stack codes state) := by
  rcases codes with _ | ⟨slot, _ | ⟨other, rest⟩⟩
  · exact pop_return_address_fails
  · rw [blamedLeave]
    split
    · exact pop_interrupt_frame_fails
    · exact .error (by decide)
  · exact .error (by decide)

theorem final_state_fails (last : ChainEnd) :
    FailsFor frameReasons (blamedFinalState stack last) := by
  unfold blamedFinalState
  split
  · exact .ok _
  · exact pop_return_address_fails

end Reasons

/-! ### Reasons of a record -/

/-- What may fail of a record as well, one epilogue's chain of them included. -/
def imageReasons : List UnwindFailure :=
  [.badHeader, .badCodes, .badRanges, .badChain, .badHandler, .unknownOperation,
    .epilogueTooLong] ++ frameReasons

theorem frame_reasons_subset : frameReasons ⊆ imageReasons := List.subset_append_right _ _

theorem image_reasons_status : ∀ reason ∈ imageReasons, reason.status = some .invalidImage := by
  decide

section Records
variable {module : PeModule} {stack : Stack} {state : UnwindState} {entry : RuntimeFunction}

theorem operation_image_fails (frameBase : Nat) (slot : CodeSlot) (operands : List CodeSlot) :
    FailsFor imageReasons (blamedOperation stack frameBase slot operands state) := by
  by_cases unknown : slot.operation = .unknown
  · unfold blamedOperation
    rw [unknown]
    exact .error (by decide)
  · exact (operation_fails unknown frameBase operands).mono frame_reasons_subset

theorem record_fails (unwindRva : Nat) : FailsFor imageReasons (blamedRecord module unwindRva) := by
  unfold blamedRecord
  split
  · exact .error (by decide)
  dsimp only
  split
  · exact .error (by decide)
  split
  · exact .error (by decide)
  · exact (FailsFor.blame (by decide) _).bind fun _ _ => .ok _

theorem record_with_push_fails : FailsFor imageReasons (blamedRecordWithPush module entry) := by
  refine (FailsFor.blame (by decide) _).bind fun record _ => ?_
  split
  · exact .error (by decide)
  · exact (FailsFor.blame (by decide) _).bind fun _ _ => .ok _

theorem select_fails (depth : Nat) : FailsFor imageReasons (blamedSelect module depth entry) := by
  induction depth generalizing entry with
  | zero => exact .error (by decide)
  | succ depth ih =>
    refine record_with_push_fails.bind fun found _ => ?_
    split
    · exact .ok _
    · exact (FailsFor.blame (by decide) _).bind fun _ _ => ih

theorem parents_image_fail (depth : Nat) (record : UnwindRecord) :
    FailsFor imageReasons (blamedParents module depth record) := by
  induction depth generalizing record with
  | zero =>
    rw [blamedParents]
    split
    · exact .ok _
    · exact .error (by decide)
  | succ depth ih =>
    rw [blamedParents]
    split
    · exact .ok _
    refine (FailsFor.blame (by decide) _).bind fun parent _ => ?_
    refine record_with_push_fails.bind fun found _ => ?_
    split
    · exact .error (by decide)
    · exact ih _

/-- Behind the choice of its record an epilogue fails for the frame only. -/
theorem v2_epilogue_fails_as {reasons : List UnwindFailure} {offset : Nat}
    (frame : frameReasons ⊆ reasons)
    (selected : FailsFor reasons (blamedSelect module maxChainDepth entry))
    (parents : ∀ record codes left, blamedSelect module maxChainDepth entry =
      .ok (record, codes, left) → FailsFor reasons (blamedParents module left record)) :
    FailsFor reasons (blamedV2Epilogue module entry offset stack state) := by
  refine selected.bind fun found select => ?_
  refine (parents _ _ _ select).bind fun _ _ => ?_
  refine ((pop_remaining_fails _ _ _).mono frame).bind fun popped _ => ?_
  refine ((pop_flags_fails _ _ _).mono frame).bind fun left _ => ?_
  exact (leave_fails _).mono frame

/-! ### Answers -/

theorem frame_base_answered (record : UnwindRecord) (inPrologue : Bool) (prologueOffset : Nat)
    (context : Context) : frameBaseOf record inPrologue prologueOffset context =
      answered UnwindFailure.status
        (blamedFrameBase record inPrologue prologueOffset context) := by
  unfold frameBaseOf blamedFrameBase
  cases frameIsEstablished record inPrologue prologueOffset with
  | none => rfl
  | some set =>
    cases set with
    | false => rfl
    | true =>
      dsimp only
      split <;> rfl

/-- What a loop over codes is answered. -/
def Walked.answer : Walked α → Option (Except Status α)
  | .endless => none
  | .rejected => some (.error .invalidImage)
  | .done value => some (.ok value)

theorem codes_answered {version : Nat} {inPrologue : Bool} {prologueOffset frameBase : Nat}
    (codes : List CodeSlot) (skip : Nat) :
    (applyUnwindCodes version inPrologue prologueOffset frameBase stack codes skip state).answer =
      answered UnwindFailure.status
        (blamedCodes version inPrologue prologueOffset frameBase stack codes skip state) := by
  induction codes generalizing skip state with
  | nil => rfl
  | cons slot rest ih =>
    cases skip with
    | succ skip => exact ih skip
    | zero =>
      have answers : answered UnwindFailure.status
          (blamedOperation stack frameBase slot rest state) =
            some (blame .invalidImage (applyOperation stack frameBase slot rest state)) := by
        rw [(operation_image_fails frameBase slot rest).answer image_reasons_status,
          map_error_of_to_option (operation_blamed frameBase slot rest)]
      rw [blamedCodes, applyUnwindCodes]
      by_cases later : inPrologue = true ∧ slot.codeOffset > prologueOffset
      · rw [if_pos later, if_pos later]
        cases unwindOperationSlots version slot.operation slot.info with
        | zero => rfl
        | succ slots => exact ih slots
      · rw [if_neg later, if_neg later, answered_bind, answers]
        cases applyOperation stack frameBase slot rest state with
        | none => rfl
        | some after =>
          cases unwindOperationSlots version slot.operation slot.info with
          | zero => rfl
          | succ slots => exact ih slots

theorem epilogue_answered (record : UnwindRecord) (controlPc : Nat) :
    some (unwindEpilogue module entry record controlPc stack state) =
      answered UnwindFailure.status
        (blamedEpilogue module entry record controlPc stack state) := by
  unfold unwindEpilogue blamedEpilogue
  split
  · rfl
  cases findV2Epilogue record entry (controlPc - module.mapped.loadBase) with
  | none => rfl
  | some offset =>
    have fails : FailsFor imageReasons (blamedV2Epilogue module entry offset stack state) :=
      v2_epilogue_fails_as frame_reasons_subset (select_fails _)
        fun record codes left _ => parents_image_fail left record
    dsimp only
    rw [answered_bind, fails.answer image_reasons_status,
      map_error_of_to_option (v2_epilogue_blamed offset)]
    cases unwindV2Epilogue module entry offset stack state <;> rfl

theorem records_answered {controlPc depth : Nat} {settled : Option (Nat × Bool)} :
    unwindRecords module controlPc stack depth settled entry state =
      answered UnwindFailure.status
        (blamedRecords module controlPc stack depth settled entry state) := by
  induction depth generalizing settled entry state with
  | zero => rfl
  | succ depth ih =>
    rw [unwindRecords, blamedRecords, answered_bind,
      (record_fails entry.unwindData).answer image_reasons_status,
      map_error_of_to_option (record_blamed entry.unwindData)]
    cases unwindRecordAt module entry.unwindData with
    | none => rfl
    | some record =>
      rw [blame_some, onward]
      dsimp only
      -- what the place of the control PC comes to does not matter
      generalize (if entry.beginAddress ≤ controlPc - module.mapped.loadBase then
        controlPc - module.mapped.loadBase - entry.beginAddress else uint64Max) = procedureOffset
      generalize (settled.isNone && decide (procedureOffset < record.prologueSize)) = inPrologue
      generalize (if inPrologue = true then procedureOffset else 255) = prologueOffset
      rw [answered_bind, ← frame_base_answered]
      rcases frameBaseOf record inPrologue prologueOffset state.context with
        _ | status | frameBase
      · rfl
      · rfl
      rw [onward]
      dsimp only
      rw [answered_bind, ← codes_answered]
      rcases applyUnwindCodes record.version inPrologue prologueOffset frameBase stack record.codes
        0 state with _ | _ | after
      · rfl
      · rfl
      rw [Walked.answer, onward]
      dsimp only
      split
      · rfl
      split
      · rw [answered_bind]
        cases chainedEntry module record with
        | none => rfl
        | some parent => exact ih
      · rfl

theorem finish_answered (handlerType : Nat) (last : ChainEnd) :
    some (finishUnwind module handlerType stack last) =
      answered UnwindFailure.status (blamedFinish module handlerType stack last) := by
  unfold finishUnwind blamedFinish
  cases found : findHandler module handlerType last with
  | error status =>
    rw [find_handler_fails found]
    rfl
  | ok languageHandler =>
    dsimp only [Except.mapError]
    rw [ok_bind, answered_bind,
      ((final_state_fails last).mono frame_reasons_subset).answer image_reasons_status,
      map_error_of_to_option (final_state_blamed last)]
    cases finalState stack last <;> rfl

/-- The reasons say no more than why the unwinder fails. -/
theorem unwind_answered (handlerType controlPc : Nat) (firstRecord : UnwindRecord) :
    unwindValidated module handlerType controlPc entry firstRecord stack state =
      answered UnwindFailure.status
        (blamedUnwind module handlerType controlPc entry firstRecord stack state) := by
  have establishes : initialEstablisher module controlPc entry firstRecord state.context =
      answered UnwindFailure.status
        (blamedEstablisher module controlPc entry firstRecord state.context) :=
    frame_base_answered _ _ _ _
  unfold unwindValidated blamedUnwind
  rw [answered_bind, ← establishes]
  rcases initialEstablisher module controlPc entry firstRecord state.context with
    _ | status | establisherFrame
  · rfl
  · rfl
  rw [onward]
  dsimp only
  rw [answered_bind, ← epilogue_answered]
  rcases unwindEpilogue module entry firstRecord controlPc stack state with status | (_ | left)
  · rfl
  · rw [onward]
    dsimp only
    unfold blamedBody
    rw [answered_bind, ← records_answered]
    rcases unwindRecords module controlPc stack maxChainDepth none entry state with
      _ | status | last
    · rfl
    · rfl
    · exact finish_answered handlerType last
  · rfl

end Records

end SadLayer.Unwind
