import Mathlib.Logic.Relation
import SadLayer.UnwindAnswers

/-! Unwinding by a validated chain. The validation has made every check on records
that the unwinder makes, so what is left to fail depends on the frame. -/
namespace SadLayer.Unwind
open SadLayer.Library SadLayer.Pe

/-! ### Codes that were validated -/

section Walks
variable {stack : Stack} {state : UnwindState}

theorem blamed_skip {version : Nat} {inPrologue : Bool} {prologueOffset frameBase : Nat}
    (operands rest : List CodeSlot) :
    blamedCodes version inPrologue prologueOffset frameBase stack (operands ++ rest)
      operands.length state =
    blamedCodes version inPrologue prologueOffset frameBase stack rest 0 state := by
  induction operands with
  | nil => cases rest <;> rfl
  | cons operand operands ih => exact ih

/-- An operation that takes slots is known. -/
theorem Walkable.codes_fail {version : Nat} {inPrologue : Bool} {prologueOffset frameBase : Nat}
    {codes : List CodeSlot} (walkable : Walkable version codes) :
    FailsFor frameReasons
      (blamedCodes version inPrologue prologueOffset frameBase stack codes 0 state) := by
  induction walkable generalizing state with
  | nil => exact .ok _
  | @operation codes slot operands slots rest ih =>
    have known : slot.operation ≠ .unknown := by
      intro unknown
      rw [unknown] at slots
      cases slots
    rw [blamedCodes]
    simp only [slots, blamed_skip]
    split
    · exact ih
    · exact (operation_fails known _ _).bind fun _ _ => ih

end Walks

/-! ### Epilogues of a validated chain -/

section Epilogue
variable {module : PeModule} {stack : Stack} {state : UnwindState} {depth : Nat}
  {first : Option UnwindRecord} {firstRecord record : UnwindRecord} {entry : RuntimeFunction}

theorem Walkable.scan_some {version : Nat} {codes : List CodeSlot}
    (walkable : Walkable version codes) : ∃ rest, scanToPush version codes 0 = some rest := by
  induction walkable with
  | nil => exact ⟨[], rfl⟩
  | @operation codes slot operands slots rest ih =>
    rw [scanToPush]
    split
    · exact ⟨_, rfl⟩
    · rw [slots, if_neg (by simp), scan_skip, Nat.add_sub_cancel, List.drop_left]
      exact ih

theorem record_with_push_accepted (read : readUnwindRecord module entry.unwindData = some record)
    (ranges : validateV2EpilogueRanges record entry = true) :
    ∃ codes, blamedRecordWithPush module entry = .ok (record, codes) := by
  have checked := unwind_record_at_checked (read_unwind_record_some read).1
  obtain ⟨codes, scanned⟩ := (accepted_walkable checked.codes).2.scan_some
  refine ⟨codes, ?_⟩
  unfold blamedRecordWithPush
  rw [read, blame_some, ok_bind, if_neg (by simp [ranges]), scan_skip, scanned]
  rfl

/-- A record of an accepted chain is selected, and the chain behind it is accepted. -/
theorem select_accepted (accepted : validateUnwindChain module depth first entry = .ok firstRecord) :
    ∃ record codes left start, blamedSelect module depth entry = .ok (record, codes, left) ∧
      AcceptedRecord module left start firstRecord record := by
  induction depth generalizing first entry with
  | zero => contradiction
  | succ depth ih =>
    obtain ⟨record, read, ranges, follows⟩ := accepted_chain_cases accepted
    obtain ⟨codes, found⟩ := record_with_push_accepted read ranges
    rw [blamedSelect, found, ok_bind]
    by_cases ends : codes ≠ [] ∨ hasFlag record.flags flagChainInfo = false
    · exact ⟨record, codes, depth, first, if_pos ends, follows⟩
    · rw [if_neg ends]
      cases follows with
      | last unchained handler => exact absurd (.inr unchained) ends
      | link chained next rest =>
        rw [next, blame_some, ok_bind]
        exact ih rest

/-- The parents of a selected record are read, and can only be refused for their pushes. -/
theorem parents_fail (follows : AcceptedRecord module depth first firstRecord record) :
    FailsFor frameReasons (blamedParents module depth record) := by
  induction depth generalizing first record with
  | zero =>
    cases follows with
    | last unchained handler =>
      rw [blamedParents, if_pos unchained]
      exact .ok _
    | link chained next rest => contradiction
  | succ depth ih =>
    rw [blamedParents]
    split
    · exact .ok _
    rename_i linked
    cases follows with
    | last unchained handler => exact absurd unchained linked
    | link chained next rest =>
      obtain ⟨parent, read, ranges, follows⟩ := accepted_chain_cases rest
      obtain ⟨codes, found⟩ := record_with_push_accepted read ranges
      rw [next, blame_some, ok_bind, found, ok_bind]
      split
      · exact .error (by decide)
      · exact ih follows

theorem epilogue_fails (controlPc : Nat)
    (accepted : validateUnwindChain module maxChainDepth none entry = .ok firstRecord) :
    FailsFor frameReasons (blamedEpilogue module entry record controlPc stack state) := by
  obtain ⟨chosen, codes, left, start, selected, follows⟩ := select_accepted accepted
  unfold blamedEpilogue
  split
  · exact .ok _
  cases findV2Epilogue record entry (controlPc - module.mapped.loadBase) with
  | none => exact .ok _
  | some offset =>
    refine FailsFor.bind ?_ fun _ _ => .ok _
    refine v2_epilogue_fails_as (List.Subset.refl _) (by rw [selected]; exact .ok _) ?_
    intro record codes left same
    rw [selected] at same
    cases same
    exact parents_fail follows

end Epilogue

/-! ### The body of a validated chain -/

section Body
variable {module : PeModule} {stack : Stack} {state : UnwindState} {depth : Nat}
  {first : Option UnwindRecord} {firstRecord record : UnwindRecord} {entry : RuntimeFunction}

theorem RecordChecked.frame_base (checked : RecordChecked record) (inPrologue : Bool)
    (prologueOffset : Nat) (context : Context) :
    FailsFor frameReasons (blamedFrameBase record inPrologue prologueOffset context) := by
  have ends := checked.frame_base_ends inPrologue prologueOffset context
  unfold frameBaseOf at ends
  unfold blamedFrameBase
  cases established : frameIsEstablished record inPrologue prologueOffset with
  | none =>
    rw [established] at ends
    exact absurd rfl ends
  | some set =>
    cases set with
    | false => exact .ok _
    | true =>
      dsimp only
      split
      · exact .error (by decide)
      · exact .ok _

/-- The loop over the records of an accepted chain finds them as the validation did. -/
theorem records_fail {controlPc : Nat} {settled : Option (Nat × Bool)}
    (accepted : validateUnwindChain module depth first entry = .ok firstRecord) :
    FailsFor frameReasons (blamedRecords module controlPc stack depth settled entry state) := by
  induction depth generalizing first settled entry state with
  | zero => contradiction
  | succ depth ih =>
    obtain ⟨record, read, -, follows⟩ := accepted_chain_cases accepted
    obtain ⟨reread, trailer⟩ := read_unwind_record_some read
    have checked := unwind_record_at_checked reread
    have blamed : blamedRecord module entry.unwindData = .ok record :=
      eq_ok_of_to_option ((record_blamed _).trans reread)
    rw [blamedRecords, blamed, ok_bind]
    refine (checked.frame_base _ _ _).bind fun frameBase _ => ?_
    refine checked.walkable.codes_fail.bind fun after _ => ?_
    rw [if_neg (Nat.not_lt.mpr trailer)]
    cases follows with
    | last unchained handler =>
      rw [if_neg (by simp [unchained])]
      exact .ok _
    | link chained next rest =>
      rw [if_pos chained, next, blame_some, ok_bind]
      exact ih rest

theorem finish_fails {last : ChainEnd}
    (valid : hasFlag last.flags (flagEHandler + flagUHandler) = true →
      handlerIsValid module last.trailerRva = true) (handlerType : HandlerType) :
    FailsFor frameReasons (blamedFinish module handlerType.flag stack last) := by
  obtain ⟨languageHandler, found, -⟩ := find_handler_accepted valid handlerType
  unfold blamedFinish
  rw [found]
  exact (final_state_fails last).bind fun _ _ => .ok _

/-- Unwinding by a validated chain succeeds, or fails for a reason of the frame. -/
theorem unwind_fails
    (accepted : validateUnwindChain module maxChainDepth none entry = .ok firstRecord)
    (handlerType : HandlerType) (controlPc : Nat) (stack : Stack) (state : UnwindState) :
    FailsFor frameReasons
      (blamedUnwind module handlerType.flag controlPc entry firstRecord stack state) := by
  have checked := unwind_record_at_checked (read_unwind_record_some (validated_first accepted)).1
  refine (checked.frame_base _ _ _).bind fun establisherFrame _ => ?_
  refine (epilogue_fails controlPc accepted).bind fun left _ => ?_
  cases left with
  | some left => exact .ok _
  | none =>
    refine (records_fail accepted).bind fun last reached => ?_
    have answers := @records_answered module stack state entry controlPc maxChainDepth none
    rw [reached] at answers
    obtain ⟨record, -, -, -, valid⟩ := (unwind_records_accepted accepted).last last answers
    exact finish_fails valid handlerType

end Body

/-! ### Chains that turn back -/

/-- The record of an entry is flagged as chained, and this is what its chain pointer holds. Nothing
else of the two needs to be valid. -/
def ChainsTo (module : PeModule) (entry parent : RuntimeFunction) : Prop :=
  hasFlag (byteAt module entry.unwindData / 8) flagChainInfo = true ∧
    parent = readRuntimeFunction module
      (entry.unwindData + (4 + (byteAt module (entry.unwindData + 2) + 1) / 2 * 2 * 2))

section Cycles
variable {module : PeModule} {depth : Nat} {first : Option UnwindRecord}
  {firstRecord record : UnwindRecord} {entry parent turn : RuntimeFunction}

theorem unwind_record_at_layout {unwindRva : Nat}
    (read : unwindRecordAt module unwindRva = some record) :
    record.flags = byteAt module unwindRva / 8 ∧
      record.trailerRva =
        unwindRva + (4 + (byteAt module (unwindRva + 2) + 1) / 2 * 2 * 2) := by
  unfold unwindRecordAt at read
  simp only [Option.ite_none_left_eq_some, Option.map_eq_some_iff, Prod.exists] at read
  obtain ⟨-, -, epilogues, hasFrameSetup, -, rfl⟩ := read
  exact ⟨rfl, rfl⟩

/-- The chain behind an accepted record is accepted, one record shorter. -/
theorem chained_accepted (chained : ChainsTo module entry parent)
    (accepted : validateUnwindChain module (depth + 1) first entry = .ok firstRecord) :
    ∃ first, validateUnwindChain module depth first parent = .ok firstRecord := by
  obtain ⟨record, read, -, follows⟩ := accepted_chain_cases accepted
  obtain ⟨flags, trailer⟩ := unwind_record_at_layout (read_unwind_record_some read).1
  rw [ChainsTo, ← flags, ← trailer] at chained
  obtain ⟨flagged, rfl⟩ := chained
  cases follows with
  | last unchained handler => simp [unchained] at flagged
  | link chained next rest =>
    unfold chainedEntry at next
    rw [Option.ite_none_right_eq_some] at next
    obtain ⟨-, same⟩ := next
    cases same
    exact ⟨_, rest⟩

/-- From a chain that turns back there is always one more record to come. -/
theorem cyclic_chain_not_accepted (leads : Relation.TransGen (ChainsTo module) entry turn)
    (back : Relation.TransGen (ChainsTo module) turn turn) :
    validateUnwindChain module depth first entry ≠ .ok firstRecord := by
  induction depth generalizing first entry with
  | zero => simp [validateUnwindChain]
  | succ depth ih =>
    intro accepted
    obtain ⟨parent, chained, onward⟩ := Relation.TransGen.head'_iff.mp leads
    obtain ⟨first, rest⟩ := chained_accepted chained accepted
    exact ih (back.trans_right onward) rest

end Cycles

/-! ### Validation covers the unwinder -/

/-- Behind the checks of its arguments and of the chain a call unwinds by the chain. -/
theorem virtual_unwind_goes_on {module : PeModule} {entry : RuntimeFunction}
    {firstRecord : UnwindRecord} {functionEntry : Nat}
    (found : runtimeEntryFromPointer module functionEntry = some entry)
    (accepted : validateUnwindChain module maxChainDepth none entry = .ok firstRecord)
    (handlerType controlPc : Nat) (context : Context) (stack : Stack)
    (pointers : Option ContextPointers) :
    virtualUnwind module handlerType controlPc functionEntry context stack pointers =
        some (.error .invalidArgument) ∨
      virtualUnwind module handlerType controlPc functionEntry context stack pointers =
        unwindValidated module handlerType controlPc entry firstRecord stack
          { context := context, pointers := pointers } := by
  simp only [virtualUnwind, found, accepted]
  split
  · exact .inl rfl
  split
  · exact .inl rfl
  · exact .inr rfl

/-- Where a chain is accepted, no frame makes the unwinder fail for its records or their number:
what fails are reads of the stack, addresses that overflow, frame registers below their offset,
allocations of no or of odd size, and epilogues in other shapes than the ones supported. A chain
that turns back is never accepted. -/
theorem validation_covers_unwinding (module : PeModule) (entry : RuntimeFunction) :
    (∀ firstRecord, validateUnwindChain module maxChainDepth none entry = .ok firstRecord →
      ∀ (handlerType : HandlerType) (controlPc : Nat) (context : Context) (stack : Stack)
        (pointers : Option ContextPointers),
        FailsFor [.stackRead, .addressOverflow, .frameUnderflow, .badAllocation, .epilogueShape]
          (blamedUnwind module handlerType.flag controlPc entry firstRecord stack
            { context := context, pointers := pointers }) ∧
        unwindValidated module handlerType.flag controlPc entry firstRecord stack
            { context := context, pointers := pointers } =
          some ((blamedUnwind module handlerType.flag controlPc entry firstRecord stack
            { context := context, pointers := pointers }).mapError fun _ => .invalidImage) ∧
        ∀ functionEntry, runtimeEntryFromPointer module functionEntry = some entry →
          virtualUnwind module handlerType.flag controlPc functionEntry context stack pointers =
              some (.error .invalidArgument) ∨
            virtualUnwind module handlerType.flag controlPc functionEntry context stack pointers =
              unwindValidated module handlerType.flag controlPc entry firstRecord stack
                { context := context, pointers := pointers }) ∧
    ∀ turn, Relation.ReflTransGen (ChainsTo module) entry turn →
      Relation.TransGen (ChainsTo module) turn turn →
      ∃ status, validateUnwindChain module maxChainDepth none entry = .error status := by
  refine ⟨fun firstRecord accepted handlerType controlPc context stack pointers => ?_, ?_⟩
  · have fails := unwind_fails accepted handlerType controlPc stack
      { context := context, pointers := pointers }
    refine ⟨fails, ?_, fun functionEntry found => ?_⟩
    · rw [unwind_answered]
      exact (fails.mono frame_reasons_subset).answer image_reasons_status
    · exact virtual_unwind_goes_on found accepted _ controlPc context stack pointers
  · intro turn leads back
    cases validated : validateUnwindChain module maxChainDepth none entry with
    | error status => exact ⟨status, rfl⟩
    | ok firstRecord =>
      exact absurd validated (cyclic_chain_not_accepted (back.trans_right leads) back)

/-- A table entry at 4, and a record at 16 that is chained to that entry. -/
def turningModule : PeModule where
  image := (declaredModule 1).image
  mapped := { (declaredModule 1).mapped with
    bytes index := [0, 0, 0, 0, 32, 0, 0, 0, 48, 0, 0, 0, 16, 0, 0, 0,
      0x21, 0, 0, 0, 32, 0, 0, 0, 48, 0, 0, 0, 16, 0, 0, 0].getD index 0 }

theorem validation_covers_declared_unwinding :
    (virtualUnwind (declaredModule 1) flagEHandler 0x10028 0x10004 (contextOnStack 0x2000)
        declaredStack none = some (.error .invalidImage) ∧
      blamedUnwind (declaredModule 1) flagEHandler 0x10028 declaredEntry (declaredRecord 1)
        declaredStack { context := contextOnStack 0x2000, pointers := none } =
          .error .stackRead ∧
      FailsFor [.stackRead, .addressOverflow, .frameUnderflow, .badAllocation, .epilogueShape]
        (blamedUnwind (declaredModule 1) flagEHandler 0x10028 declaredEntry (declaredRecord 1)
          declaredStack { context := contextOnStack 0x2000, pointers := none })) ∧
    ∃ status, validateUnwindChain turningModule maxChainDepth none declaredEntry =
      .error status := by
  have accepted : validateUnwindChain (declaredModule 1) maxChainDepth none declaredEntry =
      .ok (declaredRecord 1) := by
    decide +kernel
  have turns : ChainsTo turningModule declaredEntry declaredEntry := ⟨by decide, by decide⟩
  have covered := (validation_covers_unwinding (declaredModule 1) declaredEntry).1
    (declaredRecord 1) accepted .exception 0x10028 (contextOnStack 0x2000) declaredStack none
  refine ⟨⟨rfl, rfl, covered.1⟩, ?_⟩
  exact (validation_covers_unwinding turningModule declaredEntry).2 declaredEntry .refl
    (.single turns)

end SadLayer.Unwind
