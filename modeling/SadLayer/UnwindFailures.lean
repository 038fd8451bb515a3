import SadLayer.VirtualUnwind
import SadLayer.Library.Blame

/-! Unwinding a frame, with the reason of each failure. Forgetting the reasons
leaves what the unwinder does. -/
namespace SadLayer.Unwind
open SadLayer.Library SadLayer.Pe

/-- Where unwinding a frame fails. The first ones are of records, and of the chain they form. -/
inductive UnwindFailure where
  | badHeader
  | badCodes
  | badRanges
  | badTrailer
  | badChain
  | badHandler
  | unknownOperation
  | unknownRegister
  | endless
  | chainTooLong
  | epilogueTooLong
  | stackRead
  | addressOverflow
  | frameUnderflow
  | badAllocation
  | epilogueShape
  deriving DecidableEq, Repr

/-- What the unwinder answers; there is no answer from a scan without an end. -/
def UnwindFailure.status : UnwindFailure → Option Status
  | .endless => none
  | .chainTooLong => some .forwarderLimit
  | _ => some .invalidImage

/-! ### Registers and the stack -/

def blamedRelease (state : UnwindState) (size : Nat) : Except UnwindFailure UnwindState :=
  blame .addressOverflow (release state size)

def blamedRestoreInteger (stack : Stack) (state : UnwindState) (number address : Nat) :
    Except UnwindFailure UnwindState :=
  if number ≥ 16 then .error .unknownRegister
  else blame .stackRead (restoreInteger stack state number address)

def blamedPopInteger (stack : Stack) (state : UnwindState) (number : Nat) :
    Except UnwindFailure UnwindState := do
  let state ← blamedRestoreInteger stack state number state.context.rsp
  blamedRelease state 8

def blamedPopReturnAddress (stack : Stack) (state : UnwindState) :
    Except UnwindFailure UnwindState := do
  let returnAddress ← blame .stackRead (readStackU64 stack state.context.rsp)
  let state ← blamedRelease state 8
  .ok { state with context := { state.context with rip := returnAddress } }

def blamedReadAbove (stack : Stack) (base offset : Nat) : Except UnwindFailure Nat := do
  let address ← blame .addressOverflow (addStackOffset base offset)
  blame .stackRead (readStackU64 stack address)

/-- `SL_UWOP_PUSH_MACHFRAME`. -/
def blamedPopMachineFrame (stack : Stack) (state : UnwindState) (info : Nat) :
    Except UnwindFailure UnwindState := do
  let bias := if info = 0 then 0 else 8
  let rip ← blamedReadAbove stack state.context.rsp bias
  let codeSegment ← blamedReadAbove stack state.context.rsp (bias + 8)
  let flags ← blamedReadAbove stack state.context.rsp (bias + 16)
  let oldRsp ← blamedReadAbove stack state.context.rsp (bias + 24)
  let stackSegment ← blamedReadAbove stack state.context.rsp (bias + 32)
  .ok { state with
    machineFrame := true
    context := { state.context.setInteger registerRsp oldRsp with
      rip := rip
      eFlags := flags % 2 ^ 32
      segCs := codeSegment % 2 ^ 16
      segSs := stackSegment % 2 ^ 16 } }

def blamedPopInterruptFrame (stack : Stack) (state : UnwindState) :
    Except UnwindFailure UnwindState := do
  let rip ← blame .stackRead (readStackU64 stack state.context.rsp)
  let oldRsp ← blamedReadAbove stack state.context.rsp 24
  .ok { state with context := { state.context.setInteger registerRsp oldRsp with rip := rip } }

/-! ### Codes -/

/-- The `switch` of `apply_unwind_codes`. -/
def blamedOperation (stack : Stack) (frameBase : Nat) (slot : CodeSlot)
    (operands : List CodeSlot) (state : UnwindState) : Except UnwindFailure UnwindState :=
  match slot.operation with
  | .pushNonvol => blamedPopInteger stack state slot.info
  | .allocLarge =>
    let offset := allocLargeSize slot.info operands
    if offset = 0 ∨ offset % 8 ≠ 0 then .error .badAllocation else blamedRelease state offset
  | .allocSmall => blamedRelease state (slot.info * 8 + 8)
  | .setFpreg => .ok { state with context := state.context.setInteger registerRsp frameBase }
  | .saveNonvol => do
    let address ← blame .addressOverflow (addStackOffset frameBase (operand16 operands * 8))
    blamedRestoreInteger stack state slot.info address
  | .saveNonvolFar => do
    let address ← blame .addressOverflow (addStackOffset frameBase (operand32 operands))
    blamedRestoreInteger stack state slot.info address
  | .saveXmm128 => do
    let address ← blame .addressOverflow (addStackOffset frameBase (operand16 operands * 16))
    blame .stackRead (restoreXmm stack state slot.info address)
  | .saveXmm128Far => do
    let address ← blame .addressOverflow (addStackOffset frameBase (operand32 operands))
    blame .stackRead (restoreXmm stack state slot.info address)
  | .pushMachframe => blamedPopMachineFrame stack state slot.info
  | .epilog => .ok state
  | .unknown => .error .unknownOperation

/-- `apply_unwind_codes`. -/
def blamedCodes (version : Nat) (inPrologue : Bool) (prologueOffset frameBase : Nat)
    (stack : Stack) : List CodeSlot → Nat → UnwindState → Except UnwindFailure UnwindState
  | [], _, state => .ok state
  | _ :: rest, skip + 1, state =>
    blamedCodes version inPrologue prologueOffset frameBase stack rest skip state
  | slot :: rest, 0, state =>
    if inPrologue = true ∧ slot.codeOffset > prologueOffset then
      match unwindOperationSlots version slot.operation slot.info with
      | 0 => .error .endless
      | slots + 1 =>
        blamedCodes version inPrologue prologueOffset frameBase stack rest slots state
    else do
      let state ← blamedOperation stack frameBase slot rest state
      match unwindOperationSlots version slot.operation slot.info with
      | 0 => .error .endless
      | slots + 1 =>
        blamedCodes version inPrologue prologueOffset frameBase stack rest slots state

/-! ### Declared epilogues -/

/-- A record of a chain as `unwind_v2_epilogue` reads it, scanned for a push. -/
def blamedRecordWithPush (module : PeModule) (entry : RuntimeFunction) :
    Except UnwindFailure (UnwindRecord × List CodeSlot) := do
  let record ← blame .badHeader (readUnwindRecord module entry.unwindData)
  if validateV2EpilogueRanges record entry = false then .error .badRanges
  else do
    let codes ← blame .badCodes (scanToPush record.version record.codes record.epilogues.codeSlots)
    .ok (record, codes)

/-- The loop that selects the record of a chain with its pushes. -/
def blamedSelect (module : PeModule) :
    Nat → RuntimeFunction → Except UnwindFailure (UnwindRecord × List CodeSlot × Nat)
  | 0, _ => .error .epilogueTooLong
  | depth + 1, entry => do
    let found ← blamedRecordWithPush module entry
    if found.2 ≠ [] ∨ hasFlag found.1.flags flagChainInfo = false then
      .ok (found.1, found.2, depth)
    else do
      let parent ← blame .badChain (chainedEntry module found.1)
      blamedSelect module depth parent

/-- The loop over the parents of the selected record, none of which may push. -/
def blamedParents (module : PeModule) : Nat → UnwindRecord → Except UnwindFailure Unit
  | depth, record =>
    if hasFlag record.flags flagChainInfo = false then .ok ()
    else match depth with
      | 0 => .error .epilogueTooLong
      | depth + 1 => do
        let parent ← blame .badChain (chainedEntry module record)
        let found ← blamedRecordWithPush module parent
        if found.2 ≠ [] then .error .epilogueShape else blamedParents module depth found.1

/-- The loop over the pushes. -/
def blamedPopRemaining (stack : Stack) (epilogueOffset : Nat) :
    List CodeSlot → Nat → UnwindState → Except UnwindFailure (List CodeSlot × Nat × UnwindState)
  | [], currentOffset, state => .ok ([], currentOffset, state)
  | slot :: rest, currentOffset, state =>
    if slot.operation ≠ .pushNonvol then .ok (slot :: rest, currentOffset, state)
    else
      let length := if slot.info ≥ 8 then 2 else 1
      if currentOffset ≥ epilogueOffset then do
        let state ← blamedPopInteger stack state slot.info
        blamedPopRemaining stack epilogueOffset rest (currentOffset + length) state
      else blamedPopRemaining stack epilogueOffset rest (currentOffset + length) state

def blamedPopFlags (epilogueOffset currentOffset : Nat) :
    List CodeSlot → UnwindState → Except UnwindFailure (List CodeSlot × UnwindState)
  | [], state => .ok ([], state)
  | slot :: rest, state =>
    if slot.operation = .allocSmall ∧ slot.info = 0 then
      if currentOffset ≥ epilogueOffset then do
        let state ← blamedRelease state 8
        .ok (rest, state)
      else .ok (rest, state)
    else .ok (slot :: rest, state)

/-- The control transfer that ends a declared epilogue. -/
def blamedLeave (stack : Stack) : List CodeSlot → UnwindState → Except UnwindFailure UnwindState
  | [], state => blamedPopReturnAddress stack state
  | [slot], state =>
    if slot.operation = .pushMachframe then blamedPopInterruptFrame stack state
    else .error .epilogueShape
  | _ :: _ :: _, _ => .error .epilogueShape

/-- `unwind_v2_epilogue`. -/
def blamedV2Epilogue (module : PeModule) (entry : RuntimeFunction) (epilogueOffset : Nat)
    (stack : Stack) (state : UnwindState) : Except UnwindFailure UnwindState := do
  let selected ← blamedSelect module maxChainDepth entry
  blamedParents module selected.2.2 selected.1
  let popped ← blamedPopRemaining stack epilogueOffset selected.2.1 0 state
  let left ← blamedPopFlags epilogueOffset popped.2.1 popped.1 popped.2.2
  blamedLeave stack left.1 left.2

/-- What a recognised epilogue comes to, if there is one. -/
def blamedEpilogue (module : PeModule) (entry : RuntimeFunction) (record : UnwindRecord)
    (controlPc : Nat) (stack : Stack) (state : UnwindState) :
    Except UnwindFailure (Option UnwindState) :=
  if record.version = 1 then
    .ok (simulateEpilogue module entry record.frameRegister controlPc stack state)
  else match findV2Epilogue record entry (controlPc - module.mapped.loadBase) with
    | none => .ok none
    | some epilogueOffset => do
      let state ← blamedV2Epilogue module entry epilogueOffset stack state
      .ok (some state)

/-! ### The body -/

/-- The reading of a record in the loop of `sl_win64_virtual_unwind`, which does not call
`read_unwind_record`. -/
def blamedRecord (module : PeModule) (unwindRva : Nat) : Except UnwindFailure UnwindRecord :=
  if moduleWindow module unwindRva 4 = false then .error .badHeader
  else
    let version := byteAt module unwindRva % 8
    let flags := byteAt module unwindRva / 8
    let prologueSize := byteAt module (unwindRva + 1)
    let codeCount := byteAt module (unwindRva + 2)
    let frameRegister := byteAt module (unwindRva + 3) % 16
    let frameOffset := byteAt module (unwindRva + 3) / 16
    let paddedCodeCount := (codeCount + 1) / 2 * 2
    let recordSize := 4 + paddedCodeCount * 2
    let codes := readCodes module (unwindRva + 4) codeCount
    if (version ≠ 1 ∧ version ≠ 2) ∨ flags > flagEHandler + flagUHandler + flagChainInfo ∨
        (hasFlag flags flagChainInfo ∧ hasFlag flags (flagEHandler + flagUHandler)) ∨
        (frameRegister ≠ 0 ∧ isNonvolatileIntegerRegister frameRegister = false) ∨
        moduleWindow module unwindRva recordSize = false then .error .badHeader
    else if frameRegister = 0 ∧ frameOffset ≠ 0 then .error .badCodes
    else do
      let accepted ← blame .badCodes
        (validateUnwindCodes codes version prologueSize frameRegister frameOffset)
      .ok {
        version := version
        flags := flags
        prologueSize := prologueSize
        frameRegister := frameRegister
        frameOffset := frameOffset
        codes := codes
        trailerRva := unwindRva + recordSize
        hasFrameSetup := accepted.2
        epilogues := accepted.1 }

/-- The base of a frame. -/
def blamedFrameBase (record : UnwindRecord) (inPrologue : Bool) (prologueOffset : Nat)
    (context : Context) : Except UnwindFailure Nat :=
  match frameIsEstablished record inPrologue prologueOffset with
  | none => .error .endless
  | some false => .ok context.rsp
  | some true =>
    let frameValue := context.integer record.frameRegister
    let scaledOffset := record.frameOffset * 16
    if frameValue < scaledOffset then .error .frameUnderflow
    else .ok (frameValue - scaledOffset)

/-- The loop of `sl_win64_virtual_unwind` over the records of a chain. -/
def blamedRecords (module : PeModule) (controlPc : Nat) (stack : Stack) :
    Nat → Option (Nat × Bool) → RuntimeFunction → UnwindState → Except UnwindFailure ChainEnd
  | 0, _, _, _ => .error .chainTooLong
  | depth + 1, first, entry, state => do
    let record ← blamedRecord module entry.unwindData
    let relativePc := controlPc - module.mapped.loadBase
    let procedureOffset :=
      if entry.beginAddress ≤ relativePc then relativePc - entry.beginAddress else uint64Max
    let inPrologue := first.isNone && procedureOffset < record.prologueSize
    let prologueOffset := if inPrologue then procedureOffset else 255
    let frameBase ← blamedFrameBase record inPrologue prologueOffset state.context
    let settled := first.getD (frameBase, !inPrologue)
    let state ← blamedCodes record.version inPrologue prologueOffset frameBase stack record.codes 0
      state
    if record.trailerRva > uint32Max then .error .badTrailer
    else if hasFlag record.flags flagChainInfo then do
      let parent ← blame .badChain (chainedEntry module record)
      blamedRecords module controlPc stack depth (some settled) parent state
    else .ok {
      state := state
      flags := record.flags
      trailerRva := record.trailerRva
      establisherFrame := settled.1
      allowHandler := settled.2 }

def blamedFinalState (stack : Stack) (last : ChainEnd) : Except UnwindFailure UnwindState :=
  if last.state.machineFrame then .ok last.state else blamedPopReturnAddress stack last.state

/-- The end of `sl_win64_virtual_unwind`. -/
def blamedFinish (module : PeModule) (handlerType : Nat) (stack : Stack) (last : ChainEnd) :
    Except UnwindFailure Unwound := do
  let languageHandler ← (findHandler module handlerType last).mapError fun _ => .badHandler
  let state ← blamedFinalState stack last
  .ok {
    context := state.context
    pointers := state.pointers
    establisherFrame := last.establisherFrame
    languageHandler := languageHandler }

/-- The establisher frame of the first record, before anything is undone. -/
def blamedEstablisher (module : PeModule) (controlPc : Nat) (entry : RuntimeFunction)
    (firstRecord : UnwindRecord) (context : Context) : Except UnwindFailure Nat :=
  let procedureOffset := controlPc - module.mapped.loadBase - entry.beginAddress
  let inPrologue := decide (procedureOffset < firstRecord.prologueSize)
  blamedFrameBase firstRecord inPrologue (if inPrologue then procedureOffset else 255) context

/-- The body, where no epilogue was recognised. -/
def blamedBody (module : PeModule) (handlerType controlPc : Nat) (entry : RuntimeFunction)
    (stack : Stack) (state : UnwindState) : Except UnwindFailure Unwound := do
  let last ← blamedRecords module controlPc stack maxChainDepth none entry state
  blamedFinish module handlerType stack last

/-- `sl_win64_virtual_unwind` behind the checks of its arguments and of the chain. -/
def blamedUnwind (module : PeModule) (handlerType controlPc : Nat) (entry : RuntimeFunction)
    (firstRecord : UnwindRecord) (stack : Stack) (state : UnwindState) :
    Except UnwindFailure Unwound := do
  let establisherFrame ← blamedEstablisher module controlPc entry firstRecord state.context
  let recognised ← blamedEpilogue module entry firstRecord controlPc stack state
  match recognised with
  | some state => .ok {
      context := state.context
      pointers := state.pointers
      establisherFrame := establisherFrame
      languageHandler := none }
  | none => blamedBody module handlerType controlPc entry stack state

/-! ### Forgotten reasons -/

section Erasure
variable {stack : Stack} {state : UnwindState} {module : PeModule} {entry : RuntimeFunction}

theorem restore_integer_blamed (number address : Nat) :
    (blamedRestoreInteger stack state number address).toOption =
      restoreInteger stack state number address := by
  unfold blamedRestoreInteger
  by_cases unknown : number ≥ 16
  · rw [if_pos unknown, restoreInteger, if_pos unknown]
    rfl
  · rw [if_neg unknown, to_option_blame]

theorem pop_integer_blamed (number : Nat) :
    (blamedPopInteger stack state number).toOption = popInteger stack state number := by
  unfold blamedPopInteger popInteger blamedRelease
  simp only [to_option_bind, restore_integer_blamed, to_option_blame]

theorem pop_return_address_blamed :
    (blamedPopReturnAddress stack state).toOption = popReturnAddress stack state := by
  unfold blamedPopReturnAddress popReturnAddress blamedRelease
  simp only [to_option_bind, to_option_blame, to_option_ok, Option.map_eq_bind]
  rfl

theorem read_above_blamed (base offset : Nat) : (blamedReadAbove stack base offset).toOption =
    (addStackOffset base offset).bind (readStackU64 stack) := by
  unfold blamedReadAbove
  simp only [to_option_bind, to_option_blame]

theorem pop_machine_frame_blamed (info : Nat) :
    (blamedPopMachineFrame stack state info).toOption = popMachineFrame stack state info := by
  unfold blamedPopMachineFrame popMachineFrame
  simp only [to_option_bind, read_above_blamed, to_option_ok, Nat.add_zero]
  rfl

theorem pop_interrupt_frame_blamed :
    (blamedPopInterruptFrame stack state).toOption = popInterruptFrame stack state := by
  unfold blamedPopInterruptFrame popInterruptFrame
  simp only [to_option_bind, read_above_blamed, to_option_blame, to_option_ok]
  rfl

theorem operation_blamed (frameBase : Nat) (slot : CodeSlot) (operands : List CodeSlot) :
    (blamedOperation stack frameBase slot operands state).toOption =
      applyOperation stack frameBase slot operands state := by
  unfold blamedOperation applyOperation
  cases slot.operation with
  | pushNonvol => exact pop_integer_blamed slot.info
  | allocLarge =>
    dsimp only
    split
    · rfl
    · exact to_option_blame _
  | allocSmall => exact to_option_blame _
  | setFpreg | epilog | unknown => rfl
  | saveNonvol | saveNonvolFar =>
    simp only [to_option_bind, to_option_blame, restore_integer_blamed]
  | saveXmm128 | saveXmm128Far => simp only [to_option_bind, to_option_blame]
  | pushMachframe => exact pop_machine_frame_blamed slot.info

/-! ### Declared epilogues -/

theorem record_with_push_blamed :
    (blamedRecordWithPush module entry).toOption = recordWithPush module entry := by
  unfold blamedRecordWithPush recordWithPush
  rw [to_option_bind, to_option_blame]
  cases readUnwindRecord module entry.unwindData with
  | none => rfl
  | some record =>
    rw [Option.bind_some]
    by_cases bad : validateV2EpilogueRanges record entry = false
    · simp only [if_pos bad, to_option_error]
    · simp only [if_neg bad, to_option_bind, to_option_blame, to_option_ok]
      cases scanToPush record.version record.codes record.epilogues.codeSlots with
      | none => rw [Option.bind_none, Option.map_none]
      | some codes => rw [Option.bind_some, Option.map_some]

theorem select_blamed (depth : Nat) :
    (blamedSelect module depth entry).toOption = selectRecord module depth entry := by
  induction depth generalizing entry with
  | zero => rw [blamedSelect, selectRecord, to_option_error]
  | succ depth ih =>
    rw [blamedSelect, selectRecord, to_option_bind, record_with_push_blamed]
    cases recordWithPush module entry with
    | none => rw [Option.bind_none]
    | some found =>
      rw [Option.bind_some]
      by_cases ends : found.2 ≠ [] ∨ hasFlag found.1.flags flagChainInfo = false
      · simp only [if_pos ends, to_option_ok]
      · simp only [if_neg ends, to_option_bind, to_option_blame, ih]

theorem parents_blamed (depth : Nat) (record : UnwindRecord) :
    (blamedParents module depth record).toOption =
      if parentsPushNothing module depth record = false then none else some () := by
  induction depth generalizing record with
  | zero =>
    rw [blamedParents, parentsPushNothing]
    by_cases unchained : hasFlag record.flags flagChainInfo = false
    · simp [if_pos unchained]
    · simp [if_neg unchained]
  | succ depth ih =>
    rw [blamedParents, parentsPushNothing]
    by_cases unchained : hasFlag record.flags flagChainInfo = false
    · simp [if_pos unchained]
    rw [if_neg unchained, if_neg unchained, to_option_bind, to_option_blame]
    cases chainedEntry module record with
    | none => simp
    | some parent =>
      simp only [Option.bind_some, to_option_bind, record_with_push_blamed]
      obtain unread | ⟨⟨next, codes⟩, read⟩ :=
        Option.eq_none_or_eq_some (recordWithPush module parent)
      · simp [unread]
      · cases codes with
        | nil => simpa [read] using ih next
        | cons slot codes => simp [read]

theorem pop_remaining_blamed (offset : Nat) (codes : List CodeSlot) (current : Nat) :
    (blamedPopRemaining stack offset codes current state).toOption =
      popRemaining stack offset codes current state := by
  induction codes generalizing current state with
  | nil => rfl
  | cons slot rest ih =>
    rw [blamedPopRemaining, popRemaining]
    split
    · rfl
    · dsimp only
      split
      · simp only [to_option_bind, pop_integer_blamed, ih]
      · exact ih _

theorem pop_flags_blamed (offset current : Nat) (codes : List CodeSlot) :
    (blamedPopFlags offset current codes state).toOption =
      popFlags offset current codes state := by
  cases codes with
  | nil => rfl
  | cons slot rest =>
    rw [blamedPopFlags, popFlags]
    split
    · split
      · unfold blamedRelease
        simp only [to_option_bind, to_option_blame, to_option_ok, Option.map_eq_bind]
        rfl
      · rfl
    · rfl

theorem leave_blamed (codes : List CodeSlot) :
    (blamedLeave stack codes state).toOption = leaveV2Epilogue stack codes state := by
  rcases codes with _ | ⟨slot, _ | ⟨other, rest⟩⟩
  · exact pop_return_address_blamed
  · rw [blamedLeave, leaveV2Epilogue]
    split
    · exact pop_interrupt_frame_blamed
    · rfl
  · rfl

theorem v2_epilogue_blamed (offset : Nat) :
    (blamedV2Epilogue module entry offset stack state).toOption =
      unwindV2Epilogue module entry offset stack state := by
  unfold blamedV2Epilogue unwindV2Epilogue
  simp only [to_option_bind, select_blamed, parents_blamed, pop_remaining_blamed,
    pop_flags_blamed, leave_blamed, Option.bind_eq_bind]
  cases selectRecord module maxChainDepth entry with
  | none => rw [Option.bind_none, Option.bind_none]
  | some selected =>
    rw [Option.bind_some, Option.bind_some]
    by_cases pushes : parentsPushNothing module selected.2.2 selected.1 = false
    · simp only [if_pos pushes, Option.bind_none]
    · simp only [if_neg pushes, Option.bind_some]

/-! ### The body -/

theorem or_one_before_last {a b c d e last : Prop} :
    (a ∨ b ∨ c ∨ d ∨ e ∨ last) ↔ (a ∨ b ∨ c ∨ d ∨ last) ∨ e := by
  tauto

/-- The unwinder makes the checks of `read_unwind_record` on its own. -/
theorem record_blamed (unwindRva : Nat) :
    (blamedRecord module unwindRva).toOption = unwindRecordAt module unwindRva := by
  unfold blamedRecord unwindRecordAt
  by_cases outside : moduleWindow module unwindRva 4 = false
  · rw [if_pos outside, if_pos outside, to_option_error]
  rw [if_neg outside, if_neg outside]
  dsimp only
  split
  · rename_i bad
    rw [if_pos (or_one_before_last.mpr (.inl bad)), to_option_error]
  rename_i good
  split
  · rename_i bad
    rw [if_pos (or_one_before_last.mpr (.inr bad)), to_option_error]
  rename_i framed
  rw [if_neg fun any => (or_one_before_last.mp any).elim good framed, to_option_bind,
    to_option_blame]
  cases validateUnwindCodes (readCodes module (unwindRva + 4) (byteAt module (unwindRva + 2)))
      (byteAt module unwindRva % 8) (byteAt module (unwindRva + 1))
      (byteAt module (unwindRva + 3) % 16) (byteAt module (unwindRva + 3) / 16) <;> rfl

theorem final_state_blamed (last : ChainEnd) :
    (blamedFinalState stack last).toOption = finalState stack last := by
  unfold blamedFinalState finalState
  split
  · rfl
  · exact pop_return_address_blamed

end Erasure

end SadLayer.Unwind
