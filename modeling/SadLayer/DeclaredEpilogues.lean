import SadLayer.Library.Related
import SadLayer.PrologueUnwinding
import SadLayer.EpilogueCuts

/-! Epilogues that a record of version 2 declares: at the start of each of their
pops the rest of them leads to one caller, which is that of the body too. -/
namespace SadLayer.Unwind
open SadLayer.Library SadLayer.Pe

/-! ### What runs -/

/-- How many bytes the pop takes that undoes a code. The upper registers need a prefix. -/
def popLength (slot : CodeSlot) : Nat :=
  if slot.operation = .pushNonvol ∧ 8 ≤ slot.info then 2 else 1

def encodedLength (pops : List CodeSlot) : Nat := (pops.map popLength).sum

/-- The operation that a code of a save or an allocation describes. -/
def describedOperation (slot : CodeSlot) (operands : List CodeSlot) : Option Operation :=
  match slot.operation with
  | .allocLarge => some (.alloc (allocLargeSize slot.info operands))
  | .allocSmall => some (.alloc (slot.info * 8 + 8))
  | .saveNonvol => some (.save (.integer slot.info) (operand16 operands * 8))
  | .saveNonvolFar => some (.save (.integer slot.info) (operand32 operands))
  | .saveXmm128 => some (.save (.xmm slot.info) (operand16 operands * 16))
  | .saveXmm128Far => some (.save (.xmm slot.info) (operand32 operands))
  | _ => none

/-- Codes of saves and allocations only, with what they describe. -/
inductive SavesAndAllocations : List CodeSlot → List Operation → Prop where
  | nil : SavesAndAllocations [] []
  | code {slot : CodeSlot} {operands codes : List CodeSlot} {operation : Operation}
      {operations : List Operation}
      (described : describedOperation slot operands = some operation)
      (slots : unwindOperationSlots 2 slot.operation slot.info = operands.length + 1)
      (rest : SavesAndAllocations codes operations) :
      SavesAndAllocations (slot :: (operands ++ codes)) (operation :: operations)

/-- An unchained record of version 2, without a frame register, of a function that pops behind its
saves and allocations. -/
structure PopsLast (record : UnwindRecord) (operations : List Operation)
    (pushes flags : List CodeSlot) : Prop where
  version : record.version = 2
  unchained : hasFlag record.flags flagChainInfo = false
  frameless : record.frameRegister = 0
  codes : ∃ saves, SavesAndAllocations saves operations ∧
    record.codes.drop record.epilogues.codeSlots = saves ++ (pushes ++ flags)
  allPush : ∀ slot ∈ pushes, slot.operation = .pushNonvol
  nonempty : pushes ≠ []
  distinct : (pushes.map CodeSlot.info).Nodup
  onlyFlags : flags = [] ∨ ∃ slot, flags = [slot] ∧ slot.operation = .allocSmall ∧ slot.info = 0

/-! ### The loops over the codes -/

/-- What a pop undoes. -/
def popCode (stack : Stack) (state : UnwindState) (slot : CodeSlot) : Option UnwindState :=
  if slot.operation = .pushNonvol then popInteger stack state slot.info else release state 8

section Loops
variable {stack : Stack} {state : UnwindState} {pushes rest : List CodeSlot}

theorem pop_length_pos (slot : CodeSlot) : 0 < popLength slot := by
  unfold popLength
  split <;> decide

/-- Pops at the offset or behind it are undone. -/
theorem pop_remaining_behind (all : ∀ slot ∈ pushes, slot.operation = .pushNonvol)
    (stops : ∀ slot ∈ rest.head?, slot.operation ≠ .pushNonvol) {offset current : Nat}
    (behind : offset ≤ current) (state : UnwindState) :
    popRemaining stack offset (pushes ++ rest) current state =
      (pushes.foldlM (popCode stack) state).map
        (rest, current + encodedLength pushes, ·) := by
  induction pushes generalizing current state with
  | nil =>
    cases rest with
    | nil => rfl
    | cons slot rest =>
      rw [List.nil_append, popRemaining, if_pos (stops slot rfl)]
      rfl
  | cons slot pushes ih =>
    have push := all slot (by simp)
    have length : (if slot.info ≥ 8 then 2 else 1) = popLength slot := by
      simp [popLength, push]
    rw [List.cons_append, popRemaining, if_neg (by simp [push])]
    simp only [length, if_pos behind]
    rw [List.foldlM_cons, popCode, if_pos push]
    cases popInteger stack state slot.info with
    | none => rfl
    | some state =>
      rw [Option.bind_some, ih (fun other member => all other (by simp [member])) (by omega)]
      simp only [encodedLength, List.map_cons, List.sum_cons, Nat.add_assoc]
      rfl

/-- Pops before the offset have run. -/
theorem pop_remaining_before (all : ∀ slot ∈ pushes, slot.operation = .pushNonvol)
    {offset current : Nat} (before : current + encodedLength pushes ≤ offset) :
    popRemaining stack offset (pushes ++ rest) current state =
      popRemaining stack offset rest (current + encodedLength pushes) state := by
  induction pushes generalizing current with
  | nil => rfl
  | cons slot pushes ih =>
    have push := all slot (by simp)
    have length : (if slot.info ≥ 8 then 2 else 1) = popLength slot := by
      simp [popLength, push]
    have positive := pop_length_pos slot
    simp only [encodedLength, List.map_cons, List.sum_cons] at before ih ⊢
    rw [List.cons_append, popRemaining, if_neg (by simp [push])]
    simp only [length]
    rw [if_neg (by omega), ih (fun other member => all other (by simp [member])) (by omega),
      Nat.add_assoc]

/-- At the start of a pop the loops undo it and those behind it. -/
theorem pops_undone {flags : List CodeSlot}
    (all : ∀ slot ∈ pushes, slot.operation = .pushNonvol)
    (onlyFlags : flags = [] ∨
      ∃ slot, flags = [slot] ∧ slot.operation = .allocSmall ∧ slot.info = 0)
    {count : Nat} (few : count ≤ (pushes ++ flags).length) (state : UnwindState) :
    ((popRemaining stack (encodedLength ((pushes ++ flags).take count)) (pushes ++ flags) 0
        state).bind fun popped =>
      (popFlags (encodedLength ((pushes ++ flags).take count)) popped.2.1 popped.1
        popped.2.2).bind fun left => leaveV2Epilogue stack left.1 left.2) =
    (((pushes ++ flags).drop count).foldlM (popCode stack) state).bind
      (popReturnAddress stack) := by
  by_cases among : count ≤ pushes.length
  · have split : pushes ++ flags = pushes.take count ++ (pushes.drop count ++ flags) := by
      rw [← List.append_assoc, List.take_append_drop]
    have stops : ∀ slot ∈ flags.head?, slot.operation ≠ .pushNonvol := by
      rcases onlyFlags with rfl | ⟨slot, rfl, alloc, -⟩
      · simp
      · simp [alloc]
    rw [List.take_append_of_le_length among, List.drop_append_of_le_length among]
    nth_rewrite 1 [split]
    rw [pop_remaining_before (fun slot member => all slot (List.mem_of_mem_take member))
      (by omega), pop_remaining_behind (fun slot member => all slot (List.mem_of_mem_drop member))
      stops (by omega), List.foldlM_append]
    cases (pushes.drop count).foldlM (popCode stack) state with
    | none => rfl
    | some state =>
      rcases onlyFlags with rfl | ⟨slot, rfl, alloc, small⟩
      · rfl
      · simp only [Option.map_some, Option.bind_some, popFlags, if_pos (And.intro alloc small)]
        rw [if_pos (by omega)]
        simp only [Option.bind_eq_bind, Option.bind_some, List.foldlM_cons, List.foldlM_nil,
          popCode, alloc, reduceCtorEq, if_false]
        cases release state 8 <;> rfl
  · rcases onlyFlags with rfl | ⟨slot, rfl, alloc, small⟩
    · simp at few
      omega
    · have every : count = (pushes ++ [slot]).length := by
        simp only [List.length_append, List.length_singleton] at few ⊢
        omega
      rw [every, List.take_length, List.drop_length, pop_remaining_before all (by
        simp [encodedLength]), popRemaining, if_pos (by simp [alloc])]
      simp only [Option.bind_some, popFlags, if_pos (And.intro alloc small)]
      have one : popLength slot = 1 := by
        simp [popLength, alloc]
      rw [if_neg (by simp [encodedLength, one])]
      rfl

end Loops

/-! ### Only the integer registers matter -/

def SameRegisters (left right : UnwindState) : Prop :=
  left.context.integer = right.context.integer

/-- Two contexts are of one caller. -/
def SameCaller (left right : Context) : Prop :=
  left.integer = right.integer ∧ left.rip = right.rip

section Registers
variable {stack : Stack} {left right state : UnwindState}

theorem SameRegisters.set (same : SameRegisters left right) (number value : Nat)
    (pointers pointers' : Option ContextPointers) (machineFrame machineFrame' : Bool) :
    SameRegisters ⟨left.context.setInteger number value, pointers, machineFrame⟩
      ⟨right.context.setInteger number value, pointers', machineFrame'⟩ := by
  unfold SameRegisters Context.setInteger at *
  dsimp only
  rw [same]

theorem CodeSlot.info_lt (slot : CodeSlot) : slot.info < 16 := by
  have byte := slot.high.toNat_lt
  unfold CodeSlot.info
  omega

end Registers

/-! ### The body -/

/-- The saves are of integer registers that there are, and not of the stack pointer. -/
def SavesNamed (operations : List Operation) : Prop :=
  ∀ number offset, .save (.integer number) offset ∈ operations →
    number < 16 ∧ number ≠ registerRsp

section Body
variable {stack : Stack} {frameBase : Nat} {state : UnwindState} {codes rest : List CodeSlot}
  {operations : List Operation}

theorem slot_append {operands : List CodeSlot} {index : Nat} (inside : index < operands.length)
    (rest : List CodeSlot) (slot : CodeSlot) :
    (operands ++ rest).getD index slot = operands.getD index slot := by
  rw [List.getD_eq_getElem?_getD, List.getD_eq_getElem?_getD, List.getElem?_append_left inside]

theorem operand16_append {operands : List CodeSlot} (long : 1 ≤ operands.length)
    (rest : List CodeSlot) : operand16 (operands ++ rest) = operand16 operands := by
  unfold operand16
  rw [slot_append (by omega)]

theorem operand32_append {operands : List CodeSlot} (long : 2 ≤ operands.length)
    (rest : List CodeSlot) : operand32 (operands ++ rest) = operand32 operands := by
  unfold operand32
  rw [slot_append (by omega), slot_append (by omega)]

/-- The operands are all there, so that what follows them does not matter. -/
theorem described_apply {slot : CodeSlot} {operands : List CodeSlot} {operation : Operation}
    (described : describedOperation slot operands = some operation)
    (slots : unwindOperationSlots 2 slot.operation slot.info = operands.length + 1)
    (aligned : ∀ size, operation = .alloc size → size ≠ 0 ∧ size % 8 = 0) (rest : List CodeSlot) :
    applyOperation stack frameBase slot (operands ++ rest) state =
      undo stack frameBase state operation := by
  unfold describedOperation at described
  unfold unwindOperationSlots at slots
  unfold applyOperation
  cases kind : slot.operation with
  | allocLarge =>
    simp only [kind, Option.some.injEq] at described slots ⊢
    subst described
    have size : allocLargeSize slot.info (operands ++ rest) =
        allocLargeSize slot.info operands := by
      unfold allocLargeSize
      split
      · rename_i scaled
        rw [if_pos scaled] at slots
        rw [operand16_append (by omega)]
      · rename_i unscaled
        rw [if_neg unscaled] at slots
        split at slots
        · rw [operand32_append (by omega)]
        · omega
    rw [size, if_neg (by have valid := aligned _ rfl; omega)]
    rfl
  | allocSmall =>
    simp only [kind, Option.some.injEq] at described ⊢
    subst described
    rfl
  | saveNonvol =>
    simp only [kind, Option.some.injEq] at described slots ⊢
    subst described
    rw [operand16_append (by omega)]
    rfl
  | saveNonvolFar =>
    simp only [kind, Option.some.injEq] at described slots ⊢
    subst described
    rw [operand32_append (by omega)]
    rfl
  | saveXmm128 =>
    simp only [kind, Option.some.injEq] at described slots ⊢
    subst described
    rw [operand16_append (by omega)]
    rfl
  | saveXmm128Far =>
    simp only [kind, Option.some.injEq] at described slots ⊢
    subst described
    rw [operand32_append (by omega)]
    rfl
  | pushNonvol | setFpreg | epilog | pushMachframe | unknown =>
    simp [kind] at described

theorem described_valid {slot : CodeSlot} {operands : List CodeSlot} {number offset : Nat}
    (described : describedOperation slot operands = some (.save (.integer number) offset))
    (valid : unwindOperationIsValid slot.operation slot.info = true) :
    number < 16 ∧ number ≠ registerRsp := by
  unfold describedOperation at described
  unfold unwindOperationIsValid at valid
  cases kind : slot.operation with
  | saveNonvol | saveNonvolFar =>
    simp only [kind, Option.some.injEq, Operation.save.injEq, SavedRegister.integer.injEq]
      at described valid
    rw [← described.1]
    refine ⟨slot.info_lt, fun rsp => ?_⟩
    rw [rsp] at valid
    contradiction
  | allocLarge | allocSmall | saveXmm128 | saveXmm128Far | pushNonvol | setFpreg | epilog
    | pushMachframe | unknown => simp [kind] at described

theorem accepted_valid {version prologueSize frameRegister frameOffset previous : Nat}
    {slot : CodeSlot} {operands : List CodeSlot} {found : Bool}
    (accepted : operationIsAccepted version prologueSize frameRegister frameOffset slot operands
      previous found = true) : unwindOperationIsValid slot.operation slot.info = true := by
  simp only [operationIsAccepted, Bool.and_eq_true, Bool.not_eq_true', Bool.or_eq_false_iff,
    Bool.not_eq_false'] at accepted
  exact accepted.1.1.1.2

/-- What is validated of saves, and that the rest is validated behind them. -/
theorem saves_validated {prologueSize frameRegister frameOffset previous : Nat}
    {found hasFrameSetup : Bool} (saves : SavesAndAllocations codes operations)
    (accepted : validateOperations 2 prologueSize frameRegister frameOffset (codes ++ rest) 0
      previous found = some hasFrameSetup) :
    SavesNamed operations ∧ ∃ previous found, validateOperations 2 prologueSize frameRegister
      frameOffset rest 0 previous found = some hasFrameSetup := by
  induction saves generalizing previous found with
  | nil => exact ⟨fun _ _ member => absurd member (by simp), previous, found, accepted⟩
  | @code slot operands codes operation operations described slots saves ih =>
    rw [List.cons_append, List.append_assoc, validateOperations, slots] at accepted
    simp only [Nat.add_sub_cancel, validate_skip, Option.ite_none_right_eq_some] at accepted
    obtain ⟨own, later⟩ := ih accepted.2
    refine ⟨?_, later⟩
    intro number offset member
    rcases List.mem_cons.mp member with rfl | member
    · exact described_valid described (accepted_valid accepted.1)
    · exact own number offset member

theorem pops_validated {prologueSize frameRegister frameOffset previous : Nat}
    {found hasFrameSetup : Bool} {pops : List CodeSlot}
    (single : ∀ slot ∈ pops, unwindOperationSlots 2 slot.operation slot.info = 1)
    (accepted : validateOperations 2 prologueSize frameRegister frameOffset pops 0 previous found =
      some hasFrameSetup) :
    ∀ slot ∈ pops, slot.operation = .pushNonvol → slot.info ≠ registerRsp := by
  induction pops generalizing previous found with
  | nil => simp
  | cons slot pops ih =>
    rw [validateOperations, single slot (by simp), Option.ite_none_right_eq_some] at accepted
    intro other member push
    rcases List.mem_cons.mp member with rfl | member
    · have valid := accepted_valid accepted.1
      rw [push] at valid
      rintro rsp
      rw [rsp] at valid
      contradiction
    · exact ih (fun other member => single other (by simp [member])) accepted.2 other member push

/-- Applying the codes of saves and allocations undoes them. -/
theorem apply_saves {prologueOffset : Nat} {after : UnwindState}
    (saves : SavesAndAllocations codes operations)
    (aligned : ∀ size, .alloc size ∈ operations → size ≠ 0 ∧ size % 8 = 0)
    (undone : operations.foldlM (undo stack frameBase) state = some after) :
    applyUnwindCodes 2 false prologueOffset frameBase stack (codes ++ rest) 0 state =
      applyUnwindCodes 2 false prologueOffset frameBase stack rest 0 after := by
  induction saves generalizing state with
  | nil =>
    cases undone
    rfl
  | @code slot operands codes operation operations described slots saves ih =>
    rw [List.foldlM_cons] at undone
    obtain ⟨next, one, others⟩ := Option.bind_eq_some_iff.mp undone
    rw [List.cons_append, List.append_assoc, applyUnwindCodes]
    have applied := @described_apply stack frameBase state slot operands operation described slots
      (fun size same => aligned size (by simp [same])) (codes ++ rest)
    simp only [Bool.false_eq_true, false_and, if_false, applied, one, slots, apply_skip]
    exact ih (fun size member => aligned size (by simp [member])) others

/-- Applying the codes of pops undoes them. -/
theorem apply_pops {prologueOffset : Nat} {pops : List CodeSlot}
    (all : ∀ slot ∈ pops, slot.operation = .pushNonvol ∨
      slot.operation = .allocSmall ∧ slot.info = 0) :
    applyUnwindCodes 2 false prologueOffset frameBase stack pops 0 state =
      .ofOption (pops.foldlM (popCode stack) state) := by
  induction pops generalizing state with
  | nil => rfl
  | cons slot pops ih =>
    have rest (next : UnwindState) := @ih next fun other member => all other (by simp [member])
    have single : unwindOperationSlots 2 slot.operation slot.info = 1 := by
      rcases all slot (by simp) with push | ⟨alloc, -⟩
      · rw [push]
        rfl
      · rw [alloc]
        rfl
    have applied : applyOperation stack frameBase slot pops state = popCode stack state slot := by
      unfold applyOperation popCode
      rcases all slot (by simp) with push | ⟨alloc, small⟩
      · simp [push]
      · simp [alloc, small]
    rw [applyUnwindCodes, List.foldlM_cons]
    simp only [Bool.false_eq_true, false_and, if_false, applied, single]
    cases popCode stack state slot with
    | none => rfl
    | some next => exact rest next

/-- Descriptors of epilogues are passed over in pairs. -/
theorem apply_descriptors {prologueOffset : Nat} {descriptors : List CodeSlot}
    (even : descriptors.length % 2 = 0) (all : ∀ slot ∈ descriptors, slot.operation = .epilog) :
    applyUnwindCodes 2 false prologueOffset frameBase stack (descriptors ++ rest) 0 state =
      applyUnwindCodes 2 false prologueOffset frameBase stack rest 0 state := by
  induction length : descriptors.length using Nat.strong_induction_on
    generalizing descriptors with
  | _ length' ih =>
    cases descriptors with
    | nil => rfl
    | cons first others =>
      cases others with
      | nil => simp at even
      | cons second others =>
        simp only [List.length_cons] at even length
        have later := ih others.length (by omega) (by omega)
          (fun slot member => all slot (by simp [member])) rfl
        have epilog := all first (by simp)
        rw [List.cons_append, applyUnwindCodes]
        simp only [Bool.false_eq_true, false_and, if_false, applyOperation, epilog]
        exact later

end Body

/-! ### The scan for the pushes -/

section Scan
variable {rest : List CodeSlot}

theorem scan_skip {version : Nat} (codes : List CodeSlot) (skip : Nat) :
    scanToPush version codes skip = scanToPush version (codes.drop skip) 0 := by
  induction codes generalizing skip with
  | nil => cases skip <;> rfl
  | cons slot codes ih =>
    cases skip with
    | zero => rfl
    | succ skip => exact ih skip

theorem scan_saves {saves : List CodeSlot} {operations : List Operation}
    (described : SavesAndAllocations saves operations) :
    scanToPush 2 (saves ++ rest) 0 = scanToPush 2 rest 0 := by
  induction described with
  | nil => rfl
  | @code slot operands codes operation operations described slots saves ih =>
    have noPush : ¬ (slot.operation = .pushNonvol ∨ slot.operation = .pushMachframe) := by
      rintro (push | push)
      all_goals
        rw [describedOperation, push] at described
        cases described
    rw [List.cons_append, List.append_assoc, scanToPush]
    simp only [if_neg noPush, slots]
    rw [if_neg (by simp), scan_skip, Nat.add_sub_cancel, List.drop_left]
    exact ih

end Scan

/-! ### One caller -/

/-- Two unwinds fail alike, or give one caller. -/
inductive SameOutcome : Option (Except Status Unwound) → Option (Except Status Unwound) → Prop where
  | failed (status : Status) : SameOutcome (some (.error status)) (some (.error status))
  | unwound {left right : Unwound} (caller : SameCaller left.context right.context) :
      SameOutcome (some (.ok left)) (some (.ok right))

/-- The unwind of a frame that is left as these states say. -/
def Leaves (outcome : Option UnwindState) (unwinds : Option (Except Status Unwound)) : Prop :=
  (outcome = none ∧ unwinds = some (.error .invalidImage)) ∨
    ∃ state unwound, outcome = some state ∧ unwinds = some (.ok unwound) ∧
      unwound.context = state.context

theorem Leaves.same {left right : Option UnwindState} {one other : Option (Except Status Unwound)}
    (leaves : Leaves left one) (leaves' : Leaves right other)
    (related : Option.Rel (fun left right => SameCaller left.context right.context) left right) :
    SameOutcome one other := by
  obtain ⟨rfl, rfl⟩ | ⟨state, unwound, rfl, rfl, context⟩ := leaves
  · obtain ⟨rfl, rfl⟩ | ⟨state, unwound, rfl, rfl, context⟩ := leaves'
    · exact .failed _
    · cases related
  · obtain ⟨rfl, rfl⟩ | ⟨state', unwound', rfl, rfl, context'⟩ := leaves'
    · cases related
    · cases related with
      | some caller =>
        rw [← context, ← context'] at caller
        exact .unwound caller

section Declared
variable {module : PeModule} {entry : RuntimeFunction} {record : UnwindRecord}
  {operations : List Operation} {pushes flags : List CodeSlot} {stack : Stack}

/-- What is known of a record that was validated. -/
structure Declared (module : PeModule) (entry : RuntimeFunction) (record : UnwindRecord) :
    Prop where
  read : readUnwindRecord module entry.unwindData = some record
  ranges : validateV2EpilogueRanges record entry = true
  checked : RecordChecked record

theorem unchained_parents (depth : Nat) (unchained : hasFlag record.flags flagChainInfo = false) :
    parentsPushNothing module depth record = true := by
  unfold parentsPushNothing
  exact if_pos unchained

theorem select_first {codes : List CodeSlot}
    (withPush : recordWithPush module entry = some (record, codes)) (filled : codes ≠ [])
    (depth : Nat) : selectRecord module (depth + 1) entry = some (record, codes, depth) := by
  rw [selectRecord, withPush]
  exact if_pos (.inl filled)

/-- The pushes behind the descriptors and the saves are what is popped. -/
theorem PopsLast.unwind_epilogue (last : PopsLast record operations pushes flags)
    (declared : Declared module entry record) {count : Nat}
    (few : count ≤ (pushes ++ flags).length) (state : UnwindState) :
    unwindV2Epilogue module entry (encodedLength ((pushes ++ flags).take count)) stack state =
      (((pushes ++ flags).drop count).foldlM (popCode stack) state).bind
        (popReturnAddress stack) := by
  obtain ⟨saves, described, codes⟩ := last.codes
  obtain ⟨slot, rest, filled⟩ := List.exists_cons_of_ne_nil last.nonempty
  have push := last.allPush slot (by simp [filled])
  have scanned : scanToPush record.version record.codes record.epilogues.codeSlots =
      some (pushes ++ flags) := by
    rw [last.version, scan_skip, codes, scan_saves described, filled, List.cons_append, scanToPush]
    exact if_pos (.inl push)
  have withPush : recordWithPush module entry = some (record, pushes ++ flags) := by
    rw [recordWithPush, declared.read]
    simp only [declared.ranges, scanned, Bool.true_eq_false, if_false, Option.map_some]
  have selected : selectRecord module (31 + 1) entry = some (record, pushes ++ flags, 31) :=
    select_first withPush (by simp [filled]) 31
  rw [unwindV2Epilogue, show maxChainDepth = 31 + 1 from rfl, selected]
  simp only [unchained_parents 31 last.unchained, Bool.true_eq_false, if_false, Option.bind_eq_bind, Option.bind_some]
  exact pops_undone last.allPush last.onlyFlags few state

/-- The codes of the record undone in its body. -/
theorem PopsLast.apply_codes (last : PopsLast record operations pushes flags)
    (declared : Declared module entry record) {prologueOffset frameBase : Nat}
    {state after : UnwindState}
    (aligned : ∀ size, .alloc size ∈ operations → size ≠ 0 ∧ size % 8 = 0)
    (undone : operations.foldlM (undo stack frameBase) state = some after) :
    applyUnwindCodes record.version false prologueOffset frameBase stack record.codes 0 state =
      .ofOption ((pushes ++ flags).foldlM (popCode stack) after) := by
  obtain ⟨saves, described, codes⟩ := last.codes
  have skip : applyUnwindCodes 2 false prologueOffset frameBase stack record.codes 0 state =
      applyUnwindCodes 2 false prologueOffset frameBase stack
        (record.codes.drop record.epilogues.codeSlots) 0 state := by
    obtain ⟨fits, even, descriptors, -⟩ := accepted_codes declared.checked.codes
    by_cases none_ : record.epilogues.codeSlots = 0
    · rw [none_, List.drop_zero]
    · have applied := @apply_descriptors stack frameBase state
        (record.codes.drop record.epilogues.codeSlots) prologueOffset _
        (by rw [List.length_take_of_le fits]; exact even) (descriptors none_).2
      rwa [List.take_append_drop] at applied
  rw [last.version, skip, codes, apply_saves described aligned undone]
  apply apply_pops
  intro slot member
  rcases List.mem_append.mp member with member | member
  · exact .inl (last.allPush slot member)
  · rcases last.onlyFlags with rfl | ⟨only, rfl, alloc, small⟩
    · cases member
    · rw [List.mem_singleton.mp member]
      exact .inr ⟨alloc, small⟩

/-- Validation finds no register among the saves and the pops that would be the stack pointer. -/
theorem PopsLast.named (last : PopsLast record operations pushes flags)
    (declared : Declared module entry record) :
    SavesNamed operations ∧
      ∀ slot ∈ pushes ++ flags, slot.operation = .pushNonvol → slot.info ≠ registerRsp := by
  obtain ⟨saves, described, codes⟩ := last.codes
  obtain ⟨-, -, -, validated⟩ := accepted_codes declared.checked.codes
  rw [last.version, codes] at validated
  obtain ⟨named, previous, found, rest⟩ := saves_validated described validated
  refine ⟨named, pops_validated ?_ rest⟩
  intro slot member
  rcases List.mem_append.mp member with member | member
  · rw [last.allPush slot member]
    rfl
  · rcases last.onlyFlags with rfl | ⟨only, rfl, alloc, -⟩
    · cases member
    · rw [List.mem_singleton.mp member, alloc]
      rfl

theorem PopsLast.establisher (last : PopsLast record operations pushes flags)
    (inPrologue : Bool) (prologueOffset : Nat) (context : Context) :
    frameBaseOf record inPrologue prologueOffset context = some (.ok context.rsp) := by
  unfold frameBaseOf frameIsEstablished
  rw [if_pos last.frameless]

theorem sub32_of_le {size : Nat} (word : entry.endAddress < 2 ^ 32)
    (fits : size ≤ entry.endAddress) : sub32 entry.endAddress size = entry.endAddress - size := by
  unfold sub32
  omega

/-- What validation asks of the epilogues of a record. -/
structure RangesChecked (record : UnwindRecord) (entry : RuntimeFunction) : Prop where
  size : record.epilogues.size ≤ entry.endAddress - entry.beginAddress
  implicit : record.epilogues.implicitAtEnd = true →
    record.prologueSize ≤ entry.endAddress - entry.beginAddress - record.epilogues.size
  explicit : ∀ descriptor ∈ record.descriptors, descriptor.distance = 0 ∨
    record.epilogues.size ≤ descriptor.distance ∧
      descriptor.distance ≤ entry.endAddress - entry.beginAddress ∧
      record.prologueSize ≤ entry.endAddress - entry.beginAddress - descriptor.distance

theorem ranges_checked (ordered : entry.beginAddress ≤ entry.endAddress)
    (word : entry.endAddress < 2 ^ 32) (ranges : validateV2EpilogueRanges record entry = true)
    (present : record.epilogues.present = true) : RangesChecked record entry := by
  unfold validateV2EpilogueRanges at ranges
  rw [sub32_of_le word ordered] at ranges
  dsimp only at ranges
  split at ranges
  · cases ranges
  rw [if_neg (by simp [present])] at ranges
  split at ranges
  · cases ranges
  rename_i sized
  rw [not_or, not_and] at sized
  refine ⟨by omega, fun implicit => Nat.le_of_not_lt (sized.2 implicit),
    fun descriptor member => ?_⟩
  have checked := List.all_eq_true.mp ranges descriptor member
  simp only [Bool.or_eq_true, beq_iff_eq, Bool.not_eq_true', Bool.or_eq_false_iff,
    decide_eq_false_iff_not] at checked
  omega

end Declared

/-! ### Every place of a function -/

section Places
variable {module : PeModule} {functionEntry : Nat} {entry : RuntimeFunction}
  {record : UnwindRecord} {operations : List Operation} {pushes flags : List CodeSlot}

end Places

/-! ### A function that releases a number of words and pops RBX -/

/-- A table entry at 4, the record at 16, and the function from 32 to 48 with its epilogue at 46. -/
def declaredBytes (words : UInt8) (index : Nat) : UInt8 :=
  [0, 0, 0, 0, 32, 0, 0, 0, 48, 0, 0, 0, 16, 0, 0, 0,
    2, 8, 5, 0, 2, 0x16, 0, 0x06, 8, 0x01, words, 0, 1, 0x30].getD index 0

def declaredModule (words : UInt8) : PeModule where
  image := {
    file := { size := 0, data := fun _ => 0 }
    machine := Pe.machineAmd64
    isPe32Plus := true
    imageSize := 64
    directories := fun index =>
      if index = directoryException then { rva := 4, size := 12 } else {} }
  mapped := { address := 0x10000, bytes := declaredBytes words, size := 64, loadBase := 0x10000 }

def declaredEntry : RuntimeFunction := { beginAddress := 32, endAddress := 48, unwindData := 16 }

def declaredRecord (words : UInt8) : UnwindRecord where
  version := 2
  flags := 0
  prologueSize := 8
  frameRegister := 0
  frameOffset := 0
  codes := [⟨2, 0x16⟩, ⟨0, 0x06⟩, ⟨8, 0x01⟩, ⟨words, 0⟩, ⟨1, 0x30⟩]
  trailerRva := 32
  hasFrameSetup := false
  epilogues := { present := true, implicitAtEnd := true, size := 2, codeSlots := 2 }

def declaredStack : Stack where
  limit := 0x1000
  base := 0x1040
  bytes index := if index = 0x1010 then 7 else if index = 0x1018 then 9 else 0

def contextOnStack (rsp : Nat) : Context := ({} : Context).setInteger registerRsp rsp

end SadLayer.Unwind
