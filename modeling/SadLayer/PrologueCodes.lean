import SadLayer.Prologue
import SadLayer.VirtualUnwindFacts

/-! How unwind codes describe a prologue, and what the loops over codes make of a
description: the operations undone in turn, the latest first. -/
namespace SadLayer.Unwind
open SadLayer.Library

/-- The slots of a code that describe an operation. -/
inductive Encodes : Operation → CodeSlot → List CodeSlot → Prop where
  | push (operation : slot.operation = .pushNonvol) : Encodes (.push slot.info) slot []
  | allocSmall (operation : slot.operation = .allocSmall) :
      Encodes (.alloc (slot.info * 8 + 8)) slot []
  | allocLarge (operation : slot.operation = .allocLarge) (scaled : slot.info = 0)
      (positive : 0 < size.word) : Encodes (.alloc (size.word * 8)) slot [size]
  | allocHuge (operation : slot.operation = .allocLarge) (unscaled : slot.info = 1)
      (positive : 0 < operand32 [low, high]) (aligned : operand32 [low, high] % 8 = 0) :
      Encodes (.alloc (operand32 [low, high])) slot [low, high]
  | setFrame (operation : slot.operation = .setFpreg) : Encodes .setFrame slot []
  | saveNonvol (operation : slot.operation = .saveNonvol) :
      Encodes (.save (.integer slot.info) (offset.word * 8)) slot [offset]
  | saveNonvolFar (operation : slot.operation = .saveNonvolFar) :
      Encodes (.save (.integer slot.info) (operand32 [low, high])) slot [low, high]
  | saveXmm128 (operation : slot.operation = .saveXmm128) :
      Encodes (.save (.xmm slot.info) (offset.word * 16)) slot [offset]
  | saveXmm128Far (operation : slot.operation = .saveXmm128Far) :
      Encodes (.save (.xmm slot.info) (operand32 [low, high])) slot [low, high]

/-- An instruction of a prologue with the code that describes it. -/
structure Instruction where
  operation : Operation
  slot : CodeSlot
  operands : List CodeSlot
  encodes : Encodes operation slot operands

def Instruction.codes (instruction : Instruction) : List CodeSlot :=
  instruction.slot :: instruction.operands

/-- The codes of a prologue, which list its instructions from the last to the first. -/
def prologueCodes (prologue : List Instruction) : List CodeSlot :=
  prologue.reverse.flatMap Instruction.codes

/-- Undoes one operation. -/
def undo (stack : Stack) (frameBase : Nat) (state : UnwindState) :
    Operation → Option UnwindState
  | .push number => popInteger stack state number
  | .alloc size => release state size
  | .setFrame => some { state with context := state.context.setInteger registerRsp frameBase }
  | .save (.integer number) offset =>
    (addStackOffset frameBase offset).bind (restoreInteger stack state number)
  | .save (.xmm number) offset =>
    (addStackOffset frameBase offset).bind (restoreXmm stack state number)

/-- Undoes operations, the last of the list first. -/
def undoAll (stack : Stack) (frameBase : Nat) (operations : List Operation)
    (state : UnwindState) : Option UnwindState :=
  operations.reverse.foldlM (undo stack frameBase) state

theorem undo_all_concat {stack : Stack} {frameBase : Nat} {operations : List Operation}
    {operation : Operation} {state : UnwindState} :
    undoAll stack frameBase (operations ++ [operation]) state =
      (undo stack frameBase state operation).bind (undoAll stack frameBase operations) := by
  unfold undoAll
  rw [List.reverse_concat, List.foldlM_cons]
  rfl

section Encoding
variable {operation : Operation} {slot : CodeSlot} {operands : List CodeSlot}

theorem Encodes.slots (encodes : Encodes operation slot operands) :
    unwindOperationSlots 1 slot.operation slot.info = operands.length + 1 := by
  cases encodes with
  | push operation | allocSmall operation | setFrame operation | saveNonvol operation
    | saveNonvolFar operation | saveXmm128 operation | saveXmm128Far operation =>
    rw [operation]
    rfl
  | allocLarge operation scaled => rw [operation, scaled]; rfl
  | allocHuge operation unscaled => rw [operation, unscaled]; rfl

theorem Encodes.set_frame_iff (encodes : Encodes operation slot operands) :
    slot.operation = .setFpreg ↔ operation = .setFrame := by
  cases encodes <;> simp_all

/-- A description leads the unwinder to undo what it describes. -/
theorem Encodes.apply (encodes : Encodes operation slot operands) (stack : Stack)
    (frameBase : Nat) (rest : List CodeSlot) (state : UnwindState) :
    applyOperation stack frameBase slot (operands ++ rest) state =
      undo stack frameBase state operation := by
  cases encodes with
  | push operation | allocSmall operation | setFrame operation | saveNonvol operation
    | saveNonvolFar operation | saveXmm128 operation | saveXmm128Far operation =>
    rw [applyOperation, operation]
    rfl
  | allocLarge operation scaled positive =>
    rename_i size
    have size_ : allocLargeSize slot.info ([size] ++ rest) = size.word * 8 := by
      rw [allocLargeSize, if_pos scaled]
      rfl
    simp only [applyOperation, operation, size_]
    exact if_neg (by omega)
  | allocHuge operation unscaled positive aligned =>
    rename_i low high
    have size_ : allocLargeSize slot.info ([low, high] ++ rest) = operand32 [low, high] := by
      rw [allocLargeSize, if_neg (by omega)]
      rfl
    simp only [applyOperation, operation, size_]
    exact if_neg (by omega)

/-- The registers that a valid code saves are nonvolatile. -/
theorem Encodes.saved_valid (encodes : Encodes operation slot operands)
    (valid : unwindOperationIsValid slot.operation slot.info = true) :
    operation.saved ≠ some (.integer registerRsp) ∧
      ∀ number, operation.saved = some (.integer number) → number < 16 := by
  have low : slot.info < 16 := by
    have byte := slot.high.toNat_lt
    unfold CodeSlot.info
    omega
  cases encodes with
  | push operation | saveNonvol operation | saveNonvolFar operation =>
    rw [operation] at valid
    constructor
    · intro rsp
      simp only [Operation.saved, Option.some.injEq, SavedRegister.integer.injEq] at rsp
      rw [rsp] at valid
      contradiction
    · intro number saved
      simp only [Operation.saved, Option.some.injEq, SavedRegister.integer.injEq] at saved
      omega
  | allocSmall | allocLarge | allocHuge | setFrame | saveXmm128 | saveXmm128Far =>
    simp [Operation.saved]

end Encoding

section Loops
variable {instructions : List Instruction} {inPrologue : Bool} {prologueOffset : Nat}

/-- The instructions that ran before an offset in the prologue, or all of them behind it. -/
def Instruction.hasRun (inPrologue : Bool) (prologueOffset : Nat) (instruction : Instruction) :
    Bool :=
  !inPrologue || instruction.slot.codeOffset ≤ prologueOffset

def executed (inPrologue : Bool) (prologueOffset : Nat) (prologue : List Instruction) :
    List Operation :=
  (prologue.filter (Instruction.hasRun inPrologue prologueOffset)).map Instruction.operation

theorem executed_concat (instruction : Instruction) :
    executed inPrologue prologueOffset (instructions ++ [instruction]) =
      executed inPrologue prologueOffset instructions ++
        if instruction.hasRun inPrologue prologueOffset then [instruction.operation] else [] := by
  unfold executed
  rw [List.filter_append, List.map_append]
  by_cases ran : instruction.hasRun inPrologue prologueOffset = true
  · simp [ran]
  · simp [ran]

theorem prologue_codes_concat (instruction : Instruction) :
    prologueCodes (instructions ++ [instruction]) =
      instruction.slot :: (instruction.operands ++ prologueCodes instructions) := by
  unfold prologueCodes
  rw [List.reverse_concat, List.flatMap_cons]
  rfl

/-- What a loop over codes makes of an outcome that it may not have. -/
def Walked.ofOption : Option α → Walked α
  | none => .rejected
  | some value => .done value

/-- Applying the codes of a prologue undoes the operations that ran. -/
theorem apply_prologue_codes {frameBase : Nat} {stack : Stack} (prologue : List Instruction)
    (state : UnwindState) :
    applyUnwindCodes 1 inPrologue prologueOffset frameBase stack (prologueCodes prologue) 0 state =
      .ofOption (undoAll stack frameBase (executed inPrologue prologueOffset prologue) state) := by
  induction prologue using List.reverseRecOn generalizing state with
  | nil => rfl
  | append_singleton prologue instruction ih =>
    obtain ⟨operation, slot, operands, encodes⟩ := instruction
    rw [prologue_codes_concat, executed_concat, applyUnwindCodes]
    simp only [encodes.slots, apply_skip]
    by_cases later : inPrologue = true ∧ slot.codeOffset > prologueOffset
    · have pending : Instruction.hasRun inPrologue prologueOffset
          ⟨operation, slot, operands, encodes⟩ = false := by
        simp [Instruction.hasRun, later]
      rw [if_pos later, pending, ih]
      simp
    · have ran : Instruction.hasRun inPrologue prologueOffset
          ⟨operation, slot, operands, encodes⟩ = true := by
        simp only [Instruction.hasRun, Bool.or_eq_true, Bool.not_eq_true', decide_eq_true_eq]
        by_cases inside : inPrologue = true
        · exact .inr (by simp only [inside, true_and] at later; omega)
        · exact .inl (by simpa using inside)
      rw [if_neg later, encodes.apply, ran, if_pos rfl, undo_all_concat]
      cases undone : undo stack frameBase state operation with
      | none => rfl
      | some state => exact ih state

/-- The scan for the frame register finds whether its setup ran, when there is at most one. -/
theorem established_prologue_codes (prologue : List Instruction)
    (once : prologue.Pairwise fun left right =>
      ¬ (left.operation = .setFrame ∧ right.operation = .setFrame)) :
    frameRegisterIsEstablished 1 inPrologue prologueOffset (prologueCodes prologue) 0 =
      some (decide (.setFrame ∈ executed inPrologue prologueOffset prologue)) := by
  induction prologue using List.reverseRecOn with
  | nil => rfl
  | append_singleton prologue instruction ih =>
    obtain ⟨earlier, -, across⟩ := List.pairwise_append.mp once
    rw [prologue_codes_concat, executed_concat, frameRegisterIsEstablished]
    by_cases set : instruction.operation = .setFrame
    · have unset : .setFrame ∉ executed inPrologue prologueOffset prologue := by
        unfold executed
        rintro member
        obtain ⟨other, kept, isSet⟩ := List.mem_map.mp member
        exact across other (List.mem_of_mem_filter kept) instruction (by simp) ⟨isSet, set⟩
      rw [if_pos (instruction.encodes.set_frame_iff.mpr set)]
      by_cases ran : instruction.hasRun inPrologue prologueOffset = true
      · rw [if_pos ran, set]
        unfold Instruction.hasRun at ran
        simp [ran]
      · rw [if_neg ran, List.append_nil]
        unfold Instruction.hasRun at ran
        simpa [unset] using ran
    · rw [if_neg (instruction.encodes.set_frame_iff.not.mpr set), instruction.encodes.slots]
      simp only [established_skip, ih earlier]
      by_cases ran : instruction.hasRun inPrologue prologueOffset = true
      · rw [if_pos ran]
        simp [Ne.symm set]
      · rw [if_neg ran, List.append_nil]

/-- What validation establishes of the codes of a prologue. -/
structure AcceptedPrologue (frameRegister previous : Nat) (found : Bool)
    (prologue : List Instruction) : Prop where
  below : ∀ instruction ∈ prologue, instruction.slot.codeOffset ≤ previous
  ordered : prologue.Pairwise fun earlier later =>
    earlier.slot.codeOffset ≤ later.slot.codeOffset
  valid : ∀ instruction ∈ prologue,
    unwindOperationIsValid instruction.slot.operation instruction.slot.info = true
  frame : ∀ instruction ∈ prologue, instruction.operation = .setFrame →
    frameRegister ≠ 0 ∧ found = false
  once : prologue.Pairwise fun left right =>
    ¬ (left.operation = .setFrame ∧ right.operation = .setFrame)

theorem validate_prologue_codes {prologueSize frameRegister frameOffset previous : Nat}
    {found hasFrameSetup : Bool} (prologue : List Instruction)
    (accepted : validateOperations 1 prologueSize frameRegister frameOffset
      (prologueCodes prologue) 0 previous found = some hasFrameSetup) :
    AcceptedPrologue frameRegister previous found prologue := by
  induction prologue using List.reverseRecOn generalizing previous found with
  | nil => constructor <;> simp
  | append_singleton prologue instruction ih =>
    rw [prologue_codes_concat, validateOperations, instruction.encodes.slots] at accepted
    simp only [Nat.add_sub_cancel, validate_skip, Option.ite_none_right_eq_some] at accepted
    obtain ⟨own, rest⟩ := accepted
    obtain ⟨below, ordered, valid, frame, once⟩ := ih rest
    simp only [operationIsAccepted, Bool.and_eq_true, Bool.not_eq_true', Bool.or_eq_false_iff,
      decide_eq_false_iff_not, Bool.not_eq_false', Bool.and_eq_false_imp] at own
    obtain ⟨⟨⟨shape, single⟩, -⟩, -⟩ := own
    have high : instruction.slot.codeOffset ≤ previous := by
      have least := shape.1.1.1.2
      omega
    have unset (other : Instruction) (member : other ∈ prologue)
        (isSet : other.operation = .setFrame) :
        found = false ∧ instruction.operation ≠ .setFrame := by
      have clear := (frame other member isSet).2
      rw [Bool.or_eq_false_iff, beq_eq_false_iff_ne] at clear
      exact ⟨clear.1, instruction.encodes.set_frame_iff.not.mp clear.2⟩
    constructor
    · intro other member
      rcases List.mem_append.mp member with member | member
      · exact (below other member).trans high
      · rwa [List.mem_singleton.mp member]
    · refine List.pairwise_append.mpr ⟨ordered, List.pairwise_singleton _ _, ?_⟩
      intro other member last isLast
      rw [List.mem_singleton.mp isLast]
      exact below other member
    · intro other member
      rcases List.mem_append.mp member with member | member
      · exact valid other member
      · rw [List.mem_singleton.mp member]
        exact shape.2
    · intro other member isSet
      rcases List.mem_append.mp member with member | member
      · exact ⟨(frame other member isSet).1, (unset other member isSet).1⟩
      · rw [List.mem_singleton.mp member] at isSet
        have clear := single (beq_iff_eq.mpr (instruction.encodes.set_frame_iff.mpr isSet))
        exact ⟨by simpa using clear.1.1, clear.1.2⟩
    · refine List.pairwise_append.mpr ⟨once, List.pairwise_singleton _ _, ?_⟩
      intro other member last isLast both
      rw [List.mem_singleton.mp isLast] at both
      exact (unset other member both.1).2 both.2

/-- What ran of a prologue is the beginning of it. -/
theorem executed_part (prologue : List Instruction)
    (ordered : prologue.Pairwise fun earlier later =>
      earlier.slot.codeOffset ≤ later.slot.codeOffset) :
    ∃ later, prologue.map Instruction.operation =
      executed inPrologue prologueOffset prologue ++ later := by
  induction prologue using List.reverseRecOn with
  | nil => exact ⟨[], rfl⟩
  | append_singleton prologue instruction ih =>
    obtain ⟨earlier, -, across⟩ := List.pairwise_append.mp ordered
    obtain ⟨later, split⟩ := ih earlier
    rw [executed_concat, List.map_append, List.map_singleton]
    by_cases ran : instruction.hasRun inPrologue prologueOffset = true
    · have all : prologue.filter (Instruction.hasRun inPrologue prologueOffset) = prologue := by
        refine List.filter_eq_self.mpr fun other member => ?_
        have before := across other member instruction (by simp)
        simp only [Instruction.hasRun, Bool.or_eq_true, Bool.not_eq_true',
          decide_eq_true_eq] at ran ⊢
        exact ran.imp id before.trans
      exact ⟨[], by rw [if_pos ran, executed, all, List.append_nil]⟩
    · exact ⟨later ++ [instruction.operation], by
        rw [if_neg ran, List.append_nil, split, List.append_assoc]⟩

end Loops

end SadLayer.Unwind
