import SadLayer.DeclaredEpilogues
import SadLayer.Library.Exact
import SadLayer.Library.Strides

/-! The loops over unwind codes by the indices of their slots. Over accepted
codes none of them looks outside, turns on the spot, or stands within an operation. -/
namespace SadLayer.Unwind
open SadLayer.Library

/-! ### The prefix of descriptors -/

def descriptorRound (codes : List CodeSlot) (index : Nat) (hasEpilogue : Bool) :
    Except Stray (Stride Bool (Nat × Bool)) := do
  let descriptor ← lookAt codes index
  if descriptor.operation ≠ .epilog then .ok (.stop (index, hasEpilogue))
  else if descriptor.distance = 0 then .ok (.stop (index + 1, hasEpilogue))
  else .ok (.onward 1 true)

/-- Whether the slot at the index is one more descriptor. -/
def descriptorFollows (codes : List CodeSlot) (index : Nat) : Except Stray Bool :=
  if index < codes.length then do
    let slot ← lookAt codes index
    .ok (slot.operation == .epilog)
  else .ok false

/-- `parse_v2_epilogue_prefix`. -/
def walkPrefix (codes : List CodeSlot) (version : Nat) : Except Stray (Option V2EpilogueInfo) :=
  if version ≠ 2 ∨ codes.length = 0 then .ok (some {})
  else do
    let first ← lookAt codes 0
    if first.operation ≠ .epilog then .ok (some {})
    else if first.low = 0 ∨ first.info > 1 then .ok none
    else do
      let (index, hasEpilogue) ← (strideFrom codes.length (descriptorRound codes) Prod.mk 1
        (first.info == 1)).2
      if hasEpilogue = false ∨ index % 2 = 1 then .ok none
      else do
        let follows ← descriptorFollows codes index
        if follows then .ok none
        else .ok (some {
          present := true
          implicitAtEnd := first.info == 1
          size := first.low.toNat
          codeSlots := index })

/-! ### The operations -/

/-- The loads of `validate_unwind_codes`, of an offset that counts bytes. -/
def farOffsetAligned (codes : List CodeSlot) (index : Nat) (slot : CodeSlot) :
    Except Stray Bool :=
  if slot.operation = .saveNonvolFar then do
    let operands ← lookAtRange codes (index + 1) 2
    .ok (operand32 operands % 8 == 0)
  else if slot.operation = .saveXmm128Far then do
    let operands ← lookAtRange codes (index + 1) 2
    .ok (operand32 operands % 16 == 0)
  else .ok true

def validateRound (codes : List CodeSlot) (version prologueSize frameRegister frameOffset : Nat)
    (index : Nat) (state : Nat × Bool) : Except Stray (Stride (Nat × Bool) (Option Bool)) := do
  let slot ← lookAt codes index
  let slots := unwindOperationSlots version slot.operation slot.info
  if slot.operation = .epilog ∨ slot.codeOffset > prologueSize ∨ slot.codeOffset > state.1 ∨
      slots = 0 ∨ slots > codes.length - index ∨
      unwindOperationIsValid slot.operation slot.info = false then .ok (.stop none)
  else if slot.operation = .setFpreg ∧ (frameRegister = 0 ∨ state.2 = true ∨
      (slot.info ≠ 0 ∧ slot.info ≠ frameOffset)) then .ok (.stop none)
  else do
    let aligned ← farOffsetAligned codes index slot
    if aligned then
      .ok (.onward slots (slot.codeOffset, state.2 || slot.operation == .setFpreg))
    else .ok (.stop none)

/-- `validate_unwind_codes`, with the indices at which its loop stands. -/
def walkValidation (codes : List CodeSlot)
    (version prologueSize frameRegister frameOffset : Nat) :
    List Nat × Except Stray (Option (V2EpilogueInfo × Bool)) :=
  match walkPrefix codes version with
  | .error stray => ([], .error stray)
  | .ok none => ([], .ok none)
  | .ok (some epilogues) =>
    let walked := strideFrom codes.length
      (validateRound codes version prologueSize frameRegister frameOffset)
      (fun _ state => some state.2) epilogues.codeSlots (255, false)
    (walked.1, walked.2.map fun found => found.map fun hasFrameSetup => (epilogues, hasFrameSetup))

def establishedRound (codes : List CodeSlot) (version : Nat) (inPrologue : Bool)
    (prologueOffset index : Nat) (_ : Unit) : Except Stray (Stride Unit (Option Bool)) := do
  let slot ← lookAt codes index
  if slot.operation = .setFpreg then
    .ok (.stop (some (!inPrologue || slot.codeOffset ≤ prologueOffset)))
  else .ok (.onward (unwindOperationSlots version slot.operation slot.info) ())

/-- `frame_register_is_established`. -/
def walkEstablished (codes : List CodeSlot) (version : Nat) (inPrologue : Bool)
    (prologueOffset : Nat) : List Nat × Except Stray (Option Bool) :=
  strideFrom codes.length (establishedRound codes version inPrologue prologueOffset)
    (fun _ _ => some false) 0 ()

/-- How many slots behind an operation the `switch` of `apply_unwind_codes` loads. -/
def operandCount (slot : CodeSlot) : Nat :=
  match slot.operation with
  | .allocLarge => if slot.info = 0 then 1 else 2
  | .saveNonvol | .saveXmm128 => 1
  | .saveNonvolFar | .saveXmm128Far => 2
  | _ => 0

def applyRound (codes : List CodeSlot) (version : Nat) (inPrologue : Bool)
    (prologueOffset frameBase : Nat) (stack : Stack) (index : Nat) (state : UnwindState) :
    Except Stray (Stride UnwindState (Walked UnwindState)) := do
  let slot ← lookAt codes index
  let slots := unwindOperationSlots version slot.operation slot.info
  if inPrologue = true ∧ slot.codeOffset > prologueOffset then .ok (.onward slots state)
  else do
    let operands ← lookAtRange codes (index + 1) (operandCount slot)
    match applyOperation stack frameBase slot operands state with
    | none => .ok (.stop .rejected)
    | some state => .ok (.onward slots state)

/-- `apply_unwind_codes`. -/
def walkCodes (codes : List CodeSlot) (version : Nat) (inPrologue : Bool)
    (prologueOffset frameBase : Nat) (stack : Stack) (state : UnwindState) :
    List Nat × Except Stray (Walked UnwindState) :=
  strideFrom codes.length (applyRound codes version inPrologue prologueOffset frameBase stack)
    (fun _ state => .done state) 0 state

/-! ### The scans for pushes -/

/-- Both scans of `unwind_v2_epilogue`: the one that selects a record answers with the index of the
first push, the one of its parents is content without one. -/
def scanRound (codes : List CodeSlot) (version : Nat) (pushed : Nat → α) (rejected : α)
    (index : Nat) (_ : Unit) : Except Stray (Stride Unit α) := do
  let slot ← lookAt codes index
  let slots := unwindOperationSlots version slot.operation slot.info
  if slot.operation = .pushNonvol ∨ slot.operation = .pushMachframe then .ok (.stop (pushed index))
  else if slots = 0 ∨ slots > codes.length - index then .ok (.stop rejected)
  else .ok (.onward slots ())

/-- The scan of the selected record: the index it ends at. -/
def walkToPush (codes : List CodeSlot) (version codeSlots : Nat) :
    List Nat × Except Stray (Option Nat) :=
  strideFrom codes.length (scanRound codes version some none) (fun index _ => some index)
    codeSlots ()

/-- The scan of a parent: whether it pushes nothing. -/
def walkParent (codes : List CodeSlot) (version codeSlots : Nat) :
    List Nat × Except Stray Bool :=
  strideFrom codes.length (scanRound codes version (fun _ => false) false) (fun _ _ => true)
    codeSlots ()

/-! ### The prefix is parsed -/

section Prefix
variable {codes : List CodeSlot} {index : Nat}

theorem drop_inside (inside : index < codes.length) :
    codes.drop index = codes[index] :: codes.drop (index + 1) := List.drop_eq_getElem_cons inside

theorem walk_descriptors (index : Nat) (hasEpilogue : Bool) :
    (strideFrom codes.length (descriptorRound codes) Prod.mk index hasEpilogue).2 =
      .ok (scanDescriptors (codes.drop index) index hasEpilogue) := by
  refine stride_keeps (fun index found => scanDescriptors (codes.drop index) index found) ?_ ?_
  · intro index found ended
    rw [List.drop_eq_nil_of_le ended, scanDescriptors]
  · intro index found inside
    by_cases plain : codes[index].operation ≠ .epilog
    · refine .stop ?_
      rw [drop_inside inside, scanDescriptors, if_pos plain, descriptorRound,
        look_at_inside inside, ok_bind, if_pos plain]
    by_cases padding : codes[index].distance = 0
    · refine .stop ?_
      rw [drop_inside inside, scanDescriptors, if_neg plain, if_pos padding, descriptorRound,
        look_at_inside inside, ok_bind, if_neg plain, if_pos padding]
    · refine .onward 1 true ?_ Nat.one_pos ?_
      · rw [descriptorRound, look_at_inside inside, ok_bind, if_neg plain, if_neg padding]
      · rw [drop_inside inside, scanDescriptors, if_neg plain, if_neg padding]

theorem descriptor_follows (index : Nat) : descriptorFollows codes index =
    .ok (decide ((codes.drop index).head?.map CodeSlot.operation = some .epilog)) := by
  unfold descriptorFollows
  by_cases inside : index < codes.length
  · rw [if_pos inside, look_at_inside inside, ok_bind, drop_inside inside]
    have same : (codes[index] :: codes.drop (index + 1)).head?.map CodeSlot.operation =
        some .epilog ↔ codes[index].operation = .epilog := by
      rw [List.head?_cons, Option.map_some, Option.some_inj]
    rw [decide_eq_decide.mpr same]
    rfl
  · rw [if_neg inside, List.drop_eq_nil_of_le (by omega)]
    rfl

/-- The prefix is parsed within the codes, whatever they are. -/
theorem prefix_walked (version : Nat) :
    walkPrefix codes version = .ok (parseV2EpiloguePrefix codes version) := by
  cases codes with
  | nil =>
    unfold walkPrefix
    rw [if_pos (.inr rfl)]
    rfl
  | cons first descriptors =>
    unfold walkPrefix
    rw [parseV2EpiloguePrefix]
    by_cases other : version ≠ 2
    · rw [if_pos (.inl other), if_pos (.inl other)]
    have filled : ¬(version ≠ 2 ∨ (first :: descriptors).length = 0) := by simpa using other
    rw [if_neg filled, look_at_inside (by simp), ok_bind]
    rw [List.getElem_cons_zero]
    by_cases plain : first.operation ≠ .epilog
    · rw [if_pos plain, if_pos (.inr plain)]
    rw [if_neg plain, if_neg (not_or.mpr ⟨other, plain⟩)]
    by_cases bad : first.low = 0 ∨ first.info > 1
    · rw [if_pos bad, if_pos bad]
    rw [if_neg bad, if_neg bad, walk_descriptors, List.drop_one, List.tail_cons, ok_bind]
    cases scanDescriptors descriptors 1 (first.info == 1) with
    | mk index hasEpilogue =>
      dsimp only
      rw [descriptor_follows, ok_bind]
      by_cases odd : hasEpilogue = false ∨ index % 2 = 1
      · rw [if_pos odd, if_pos (or_assoc.mp (.inl odd))]
      by_cases more : ((first :: descriptors).drop index).head?.map CodeSlot.operation =
          some .epilog
      · rw [if_neg odd, if_pos (decide_eq_true more), if_pos (.inr (.inr more))]
      · rw [if_neg odd, if_neg (fun holds => more (of_decide_eq_true holds)),
          if_neg (fun any => (or_assoc.mpr any).elim odd more)]


end Prefix

/-! ### The operations are walked -/

/-- The slots of the operation at an index. -/
def codeWidth (codes : List CodeSlot) (version index : Nat) : Nat :=
  match codes[index]? with
  | some slot => unwindOperationSlots version slot.operation slot.info
  | none => 0

section Operations
variable {codes : List CodeSlot} {version prologueSize frameRegister frameOffset index : Nat}

theorem code_width_inside (inside : index < codes.length) : codeWidth codes version index =
    unwindOperationSlots version codes[index].operation codes[index].info := by
  unfold codeWidth
  rw [List.getElem?_eq_getElem inside]

/-- What a loop over codes does behind an operation it does behind that many slots. -/
theorem drop_operation {slots : Nat} (filled : 0 < slots) :
    (codes.drop (index + 1)).drop (slots - 1) = codes.drop (index + slots) := by
  rw [List.drop_drop]
  congr 1
  omega

theorem operand16_take {operands : List CodeSlot} {count : Nat} (one : 1 ≤ count) :
    operand16 (operands.take count) = operand16 operands := by
  unfold operand16
  rw [List.getD_eq_getElem?_getD, List.getD_eq_getElem?_getD,
    List.getElem?_take_of_lt (by omega)]

theorem operand32_take {operands : List CodeSlot} {count : Nat} (two : 2 ≤ count) :
    operand32 (operands.take count) = operand32 operands := by
  unfold operand32
  simp only [List.getD_eq_getElem?_getD]
  rw [List.getElem?_take_of_lt (by omega), List.getElem?_take_of_lt (by omega)]

theorem far_offset_aligned {slot : CodeSlot}
    (fits : slot.operation = .saveNonvolFar ∨ slot.operation = .saveXmm128Far →
      index + 3 ≤ codes.length) :
    farOffsetAligned codes index slot = .ok (
      !(slot.operation == .saveNonvolFar && operand32 (codes.drop (index + 1)) % 8 != 0) &&
      !(slot.operation == .saveXmm128Far && operand32 (codes.drop (index + 1)) % 16 != 0)) := by
  unfold farOffsetAligned
  by_cases nonvol : slot.operation = .saveNonvolFar
  · have inside := fits (.inl nonvol)
    have other : (slot.operation == .saveXmm128Far) = false := by
      rw [nonvol]
      rfl
    rw [if_pos nonvol, look_at_range_inside (by omega), ok_bind, operand32_take (le_refl 2), other]
    simp [nonvol, bne]
  by_cases xmm : slot.operation = .saveXmm128Far
  · have inside := fits (.inr xmm)
    rw [if_neg nonvol, if_pos xmm, look_at_range_inside (by omega), ok_bind,
      operand32_take (le_refl 2), beq_false_of_ne nonvol]
    simp [xmm, bne]
  · rw [if_neg nonvol, if_neg xmm, beq_false_of_ne nonvol, beq_false_of_ne xmm]
    rfl

/-- The checks of an operation, as the source makes them one after the other. -/
theorem operation_is_accepted {slot : CodeSlot} {operands : List CodeSlot} {previous : Nat}
    {found : Bool} :
    operationIsAccepted version prologueSize frameRegister frameOffset slot operands previous
        found = true ↔
      ¬(slot.operation = .epilog ∨ slot.codeOffset > prologueSize ∨ slot.codeOffset > previous ∨
        unwindOperationSlots version slot.operation slot.info = 0 ∨
        unwindOperationSlots version slot.operation slot.info > operands.length + 1 ∨
        unwindOperationIsValid slot.operation slot.info = false) ∧
      ¬(slot.operation = .setFpreg ∧ (frameRegister = 0 ∨ found = true ∨
        (slot.info ≠ 0 ∧ slot.info ≠ frameOffset))) ∧
      (!(slot.operation == .saveNonvolFar && operand32 operands % 8 != 0) &&
        !(slot.operation == .saveXmm128Far && operand32 operands % 16 != 0)) = true := by
  unfold operationIsAccepted
  simp only [Bool.and_eq_true, Bool.not_eq_true', Bool.or_eq_false_iff, Bool.and_eq_false_iff,
    decide_eq_false_iff_not, beq_eq_false_iff_ne, bne_eq_false_iff_eq, Bool.not_eq_false', not_or,
    not_and_or, not_not, ne_eq, Bool.not_eq_true, Bool.not_eq_false, and_assoc]

/-- A round of the validation does what the check of one operation does. -/
theorem validate_round (inside : index < codes.length) (previous : Nat) (found : Bool) :
    validateRound codes version prologueSize frameRegister frameOffset index (previous, found) =
      .ok (if operationIsAccepted version prologueSize frameRegister frameOffset codes[index]
          (codes.drop (index + 1)) previous found
        then .onward (unwindOperationSlots version codes[index].operation codes[index].info)
          (codes[index].codeOffset, found || codes[index].operation == .setFpreg)
        else .stop none) := by
  have left : (codes.drop (index + 1)).length + 1 = codes.length - index := by
    rw [List.length_drop]
    omega
  unfold validateRound
  rw [look_at_inside inside, ok_bind]
  dsimp only
  have checks := @operation_is_accepted version prologueSize frameRegister frameOffset codes[index]
    (codes.drop (index + 1)) previous found
  rw [left] at checks
  split
  · rename_i bad
    rw [if_neg fun accepted => (checks.mp accepted).1 bad]
  rename_i good
  split
  · rename_i bad
    rw [if_neg fun accepted => (checks.mp accepted).2.1 bad]
  rename_i framed
  rw [far_offset_aligned, ok_bind]
  · split
    · rename_i aligned
      rw [if_pos (checks.mpr ⟨good, framed, aligned⟩)]
    · rename_i aligned
      rw [if_neg fun accepted => aligned (checks.mp accepted).2.2]
  · intro far
    have three : unwindOperationSlots version codes[index].operation codes[index].info = 3 := by
      rcases far with nonvol | xmm
      · rw [nonvol]
        rfl
      · rw [xmm]
        rfl
    rw [three] at good
    omega

theorem walk_operations (index previous : Nat) (found : Bool) :
    (strideFrom codes.length
        (validateRound codes version prologueSize frameRegister frameOffset)
        (fun _ state => some state.2) index (previous, found)).2 =
      .ok (validateOperations version prologueSize frameRegister frameOffset (codes.drop index) 0
        previous found) := by
  refine stride_keeps (fun index (state : Nat × Bool) => validateOperations version prologueSize
    frameRegister frameOffset (codes.drop index) 0 state.1 state.2) ?_ ?_
  · intro index state ended
    rw [List.drop_eq_nil_of_le ended, validateOperations]
  · rintro index ⟨previous, found⟩ inside
    have round := @validate_round codes version prologueSize frameRegister frameOffset index inside
      previous found
    by_cases accepted : operationIsAccepted version prologueSize frameRegister frameOffset
        codes[index] (codes.drop (index + 1)) previous found = true
    · rw [if_pos accepted] at round
      have checks := (operation_is_accepted.mp accepted).1
      have filled : 0 < unwindOperationSlots version codes[index].operation codes[index].info := by
        omega
      refine .onward _ _ round filled ?_
      rw [drop_inside inside, validateOperations, if_pos accepted, validate_drop,
        drop_operation filled]
    · rw [if_neg accepted] at round
      refine .stop ?_
      rw [round, drop_inside inside, validateOperations, if_neg accepted]

/-- A validation that accepts has walked over all slots. -/
theorem walk_operations_tiles {visited : List Nat} {previous : Nat} {found hasFrameSetup : Bool}
    (le : index ≤ codes.length)
    (walks : strideFrom codes.length
      (validateRound codes version prologueSize frameRegister frameOffset)
      (fun _ state => some state.2) index (previous, found) =
        (visited, .ok (some hasFrameSetup))) :
    Tiled (codeWidth codes version) index visited codes.length := by
  refine stride_tiles le ?_ ?_ walks
  · rintro index ⟨previous, found⟩ cells next inside goes
    rw [validate_round inside] at goes
    split at goes
    · rename_i accepted
      have checks := (operation_is_accepted.mp accepted).1
      rw [List.length_drop] at checks
      cases goes
      exact ⟨(code_width_inside inside).symm, by omega⟩
    · cases goes
  · rintro index ⟨previous, found⟩ inside stops
    rw [validate_round inside] at stops
    split at stops <;> cases stops

end Operations

/-! ### Walks over a tiling -/

/-- A walk that comes to an answer without going astray, and goes from stop to stop until then. -/
def WalksOn (stops : List Nat) (walked : List Nat × Except Stray α) (answer : α) : Prop :=
  walked.2 = .ok answer ∧ walked.1 <+: stops

/-- The indices of every other of so many slots. -/
def pairsBelow (slots : Nat) : List Nat := (List.range (slots / 2)).map (2 * ·)

section Tilings
variable {codes : List CodeSlot} {version start : Nat} {stops : List Nat} {inPrologue : Bool}
  {prologueOffset frameBase : Nat} {stack : Stack}

/-- At a stop there is an operation that ends before the codes do. -/
theorem stop_inside {index : Nat}
    (tiled : Tiled (codeWidth codes version) start stops codes.length) (member : index ∈ stops) :
    ∃ inside : index < codes.length,
      0 < unwindOperationSlots version codes[index].operation codes[index].info ∧
      index + unwindOperationSlots version codes[index].operation codes[index].info ≤
        codes.length := by
  obtain ⟨filled, fits⟩ := tiled.behind member
  have inside : index < codes.length := by omega
  rw [code_width_inside inside] at filled fits
  exact ⟨inside, filled, fits⟩

theorem walk_established (tiled : Tiled (codeWidth codes version) 0 stops codes.length) :
    WalksOn stops (walkEstablished codes version inPrologue prologueOffset)
      (frameRegisterIsEstablished version inPrologue prologueOffset codes 0) := by
  have walked := tiled.walk (establishedRound codes version inPrologue prologueOffset)
    (fun _ _ => some false)
    (fun index _ => frameRegisterIsEstablished version inPrologue prologueOffset
      (codes.drop index) 0) () (fun _ => ?_) fun index _ member => ?_
  · exact ⟨walked.1, walked.2.1⟩
  · rw [List.drop_length, frameRegisterIsEstablished]
  · obtain ⟨inside, filled, -⟩ := stop_inside tiled member
    by_cases sets : codes[index].operation = .setFpreg
    · refine .stop ?_
      rw [drop_inside inside, frameRegisterIsEstablished, if_pos sets, establishedRound,
        look_at_inside inside, ok_bind, if_pos sets]
    · refine .onward _ () ?_ (code_width_inside inside).symm ?_
      · rw [establishedRound, look_at_inside inside, ok_bind, if_neg sets]
      · rw [drop_inside inside, frameRegisterIsEstablished, if_neg sets]
        obtain ⟨slots, taken⟩ := Nat.exists_eq_succ_of_ne_zero (Nat.pos_iff_ne_zero.mp filled)
        have behind := @drop_operation codes index _ filled
        rw [taken] at behind ⊢
        rw [← behind, ← established_drop]
        rfl

/-- The `switch` looks at no slot behind those of its operation. -/
theorem operand_count_fits {slot : CodeSlot}
    (filled : 0 < unwindOperationSlots version slot.operation slot.info) :
    operandCount slot + 1 ≤ unwindOperationSlots version slot.operation slot.info := by
  revert filled
  unfold operandCount unwindOperationSlots
  cases slot.operation <;> dsimp only <;> intro filled
  case allocLarge =>
    split_ifs at filled ⊢ <;> omega
  all_goals omega

theorem apply_operation_take {slot : CodeSlot} {operands : List CodeSlot} {state : UnwindState} :
    applyOperation stack frameBase slot (operands.take (operandCount slot)) state =
      applyOperation stack frameBase slot operands state := by
  unfold applyOperation operandCount allocLargeSize
  cases slot.operation <;> dsimp only
  case allocLarge =>
    by_cases word : slot.info = 0
    · simp only [if_pos word, operand16_take (le_refl 1)]
    · simp only [if_neg word, operand32_take (le_refl 2)]
  all_goals
    simp only [operand16_take (le_refl 1), operand32_take (le_refl 2)]

/-- The operands of an operation at a stop lie before the next one. -/
theorem apply_keeps {index : Nat} {state : UnwindState}
    (tiled : Tiled (codeWidth codes version) start stops codes.length) (member : index ∈ stops) :
    Keeps (applyRound codes version inPrologue prologueOffset frameBase stack)
      (fun index state => applyUnwindCodes version inPrologue prologueOffset frameBase stack
        (codes.drop index) 0 state) (· = codeWidth codes version index) index state := by
  obtain ⟨inside, filled, fits⟩ := stop_inside tiled member
  have loads := operand_count_fits filled
  have behind := @drop_operation codes index _ filled
  obtain ⟨slots, taken⟩ := Nat.exists_eq_succ_of_ne_zero (Nat.pos_iff_ne_zero.mp filled)
  have onward (state : UnwindState) :
      applyUnwindCodes version inPrologue prologueOffset frameBase stack
        (codes.drop (index + 1)) slots state =
      applyUnwindCodes version inPrologue prologueOffset frameBase stack (codes.drop
        (index + unwindOperationSlots version codes[index].operation codes[index].info)) 0
        state := by
    rw [apply_drop, ← behind, taken, Nat.succ_sub_one]
  by_cases later : inPrologue = true ∧ codes[index].codeOffset > prologueOffset
  · refine .onward _ state ?_ (code_width_inside inside).symm ?_
    · rw [applyRound, look_at_inside inside, ok_bind]
      exact if_pos later
    · rw [drop_inside inside, applyUnwindCodes, if_pos later, ← onward, taken]
  have round : applyRound codes version inPrologue prologueOffset frameBase stack index state =
      (applyOperation stack frameBase codes[index] (codes.drop (index + 1)) state).elim
        (.ok (.stop .rejected)) fun state => .ok (.onward
          (unwindOperationSlots version codes[index].operation codes[index].info) state) := by
    rw [applyRound, look_at_inside inside, ok_bind]
    dsimp only
    rw [if_neg later, look_at_range_inside (by omega), ok_bind, apply_operation_take]
    cases applyOperation stack frameBase codes[index] (codes.drop (index + 1)) state <;> rfl
  cases applied : applyOperation stack frameBase codes[index] (codes.drop (index + 1)) state with
  | none =>
    rw [applied] at round
    refine .stop ?_
    rw [round, drop_inside inside, applyUnwindCodes, if_neg later, applied]
    rfl
  | some after =>
    rw [applied] at round
    refine .onward _ after round (code_width_inside inside).symm ?_
    rw [drop_inside inside, applyUnwindCodes, if_neg later, applied, ← onward, taken]

theorem apply_round_stops {index : Nat} {state : UnwindState} {answer : Walked UnwindState}
    (inside : index < codes.length)
    (stops : applyRound codes version inPrologue prologueOffset frameBase stack index state =
      .ok (.stop answer)) : answer = .rejected := by
  rw [applyRound, look_at_inside inside, ok_bind] at stops
  dsimp only at stops
  split at stops
  · cases stops
  cases loaded : lookAtRange codes (index + 1) (operandCount codes[index]) with
  | error stray =>
    rw [loaded] at stops
    cases stops
  | ok operands =>
    rw [loaded, ok_bind] at stops
    cases applied : applyOperation stack frameBase codes[index] operands state with
    | none =>
      rw [applied] at stops
      cases stops
      rfl
    | some after =>
      rw [applied] at stops
      cases stops

/-- Undoing operations passes over all stops, unless one of them cannot be undone. -/
theorem walk_codes (tiled : Tiled (codeWidth codes version) 0 stops codes.length)
    (state : UnwindState) :
    WalksOn stops (walkCodes codes version inPrologue prologueOffset frameBase stack state)
        (applyUnwindCodes version inPrologue prologueOffset frameBase stack codes 0 state) ∧
      ∀ after,
        applyUnwindCodes version inPrologue prologueOffset frameBase stack codes 0 state =
          .done after →
        (walkCodes codes version inPrologue prologueOffset frameBase stack state).1 = stops := by
  have walked := tiled.walk (applyRound codes version inPrologue prologueOffset frameBase stack)
    (fun _ state => .done state) _ state (fun state => ?_)
    fun index state member => apply_keeps tiled member
  · refine ⟨⟨walked.1, walked.2.1⟩, fun after done => walked.2.2 fun index other member stops => ?_⟩
    have rejected := apply_round_stops (stop_inside tiled member).1 stops
    rw [List.drop_zero, done] at rejected
    cases rejected
  · rw [List.drop_length, applyUnwindCodes]

/-- A scan comes to what its answers make of the codes from the first push on. -/
theorem walk_scan {pushed : Nat → α} {rejected : α} {finish : Nat → Unit → α}
    (tiled : Tiled (codeWidth codes version) start stops codes.length)
    (answer : Option (List CodeSlot) → α)
    (found : ∀ index < codes.length, answer (some (codes.drop index)) = pushed index)
    (ended : answer (some []) = finish codes.length ()) :
    WalksOn stops (strideFrom codes.length (scanRound codes version pushed rejected) finish start ())
      (answer (scanToPush version codes start)) := by
  rw [scan_skip]
  have walked := tiled.walk (scanRound codes version pushed rejected) finish
    (fun index _ => answer (scanToPush version (codes.drop index) 0)) () (fun _ => ?_)
    fun index _ member => ?_
  · exact ⟨walked.1, walked.2.1⟩
  · rw [List.drop_length, scanToPush, ended]
  · obtain ⟨inside, filled, fits⟩ := stop_inside tiled member
    by_cases push : codes[index].operation = .pushNonvol ∨ codes[index].operation = .pushMachframe
    · refine .stop ?_
      rw [scanRound, look_at_inside inside, ok_bind]
      dsimp only
      rw [if_pos push, drop_inside inside, scanToPush, if_pos push, ← drop_inside inside,
        found index inside]
    · have goes : ¬(unwindOperationSlots version codes[index].operation codes[index].info = 0 ∨
          unwindOperationSlots version codes[index].operation codes[index].info >
            codes.length - index) := by
        omega
      have left : (codes.drop (index + 1)).length + 1 = codes.length - index := by
        rw [List.length_drop]
        omega
      refine .onward _ () ?_ (code_width_inside inside).symm ?_
      · rw [scanRound, look_at_inside inside, ok_bind]
        dsimp only
        rw [if_neg push, if_neg goes]
      · rw [drop_inside inside, scanToPush, if_neg push, left, if_neg goes, scan_skip,
          drop_operation filled]

end Tilings

/-! ### Accepted codes -/

section Accepted
variable {codes : List CodeSlot} {version prologueSize frameRegister frameOffset : Nat}
  {epilogues : V2EpilogueInfo} {hasFrameSetup : Bool}

theorem walk_validation : (walkValidation codes version prologueSize frameRegister frameOffset).2 =
    .ok (validateUnwindCodes codes version prologueSize frameRegister frameOffset) := by
  unfold walkValidation validateUnwindCodes
  rw [prefix_walked]
  cases parseV2EpiloguePrefix codes version with
  | none => rfl
  | some epilogues =>
    dsimp only
    rw [walk_operations, ← validate_drop]
    rfl

/-- Behind the prefix the validation stands at all operations. -/
theorem walk_validation_tiles
    (accepted : validateUnwindCodes codes version prologueSize frameRegister frameOffset =
      some (epilogues, hasFrameSetup)) :
    Tiled (codeWidth codes version) epilogues.codeSlots
      (walkValidation codes version prologueSize frameRegister frameOffset).1 codes.length := by
  obtain ⟨parsed, operations⟩ := accepted_parsed accepted
  have outcome := @walk_operations codes version prologueSize frameRegister frameOffset
    epilogues.codeSlots 255 false
  rw [← validate_drop, operations] at outcome
  unfold walkValidation
  rw [prefix_walked, parsed]
  exact walk_operations_tiles (accepted_codes accepted).1 (Prod.ext rfl outcome)

/-- A prefix is of pairs of descriptors, each of which is passed over like an operation. -/
theorem prefix_tiles
    (accepted : validateUnwindCodes codes version prologueSize frameRegister frameOffset =
      some (epilogues, hasFrameSetup)) :
    Tiled (codeWidth codes version) 0 (pairsBelow epilogues.codeSlots) epilogues.codeSlots := by
  obtain ⟨fits, even, described, -⟩ := accepted_codes accepted
  have halves : 2 * (epilogues.codeSlots / 2) = epilogues.codeSlots := by omega
  have pairs : Tiled (codeWidth codes version) 0 (pairsBelow epilogues.codeSlots)
      (2 * (epilogues.codeSlots / 2)) := by
    refine Tiled.pairs fun index below => ?_
    obtain ⟨rfl, all⟩ := described (by omega)
    have inside : index < codes.length := by omega
    have descriptor : codes[index].operation = .epilog :=
      all _ (List.mem_take_iff_getElem.mpr ⟨index, by omega, rfl⟩)
    rw [code_width_inside inside, descriptor]
    rfl
  rwa [halves] at pairs

/-- Whatever the codes, their validation stays inside and ends. Codes that it accepts it has walked
over from the prefix to their end; the walks from their beginning then stand at its stops and at
pairs of descriptors before them, the scans at its stops only, and all of them come to an end
without looking outside. -/
theorem code_walks_inside (codes : List CodeSlot)
    (version prologueSize frameRegister frameOffset : Nat) :
    ∃ boundaries,
      walkValidation codes version prologueSize frameRegister frameOffset = (boundaries,
        .ok (validateUnwindCodes codes version prologueSize frameRegister frameOffset)) ∧
      ∀ epilogues hasFrameSetup,
        validateUnwindCodes codes version prologueSize frameRegister frameOffset =
          some (epilogues, hasFrameSetup) →
        Tiled (codeWidth codes version) epilogues.codeSlots boundaries codes.length ∧
        Tiled (codeWidth codes version) 0 (pairsBelow epilogues.codeSlots ++ boundaries)
          codes.length ∧
        (∀ inPrologue prologueOffset,
          WalksOn (pairsBelow epilogues.codeSlots ++ boundaries)
            (walkEstablished codes version inPrologue prologueOffset)
            (frameRegisterIsEstablished version inPrologue prologueOffset codes 0)) ∧
        (∀ inPrologue prologueOffset frameBase stack state,
          WalksOn (pairsBelow epilogues.codeSlots ++ boundaries)
            (walkCodes codes version inPrologue prologueOffset frameBase stack state)
            (applyUnwindCodes version inPrologue prologueOffset frameBase stack codes 0 state) ∧
          ∀ after,
            applyUnwindCodes version inPrologue prologueOffset frameBase stack codes 0 state =
              .done after →
            (walkCodes codes version inPrologue prologueOffset frameBase stack state).1 =
              pairsBelow epilogues.codeSlots ++ boundaries) ∧
        WalksOn boundaries (walkToPush codes version epilogues.codeSlots)
          ((scanToPush version codes epilogues.codeSlots).map
            fun rest => codes.length - rest.length) ∧
        WalksOn boundaries (walkParent codes version epilogues.codeSlots)
          (decide (scanToPush version codes epilogues.codeSlots = some [])) := by
  refine ⟨_, Prod.ext rfl walk_validation, fun epilogues hasFrameSetup accepted => ?_⟩
  have behind := walk_validation_tiles accepted
  have whole := (prefix_tiles accepted).append behind
  refine ⟨behind, whole, fun _ _ => walk_established whole, fun _ _ _ _ _ => walk_codes whole _,
    walk_scan behind (Option.map fun rest => codes.length - rest.length) ?_ ?_,
    walk_scan behind (fun rest => decide (rest = some [])) ?_ ?_⟩
  · intro index inside
    rw [Option.map_some, List.length_drop]
    exact congrArg some (by omega)
  · rfl
  · intro index inside
    rw [drop_inside inside]
    rfl
  · rfl

/-- A pair of descriptors and the operations at 2 and 4 are walked over. -/
theorem code_walks_inside_declared : ∃ boundaries,
    Tiled (codeWidth (declaredRecord 1).codes 2) 2 boundaries 5 ∧
      WalksOn ([0] ++ boundaries) (walkEstablished (declaredRecord 1).codes 2 false 255)
        (some false) := by
  have accepted : validateUnwindCodes (declaredRecord 1).codes 2 8 0 0 =
      some ((declaredRecord 1).epilogues, false) := by
    decide +kernel
  obtain ⟨boundaries, -, walks⟩ := code_walks_inside (declaredRecord 1).codes 2 8 0 0
  obtain ⟨tiled, -, established, -⟩ := walks _ _ accepted
  exact ⟨boundaries, tiled, established false 255⟩

end Accepted

end SadLayer.Unwind
