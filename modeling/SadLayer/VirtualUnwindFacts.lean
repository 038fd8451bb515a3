import SadLayer.VirtualUnwind

/-! What validation gives the unwinder: every walk over accepted codes comes to an
end, and a chain that was accepted has no handler that could be refused later.
Both passes over a stack therefore see the same frames. -/
namespace SadLayer.Unwind
open SadLayer.Library SadLayer.Pe

theorem ite_error_ok {condition : Prop} [Decidable condition] {status : Status}
    {other : Except Status α} {value : α} :
    (if condition then .error status else other) = .ok value ↔ ¬ condition ∧ other = .ok value := by
  by_cases holds : condition <;> simp [holds]

/-! ### Records -/

/-- What was checked of a record that is read. -/
structure RecordChecked (record : UnwindRecord) : Prop where
  version : record.version = 1 ∨ record.version = 2
  frameRegister : record.frameRegister ≠ 0 →
    isNonvolatileIntegerRegister record.frameRegister = true
  frameOffset : record.frameRegister = 0 → record.frameOffset = 0
  frameOffsetFits : record.frameOffset < 16
  codes : validateUnwindCodes record.codes record.version record.prologueSize
    record.frameRegister record.frameOffset = some (record.epilogues, record.hasFrameSetup)

section Records
variable {module : PeModule} {record : UnwindRecord} {unwindRva : Nat}

theorem unwind_record_at_checked (read : unwindRecordAt module unwindRva = some record) :
    RecordChecked record := by
  unfold unwindRecordAt at read
  simp only [Option.ite_none_left_eq_some, Option.map_eq_some_iff, Prod.exists] at read
  obtain ⟨-, checks, epilogues, hasFrameSetup, codes, rfl⟩ := read
  simp only [not_or, not_and, not_not, Bool.not_eq_false] at checks
  obtain ⟨version, -, -, frameRegister, frameOffset, -⟩ := checks
  have byte := (module.mapped.bytes (unwindRva + 3)).toNat_lt
  exact {
    version := or_iff_not_imp_left.mpr version
    frameRegister := frameRegister
    frameOffset := frameOffset
    frameOffsetFits := by
      unfold byteAt
      simp only
      omega
    codes := codes }

theorem read_unwind_record_some (read : readUnwindRecord module unwindRva = some record) :
    unwindRecordAt module unwindRva = some record ∧ record.trailerRva ≤ uint32Max := by
  unfold readUnwindRecord at read
  rw [Option.ite_none_left_eq_some, Option.filter_eq_some_iff] at read
  exact ⟨read.2.1, by simpa using read.2.2⟩

theorem RecordChecked.frame_register_ne_rsp (checked : RecordChecked record) :
    record.frameRegister ≠ registerRsp := by
  intro same
  have named := checked.frameRegister (by rw [same]; decide)
  rw [same] at named
  contradiction

end Records

/-! ### Walks over codes -/

/-- Codes that fall into operations with the slots they take. -/
inductive Walkable (version : Nat) : List CodeSlot → Prop where
  | nil : Walkable version []
  | operation (slots : unwindOperationSlots version slot.operation slot.info =
      operands.length + 1) (rest : Walkable version codes) :
      Walkable version (slot :: (operands ++ codes))

section Walks
variable {version prologueSize frameRegister frameOffset : Nat} {inPrologue : Bool}
  {prologueOffset frameBase : Nat} {stack : Stack}

theorem apply_drop (codes : List CodeSlot) (skip : Nat) (state : UnwindState) :
    applyUnwindCodes version inPrologue prologueOffset frameBase stack codes skip state =
    applyUnwindCodes version inPrologue prologueOffset frameBase stack (codes.drop skip) 0 state := by
  induction codes generalizing skip with
  | nil => cases skip <;> rfl
  | cons slot codes ih =>
    cases skip with
    | zero => rfl
    | succ skip => exact ih skip

theorem established_drop (codes : List CodeSlot) (skip : Nat) :
    frameRegisterIsEstablished version inPrologue prologueOffset codes skip =
    frameRegisterIsEstablished version inPrologue prologueOffset (codes.drop skip) 0 := by
  induction codes generalizing skip with
  | nil => cases skip <;> rfl
  | cons slot codes ih =>
    cases skip with
    | zero => rfl
    | succ skip => exact ih skip

theorem validate_drop {previous : Nat} {found : Bool} (codes : List CodeSlot) (skip : Nat) :
    validateOperations version prologueSize frameRegister frameOffset codes skip previous found =
    validateOperations version prologueSize frameRegister frameOffset (codes.drop skip) 0 previous
      found := by
  induction codes generalizing skip with
  | nil => cases skip <;> rfl
  | cons slot codes ih =>
    cases skip with
    | zero => rfl
    | succ skip => exact ih skip

theorem apply_skip (operands rest : List CodeSlot) (state : UnwindState) :
    applyUnwindCodes version inPrologue prologueOffset frameBase stack (operands ++ rest)
      operands.length state =
    applyUnwindCodes version inPrologue prologueOffset frameBase stack rest 0 state := by
  rw [apply_drop, List.drop_left]

theorem established_skip (operands rest : List CodeSlot) :
    frameRegisterIsEstablished version inPrologue prologueOffset (operands ++ rest)
      operands.length =
    frameRegisterIsEstablished version inPrologue prologueOffset rest 0 := by
  rw [established_drop, List.drop_left]

theorem validate_skip {previous : Nat} {found : Bool} (operands rest : List CodeSlot) :
    validateOperations version prologueSize frameRegister frameOffset (operands ++ rest)
      operands.length previous found =
    validateOperations version prologueSize frameRegister frameOffset rest 0 previous found := by
  rw [validate_drop, List.drop_left]

theorem Walkable.apply_ends {codes : List CodeSlot} (walkable : Walkable version codes)
    (state : UnwindState) :
    applyUnwindCodes version inPrologue prologueOffset frameBase stack codes 0 state ≠
      .endless := by
  induction walkable generalizing state with
  | nil => simp [applyUnwindCodes]
  | operation slots rest ih =>
    rw [applyUnwindCodes]
    simp only [slots, apply_skip]
    split
    · exact ih state
    · split
      · simp
      · exact ih _

theorem Walkable.established_ends {codes : List CodeSlot} (walkable : Walkable version codes) :
    (frameRegisterIsEstablished version inPrologue prologueOffset codes 0).isSome = true := by
  induction walkable with
  | nil => rfl
  | operation slots rest ih =>
    rw [frameRegisterIsEstablished]
    split
    · rfl
    · simpa only [slots, established_skip] using ih

/-- Codes that pass the checks on operations are walkable. -/
theorem validate_walkable {codes : List CodeSlot} {previous : Nat} {found hasFrameSetup : Bool}
    (accepted : validateOperations version prologueSize frameRegister frameOffset codes 0 previous
      found = some hasFrameSetup) : Walkable version codes := by
  induction length : codes.length using Nat.strong_induction_on
    generalizing codes previous found with
  | _ length' ih =>
    cases codes with
    | nil => exact .nil
    | cons slot rest =>
      rw [validateOperations, Option.ite_none_right_eq_some] at accepted
      obtain ⟨own, later⟩ := accepted
      simp only [operationIsAccepted, Bool.and_eq_true, Bool.not_eq_true', Bool.or_eq_false_iff,
        decide_eq_false_iff_not, beq_eq_false_iff_ne, ne_eq] at own
      have filled := own.1.1.1.1.1.2
      have fits := own.1.1.1.1.2
      obtain ⟨count, slots⟩ := Nat.exists_eq_succ_of_ne_zero filled
      have taken : (rest.take count).length = count :=
        List.length_take_of_le (by omega)
      have split : rest = rest.take count ++ rest.drop count := (List.take_append_drop _ _).symm
      rw [slots, Nat.succ_sub_one] at later
      rw [validate_drop] at later
      rw [split]
      refine .operation (by rw [slots, taken]) (ih _ ?_ later rfl)
      rw [← length, List.length_drop, List.length_cons]
      omega

theorem scan_descriptors_some {codes : List CodeSlot} {index last : Nat}
    {hasEpilogue found : Bool}
    (scanned : scanDescriptors codes index hasEpilogue = (last, found)) :
    ∃ count ≤ codes.length, last = index + count ∧
      ∀ slot ∈ codes.take count, slot.operation = .epilog := by
  induction codes generalizing index hasEpilogue with
  | nil =>
    cases scanned
    exact ⟨0, Nat.le_refl _, rfl, by simp⟩
  | cons descriptor rest ih =>
    rw [scanDescriptors] at scanned
    split at scanned
    · cases scanned
      exact ⟨0, Nat.zero_le _, rfl, by simp⟩
    · rename_i epilog
      rw [not_not] at epilog
      split at scanned
      · cases scanned
        exact ⟨1, by simp, rfl, by simpa using epilog⟩
      · obtain ⟨count, fits, reached, all⟩ := ih scanned
        exact ⟨count + 1, by simpa using fits, by omega, by simpa using ⟨epilog, all⟩⟩

/-- The descriptors before the codes of a record: an even number of slots, all of them of the one
operation. -/
theorem parse_prefix_some {version : Nat} {codes : List CodeSlot} {epilogues : V2EpilogueInfo}
    (parsed : parseV2EpiloguePrefix codes version = some epilogues) :
    epilogues.codeSlots ≤ codes.length ∧ epilogues.codeSlots % 2 = 0 ∧
      (epilogues.codeSlots ≠ 0 → version = 2 ∧
        ∀ slot ∈ codes.take epilogues.codeSlots, slot.operation = .epilog) := by
  cases codes with
  | nil =>
    cases parsed
    simp
  | cons first rest =>
    rw [parseV2EpiloguePrefix] at parsed
    split at parsed
    · cases parsed
      simp
    · rename_i described
      rw [not_or, not_not, not_not] at described
      split at parsed
      · contradiction
      · cases scanned : scanDescriptors rest 1 (first.info == 1) with
        | mk index hasEpilogue =>
          simp only [scanned, Option.ite_none_left_eq_some, Option.some.injEq] at parsed
          obtain ⟨accepted, rfl⟩ := parsed
          obtain ⟨count, fits, rfl, all⟩ := scan_descriptors_some scanned
          rw [not_or, not_or] at accepted
          have even : (1 + count) % 2 = 0 := by omega
          refine ⟨by simp only [List.length_cons]; omega, even, fun _ => ⟨described.1, ?_⟩⟩
          rw [Nat.add_comm 1 count, List.take_succ_cons]
          simpa using ⟨described.2, all⟩

/-- Pairs of descriptors are walked over two slots at a time. -/
theorem Walkable.behind_descriptors {descriptors codes : List CodeSlot}
    (walkable : Walkable 2 codes) (even : descriptors.length % 2 = 0)
    (all : ∀ slot ∈ descriptors, slot.operation = .epilog) : Walkable 2 (descriptors ++ codes) := by
  induction length : descriptors.length using Nat.strong_induction_on
    generalizing descriptors with
  | _ length' ih =>
    match descriptors with
    | [] => exact walkable
    | [descriptor] => simp at even
    | first :: second :: rest =>
      simp only [List.length_cons] at even length
      have later := ih rest.length (by omega) (by omega)
        (fun slot member => all slot (by simp [member])) rfl
      have two : unwindOperationSlots 2 first.operation first.info = [second].length + 1 := by
        rw [all first (by simp)]
        rfl
      have pair := Walkable.operation two later
      rwa [List.singleton_append] at pair

theorem accepted_parsed {codes : List CodeSlot}
    {version prologueSize frameRegister frameOffset : Nat}
    {epilogues : V2EpilogueInfo} {hasFrameSetup : Bool}
    (accepted : validateUnwindCodes codes version prologueSize frameRegister frameOffset =
      some (epilogues, hasFrameSetup)) :
    parseV2EpiloguePrefix codes version = some epilogues ∧
      validateOperations version prologueSize frameRegister frameOffset codes epilogues.codeSlots
        255 false = some hasFrameSetup := by
  unfold validateUnwindCodes at accepted
  cases parsed : parseV2EpiloguePrefix codes version with
  | none =>
    rw [parsed] at accepted
    contradiction
  | some info =>
    simp only [parsed, Option.map_eq_some_iff, Prod.mk.injEq] at accepted
    obtain ⟨found, operations, rfl, rfl⟩ := accepted
    exact ⟨rfl, operations⟩

/-- Accepted codes are pairs of descriptors, with accepted operations behind them. -/
theorem accepted_codes {codes : List CodeSlot}
    {version prologueSize frameRegister frameOffset : Nat}
    {epilogues : V2EpilogueInfo} {hasFrameSetup : Bool}
    (accepted : validateUnwindCodes codes version prologueSize frameRegister frameOffset =
      some (epilogues, hasFrameSetup)) :
    epilogues.codeSlots ≤ codes.length ∧ epilogues.codeSlots % 2 = 0 ∧
      (epilogues.codeSlots ≠ 0 → version = 2 ∧
        ∀ slot ∈ codes.take epilogues.codeSlots, slot.operation = .epilog) ∧
      validateOperations version prologueSize frameRegister frameOffset
        (codes.drop epilogues.codeSlots) 0 255 false = some hasFrameSetup := by
  obtain ⟨parsed, operations⟩ := accepted_parsed accepted
  obtain ⟨fits, even, described⟩ := parse_prefix_some parsed
  rw [validate_drop] at operations
  exact ⟨fits, even, described, operations⟩

/-- Codes that are accepted are walked over to their end, descriptors and all. -/
theorem accepted_walkable {codes : List CodeSlot}
    {version prologueSize frameRegister frameOffset : Nat}
    {epilogues : V2EpilogueInfo} {hasFrameSetup : Bool}
    (accepted : validateUnwindCodes codes version prologueSize frameRegister frameOffset =
      some (epilogues, hasFrameSetup)) :
    Walkable version codes ∧ Walkable version (codes.drop epilogues.codeSlots) := by
  obtain ⟨fits, even, described, operations⟩ := accepted_codes accepted
  have behind := validate_walkable operations
  refine ⟨?_, behind⟩
  by_cases none_ : epilogues.codeSlots = 0
  · rwa [none_] at behind
  · obtain ⟨rfl, all⟩ := described none_
    have taken := List.length_take_of_le fits
    have whole := behind.behind_descriptors (by rw [taken]; exact even) all
    rwa [List.take_append_drop] at whole

end Walks

section Chains
variable {module : PeModule} {record : UnwindRecord}

theorem RecordChecked.walkable (checked : RecordChecked record) :
    Walkable record.version record.codes :=
  (accepted_walkable checked.codes).1

theorem RecordChecked.frame_base_ends (checked : RecordChecked record) (inPrologue : Bool)
    (prologueOffset : Nat) (context : Context) :
    frameBaseOf record inPrologue prologueOffset context ≠ none := by
  have established : (frameIsEstablished record inPrologue prologueOffset).isSome = true := by
    unfold frameIsEstablished
    split
    · rfl
    · split
      · rfl
      · exact checked.walkable.established_ends
  obtain ⟨isEstablished, found⟩ := Option.isSome_iff_exists.mp established
  unfold frameBaseOf
  rw [found]
  cases isEstablished with
  | false => simp
  | true =>
    simp only
    split <;> simp

end Chains

/-! ### Chains -/

/-- The record at which the chain of an entry ends. -/
inductive ChainLast (module : PeModule) : RuntimeFunction → UnwindRecord → Prop where
  | last (read : readUnwindRecord module entry.unwindData = some record)
      (unchained : hasFlag record.flags flagChainInfo = false) : ChainLast module entry record
  | link (read : readUnwindRecord module entry.unwindData = some record)
      (chained : hasFlag record.flags flagChainInfo = true)
      (next : chainedEntry module record = some parent) (rest : ChainLast module parent last) :
      ChainLast module entry last

/-- An accepted record that ends its chain, or leads to an accepted one. -/
inductive AcceptedRecord (module : PeModule) (depth : Nat) (first : Option UnwindRecord)
    (firstRecord record : UnwindRecord) : Prop where
  | last (unchained : hasFlag record.flags flagChainInfo = false)
      (handler : hasFlag record.flags (flagEHandler + flagUHandler) = true →
        handlerIsValid module record.trailerRva = true)
  | link {parent : RuntimeFunction} (chained : hasFlag record.flags flagChainInfo = true)
      (next : chainedEntry module record = some parent)
      (rest : validateUnwindChain module depth (some (first.getD record)) parent = .ok firstRecord)

/-- What an accepted chain shows of its first record, and of the rest of it. -/
theorem accepted_chain_cases {module : PeModule} {depth : Nat} {first : Option UnwindRecord}
    {entry : RuntimeFunction} {firstRecord : UnwindRecord}
    (accepted : validateUnwindChain module (depth + 1) first entry = .ok firstRecord) :
    ∃ record, readUnwindRecord module entry.unwindData = some record ∧
      validateV2EpilogueRanges record entry = true ∧
      AcceptedRecord module depth first firstRecord record := by
  rw [validateUnwindChain] at accepted
  cases read : readUnwindRecord module entry.unwindData with
  | none =>
    rw [read] at accepted
    contradiction
  | some record =>
    simp only [read, ite_error_ok, Bool.not_eq_false] at accepted
    obtain ⟨ranges, -, accepted⟩ := accepted
    refine ⟨record, rfl, ranges, ?_⟩
    by_cases chained : hasFlag record.flags flagChainInfo = true
    · rw [if_pos chained, ite_error_ok, not_or, Bool.not_eq_false, Bool.not_eq_false] at accepted
      exact .link chained (if_pos accepted.1) accepted.2
    · rw [if_neg chained, ite_error_ok, ite_error_ok] at accepted
      refine .last (by simpa using chained) fun named => ?_
      by_contra invalid
      exact accepted.2.1 ⟨named, by simpa using invalid⟩

/-- What walking over the records of an accepted chain comes to: it returns, and where it ends, the
chain ends too, with a valid handler if the last record names one. -/
structure EndsWithChain (module : PeModule) (entry : RuntimeFunction)
    (outcome : Option (Except Status ChainEnd)) : Prop where
  returns : outcome ≠ none
  last : ∀ last, outcome = some (.ok last) → ∃ record, ChainLast module entry record ∧
    last.flags = record.flags ∧ last.trailerRva = record.trailerRva ∧
    (hasFlag last.flags (flagEHandler + flagUHandler) = true →
      handlerIsValid module last.trailerRva = true)

theorem ends_with_chain_of_error {module : PeModule} {entry : RuntimeFunction} {status : Status} :
    EndsWithChain module entry (some (.error status)) where
  returns := by simp
  last := by simp

theorem unwind_records_accepted {module : PeModule} {controlPc : Nat} {stack : Stack}
    {depth : Nat} {first : Option UnwindRecord} {settled : Option (Nat × Bool)}
    {entry : RuntimeFunction} {firstRecord : UnwindRecord} {state : UnwindState}
    (accepted : validateUnwindChain module depth first entry = .ok firstRecord) :
    EndsWithChain module entry
      (unwindRecords module controlPc stack depth settled entry state) := by
  induction depth generalizing first settled entry state with
  | zero => contradiction
  | succ depth ih =>
    obtain ⟨record, read, -, follows⟩ := accepted_chain_cases accepted
    obtain ⟨reread, trailer⟩ := read_unwind_record_some read
    have checked := unwind_record_at_checked reread
    rw [unwindRecords, reread]
    simp only [if_neg (Nat.not_lt.mpr trailer)]
    split
    · exact absurd ‹_› (checked.frame_base_ends _ _ _)
    · exact ends_with_chain_of_error
    split
    · exact absurd ‹_› (checked.walkable.apply_ends _)
    · exact ends_with_chain_of_error
    cases follows with
    | link chained next rest =>
      rw [if_pos chained, next]
      obtain ⟨returns, last⟩ := ih rest
      refine ⟨returns, fun last_ reached => ?_⟩
      obtain ⟨final, leads, facts⟩ := last last_ reached
      exact ⟨final, .link read chained next leads, facts⟩
    | last unchained handler =>
      rw [if_neg (by simp [unchained])]
      refine ⟨by simp, fun last reached => ?_⟩
      cases reached
      exact ⟨record, .last read unchained, rfl, rfl, handler⟩

/-- Behind the first record nothing changes the establisher frame, nor whether a handler may be
called. -/
theorem unwind_records_settled {module : PeModule} {controlPc : Nat} {stack : Stack} {depth : Nat}
    {settled : Nat × Bool} {entry : RuntimeFunction} {state : UnwindState} {last : ChainEnd}
    (reached : unwindRecords module controlPc stack depth (some settled) entry state =
      some (.ok last)) : last.establisherFrame = settled.1 ∧ last.allowHandler = settled.2 := by
  induction depth generalizing entry state with
  | zero => simp [unwindRecords] at reached
  | succ depth ih =>
    rw [unwindRecords] at reached
    simp only [Option.isNone_some, Bool.false_and, Option.getD_some] at reached
    split at reached
    · cases reached
    split at reached
    · cases reached
    · cases reached
    split at reached
    · cases reached
    · cases reached
    split at reached
    · cases reached
    split at reached
    · split at reached
      · cases reached
      · exact ih reached
    · cases reached
      exact ⟨rfl, rfl⟩

/-! ### Handlers -/

/-- The handler types that `sl_win64_virtual_unwind` accepts. -/
inductive HandlerType where
  | none
  | exception
  | termination
  deriving DecidableEq, Repr

def HandlerType.flag : HandlerType → Nat
  | .none => flagNHandler
  | .exception => flagEHandler
  | .termination => flagUHandler

/-- Dispatching asks for handlers of the known types only. -/
theorem handler_flag_known (handlerType : HandlerType) : ¬ (handlerType.flag ≠ flagNHandler ∧
    handlerType.flag ≠ flagEHandler ∧ handlerType.flag ≠ flagUHandler) := by
  rintro ⟨notNone, notException, notTermination⟩
  cases handlerType with
  | none => exact notNone rfl
  | exception => exact notException rfl
  | termination => exact notTermination rfl

theorem has_flag_of_handler {flags : Nat} {handlerType : HandlerType}
    (asked : hasFlag flags handlerType.flag = true) :
    hasFlag flags (flagEHandler + flagUHandler) = true := by
  unfold hasFlag at asked ⊢
  rw [bne_iff_ne] at asked ⊢
  intro none_
  have within : (flagEHandler + flagUHandler) &&& handlerType.flag = handlerType.flag := by
    cases handlerType <;> rfl
  rw [← within, ← Nat.and_assoc, none_, Nat.zero_and] at asked
  contradiction

variable {module : PeModule} {controlPc functionEntry : Nat} {context : Context} {stack : Stack}
  {pointers : Option ContextPointers} {handlerType : HandlerType} {unwound : Unwound}

/-- A handler that was found valid with its chain is not refused when it is looked up. -/
theorem find_handler_accepted {last : ChainEnd}
    (valid : hasFlag last.flags (flagEHandler + flagUHandler) = true →
      handlerIsValid module last.trailerRva = true) (handlerType : HandlerType) :
    ∃ languageHandler, findHandler module handlerType.flag last = .ok languageHandler ∧
      (languageHandler ≠ none →
        last.allowHandler = true ∧ hasFlag last.flags handlerType.flag = true) := by
  unfold findHandler
  by_cases asked : last.allowHandler = true ∧ hasFlag last.flags handlerType.flag = true
  · have named := valid (has_flag_of_handler asked.2)
    have inside : ¬ last.trailerRva + 4 > module.mapped.size := by
      unfold handlerIsValid moduleWindow at named
      simp only [Bool.and_eq_true, decide_eq_true_eq] at named
      omega
    rw [if_pos asked, if_neg (by simp [named, inside])]
    exact ⟨_, rfl, fun _ => asked⟩
  · rw [if_neg asked]
    exact ⟨none, rfl, fun filled => absurd rfl filled⟩

/-- What the caller of an unwind sees of the frame. -/
def Unwound.frame (unwound : Unwound) : Context × Option ContextPointers × Nat :=
  (unwound.context, unwound.pointers, unwound.establisherFrame)

theorem finish_unwind_accepted {last : ChainEnd}
    (valid : hasFlag last.flags (flagEHandler + flagUHandler) = true →
      handlerIsValid module last.trailerRva = true) (handlerType : HandlerType) (stack : Stack) :
    ∃ languageHandler, (languageHandler ≠ none →
        last.allowHandler = true ∧ hasFlag last.flags handlerType.flag = true) ∧
      finishUnwind module handlerType.flag stack last =
        (orFail .invalidImage (finalState stack last)).map fun state => {
          context := state.context
          pointers := state.pointers
          establisherFrame := last.establisherFrame
          languageHandler := languageHandler } := by
  obtain ⟨languageHandler, found, asked⟩ := find_handler_accepted valid handlerType
  refine ⟨languageHandler, asked, ?_⟩
  rw [finishUnwind, found]
  cases finalState stack last <;> rfl

theorem validated_keeps_first {firstRecord first : UnwindRecord} {entry : RuntimeFunction}
    {depth : Nat} (accepted : validateUnwindChain module depth (some first) entry =
      .ok firstRecord) : firstRecord = first := by
  induction depth generalizing entry with
  | zero => contradiction
  | succ depth ih =>
    rw [validateUnwindChain] at accepted
    split at accepted
    · contradiction
    · simp only [ite_error_ok, Option.getD_some] at accepted
      obtain ⟨-, -, accepted⟩ := accepted
      split at accepted
      · exact ih (ite_error_ok.mp accepted).2
      · rw [ite_error_ok, ite_error_ok] at accepted
        cases accepted.2.2
        rfl

/-- Validation answers with the first record of the chain. -/
theorem validated_first {firstRecord : UnwindRecord} {entry : RuntimeFunction} {depth : Nat}
    (accepted : validateUnwindChain module depth none entry = .ok firstRecord) :
    readUnwindRecord module entry.unwindData = some firstRecord := by
  cases depth with
  | zero => contradiction
  | succ depth =>
    rw [validateUnwindChain] at accepted
    split at accepted
    · contradiction
    · rename_i record read
      simp only [ite_error_ok, Option.getD_none] at accepted
      obtain ⟨-, -, accepted⟩ := accepted
      rw [read]
      split at accepted
      · rw [validated_keeps_first (ite_error_ok.mp accepted).2]
      · rw [ite_error_ok, ite_error_ok] at accepted
        cases accepted.2.2
        rfl

section Validated
variable {firstRecord : UnwindRecord} {entry : RuntimeFunction} {state : UnwindState}

theorem initial_establisher_ends
    (accepted : validateUnwindChain module maxChainDepth none entry = .ok firstRecord) :
    initialEstablisher module controlPc entry firstRecord context ≠ none := by
  obtain ⟨read, -⟩ := read_unwind_record_some (validated_first accepted)
  exact (unwind_record_at_checked read).frame_base_ends _ _ _

theorem unwind_validated_returns
    (accepted : validateUnwindChain module maxChainDepth none entry = .ok firstRecord) :
    unwindValidated module handlerType.flag controlPc entry firstRecord stack state ≠ none := by
  unfold unwindValidated
  split
  · exact absurd ‹_› (initial_establisher_ends accepted)
  · simp
  split
  · simp
  · simp
  split
  · exact absurd ‹_› (unwind_records_accepted accepted).returns
  · simp
  · simp

/-- The handler type asked for changes nothing but the handler. -/
theorem unwind_validated_same (left right : HandlerType)
    (accepted : validateUnwindChain module maxChainDepth none entry = .ok firstRecord) :
    (unwindValidated module left.flag controlPc entry firstRecord stack state).map
      (Except.map Unwound.frame) =
    (unwindValidated module right.flag controlPc entry firstRecord stack state).map
      (Except.map Unwound.frame) := by
  unfold unwindValidated
  rcases initialEstablisher module controlPc entry firstRecord state.context with
    _ | status | establisherFrame
  · rfl
  · rfl
  rcases unwindEpilogue module entry firstRecord controlPc stack state with
    status | (_ | unwound)
  · rfl
  · have walked := @unwind_records_accepted module controlPc stack _ none none entry firstRecord
      state accepted
    rcases reached : unwindRecords module controlPc stack maxChainDepth none entry state with
      _ | status | last
    · rfl
    · rfl
    obtain ⟨record, -, -, -, valid⟩ := walked.last last reached
    obtain ⟨leftHandler, -, leftEnds⟩ := finish_unwind_accepted valid left stack
    obtain ⟨rightHandler, -, rightEnds⟩ := finish_unwind_accepted valid right stack
    simp only [leftEnds, rightEnds]
    cases finalState stack last <;> rfl
  · rfl

/-- What the first record settles for the whole chain. -/
theorem unwind_records_first {depth : Nat} {last : ChainEnd}
    (read : unwindRecordAt module entry.unwindData = some firstRecord)
    (inside : entry.beginAddress ≤ controlPc - module.mapped.loadBase)
    (reached : unwindRecords module controlPc stack depth none entry state = some (.ok last)) :
    initialEstablisher module controlPc entry firstRecord state.context =
        some (.ok last.establisherFrame) ∧
      (last.allowHandler = true ↔
        firstRecord.prologueSize ≤ controlPc - module.mapped.loadBase - entry.beginAddress) := by
  cases depth with
  | zero => cases reached
  | succ depth =>
    rw [unwindRecords] at reached
    simp only [read, if_pos inside, Option.isNone_none, Bool.true_and, Option.getD_none] at reached
    unfold initialEstablisher
    split at reached
    · cases reached
    · cases reached
    rename_i frameBase base
    suffices settled : last.establisherFrame = frameBase ∧ last.allowHandler =
        !decide (controlPc - module.mapped.loadBase - entry.beginAddress <
          firstRecord.prologueSize) by
      refine ⟨base.trans (by rw [settled.1]), ?_⟩
      rw [settled.2]
      simp
    split at reached
    · cases reached
    · cases reached
    split at reached
    · cases reached
    split at reached
    · split at reached
      · cases reached
      · exact unwind_records_settled reached
    · cases reached
      exact ⟨rfl, rfl⟩

/-- A handler is only found when the last record of the chain has one of that type, and outside of
the prologue and of every recognised epilogue. -/
structure HandlerAllowed (module : PeModule) (handlerType : HandlerType) (controlPc : Nat)
    (entry : RuntimeFunction) (stack : Stack) (state : UnwindState) : Prop where
  flagged : ∃ record, ChainLast module entry record ∧ hasFlag record.flags handlerType.flag = true
  behindPrologue : ∃ record, readUnwindRecord module entry.unwindData = some record ∧
    record.prologueSize ≤ controlPc - module.mapped.loadBase - entry.beginAddress ∧
    unwindEpilogue module entry record controlPc stack state = .ok none

theorem unwind_validated_handler
    (accepted : validateUnwindChain module maxChainDepth none entry = .ok firstRecord)
    (inside : entry.beginAddress ≤ controlPc - module.mapped.loadBase)
    (unwinds : unwindValidated module handlerType.flag controlPc entry firstRecord stack state =
      some (.ok unwound)) (found : unwound.languageHandler ≠ none) :
    HandlerAllowed module handlerType controlPc entry stack state := by
  have first := validated_first accepted
  unfold unwindValidated at unwinds
  rcases initial : initialEstablisher module controlPc entry firstRecord state.context with
    _ | status | establisherFrame <;> rw [initial] at unwinds
  · contradiction
  · cases unwinds
  rcases epilogue : unwindEpilogue module entry firstRecord controlPc stack state with
    status | (_ | left_) <;> rw [epilogue] at unwinds
  · cases unwinds
  · rcases reached : unwindRecords module controlPc stack maxChainDepth none entry state with
      _ | status | last <;> simp only [reached] at unwinds
    · contradiction
    · cases unwinds
    obtain ⟨record, leads, flags, -, valid⟩ := (unwind_records_accepted accepted).last last reached
    obtain ⟨languageHandler, asked, ends⟩ := finish_unwind_accepted valid handlerType stack
    rw [ends] at unwinds
    have same : unwound.languageHandler = languageHandler := by
      cases final : finalState stack last with
      | none =>
        rw [final] at unwinds
        cases unwinds
      | some state =>
        rw [final] at unwinds
        cases unwinds
        rfl
    obtain ⟨allowed, flagged⟩ := asked (same ▸ found)
    have settled := unwind_records_first (read_unwind_record_some first).1 inside reached
    exact ⟨⟨record, leads, flags ▸ flagged⟩, firstRecord, first, settled.2.mp allowed, epilogue⟩
  · cases unwinds
    exact absurd rfl found

end Validated

/-! ### Entries of the table -/

/-- A call whose arguments and chain are accepted goes on behind the checks. -/
inductive Checked (module : PeModule) (controlPc functionEntry : Nat) (context : Context)
    (stack : Stack) (pointers : Option ContextPointers)
    (run : HandlerType → Option (Except Status Unwound)) : Prop where
  | refused (status : Status) (same : ∀ handlerType, run handlerType = some (.error status))
  | accepted (entry : RuntimeFunction) (firstRecord : UnwindRecord)
      (found : runtimeEntryFromPointer module functionEntry = some entry)
      (inside : entry.beginAddress ≤ controlPc - module.mapped.loadBase)
      (valid : validateUnwindChain module maxChainDepth none entry = .ok firstRecord)
      (same : ∀ handlerType, run handlerType = unwindValidated module handlerType.flag controlPc
        entry firstRecord stack { context := context, pointers := pointers })

theorem virtual_unwind_checked (module : PeModule) (controlPc functionEntry : Nat)
    (context : Context) (stack : Stack) (pointers : Option ContextPointers) :
    Checked module controlPc functionEntry context stack pointers fun handlerType =>
      virtualUnwind module handlerType.flag controlPc functionEntry context stack pointers := by
  simp only [virtualUnwind, handler_flag_known, or_false]
  by_cases bounds : stack.limit ≥ stack.base
  · exact .refused .invalidArgument fun _ => if_pos bounds
  simp only [if_neg bounds]
  cases found : runtimeEntryFromPointer module functionEntry with
  | none => exact .refused .invalidArgument fun _ => rfl
  | some entry =>
    by_cases outside : controlPc < module.mapped.loadBase ∨
        controlPc - module.mapped.loadBase < entry.beginAddress ∨
        controlPc - module.mapped.loadBase ≥ entry.endAddress
    · exact .refused .invalidArgument fun _ => if_pos outside
    simp only [if_neg outside]
    cases valid : validateUnwindChain module maxChainDepth none entry with
    | error status => exact .refused status fun _ => rfl
    | ok firstRecord =>
      exact .accepted entry firstRecord found (by omega) valid fun _ => rfl

theorem virtual_unwind_returns (module : PeModule) (controlPc functionEntry : Nat)
    (context : Context) (stack : Stack) (pointers : Option ContextPointers)
    (handlerType : HandlerType) :
    virtualUnwind module handlerType.flag controlPc functionEntry context stack pointers ≠
      none := by
  cases virtual_unwind_checked module controlPc functionEntry context stack pointers with
  | refused status same =>
    rw [same handlerType]
    simp
  | accepted entry firstRecord found inside valid same =>
    rw [same handlerType]
    exact unwind_validated_returns valid

theorem virtual_unwind_same (module : PeModule) (controlPc functionEntry : Nat)
    (context : Context) (stack : Stack) (pointers : Option ContextPointers)
    (left right : HandlerType) :
    (virtualUnwind module left.flag controlPc functionEntry context stack pointers).map
      (Except.map Unwound.frame) =
    (virtualUnwind module right.flag controlPc functionEntry context stack pointers).map
      (Except.map Unwound.frame) := by
  cases virtual_unwind_checked module controlPc functionEntry context stack pointers with
  | refused status same => rw [same left, same right]
  | accepted entry firstRecord found inside valid same =>
    rw [same left, same right]
    exact unwind_validated_same left right valid

/-! ### No failure is a success -/

theorem validate_chain_fails {depth : Nat} {first : Option UnwindRecord} {entry : RuntimeFunction}
    {status : Status} (failed : validateUnwindChain module depth first entry = .error status) :
    status ≠ .ok := by
  rintro rfl
  induction depth generalizing first entry with
  | zero => cases failed
  | succ depth ih =>
    unfold validateUnwindChain at failed
    cases read : readUnwindRecord module entry.unwindData with
    | none =>
      rw [read] at failed
      cases failed
    | some record =>
      rw [read] at failed
      dsimp only at failed
      split at failed
      · cases failed
      split at failed
      · cases failed
      split at failed
      · split at failed
        · cases failed
        · exact ih failed
      split at failed
      · cases failed
      split at failed
      · cases failed
      · cases failed

theorem frame_base_fails {record : UnwindRecord} {inPrologue : Bool} {prologueOffset : Nat}
    {status : Status}
    (failed : frameBaseOf record inPrologue prologueOffset context = some (.error status)) :
    status ≠ .ok := by
  rintro rfl
  unfold frameBaseOf at failed
  split at failed
  · cases failed
  · cases failed
  · dsimp only at failed
    split at failed
    · cases failed
    · cases failed

theorem unwind_records_fail {depth : Nat} {first : Option (Nat × Bool)} {entry : RuntimeFunction}
    {state : UnwindState} {status : Status}
    (failed : unwindRecords module controlPc stack depth first entry state =
      some (.error status)) : status ≠ .ok := by
  rintro rfl
  induction depth generalizing first entry state with
  | zero => cases failed
  | succ depth ih =>
    unfold unwindRecords at failed
    split at failed
    · cases failed
    dsimp only at failed
    split at failed
    · cases failed
    · rename_i known
      cases failed
      exact frame_base_fails known rfl
    split at failed
    · cases failed
    · cases failed
    split at failed
    · cases failed
    split at failed
    · split at failed
      · cases failed
      · exact ih failed
    · cases failed

theorem find_handler_fails {handlerFlag : Nat} {last : ChainEnd} {status : Status}
    (failed : findHandler module handlerFlag last = .error status) : status = .invalidImage := by
  unfold findHandler at failed
  split at failed
  · split at failed
    · cases failed
      rfl
    · cases failed
  · cases failed

theorem finish_unwind_fails {last : ChainEnd} {handlerFlag : Nat} {status : Status}
    (failed : finishUnwind module handlerFlag stack last = .error status) : status ≠ .ok := by
  rintro rfl
  unfold finishUnwind at failed
  split at failed
  · rename_i known
    cases failed
    cases find_handler_fails known
  · split at failed
    · cases failed
    · cases failed

theorem unwind_validated_fails {handlerFlag : Nat} {entry : RuntimeFunction}
    {firstRecord : UnwindRecord} {state : UnwindState} {status : Status}
    (failed : unwindValidated module handlerFlag controlPc entry firstRecord stack state =
      some (.error status)) : status ≠ .ok := by
  rintro rfl
  unfold unwindValidated at failed
  split at failed
  · cases failed
  · rename_i known
    cases failed
    exact frame_base_fails known rfl
  split at failed
  · rename_i known
    cases failed
    unfold unwindEpilogue at known
    split at known
    · cases known
    · split at known
      · cases known
      · split at known
        · cases known
        · cases known
  · cases failed
  · split at failed
    · cases failed
    · rename_i known
      cases failed
      exact unwind_records_fail known rfl
    · exact finish_unwind_fails (Option.some.inj failed) rfl

/-- An unwind that fails says so. -/
theorem virtual_unwind_fails {handlerFlag : Nat} {status : Status}
    (failed : virtualUnwind module handlerFlag controlPc functionEntry context stack pointers =
      some (.error status)) : status ≠ .ok := by
  rintro rfl
  unfold virtualUnwind at failed
  dsimp only at failed
  split at failed
  · cases failed
  split at failed
  · cases failed
  split at failed
  · cases failed
  split at failed
  · rename_i known
    cases failed
    exact validate_chain_fails known rfl
  · exact unwind_validated_fails failed rfl

/-- An unwind that succeeds has passed all checks of its arguments. -/
theorem virtual_unwind_ok {handlerFlag : Nat}
    (unwinds : virtualUnwind module handlerFlag controlPc functionEntry context stack pointers =
      some (.ok unwound)) :
    ∃ entry record, runtimeEntryFromPointer module functionEntry = some entry ∧
      entry.beginAddress ≤ controlPc - module.mapped.loadBase ∧
      validateUnwindChain module maxChainDepth none entry = .ok record ∧
      unwindValidated module handlerFlag controlPc entry record stack
        { context := context, pointers := pointers } = some (.ok unwound) := by
  unfold virtualUnwind at unwinds
  dsimp only at unwinds
  split at unwinds
  · cases unwinds
  split at unwinds
  · cases unwinds
  rename_i entry found
  split at unwinds
  · cases unwinds
  split at unwinds
  · cases unwinds
  rename_i record valid
  exact ⟨entry, record, found, by omega, valid, unwinds⟩

/-- A handler is only found where the chain of the entry allows one of its type. -/
theorem virtual_unwind_handler
    (unwinds : virtualUnwind module handlerType.flag controlPc functionEntry context stack
      pointers = some (.ok unwound)) (found : unwound.languageHandler ≠ none) :
    ∃ entry, runtimeEntryFromPointer module functionEntry = some entry ∧
      HandlerAllowed module handlerType controlPc entry stack
        { context := context, pointers := pointers } := by
  obtain ⟨entry, firstRecord, known, inside, valid, unwinds⟩ := virtual_unwind_ok unwinds
  exact ⟨entry, known, unwind_validated_handler valid inside unwinds found⟩

/-- Two unwinds of a frame that differ in the handler type return the same status and frame. Only
the handler may differ, and there is one only if the last record of the chain names it for the type
asked for, outside of the prologue and of every recognised epilogue. -/
theorem both_passes_see_same_frames (module : PeModule) (controlPc functionEntry : Nat)
    (context : Context) (stack : Stack) (pointers : Option ContextPointers)
    (left right : HandlerType) :
    virtualUnwind module left.flag controlPc functionEntry context stack pointers ≠ none ∧
    (virtualUnwind module left.flag controlPc functionEntry context stack pointers).map
        (Except.map Unwound.frame) =
      (virtualUnwind module right.flag controlPc functionEntry context stack pointers).map
        (Except.map Unwound.frame) ∧
    ∀ unwound, virtualUnwind module left.flag controlPc functionEntry context stack pointers =
        some (.ok unwound) → unwound.languageHandler ≠ none →
      ∃ entry, runtimeEntryFromPointer module functionEntry = some entry ∧
        HandlerAllowed module left controlPc entry stack
          { context := context, pointers := pointers } := by
  refine ⟨virtual_unwind_returns module controlPc functionEntry context stack pointers left,
    virtual_unwind_same module controlPc functionEntry context stack pointers left right, ?_⟩
  intro unwound unwinds found
  exact virtual_unwind_handler unwinds found

end SadLayer.Unwind
