import Mathlib.Logic.Relation
import SadLayer.EpilogueCuts
import SadLayer.VirtualUnwindFacts

/-! Functions in several fragments, whose records are chained to that of the primary
one, and the direct jumps between places of them: which ones the unwinder takes for
the tail call that ends an epilogue. -/
namespace SadLayer.Unwind

variable {module : PeModule}

/-! ### Fragments -/

/-- The record of an entry, of version 1, is chained to another entry. -/
def Links (module : PeModule) (entry parent : RuntimeFunction) : Prop :=
  ∃ record, readUnwindRecord module entry.unwindData = some record ∧ record.version = 1 ∧
    hasFlag record.flags flagChainInfo = true ∧ chainedEntry module record = some parent

/-- A function of version 1: its primary entry, and the fragments that are chained to it. -/
structure SplitFunction (module : PeModule) where
  primary : RuntimeFunction
  record : UnwindRecord
  fragments : List RuntimeFunction
  read : readUnwindRecord module primary.unwindData = some record
  version : record.version = 1
  unchained : hasFlag record.flags flagChainInfo = false
  leads : ∀ fragment ∈ fragments, Relation.TransGen (Links module) fragment primary

def SplitFunction.entries (function : SplitFunction module) : List RuntimeFunction :=
  function.primary :: function.fragments

/-- Where a place of the image is in the guest. -/
def guestAddress (module : PeModule) (rva : Nat) : Nat := (module.mapped.loadBase + rva) % 2 ^ 64

/-- The address of a place in the entry, its beginning among them. -/
def RuntimeFunction.Holds (module : PeModule) (entry : RuntimeFunction) (address : Nat) : Prop :=
  ∃ rva, entry.beginAddress ≤ rva ∧ rva < entry.endAddress ∧ address = guestAddress module rva

/-- The chains of all fragments end at the record of the primary entry. -/
theorem SplitFunction.chain_last (function : SplitFunction module) {entry : RuntimeFunction}
    (member : entry ∈ function.entries) : ChainLast module entry function.record := by
  have ends : ChainLast module function.primary function.record :=
    .last function.read function.unchained
  rcases List.mem_cons.mp member with rfl | fragment
  · exact ends
  · refine (function.leads entry fragment).head_induction_on ?_ ?_
    · rintro entry ⟨record, read, -, chained, next⟩
      exact .link read chained next ends
    · rintro entry parent ⟨record, read, -, chained, next⟩ - rest
      exact .link read chained next rest

theorem chain_last_unique {entry : RuntimeFunction} {one other : UnwindRecord}
    (left : ChainLast module entry one) (right : ChainLast module entry other) : one = other := by
  induction left with
  | last read unchained =>
    cases right with
    | last read' unchained' => exact Option.some.inj (read.symm.trans read')
    | link read' chained' next' rest' =>
      obtain rfl := Option.some.inj (read.symm.trans read')
      rw [unchained] at chained'
      cases chained'
  | link read chained next rest ih =>
    cases right with
    | last read' unchained' =>
      obtain rfl := Option.some.inj (read.symm.trans read')
      rw [unchained'] at chained
      cases chained
    | link read' chained' next' rest' =>
      obtain rfl := Option.some.inj (read.symm.trans read')
      obtain rfl := Option.some.inj (next.symm.trans next')
      exact ih rest'

/-- Where the codes of a fragment are undone, those of the whole chain are: the walk ends behind
the record of the primary entry. -/
theorem SplitFunction.whole_chain_undone (function : SplitFunction module)
    {entry : RuntimeFunction} {firstRecord : UnwindRecord} {controlPc depth : Nat} {stack : Stack}
    {state : UnwindState} {last : ChainEnd} (member : entry ∈ function.entries)
    (accepted : validateUnwindChain module depth none entry = .ok firstRecord)
    (reached : unwindRecords module controlPc stack depth none entry state = some (.ok last)) :
    last.flags = function.record.flags ∧ last.trailerRva = function.record.trailerRva := by
  obtain ⟨record, ends, flags, trailer, -⟩ := (unwind_records_accepted accepted).last last reached
  obtain rfl := chain_last_unique ends (function.chain_last member)
  exact ⟨flags, trailer⟩

/-! ### Jumps -/

/-- The encodings of direct jumps, by their lengths and displacements. -/
inductive DirectJumpAt (code : Nat → Nat) : Nat → Int → Prop where
  | short (opcode : code 0 = 0xeb) : DirectJumpAt code 2 (signed8 (code 1))
  | near (opcode : code 0 = 0xe9) (displacement : Nat)
      (word : displacement = code 1 + 256 * (code 2 + 256 * (code 3 + 256 * code 4))) :
      DirectJumpAt code 5 (signed32 displacement)

/-- A direct jump in an entry of a function, with the address where it leads. -/
structure JumpSite (module : PeModule) where
  function : SplitFunction module
  own : RuntimeFunction
  member : own ∈ function.entries
  functionEntry : Nat
  found : runtimeEntryFromPointer module functionEntry = some own
  controlPc : Nat
  mapped : module.mapped.loadBase ≤ controlPc
  behind : own.beginAddress ≤ controlPc - module.mapped.loadBase
  length : Nat
  displacement : Int
  encoded : DirectJumpAt (guestCode module controlPc) length displacement
  whole : controlPc - module.mapped.loadBase + length ≤ own.endAddress
  target : Nat
  word : target < 2 ^ 64
  leads : (((controlPc + length) % 2 ^ 64 : Nat) : Int) + displacement = target

section Decoder
variable {entry : RuntimeFunction} {frameRegister cursorRva remaining length : Nat}
  {displacement : Int} {stack : Stack} {candidate : UnwindState}

theorem direct_jump_step (encoded : DirectJumpAt (codeAt module cursorRva) length displacement)
    (room : length ≤ remaining) :
    epilogueStep module entry frameRegister stack cursorRva remaining true false candidate =
      directJump module entry stack candidate cursorRva length displacement := by
  cases encoded with
  | short opcode =>
    rw [first_step_later _ (by omega), later_transfer (by omega) (by omega) (by omega),
      if_neg (by omega), if_neg (by omega)]
    exact if_pos ⟨room, opcode⟩
  | near opcode displacement word =>
    rw [first_step_later _ (by omega), later_transfer (by omega) (by omega) (by omega),
      if_neg (by omega), if_neg (by omega), word, ← load_word module cursorRva 1]
    unfold codeAt at opcode
    unfold epilogueJump
    dsimp only
    rw [if_neg (by omega), if_pos ⟨room, opcode⟩]

end Decoder

section Found
variable {entry : RuntimeFunction} {functionEntry controlPc frameRegister : Nat} {stack : Stack}
  {state : UnwindState}

end Found

section Site
variable {frameRegister handlerType : Nat} {context : Context} {stack : Stack}
  {pointers : Option ContextPointers}

theorem JumpSite.length_pos (site : JumpSite module) : 0 < site.length := by
  have positive {code : Nat → Nat} {length : Nat} {displacement : Int}
      (encoded : DirectJumpAt code length displacement) : 0 < length := by
    cases encoded <;> omega
  exact positive site.encoded

theorem JumpSite.below (site : JumpSite module) :
    site.controlPc - module.mapped.loadBase < site.own.endAddress := by
  have whole := site.whole
  have positive := site.length_pos
  omega

/-- The decoder asks nothing of a jump but where it leads. -/
theorem JumpSite.step (site : JumpSite module) (state : UnwindState) :
    epilogueStep module site.own frameRegister stack (site.controlPc - module.mapped.loadBase)
        (site.own.endAddress - (site.controlPc - module.mapped.loadBase)) true false state =
      if guestAddress module site.own.beginAddress < site.target ∧
        site.target < guestAddress module site.own.endAddress then .rejected
      else leaveFrame stack state := by
  have whole := site.whole
  have word := site.word
  rw [direct_jump_step site.encoded (by omega)]
  unfold directJump uint64Max guestAddress
  dsimp only
  rw [Nat.add_sub_cancel' site.mapped, site.leads, if_neg (by omega)]
  simp only [Int.ofNat_lt]

end Site

/-! ### A function with a fragment behind it -/

end SadLayer.Unwind
