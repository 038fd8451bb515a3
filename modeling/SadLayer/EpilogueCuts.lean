import SadLayer.Library.Related
import SadLayer.VirtualUnwind
import SadLayer.PeFacts

/-! Epilogues that are recognised by their instructions: wherever one is
interrupted, what is left of it leads to the same caller. -/
namespace SadLayer.Unwind
open SadLayer.Library

/-! ### The processor -/

/-- The instructions of epilogues. -/
inductive BodyInstruction where
  | add (immediate : Int)
  | lea (base : Nat) (displacement : Int)
  | pop (number : Nat)
  deriving DecidableEq, Repr

/-- The instructions that leave a function; the jumps go to another one. -/
inductive TransferInstruction where
  | ret
  | retRelease (immediate : Nat)
  | jump
  deriving DecidableEq, Repr

/-- The byte that the bits of a REX prefix extend a register with. -/
def extended (rex number : Nat) : Nat := number + rex % 2 * 8

/-- The encodings of the instructions of epilogues, by their lengths. -/
inductive BodyAt (code : Nat → Nat) : BodyInstruction → Nat → Prop where
  | addByte (rex : code 0 = 0x48) (opcode : code 1 = 0x83) (modrm : code 2 = 0xc4) :
      BodyAt code (.add (signed8 (code 3))) 4
  | addWord (rex : code 0 = 0x48) (opcode : code 1 = 0x81) (modrm : code 2 = 0xc4)
      (immediate : Nat) (word : immediate = code 3 + 256 * (code 4 + 256 * (code 5 + 256 * code 6))) :
      BodyAt code (.add (signed32 immediate)) 7
  | leaByte (rex : code 0 / 8 = 9 ∧ code 0 / 4 % 2 = 0) (opcode : code 1 = 0x8d)
      (mode : code 2 / 64 = 1) (destination : code 2 / 8 % 8 = 4) (base : code 2 % 8 ≠ 4) :
      BodyAt code (.lea (extended (code 0) (code 2 % 8)) (signed8 (code 3))) 4
  | leaByteSib (rex : code 0 / 8 = 9 ∧ code 0 / 4 % 2 = 0) (opcode : code 1 = 0x8d)
      (mode : code 2 / 64 = 1) (destination : code 2 / 8 % 8 = 4) (base : code 2 % 8 = 4)
      (noIndex : code 0 / 2 % 2 = 0) (sib : code 3 = 0x24) :
      BodyAt code (.lea (extended (code 0) 4) (signed8 (code 4))) 5
  | leaWord (rex : code 0 / 8 = 9 ∧ code 0 / 4 % 2 = 0) (opcode : code 1 = 0x8d)
      (mode : code 2 / 64 = 2) (destination : code 2 / 8 % 8 = 4) (base : code 2 % 8 ≠ 4)
      (displacement : Nat)
      (word : displacement = code 3 + 256 * (code 4 + 256 * (code 5 + 256 * code 6))) :
      BodyAt code (.lea (extended (code 0) (code 2 % 8)) (signed32 displacement)) 7
  | leaWordSib (rex : code 0 / 8 = 9 ∧ code 0 / 4 % 2 = 0) (opcode : code 1 = 0x8d)
      (mode : code 2 / 64 = 2) (destination : code 2 / 8 % 8 = 4) (base : code 2 % 8 = 4)
      (noIndex : code 0 / 2 % 2 = 0) (sib : code 3 = 0x24) (displacement : Nat)
      (word : displacement = code 4 + 256 * (code 5 + 256 * (code 6 + 256 * code 7))) :
      BodyAt code (.lea (extended (code 0) 4) (signed32 displacement)) 8
  | pop (least : 0x58 ≤ code 0) (most : code 0 ≤ 0x5f) : BodyAt code (.pop (code 0 - 0x58)) 1
  | popRex (rex : code 0 / 16 = 4) (least : 0x58 ≤ code 1) (most : code 1 ≤ 0x5f) :
      BodyAt code (.pop (extended (code 0) (code 1 - 0x58))) 2

/-- The encodings of the instructions that leave a function. -/
inductive PlainTransferAt (code : Nat → Nat) : TransferInstruction → Prop where
  | ret (opcode : code 0 = 0xc3) : PlainTransferAt code .ret
  | repeatedRet (repeated : code 0 = 0xf3) (opcode : code 1 = 0xc3) : PlainTransferAt code .ret
  | retRelease (opcode : code 0 = 0xc2) :
      PlainTransferAt code (.retRelease (code 1 + 256 * code 2))
  | jumpByte (opcode : code 0 = 0xeb) : PlainTransferAt code .jump
  | jumpWord (opcode : code 0 = 0xe9) : PlainTransferAt code .jump
  | jumpMemory (opcode : code 0 = 0xff) (modrm : code 1 = 0x25) : PlainTransferAt code .jump
  | jumpRex (rex : code 0 / 8 = 9) (opcode : code 1 = 0xff) (modrm : code 2 / 8 % 8 = 4) :
      PlainTransferAt code .jump

/-- The same behind a prefix that bounds its target. -/
inductive TransferAt (code : Nat → Nat) : TransferInstruction → Prop where
  | plain {transfer : TransferInstruction} (encoded : PlainTransferAt code transfer) :
      TransferAt code transfer
  | bounded {transfer : TransferInstruction} (bound : code 0 = 0xf2)
      (encoded : PlainTransferAt (fun index => code (index + 1)) transfer) :
      TransferAt code transfer

/-- A value of 64 bits, a signed amount further on. -/
def wrapped (value : Nat) (amount : Int) : Nat := (((value : Int) + amount) % 2 ^ 64).toNat

/-- What the processor does for an instruction of this length. An addition leaves some flags. -/
def BodyInstruction.execute (instruction : BodyInstruction) (stack : Stack) (length flags : Nat)
    (context : Context) : Context :=
  let next : Context := { context with rip := context.rip + length }
  match instruction with
  | .add immediate =>
    { next.setInteger registerRsp (wrapped context.rsp immediate) with eFlags := flags }
  | .lea base displacement =>
    next.setInteger registerRsp (wrapped (context.integer base) displacement)
  | .pop number =>
    (next.setInteger registerRsp (wrapped context.rsp 8)).setInteger number
      (loadLe stack.bytes context.rsp 8)

/-- Leaves for the address at the top of the stack, and releases so many bytes behind it. -/
def executeReturn (stack : Stack) (released : Nat) (context : Context) : Context :=
  { context.setInteger registerRsp (wrapped context.rsp (8 + released)) with
    rip := loadLe stack.bytes context.rsp 8 }

/-- What the caller sees of a transfer: a jump to another function is followed by its return. -/
def TransferInstruction.execute (transfer : TransferInstruction) (stack : Stack)
    (context : Context) : Context :=
  match transfer with
  | .ret | .jump => executeReturn stack 0 context
  | .retRelease immediate => executeReturn stack immediate context

/-! ### An accepted instruction is executed -/

def codeAt (module : PeModule) (rva index : Nat) : Nat := byteAt module (rva + index)

theorem code_at_succ (module : PeModule) (rva : Nat) :
    codeAt module (rva + 1) = fun index => codeAt module rva (index + 1) := by
  funext index
  unfold codeAt
  congr 1
  omega

/-- The registers of a context are words. -/
def Context.Words (context : Context) : Prop := ∀ number, context.integer number < 2 ^ 64

section Step
variable {module : PeModule} {entry : RuntimeFunction} {frameRegister : Nat} {stack : Stack}
  {cursorRva remaining : Nat} {candidate : UnwindState}

theorem load_word (module : PeModule) (rva offset : Nat) : loadU32 module (rva + offset) =
    codeAt module rva offset + 256 * (codeAt module rva (offset + 1) +
      256 * (codeAt module rva (offset + 2) + 256 * codeAt module rva (offset + 3))) := by
  simp [loadU32, loadLe, codeAt, byteAt, Nat.add_assoc]

theorem wrapped_eq {value result : Nat} {amount : Int} (sum : (value : Int) + amount = result)
    (fits : result < 2 ^ 64) : wrapped value amount = result := by
  unfold wrapped
  rw [sum, Int.emod_eq_of_lt (by omega) (by omega), Int.toNat_natCast]

theorem add_u64_eq {left right sum : Nat} (added : addU64 left right = some sum)
    (word : left < 2 ^ 64) : sum = left + right ∧ left + right < 2 ^ 64 := by
  unfold addU64 uint64Max at added
  split at added
  · cases added
  · cases added
    omega

/-- What the loop makes of an instruction: it rejects it, or goes on behind it with what the
processor would do, though it follows neither the flags nor the place. -/
def Follows (instruction : BodyInstruction) (stack : Stack) (length : Nat)
    (candidate : UnwindState) (step : EpilogueStep) : Prop :=
  step = .rejected ∨ ∃ after, step = .next length after false ∧ after.context.Words ∧
    after.context.eFlags = candidate.context.eFlags ∧ ∀ flags,
      instruction.execute stack length flags candidate.context = { after.context with
        eFlags := (instruction.execute stack length flags candidate.context).eFlags
        rip := (instruction.execute stack length flags candidate.context).rip }

theorem set_integer_words {context : Context} (words : context.Words) {number value : Nat}
    (word : value < 2 ^ 64) : (context.setInteger number value).Words := by
  intro other
  unfold Context.setInteger
  dsimp only
  by_cases same : other = number
  · rw [same, Function.update_self]
    exact word
  · rw [Function.update_of_ne same]
    exact words other

theorem add_rsp_follows (words : candidate.context.Words) (length : Nat) (immediate : Int) :
    Follows (.add immediate) stack length candidate
      (addRsp candidate length immediate false) := by
  unfold addRsp release
  split
  · exact .inl rfl
  · rename_i positive
    cases added : addU64 candidate.context.rsp immediate.toNat with
    | none => exact .inl rfl
    | some rsp =>
      obtain ⟨sum, fits⟩ := add_u64_eq added (words registerRsp)
      have moved : wrapped candidate.context.rsp immediate = rsp :=
        wrapped_eq (by omega) (by omega)
      refine .inr ⟨_, rfl, set_integer_words words (by omega), rfl, ?_⟩
      intro flags
      simp only [BodyInstruction.execute, moved]
      rfl

theorem lea_rsp_follows (words : candidate.context.Words) (length base : Nat)
    (displacement : Int) :
    Follows (.lea base displacement) stack length candidate
      (leaRsp candidate length base displacement false) := by
  have word := words base
  have moves {rsp : Nat} (sum : (candidate.context.integer base : Int) + displacement = rsp)
      (fits : rsp < 2 ^ 64) : Follows (.lea base displacement) stack length candidate
        (.next length { candidate with
          context := candidate.context.setInteger registerRsp rsp } false) := by
    refine .inr ⟨_, rfl, set_integer_words words fits, rfl, ?_⟩
    intro flags
    simp only [BodyInstruction.execute, wrapped_eq sum fits]
    rfl
  unfold leaRsp
  dsimp only
  split
  · cases added : addU64 (candidate.context.integer base) displacement.toNat with
    | none => exact .inl rfl
    | some rsp =>
      obtain ⟨sum, fits⟩ := add_u64_eq added word
      exact moves (by omega) (by omega)
  · split
    · exact .inl rfl
    · exact moves (by omega) (by omega)

theorem pop_register_follows (words : candidate.context.Words) (length number : Nat) :
    Follows (.pop number) stack length candidate
      (popRegister stack candidate length number false) := by
  unfold popRegister
  split
  · exact .inl rfl
  rename_i nonvolatile
  have notRsp : registerRsp ≠ number := by
    rintro rfl
    exact nonvolatile rfl
  have kept (value : Nat) : (candidate.context.setInteger number value).rsp =
      candidate.context.rsp := Function.update_of_ne notRsp ..
  unfold popInteger restoreInteger readStackU64
  by_cases unknown : number ≥ 16
  · rw [if_pos unknown]
    exact .inl rfl
  rw [if_neg unknown]
  by_cases inside : stackRangeFits stack candidate.context.rsp 8 = true
  · rw [if_pos inside]
    simp only [Option.map_some, Option.bind_some, release, kept]
    cases added : addU64 candidate.context.rsp 8 with
    | none => exact .inl rfl
    | some rsp =>
      obtain ⟨sum, fits⟩ := add_u64_eq added (words registerRsp)
      have moved : wrapped candidate.context.rsp 8 = rsp := wrapped_eq (by omega) (by omega)
      have loaded : loadLe stack.bytes candidate.context.rsp 8 < 2 ^ 64 :=
        load_le_lt stack.bytes candidate.context.rsp 8
      refine .inr ⟨_, rfl, set_integer_words (set_integer_words words loaded) (by omega), rfl, ?_⟩
      intro flags
      simp only [BodyInstruction.execute, moved, Context.setInteger]
      rw [Function.update_comm notRsp]
  · rw [if_neg inside]
    exact .inl rfl

/-- A first instruction with a REX prefix and an opcode of these is none that comes later. -/
theorem later_step_rejects (rex : codeAt module cursorRva 0 / 8 = 9)
    (opcode : codeAt module cursorRva 1 = 0x83 ∨ codeAt module cursorRva 1 = 0x81 ∨
      codeAt module cursorRva 1 = 0x8d) (seen : Bool) :
    epilogueStep module entry frameRegister stack cursorRva remaining false seen candidate =
      .rejected := by
  unfold codeAt at rex opcode
  unfold epilogueStep epilogueJump
  dsimp only
  rw [if_neg (by simp), if_neg (by simp), if_neg (by simp), if_neg (by omega), if_neg (by omega),
    if_neg (by omega), if_neg (by omega), if_neg (by omega), if_neg (by omega), if_neg (by omega),
    if_neg (by omega), if_neg (by omega)]

/-- The forms that only the first instruction may have come before all others. -/
theorem first_step (seen : Bool) :
    epilogueStep module entry frameRegister stack cursorRva remaining true seen candidate =
      if remaining ≥ 4 ∧ codeAt module cursorRva 0 = 0x48 ∧ codeAt module cursorRva 1 = 0x83 ∧
          codeAt module cursorRva 2 = 0xc4 then
        addRsp candidate 4 (signed8 (codeAt module cursorRva 3)) seen
      else if remaining ≥ 7 ∧ codeAt module cursorRva 0 = 0x48 ∧
          codeAt module cursorRva 1 = 0x81 ∧ codeAt module cursorRva 2 = 0xc4 then
        addRsp candidate 7 (signed32 (loadU32 module (cursorRva + 3))) seen
      else if frameRegister ≠ 0 ∧ remaining ≥ 4 ∧ codeAt module cursorRva 0 / 8 = 9 ∧
          codeAt module cursorRva 0 / 4 % 2 = 0 ∧ codeAt module cursorRva 1 = 0x8d then
        epilogueLea module frameRegister candidate cursorRva remaining seen
      else epilogueStep module entry frameRegister stack cursorRva remaining false seen
        candidate := by
  simp only [epilogueStep, codeAt, true_and, Bool.false_eq_true, false_and, if_false]

/-- An instruction that no form of the first one fits is taken as a later one. -/
theorem first_step_later (seen : Bool)
    (plain : codeAt module cursorRva 0 / 8 = 9 → codeAt module cursorRva 1 ≠ 0x83 ∧
      codeAt module cursorRva 1 ≠ 0x81 ∧ codeAt module cursorRva 1 ≠ 0x8d) :
    epilogueStep module entry frameRegister stack cursorRva remaining true seen candidate =
      epilogueStep module entry frameRegister stack cursorRva remaining false seen candidate := by
  rw [first_step, if_neg (by omega), if_neg (by omega), if_neg (by omega)]

theorem lea_follows {base length : Nat} {displacement : Int}
    (rex : codeAt module cursorRva 0 / 8 = 9 ∧ codeAt module cursorRva 0 / 4 % 2 = 0)
    (opcode : codeAt module cursorRva 1 = 0x8d) (words : candidate.context.Words)
    (lea : epilogueLea module frameRegister candidate cursorRva remaining false = .rejected ∨
      epilogueLea module frameRegister candidate cursorRva remaining false =
        leaRsp candidate length base displacement false) :
    Follows (.lea base displacement) stack length candidate (epilogueStep module entry
      frameRegister stack cursorRva remaining true false candidate) := by
  rw [first_step, if_neg (by omega), if_neg (by omega)]
  split
  · rcases lea with rejected | moved
    · exact .inl rejected
    · rw [moved]
      exact lea_rsp_follows words length base displacement
  · exact .inl (later_step_rejects rex.1 (.inr (.inr opcode)) false)

theorem add_step_follows {immediate : Int} {length : Nat}
    (encoded : BodyAt (codeAt module cursorRva) (.add immediate) length)
    (words : candidate.context.Words) :
    Follows (.add immediate) stack length candidate (epilogueStep module entry frameRegister stack
      cursorRva remaining true false candidate) := by
  cases encoded with
  | addByte rex opcode modrm =>
    rw [first_step]
    by_cases room : remaining ≥ 4
    · rw [if_pos ⟨room, rex, opcode, modrm⟩]
      exact add_rsp_follows words 4 _
    · rw [if_neg (by omega), if_neg (by omega), if_neg (by omega)]
      exact .inl (later_step_rejects (by omega) (.inl opcode) false)
  | addWord rex opcode modrm immediate word =>
    rw [first_step, if_neg (by omega)]
    by_cases room : remaining ≥ 7
    · rw [if_pos ⟨room, rex, opcode, modrm⟩, load_word, ← word]
      exact add_rsp_follows words 7 _
    · rw [if_neg (by omega), if_neg (by omega)]
      exact .inl (later_step_rejects (by omega) (.inr (.inl opcode)) false)

/-- Every encoding of the instruction is taken apart as such, where all of it is left. -/
theorem lea_decoded {base length : Nat} {displacement : Int}
    (encoded : BodyAt (codeAt module cursorRva) (.lea base displacement) length) :
    epilogueLea module frameRegister candidate cursorRva remaining false = .rejected ∨
      epilogueLea module frameRegister candidate cursorRva remaining false =
        leaRsp candidate length base displacement false := by
  unfold epilogueLea
  cases encoded with
  | leaByte rex opcode mode destination base =>
    unfold codeAt at *
    dsimp only
    rw [if_neg (by omega), if_neg (by omega)]
    split
    · exact .inl rfl
    · exact .inr rfl
  | leaByteSib rex opcode mode destination base noIndex sib =>
    unfold codeAt at *
    dsimp only
    rw [if_neg (by omega)]
    split
    · exact .inl rfl
    split
    · exact .inl rfl
    · rw [base]
      exact .inr rfl
  | leaWord rex opcode mode destination base displacement word =>
    have loaded : loadU32 module (cursorRva + 3) = displacement :=
      (load_word module cursorRva 3).trans word.symm
    unfold codeAt at *
    dsimp only
    rw [if_neg (by omega), if_neg (by omega), if_neg base, loaded]
    split
    · exact .inl rfl
    rw [if_neg (by omega)]
    split
    · exact .inl rfl
    · exact .inr rfl
  | leaWordSib rex opcode mode destination base noIndex sib displacement word =>
    have loaded : loadU32 module (cursorRva + 4) = displacement :=
      (load_word module cursorRva 4).trans word.symm
    unfold codeAt at *
    dsimp only
    rw [if_neg (by omega), if_pos base, loaded, base]
    split
    · exact .inl rfl
    split
    · exact .inl rfl
    rw [if_neg (by omega)]
    split
    · exact .inl rfl
    · exact .inr rfl

theorem lea_prefix {base length : Nat} {displacement : Int} {code : Nat → Nat}
    (encoded : BodyAt code (.lea base displacement) length) :
    (code 0 / 8 = 9 ∧ code 0 / 4 % 2 = 0) ∧ code 1 = 0x8d := by
  cases encoded with
  | leaByte rex opcode => exact ⟨rex, opcode⟩
  | leaByteSib rex opcode => exact ⟨rex, opcode⟩
  | leaWord rex opcode => exact ⟨rex, opcode⟩
  | leaWordSib rex opcode => exact ⟨rex, opcode⟩

theorem pop_step_follows {number length : Nat}
    (encoded : BodyAt (codeAt module cursorRva) (.pop number) length)
    (words : candidate.context.Words) :
    Follows (.pop number) stack length candidate (epilogueStep module entry frameRegister stack
      cursorRva remaining true false candidate) := by
  cases encoded with
  | pop least most =>
    rw [first_step_later false (by omega)]
    unfold codeAt at *
    unfold epilogueStep
    simp only [Bool.false_eq_true, false_and, if_false, true_and]
    rw [if_pos ⟨least, most⟩]
    exact pop_register_follows words 1 _
  | popRex rex least most =>
    rw [first_step_later false (by omega)]
    unfold codeAt at *
    unfold epilogueStep
    simp only [Bool.false_eq_true, false_and, if_false, true_and]
    rw [if_neg (by omega)]
    by_cases room : remaining ≥ 2
    · rw [if_pos ⟨room, rex, least, most⟩]
      exact pop_register_follows words 2 _
    · unfold epilogueJump
      dsimp only
      refine .inl ?_
      rw [if_neg (by omega), if_neg (by omega), if_neg (by omega), if_neg (by omega),
        if_neg (by omega), if_neg (by omega), if_neg (by omega), if_neg (by omega)]

theorem body_step_follows {instruction : BodyInstruction} {length : Nat}
    (encoded : BodyAt (codeAt module cursorRva) instruction length)
    (words : candidate.context.Words) :
    Follows instruction stack length candidate (epilogueStep module entry frameRegister stack
      cursorRva remaining true false candidate) := by
  cases instruction with
  | add immediate => exact add_step_follows encoded words
  | lea base displacement =>
    obtain ⟨rex, opcode⟩ := lea_prefix encoded
    exact lea_follows rex opcode words (lea_decoded encoded)
  | pop number => exact pop_step_follows encoded words

end Step

/-! ### What the loop does not look at -/

/-- Two states whose contexts differ in no more than the flags and the place, as to both of which
the loop is blind, and in what was noted of the restored registers. -/
def Alike (flags : Nat) (left right : UnwindState) : Prop :=
  ∃ rip, right.context = { left.context with eFlags := flags, rip := rip }

/-- The same once the place is settled. -/
def Settled (flags : Nat) (left right : UnwindState) : Prop :=
  right.context = { left.context with eFlags := flags }

/-- Steps that do the same to states alike. -/
inductive StepsAlike (flags : Nat) : EpilogueStep → EpilogueStep → Prop where
  | rejected : StepsAlike flags .rejected .rejected
  | next (length : Nat) (seen : Bool) {left right : UnwindState} (alike : Alike flags left right) :
      StepsAlike flags (.next length left seen) (.next length right seen)
  | transfer {left right : UnwindState} (settled : Settled flags left right) :
      StepsAlike flags (.transfer left) (.transfer right)

section Alike
variable {module : PeModule} {entry : RuntimeFunction} {frameRegister : Nat} {stack : Stack}
  {flags : Nat} {left right : UnwindState}

theorem Alike.integer (alike : Alike flags left right) :
    right.context.integer = left.context.integer := by
  obtain ⟨rip, same⟩ := alike
  rw [same]

theorem Alike.rsp (alike : Alike flags left right) : right.context.rsp = left.context.rsp :=
  congrFun alike.integer registerRsp

theorem Alike.set (alike : Alike flags left right) (number value : Nat)
    (pointers pointers' : Option ContextPointers) (machineFrame machineFrame' : Bool) :
    Alike flags ⟨left.context.setInteger number value, pointers, machineFrame⟩
      ⟨right.context.setInteger number value, pointers', machineFrame'⟩ := by
  obtain ⟨rip, same⟩ := alike
  exact ⟨rip, by rw [same]; rfl⟩

theorem release_alike (alike : Alike flags left right) (size : Nat) :
    Option.Rel (Alike flags) (release left size) (release right size) := by
  unfold release
  rw [alike.rsp]
  cases addU64 left.context.rsp size with
  | none => exact .none
  | some rsp => exact .some (alike.set registerRsp rsp _ _ _ _)

theorem pop_integer_alike (alike : Alike flags left right) (number : Nat) :
    Option.Rel (Alike flags) (popInteger stack left number) (popInteger stack right number) := by
  unfold popInteger restoreInteger
  rw [alike.rsp]
  by_cases unknown : number ≥ 16
  · rw [if_pos unknown, if_pos unknown]
    exact .none
  rw [if_neg unknown, if_neg unknown]
  cases readStackU64 stack left.context.rsp with
  | none => exact .none
  | some value => exact release_alike (alike.set number value _ _ _ _) 8

theorem pop_return_address_alike (alike : Alike flags left right) :
    Option.Rel (Settled flags) (popReturnAddress stack left) (popReturnAddress stack right) := by
  unfold popReturnAddress release
  rw [alike.rsp]
  cases readStackU64 stack left.context.rsp with
  | none => exact .none
  | some returnAddress =>
    cases addU64 left.context.rsp 8 with
    | none => exact .none
    | some rsp =>
      obtain ⟨rip, same⟩ := alike
      exact .some (by simp only [Settled, Context.setInteger, same])

theorem leave_frame_alike (alike : Alike flags left right) :
    StepsAlike flags (leaveFrame stack left) (leaveFrame stack right) := by
  unfold leaveFrame
  obtain ⟨none_, none'⟩ | ⟨one, other, some_, some', settled⟩ :=
    rel_cases (@pop_return_address_alike stack flags left right alike)
  · rw [none_, none']
    exact .rejected
  · rw [some_, some']
    exact .transfer settled

theorem return_and_release_alike (alike : Alike flags left right) (immediate : Nat) :
    StepsAlike flags (returnAndRelease stack left immediate)
      (returnAndRelease stack right immediate) := by
  unfold returnAndRelease release
  rw [alike.rsp]
  cases readStackU64 stack left.context.rsp with
  | none => exact .rejected
  | some returnAddress =>
    cases addU64 left.context.rsp (immediate + 8) with
    | none => exact .rejected
    | some rsp =>
      obtain ⟨rip, same⟩ := alike
      exact .transfer (by simp only [Settled, Context.setInteger, same])

theorem direct_jump_alike (alike : Alike flags left right) (cursorRva length : Nat)
    (displacement : Int) :
    StepsAlike flags (directJump module entry stack left cursorRva length displacement)
      (directJump module entry stack right cursorRva length displacement) := by
  unfold directJump
  dsimp only
  split
  · exact .rejected
  split
  · exact .rejected
  · exact leave_frame_alike alike

theorem epilogue_jump_alike (alike : Alike flags left right) (cursorRva remaining : Nat) :
    StepsAlike flags (epilogueJump module entry stack left cursorRva remaining)
      (epilogueJump module entry stack right cursorRva remaining) := by
  unfold epilogueJump
  dsimp only
  split
  · exact direct_jump_alike alike _ _ _
  split
  · exact direct_jump_alike alike _ _ _
  split
  · exact leave_frame_alike alike
  split
  · split
    · exact .rejected
    split
    · exact .rejected
    · exact leave_frame_alike alike
  · exact .rejected

theorem add_rsp_alike (alike : Alike flags left right) (length : Nat) (immediate : Int)
    (seen : Bool) :
    StepsAlike flags (addRsp left length immediate seen) (addRsp right length immediate seen) := by
  unfold addRsp
  split
  · exact .rejected
  · obtain ⟨none_, none'⟩ | ⟨one, other, some_, some', after⟩ :=
      rel_cases (release_alike alike immediate.toNat)
    · rw [none_, none']
      exact .rejected
    · rw [some_, some']
      exact .next length seen after

theorem lea_rsp_alike (alike : Alike flags left right) (length base : Nat) (displacement : Int)
    (seen : Bool) :
    StepsAlike flags (leaRsp left length base displacement seen)
      (leaRsp right length base displacement seen) := by
  unfold leaRsp
  dsimp only
  rw [alike.integer]
  split
  · cases addU64 (left.context.integer base) displacement.toNat with
    | none => exact .rejected
    | some rsp => exact .next length seen (alike.set registerRsp rsp _ _ _ _)
  split
  · exact .rejected
  · exact .next length seen (alike.set registerRsp _ _ _ _ _)

theorem epilogue_lea_alike (alike : Alike flags left right) (cursorRva remaining : Nat)
    (seen : Bool) :
    StepsAlike flags (epilogueLea module frameRegister left cursorRva remaining seen)
      (epilogueLea module frameRegister right cursorRva remaining seen) := by
  unfold epilogueLea
  dsimp only
  generalize (if byteAt module (cursorRva + 2) % 8 = 4 then 4 else 3) = displacementOffset
  split
  · exact .rejected
  split
  · exact .rejected
  split
  · exact .rejected
  split
  · exact lea_rsp_alike alike _ _ _ _
  split
  · exact .rejected
  · exact lea_rsp_alike alike _ _ _ _

theorem pop_register_alike (alike : Alike flags left right) (length number : Nat) (seen : Bool) :
    StepsAlike flags (popRegister stack left length number seen)
      (popRegister stack right length number seen) := by
  unfold popRegister
  split
  · exact .rejected
  · obtain ⟨none_, none'⟩ | ⟨one, other, some_, some', after⟩ :=
      rel_cases (@pop_integer_alike stack flags left right alike number)
    · rw [none_, none']
      exact .rejected
    · rw [some_, some']
      exact .next length seen after

theorem epilogue_step_alike (alike : Alike flags left right) (cursorRva remaining : Nat)
    (first seen : Bool) :
    StepsAlike flags
      (epilogueStep module entry frameRegister stack cursorRva remaining first seen left)
      (epilogueStep module entry frameRegister stack cursorRva remaining first seen right) := by
  unfold epilogueStep
  dsimp only
  split
  · exact add_rsp_alike alike _ _ _
  split
  · exact add_rsp_alike alike _ _ _
  split
  · exact epilogue_lea_alike alike _ _ _
  split
  · exact pop_register_alike alike _ _ _
  split
  · exact pop_register_alike alike _ _ _
  split
  · exact .next 1 true alike
  split
  · exact leave_frame_alike alike
  split
  · exact return_and_release_alike alike _
  · exact epilogue_jump_alike alike _ _

/-- The loop settles states alike alike. -/
theorem simulate_alike (alike : Alike flags left right) (count cursorRva : Nat)
    (first seen : Bool) :
    Option.Rel (Settled flags)
      (simulateInstructions module entry frameRegister stack count cursorRva first seen left)
      (simulateInstructions module entry frameRegister stack count cursorRva first seen right) := by
  induction count generalizing cursorRva first seen left right with
  | zero => exact .none
  | succ count ih =>
    unfold simulateInstructions
    dsimp only
    split
    · exact .none
    have steps := @epilogue_step_alike module entry frameRegister stack flags left right alike
      cursorRva (entry.endAddress - cursorRva) first seen
    cases one : epilogueStep module entry frameRegister stack cursorRva
        (entry.endAddress - cursorRva) first seen left with
    | rejected =>
      rw [one] at steps
      generalize epilogueStep module entry frameRegister stack cursorRva
        (entry.endAddress - cursorRva) first seen right = other at steps ⊢
      cases steps
      exact .none
    | next length after seen =>
      rw [one] at steps
      generalize epilogueStep module entry frameRegister stack cursorRva
        (entry.endAddress - cursorRva) first _ right = other at steps ⊢
      cases steps with
      | next _ _ alike =>
        dsimp only
        split
        · exact .none
        · exact ih alike _ _ _
    | transfer after =>
      rw [one] at steps
      generalize epilogueStep module entry frameRegister stack cursorRva
        (entry.endAddress - cursorRva) first seen right = other at steps ⊢
      cases steps with
      | transfer settled => exact .some settled

end Alike

/-! ### From one instruction to the next -/

section Cuts
variable {module : PeModule} {entry : RuntimeFunction} {frameRegister : Nat} {stack : Stack}
  {cursorRva remaining : Nat} {candidate result : UnwindState}

/-- An instruction that may come later may come first. -/
theorem later_as_first {seen : Bool} (accepted : epilogueStep module entry frameRegister stack
    cursorRva remaining false seen candidate ≠ .rejected) :
    epilogueStep module entry frameRegister stack cursorRva remaining true seen candidate =
      epilogueStep module entry frameRegister stack cursorRva remaining false seen candidate := by
  apply first_step_later
  intro rex
  by_contra form
  apply accepted
  exact later_step_rejects rex (by omega) seen

/-- What the loop does in a round that does not fail. -/
theorem simulate_round {count : Nat} {first seen : Bool}
    (settles : simulateInstructions module entry frameRegister stack (count + 1) cursorRva first
      seen candidate = some result) :
    cursorRva < entry.endAddress ∧
    moduleWindow module cursorRva (entry.endAddress - cursorRva) = true ∧
    (epilogueStep module entry frameRegister stack cursorRva (entry.endAddress - cursorRva) first
        seen candidate = .transfer result ∨
      ∃ length after seen', epilogueStep module entry frameRegister stack cursorRva
          (entry.endAddress - cursorRva) first seen candidate = .next length after seen' ∧
        length ≠ 0 ∧ length ≤ entry.endAddress - cursorRva ∧
        simulateInstructions module entry frameRegister stack count (cursorRva + length) false
          seen' after = some result) := by
  unfold simulateInstructions at settles
  dsimp only at settles
  split at settles
  · cases settles
  rename_i inside
  rw [not_or, Bool.not_eq_false] at inside
  refine ⟨by omega, inside.2, ?_⟩
  cases step : epilogueStep module entry frameRegister stack cursorRva
      (entry.endAddress - cursorRva) first seen candidate with
  | rejected =>
    rw [step] at settles
    cases settles
  | transfer after =>
    rw [step] at settles
    cases settles
    exact .inl rfl
  | next length after seen' =>
    rw [step] at settles
    dsimp only at settles
    split at settles
    · cases settles
    · exact .inr ⟨length, after, seen', rfl, by omega, by omega, settles⟩

theorem simulate_of_round {count : Nat} {first seen seen' : Bool} {length : Nat}
    {after : UnwindState} (inside : cursorRva < entry.endAddress)
    (window : moduleWindow module cursorRva (entry.endAddress - cursorRva) = true)
    (step : epilogueStep module entry frameRegister stack cursorRva (entry.endAddress - cursorRva)
      first seen candidate = .next length after seen') (positive : length ≠ 0)
    (room : length ≤ entry.endAddress - cursorRva) :
    simulateInstructions module entry frameRegister stack (count + 1) cursorRva first seen
        candidate =
      simulateInstructions module entry frameRegister stack count (cursorRva + length) false seen'
        after := by
  have here : ¬ (entry.endAddress - cursorRva = 0 ∨
      moduleWindow module cursorRva (entry.endAddress - cursorRva) = false) := by
    simp [window]
    omega
  rw [simulateInstructions]
  simp only [if_neg here, step]
  exact if_neg (by omega)

theorem simulate_transfer {count : Nat} {first seen : Bool}
    (inside : cursorRva < entry.endAddress)
    (window : moduleWindow module cursorRva (entry.endAddress - cursorRva) = true)
    (step : epilogueStep module entry frameRegister stack cursorRva (entry.endAddress - cursorRva)
      first seen candidate = .transfer result) :
    simulateInstructions module entry frameRegister stack (count + 1) cursorRva first seen
      candidate = some result := by
  have here : ¬ (entry.endAddress - cursorRva = 0 ∨
      moduleWindow module cursorRva (entry.endAddress - cursorRva) = false) := by
    simp [window]
    omega
  rw [simulateInstructions]
  simp only [if_neg here, step]

theorem simulate_inside {count : Nat} {first seen : Bool}
    (settles : simulateInstructions module entry frameRegister stack count cursorRva first seen
      candidate = some result) : cursorRva < entry.endAddress := by
  cases count with
  | zero => cases settles
  | succ count => exact (simulate_round settles).1

/-- The flags stay what they were. -/
theorem simulate_flags {count : Nat} {first seen : Bool}
    (settles : simulateInstructions module entry frameRegister stack count cursorRva first seen
      candidate = some result) : result.context.eFlags = candidate.context.eFlags := by
  have alike : Alike candidate.context.eFlags candidate candidate := ⟨candidate.context.rip, rfl⟩
  have settled := @simulate_alike module entry frameRegister stack _ _ _ alike count cursorRva
    first seen
  rw [settles] at settled
  cases settled with
  | some same =>
    unfold Settled at same
    rw [same]

/-- What was settled in so many rounds is in more. -/
theorem simulate_more {count : Nat} {first seen : Bool}
    (settles : simulateInstructions module entry frameRegister stack count cursorRva first seen
      candidate = some result) :
    simulateInstructions module entry frameRegister stack (count + 1) cursorRva first seen
      candidate = some result := by
  induction count generalizing cursorRva first seen candidate with
  | zero => cases settles
  | succ count ih =>
    obtain ⟨inside, window, step | ⟨length, after, seen', step, positive, room, rest⟩⟩ :=
      simulate_round settles
    · exact simulate_transfer inside window step
    · rw [simulate_of_round inside window step positive room]
      exact ih rest

/-- What was settled from a later instruction on is so when it comes first. -/
theorem simulate_from_later {count : Nat} {seen : Bool}
    (settles : simulateInstructions module entry frameRegister stack count cursorRva false seen
      candidate = some result) :
    simulateInstructions module entry frameRegister stack count cursorRva true seen candidate =
      some result := by
  cases count with
  | zero => cases settles
  | succ count =>
    obtain ⟨inside, window, step | ⟨length, after, seen', step, positive, room, rest⟩⟩ :=
      simulate_round settles
    · apply simulate_transfer inside window
      rw [later_as_first (by rw [step]; simp), step]
    · rw [simulate_of_round inside window
        ((later_as_first (by rw [step]; simp)).trans step) positive room]
      exact rest

/-- Leaving is what the processor does. -/
theorem leave_frame_executes (words : candidate.context.Words) {after : UnwindState}
    (leaves : leaveFrame stack candidate = .transfer after) :
    after.context = executeReturn stack 0 candidate.context := by
  unfold leaveFrame popReturnAddress readStackU64 release at leaves
  by_cases inside : stackRangeFits stack candidate.context.rsp 8 = true
  · rw [if_pos inside] at leaves
    cases added : addU64 candidate.context.rsp 8 with
    | none =>
      rw [added] at leaves
      cases leaves
    | some rsp =>
      rw [added] at leaves
      cases leaves
      obtain ⟨sum, fits⟩ := add_u64_eq added (words registerRsp)
      have moved : wrapped candidate.context.rsp (8 + (0 : Nat)) = rsp :=
        wrapped_eq (by omega) (by omega)
      simp only [executeReturn, moved]
  · rw [if_neg inside] at leaves
    cases leaves

theorem return_and_release_executes (words : candidate.context.Words) {after : UnwindState}
    {immediate : Nat} (leaves : returnAndRelease stack candidate immediate = .transfer after) :
    after.context = executeReturn stack immediate candidate.context := by
  unfold returnAndRelease readStackU64 release at leaves
  by_cases inside : stackRangeFits stack candidate.context.rsp 8 = true
  · rw [if_pos inside] at leaves
    cases added : addU64 candidate.context.rsp (immediate + 8) with
    | none =>
      rw [added] at leaves
      cases leaves
    | some rsp =>
      rw [added] at leaves
      cases leaves
      obtain ⟨sum, fits⟩ := add_u64_eq added (words registerRsp)
      have moved : wrapped candidate.context.rsp (8 + (immediate : Nat)) = rsp :=
        wrapped_eq (by omega) (by omega)
      simp only [executeReturn, moved]
  · rw [if_neg inside] at leaves
    cases leaves

theorem direct_jump_cases (module : PeModule) (entry : RuntimeFunction) (stack : Stack)
    (candidate : UnwindState) (cursorRva length : Nat) (displacement : Int) :
    directJump module entry stack candidate cursorRva length displacement = .rejected ∨
      directJump module entry stack candidate cursorRva length displacement =
        leaveFrame stack candidate := by
  unfold directJump
  dsimp only
  split
  · exact .inl rfl
  split
  · exact .inl rfl
  · exact .inr rfl

/-- What neither pops nor is a prefix is a return or a jump. -/
theorem later_transfer {seen : Bool}
    (noPop : codeAt module cursorRva 0 < 0x58 ∨ 0x5f < codeAt module cursorRva 0)
    (noPrefix : codeAt module cursorRva 0 ≠ 0xf2)
    (noRexPop : codeAt module cursorRva 0 / 16 = 4 → codeAt module cursorRva 1 = 0xff) :
    epilogueStep module entry frameRegister stack cursorRva remaining false seen candidate =
      if codeAt module cursorRva 0 = 0xc3 ∨
          (remaining ≥ 2 ∧ codeAt module cursorRva 0 = 0xf3 ∧ codeAt module cursorRva 1 = 0xc3) then
        leaveFrame stack candidate
      else if remaining ≥ 3 ∧ codeAt module cursorRva 0 = 0xc2 then
        returnAndRelease stack candidate
          (codeAt module cursorRva 1 + 256 * codeAt module cursorRva 2)
      else epilogueJump module entry stack candidate cursorRva remaining := by
  unfold codeAt at *
  unfold epilogueStep
  simp only [Bool.false_eq_true, false_and, if_false]
  rw [if_neg (by omega), if_neg (by omega), if_neg (by omega)]

theorem leave_frame_cases (words : candidate.context.Words) :
    leaveFrame stack candidate = .rejected ∨ ∃ after,
      leaveFrame stack candidate = .transfer after ∧
        after.context = executeReturn stack 0 candidate.context := by
  cases left : leaveFrame stack candidate with
  | rejected => exact .inl rfl
  | next length after seen =>
    unfold leaveFrame at left
    split at left <;> cases left
  | transfer after => exact .inr ⟨after, rfl, leave_frame_executes words left⟩

/-- Every jump that is accepted leaves the frame like a return. -/
theorem epilogue_jump_cases :
    epilogueJump module entry stack candidate cursorRva remaining = .rejected ∨
      epilogueJump module entry stack candidate cursorRva remaining =
        leaveFrame stack candidate := by
  unfold epilogueJump
  dsimp only
  split
  · exact direct_jump_cases module entry stack candidate cursorRva 2 _
  split
  · exact direct_jump_cases module entry stack candidate cursorRva 5 _
  split
  · exact .inr rfl
  split
  · split
    · exact .inl rfl
    split
    · exact .inl rfl
    · exact .inr rfl
  · exact .inl rfl

theorem return_and_release_cases (words : candidate.context.Words) (immediate : Nat) :
    returnAndRelease stack candidate immediate = .rejected ∨ ∃ after,
      returnAndRelease stack candidate immediate = .transfer after ∧
        after.context = executeReturn stack immediate candidate.context := by
  cases left : returnAndRelease stack candidate immediate with
  | rejected => exact .inl rfl
  | next length after seen =>
    unfold returnAndRelease at left
    split at left <;> cases left
  | transfer after => exact .inr ⟨after, rfl, return_and_release_executes words left⟩

/-- A return that is cut off is no jump. -/
theorem epilogue_jump_rejects
    (noJump : codeAt module cursorRva 0 = 0xf3 ∨ codeAt module cursorRva 0 = 0xc2) :
    epilogueJump module entry stack candidate cursorRva remaining = .rejected := by
  unfold codeAt at noJump
  unfold epilogueJump
  dsimp only
  rw [if_neg (by omega), if_neg (by omega), if_neg (by omega), if_neg (by omega)]

theorem plain_transfer_later {transfer : TransferInstruction} {seen : Bool}
    (encoded : PlainTransferAt (codeAt module cursorRva) transfer)
    (words : candidate.context.Words) :
    epilogueStep module entry frameRegister stack cursorRva remaining false seen candidate =
        .rejected ∨
      ∃ after, epilogueStep module entry frameRegister stack cursorRva remaining false seen
          candidate = .transfer after ∧
        after.context = transfer.execute stack candidate.context := by
  have leaves := @leave_frame_cases stack candidate words
  have jumps : epilogueJump module entry stack candidate cursorRva remaining = .rejected ∨ ∃ after,
      epilogueJump module entry stack candidate cursorRva remaining = .transfer after ∧
        after.context = executeReturn stack 0 candidate.context := by
    obtain rejected | left := @epilogue_jump_cases module entry stack cursorRva remaining candidate
    · exact .inl rejected
    · rw [left]
      exact leaves
  cases encoded with
  | ret opcode =>
    rw [later_transfer (by omega) (by omega) (by omega), if_pos (.inl opcode)]
    exact leaves
  | repeatedRet repeated opcode =>
    rw [later_transfer (by omega) (by omega) (by omega)]
    split
    · exact leaves
    · rw [if_neg (by omega)]
      exact .inl (epilogue_jump_rejects (.inl repeated))
  | retRelease opcode =>
    rw [later_transfer (by omega) (by omega) (by omega), if_neg (by omega)]
    split
    · exact return_and_release_cases words _
    · exact .inl (epilogue_jump_rejects (.inr opcode))
  | jumpByte opcode =>
    rw [later_transfer (by omega) (by omega) (by omega), if_neg (by omega), if_neg (by omega)]
    exact jumps
  | jumpWord opcode =>
    rw [later_transfer (by omega) (by omega) (by omega), if_neg (by omega), if_neg (by omega)]
    exact jumps
  | jumpMemory opcode modrm =>
    rw [later_transfer (by omega) (by omega) (by omega), if_neg (by omega), if_neg (by omega)]
    exact jumps
  | jumpRex rex opcode modrm =>
    rw [later_transfer (by omega) (by omega) (by omega), if_neg (by omega), if_neg (by omega)]
    exact jumps

/-- Transfers begin with none of the bytes that the forms of a first instruction do. -/
theorem plain_transfer_step {transfer : TransferInstruction} {first seen : Bool}
    (encoded : PlainTransferAt (codeAt module cursorRva) transfer)
    (words : candidate.context.Words) :
    epilogueStep module entry frameRegister stack cursorRva remaining first seen candidate =
        .rejected ∨
      ∃ after, epilogueStep module entry frameRegister stack cursorRva remaining first seen
          candidate = .transfer after ∧
        after.context = transfer.execute stack candidate.context := by
  cases first with
  | false => exact plain_transfer_later encoded words
  | true =>
    rw [first_step_later seen (by cases encoded <;> omega)]
    exact plain_transfer_later encoded words

/-- A transfer settles the state of the caller, or nothing does. -/
theorem simulate_plain_transfer {transfer : TransferInstruction} {count : Nat} {first seen : Bool}
    (encoded : PlainTransferAt (codeAt module cursorRva) transfer)
    (words : candidate.context.Words)
    (settles : simulateInstructions module entry frameRegister stack count cursorRva first seen
      candidate = some result) :
    result.context = transfer.execute stack candidate.context := by
  cases count with
  | zero => cases settles
  | succ count =>
    obtain ⟨inside, window, round⟩ := simulate_round settles
    obtain rejected | ⟨after, transfers, executed⟩ := @plain_transfer_step module entry
      frameRegister stack cursorRva (entry.endAddress - cursorRva) candidate transfer first seen
      encoded words
    · rw [rejected] at round
      obtain step | ⟨length, after, seen', step, rest⟩ := round
      · cases step
      · cases step
    · rw [transfers] at round
      obtain step | ⟨length, after, seen', step, rest⟩ := round
      · cases step
        exact executed
      · cases step

/-- A prefix changes nothing but what may follow it. -/
theorem bound_step {first : Bool} (bound : codeAt module cursorRva 0 = 0xf2) :
    epilogueStep module entry frameRegister stack cursorRva remaining first false candidate =
      .next 1 candidate true := by
  have later : epilogueStep module entry frameRegister stack cursorRva remaining false false
      candidate = .next 1 candidate true := by
    unfold codeAt at bound
    unfold epilogueStep
    simp only [Bool.false_eq_true, false_and, if_false, true_and]
    rw [if_neg (by omega), if_neg (by omega), if_pos bound]
  cases first with
  | false => exact later
  | true =>
    rw [first_step_later false (by omega)]
    exact later

theorem simulate_transfer_executes {transfer : TransferInstruction} {count : Nat} {first : Bool}
    (encoded : TransferAt (codeAt module cursorRva) transfer)
    (words : candidate.context.Words)
    (settles : simulateInstructions module entry frameRegister stack count cursorRva first false
      candidate = some result) :
    result.context = transfer.execute stack candidate.context := by
  cases encoded with
  | plain encoded => exact simulate_plain_transfer encoded words settles
  | bounded bound encoded =>
    cases count with
    | zero => cases settles
    | succ count =>
      obtain ⟨inside, window, step | ⟨length, after, seen', step, positive, room, rest⟩⟩ :=
        simulate_round settles
      · rw [bound_step bound] at step
        cases step
      · rw [bound_step bound] at step
        cases step
        rw [← code_at_succ] at encoded
        exact simulate_plain_transfer encoded words rest

/-- Behind an instruction that was executed the loop settles the same. -/
theorem simulate_body_executes {instruction : BodyInstruction} {length count : Nat}
    (encoded : BodyAt (codeAt module cursorRva) instruction length)
    (words : candidate.context.Words)
    (settles : simulateInstructions module entry frameRegister stack count cursorRva true false
      candidate = some result) (pointers : Option ContextPointers) (flags : Nat) :
    let executed := instruction.execute stack length flags candidate.context
    cursorRva + length < entry.endAddress ∧ executed.Words ∧
    ∃ resumed, simulateInstructions module entry frameRegister stack count (cursorRva + length)
        true false ⟨executed, pointers, false⟩ = some resumed ∧
      resumed.context = { result.context with eFlags := executed.eFlags } := by
  intro executed
  cases count with
  | zero => cases settles
  | succ count =>
    obtain ⟨inside, window, round⟩ := simulate_round settles
    obtain rejected | ⟨after, goes, afterWords, keeps, executes⟩ := @body_step_follows module entry
      frameRegister stack cursorRva (entry.endAddress - cursorRva) candidate instruction length
      encoded words
    · rw [rejected] at round
      obtain step | ⟨_, _, _, step, _⟩ := round
      · cases step
      · cases step
    · rw [goes] at round
      obtain step | ⟨_, _, _, step, positive, room, rest⟩ := round
      · cases step
      · cases step
        have alike : Alike executed.eFlags after ⟨executed, pointers, false⟩ :=
          ⟨executed.rip, executes flags⟩
        have next := simulate_from_later rest
        obtain ⟨none_, _⟩ | ⟨one, other, some_, some', settled⟩ := rel_cases
          (@simulate_alike module entry frameRegister stack executed.eFlags after
            ⟨executed, pointers, false⟩ alike count (cursorRva + length) true false)
        · rw [none_] at next
          cases next
        · rw [some_] at next
          cases next
          refine ⟨?_, ?_, other, simulate_more some', settled⟩
          · exact simulate_inside rest
          · intro number
            rw [show executed = _ from executes flags]
            exact afterWords number

theorem jump_encoded
    (accepted : epilogueJump module entry stack candidate cursorRva remaining ≠ .rejected) :
    PlainTransferAt (codeAt module cursorRva) .jump := by
  unfold epilogueJump at accepted
  dsimp only at accepted
  split at accepted
  · rename_i short
    exact .jumpByte short.2
  split at accepted
  · rename_i near
    exact .jumpWord near.2
  split at accepted
  · rename_i memory
    exact .jumpMemory memory.2.1 memory.2.2
  split at accepted
  · rename_i indirect
    exact .jumpRex indirect.2.1 indirect.2.2.1 indirect.2.2.2
  · exact absurd rfl accepted

theorem lea_encoded
    (rex : codeAt module cursorRva 0 / 8 = 9 ∧ codeAt module cursorRva 0 / 4 % 2 = 0)
    (opcode : codeAt module cursorRva 1 = 0x8d) {seen : Bool}
    (accepted : epilogueLea module frameRegister candidate cursorRva remaining seen ≠ .rejected) :
    ∃ instruction length, BodyAt (codeAt module cursorRva) instruction length := by
  unfold epilogueLea at accepted
  dsimp only at accepted
  split at accepted
  · exact absurd rfl accepted
  rename_i form
  split at accepted
  · exact absurd rfl accepted
  rename_i sib
  have destination : codeAt module cursorRva 2 / 8 % 8 = 4 := by
    unfold codeAt
    omega
  have mode : codeAt module cursorRva 2 / 64 = 1 ∨ codeAt module cursorRva 2 / 64 = 2 := by
    unfold codeAt
    omega
  by_cases base : codeAt module cursorRva 2 % 8 = 4
  · have noIndex : codeAt module cursorRva 0 / 2 % 2 = 0 := by
      unfold codeAt at *
      omega
    have only : codeAt module cursorRva 3 = 0x24 := by
      unfold codeAt at *
      omega
    rcases mode with byte | word
    · exact ⟨_, _, .leaByteSib rex opcode byte destination base noIndex only⟩
    · exact ⟨_, _, .leaWordSib rex opcode word destination base noIndex only _ rfl⟩
  · rcases mode with byte | word
    · exact ⟨_, _, .leaByte rex opcode byte destination base⟩
    · exact ⟨_, _, .leaWord rex opcode word destination base _ rfl⟩

/-- Whatever is accepted is one of the instructions, or the prefix of a transfer. -/
theorem accepted_encoded {first seen : Bool} (accepted : epilogueStep module entry frameRegister
    stack cursorRva remaining first seen candidate ≠ .rejected) :
    ((first = true ∨ seen = false) ∧
        ∃ instruction length, BodyAt (codeAt module cursorRva) instruction length) ∨
      (seen = false ∧ codeAt module cursorRva 0 = 0xf2) ∨
      ∃ transfer, PlainTransferAt (codeAt module cursorRva) transfer := by
  unfold epilogueStep at accepted
  dsimp only at accepted
  split at accepted
  · rename_i add
    exact .inl ⟨.inl add.1, _, _, .addByte add.2.2.1 add.2.2.2.1 add.2.2.2.2⟩
  split at accepted
  · rename_i add
    exact .inl ⟨.inl add.1, _, _, .addWord add.2.2.1 add.2.2.2.1 add.2.2.2.2 _ rfl⟩
  split at accepted
  · rename_i lea
    exact .inl ⟨.inl lea.1, lea_encoded ⟨lea.2.2.2.1, lea.2.2.2.2.1⟩ lea.2.2.2.2.2 accepted⟩
  split at accepted
  · rename_i pop
    exact .inl ⟨.inr pop.1, _, _, .pop pop.2.1 pop.2.2⟩
  split at accepted
  · rename_i pop
    exact .inl ⟨.inr pop.1, _, _, .popRex pop.2.2.1 pop.2.2.2.1 pop.2.2.2.2⟩
  split at accepted
  · rename_i bound
    exact .inr (.inl bound)
  split at accepted
  · rename_i returns
    rcases returns with plain | repeated
    · exact .inr (.inr ⟨_, .ret plain⟩)
    · exact .inr (.inr ⟨_, .repeatedRet repeated.2.1 repeated.2.2⟩)
  split at accepted
  · rename_i release
    exact .inr (.inr ⟨_, .retRelease release.2⟩)
  · exact .inr (.inr ⟨_, jump_encoded accepted⟩)

/-- A round that does not fail took an instruction. -/
theorem round_accepted {count : Nat} {first seen : Bool}
    (settles : simulateInstructions module entry frameRegister stack count cursorRva first seen
      candidate = some result) :
    epilogueStep module entry frameRegister stack cursorRva (entry.endAddress - cursorRva) first
      seen candidate ≠ .rejected := by
  cases count with
  | zero => cases settles
  | succ count =>
    obtain ⟨-, -, step | ⟨length, after, seen', step, -⟩⟩ := simulate_round settles
    · rw [step]
      simp
    · rw [step]
      simp

/-- Where the loop settles a state there is an instruction of an epilogue. -/
theorem simulate_encoded {count : Nat}
    (settles : simulateInstructions module entry frameRegister stack count cursorRva true false
      candidate = some result) :
    (∃ instruction length, BodyAt (codeAt module cursorRva) instruction length) ∨
      ∃ transfer, TransferAt (codeAt module cursorRva) transfer := by
  obtain ⟨-, body⟩ | ⟨-, bound⟩ | ⟨transfer, plain⟩ := accepted_encoded (round_accepted settles)
  · exact .inl body
  · cases count with
    | zero => cases settles
    | succ count =>
      obtain ⟨-, -, step | ⟨length, after, seen', step, -, -, rest⟩⟩ := simulate_round settles
      · rw [bound_step bound] at step
        cases step
      · rw [bound_step bound] at step
        cases step
        obtain ⟨none_, -⟩ | ⟨none_, -⟩ | ⟨transfer, plain⟩ :=
          accepted_encoded (round_accepted rest)
        · simp at none_
        · simp at none_
        · rw [code_at_succ] at plain
          exact .inr ⟨transfer, .bounded bound plain⟩
  · exact .inr ⟨transfer, .plain plain⟩

end Cuts

/-! ### Interrupted epilogues -/

section Epilogue
variable {module : PeModule} {entry : RuntimeFunction} {frameRegister controlPc : Nat}
  {stack : Stack} {state result : UnwindState}

/-- The code at an address of the guest. -/
def guestCode (module : PeModule) (controlPc : Nat) : Nat → Nat :=
  codeAt module (controlPc - module.mapped.loadBase)

/-- From one place of an epilogue and the context there to another, by the instructions between
them. -/
inductive EpilogueRun (module : PeModule) (stack : Stack) : Nat → Context → Nat → Context → Prop
  | here (controlPc : Nat) (context : Context) :
      EpilogueRun module stack controlPc context controlPc context
  | behind {controlPc place : Nat} {context last : Context} {instruction : BodyInstruction}
      {length : Nat} (flags : Nat)
      (encoded : BodyAt (guestCode module controlPc) instruction length)
      (rest : EpilogueRun module stack (controlPc + length)
        (instruction.execute stack length flags context) place last) :
      EpilogueRun module stack controlPc context place last

theorem simulate_epilogue_iff : simulateEpilogue module entry frameRegister controlPc stack state =
      some result ↔
    (module.mapped.loadBase ≤ controlPc ∧ controlPc - module.mapped.loadBase ≤ uint32Max ∧
      entry.beginAddress ≤ controlPc - module.mapped.loadBase ∧
      controlPc - module.mapped.loadBase < entry.endAddress) ∧
    simulateInstructions module entry frameRegister stack 32 (controlPc - module.mapped.loadBase)
      true false state = some result := by
  unfold simulateEpilogue
  dsimp only
  constructor
  · intro settles
    split at settles
    · cases settles
    split at settles
    · cases settles
    · exact ⟨by omega, settles⟩
  · rintro ⟨inside, settles⟩
    rw [if_neg (by omega), if_neg (by omega)]
    exact settles

theorem simulate_epilogue_behind {instruction : BodyInstruction} {length flags : Nat}
    (address : entry.endAddress ≤ uint32Max) (words : state.context.Words)
    (settles : simulateEpilogue module entry frameRegister controlPc stack state = some result)
    (encoded : BodyAt (guestCode module controlPc) instruction length)
    (pointers : Option ContextPointers) :
    let executed := instruction.execute stack length flags state.context
    executed.Words ∧ ∃ resumed, simulateEpilogue module entry frameRegister (controlPc + length)
        stack { context := executed, pointers := pointers } = some resumed ∧
      resumed.context = { result.context with eFlags := executed.eFlags } := by
  intro executed
  obtain ⟨inside, settles⟩ := simulate_epilogue_iff.mp settles
  obtain ⟨before, executedWords, resumed, resumes, same⟩ :=
    simulate_body_executes encoded words settles pointers flags
  have moved : controlPc + length - module.mapped.loadBase =
      controlPc - module.mapped.loadBase + length := by
    omega
  refine ⟨executedWords, resumed, simulate_epilogue_iff.mpr ⟨?_, ?_⟩, same⟩
  · omega
  · rw [moved]
    exact resumes

/-- What was noted of the restored registers does not matter. -/
theorem simulate_epilogue_pointers
    (settles : simulateEpilogue module entry frameRegister controlPc stack state = some result)
    (pointers : Option ContextPointers) :
    ∃ resumed, simulateEpilogue module entry frameRegister controlPc stack
        { context := state.context, pointers := pointers } = some resumed ∧
      resumed.context = { result.context with eFlags := state.context.eFlags } := by
  obtain ⟨inside, settles⟩ := simulate_epilogue_iff.mp settles
  have alike : Alike state.context.eFlags state ⟨state.context, pointers, false⟩ :=
    ⟨state.context.rip, rfl⟩
  obtain ⟨none_, -⟩ | ⟨one, other, some_, some', settled⟩ := rel_cases
    (@simulate_alike module entry frameRegister stack _ _ _ alike 32
      (controlPc - module.mapped.loadBase) true false)
  · rw [none_] at settles
    cases settles
  · rw [some_] at settles
    cases settles
    exact ⟨other, simulate_epilogue_iff.mpr ⟨inside, some'⟩, settled⟩

/-- Wherever an epilogue is interrupted, the caller is the same, but for the flags. -/
theorem simulate_epilogue_run {place : Nat} {context last : Context}
    (run : EpilogueRun module stack controlPc context place last)
    (address : entry.endAddress ≤ uint32Max) (words : context.Words)
    (same : state.context = context)
    (settles : simulateEpilogue module entry frameRegister controlPc stack state = some result)
    (pointers : Option ContextPointers) :
    ∃ resumed, simulateEpilogue module entry frameRegister place stack
        { context := last, pointers := pointers } = some resumed ∧
      resumed.context = { result.context with eFlags := last.eFlags } := by
  induction run generalizing state result with
  | here controlPc context =>
    subst same
    exact simulate_epilogue_pointers settles pointers
  | behind flags encoded rest ih =>
    subst same
    obtain ⟨executedWords, resumed, resumes, same⟩ :=
      simulate_epilogue_behind address words settles encoded pointers
    obtain ⟨last, settles, equal⟩ := ih executedWords rfl resumes
    exact ⟨last, settles, by rw [equal, same]⟩

/-- An epilogue of version 1 that is recognised is executed to its end by what is left of it, and
leads to one caller wherever it is interrupted; where none is recognised, the records are undone
from the very state that was given. -/
theorem epilogue_cut_points (address : entry.endAddress ≤ uint32Max)
    (words : state.context.Words) :
    (∀ result,
      simulateEpilogue module entry frameRegister controlPc stack state = some result →
        result.context.eFlags = state.context.eFlags ∧
        ((∃ instruction length, BodyAt (guestCode module controlPc) instruction length) ∨
          ∃ transfer, TransferAt (guestCode module controlPc) transfer) ∧
        (∀ instruction length, BodyAt (guestCode module controlPc) instruction length →
          ∀ flags pointers,
            let executed := instruction.execute stack length flags state.context
            ∃ resumed, simulateEpilogue module entry frameRegister (controlPc + length) stack
                { context := executed, pointers := pointers } = some resumed ∧
              resumed.context = { result.context with eFlags := executed.eFlags }) ∧
        (∀ transfer, TransferAt (guestCode module controlPc) transfer →
          result.context = transfer.execute stack state.context) ∧
        ∀ place last, EpilogueRun module stack controlPc state.context place last →
          ∀ pointers, ∃ resumed, simulateEpilogue module entry frameRegister place stack
              { context := last, pointers := pointers } = some resumed ∧
            resumed.context = { result.context with eFlags := last.eFlags }) ∧
    ∀ record handlerType establisherFrame, record.version = 1 →
      record.frameRegister = frameRegister →
      simulateEpilogue module entry frameRegister controlPc stack state = none →
      initialEstablisher module controlPc entry record state.context =
        some (.ok establisherFrame) →
      unwindValidated module handlerType controlPc entry record stack state =
        (unwindRecords module controlPc stack maxChainDepth none entry state).map
          fun walked => walked.bind (finishUnwind module handlerType stack) := by
  constructor
  · intro result settles
    have loop := (simulate_epilogue_iff.mp settles).2
    refine ⟨simulate_flags loop, simulate_encoded loop, ?_, ?_, ?_⟩
    · intro instruction length encoded flags pointers
      exact (simulate_epilogue_behind address words settles encoded pointers).2
    · intro transfer encoded
      exact simulate_transfer_executes encoded words loop
    · intro place last run pointers
      exact simulate_epilogue_run run address words rfl settles pointers
  · intro record handlerType establisherFrame one frame fails established
    subst frame
    unfold unwindValidated unwindEpilogue
    simp only [established, if_pos one, fails]
    cases unwindRecords module controlPc stack maxChainDepth none entry state with
    | none => rfl
    | some walked => cases walked <;> rfl
end Epilogue

/-- `add rsp, 32; pop rbx; ret`. -/
def epilogueModule : PeModule where
  image := { file := { data := fun _ => 0, size := 0 }, imageSize := 6 }
  mapped := {
    address := 0x1000
    loadBase := 0x1000
    size := 6
    bytes := fun rva => [0x48, 0x83, 0xc4, 0x20, 0x5b, 0xc3].getD rva 0 }

def epilogueEntry : RuntimeFunction := { beginAddress := 0, endAddress := 6, unwindData := 0 }

def epilogueStack : Stack := { limit := 0x100, base := 0x200, bytes := UInt8.ofNat }

def epilogueState : UnwindState where
  context := ({ rip := 0x1000 } : Context).setInteger registerRsp 0x110
  pointers := none

theorem epilogue_cut_points_before_pop :
    ∃ result resumed,
      simulateEpilogue epilogueModule epilogueEntry 0 0x1000 epilogueStack epilogueState =
        some result ∧
      simulateEpilogue epilogueModule epilogueEntry 0 0x1004 epilogueStack {
        context := (BodyInstruction.add 32).execute epilogueStack 4 0x246 epilogueState.context
        pointers := none } = some resumed ∧
      resumed.context = { result.context with eFlags := 0x246 } := by
  have words : epilogueState.context.Words := by
    apply set_integer_words
    · intro number
      exact Nat.two_pow_pos 64
    · decide
  have settles : ∃ result, simulateEpilogue epilogueModule epilogueEntry 0 0x1000 epilogueStack
      epilogueState = some result := ⟨_, rfl⟩
  obtain ⟨result, settles⟩ := settles
  have cuts := (epilogue_cut_points (by decide) words).1 result settles
  have add : BodyAt (guestCode epilogueModule 0x1000) (.add 32) 4 := .addByte rfl rfl rfl
  obtain ⟨resumed, resumes, same⟩ := cuts.2.2.1 _ _ add 0x246 none
  exact ⟨result, resumed, settles, resumes, same⟩

end SadLayer.Unwind
