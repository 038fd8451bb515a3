import SadLayer.UnwindCodes

/-! Unwinding from inside an epilogue: by the instructions that are left of it
for records of version 1, by its declared place for those of version 2. -/
namespace SadLayer.Unwind
open SadLayer.Library

/-! ### Version 1 -/

/-- A byte as `int8_t`. -/
def signed8 (byte : Nat) : Int := if byte < 2 ^ 7 then byte else (byte : Int) - 2 ^ 8

/-- A double word as `int32_t`. -/
def signed32 (word : Nat) : Int := if word < 2 ^ 31 then word else (word : Int) - 2 ^ 32

/-- What one instruction of an epilogue does. -/
inductive EpilogueStep where
  | rejected
  /-- Goes on behind the instruction. The flag says whether a prefix of a transfer was seen. -/
  | next (length : Nat) (candidate : UnwindState) (transferPrefixSeen : Bool)
  | transfer (candidate : UnwindState)

/-- `add rsp, imm` with an immediate that must be positive. -/
def addRsp (candidate : UnwindState) (length : Nat) (immediate : Int) (seen : Bool) :
    EpilogueStep :=
  if immediate ≤ 0 then .rejected
  else match release candidate immediate.toNat with
    | none => .rejected
    | some candidate => .next length candidate seen

/-- `lea rsp, [base + displacement]`. -/
def leaRsp (candidate : UnwindState) (length base : Nat) (displacement : Int) (seen : Bool) :
    EpilogueStep :=
  let baseValue := candidate.context.integer base
  let moved (rsp : Nat) : EpilogueStep :=
    .next length { candidate with context := candidate.context.setInteger registerRsp rsp } seen
  if 0 ≤ displacement then
    match addU64 baseValue displacement.toNat with
    | none => .rejected
    | some rsp => moved rsp
  else if baseValue < displacement.natAbs then .rejected
  else moved (baseValue - displacement.natAbs)

def popRegister (stack : Stack) (candidate : UnwindState) (length number : Nat) (seen : Bool) :
    EpilogueStep :=
  if isNonvolatileIntegerRegister number = false then .rejected
  else match popInteger stack candidate number with
    | none => .rejected
    | some candidate => .next length candidate seen

/-- A transfer that leaves the frame is unwound like a return. -/
def leaveFrame (stack : Stack) (candidate : UnwindState) : EpilogueStep :=
  match popReturnAddress stack candidate with
  | none => .rejected
  | some candidate => .transfer candidate

/-- `ret imm16`. -/
def returnAndRelease (stack : Stack) (candidate : UnwindState) (immediate : Nat) : EpilogueStep :=
  match readStackU64 stack candidate.context.rsp, release candidate (immediate + 8) with
  | some returnAddress, some candidate =>
    .transfer { candidate with context := { candidate.context with rip := returnAddress } }
  | _, _ => .rejected

/-- A direct jump, which stays in its function unless it leads outside of the entry or to its
beginning. -/
def directJump (module : PeModule) (entry : RuntimeFunction) (stack : Stack)
    (candidate : UnwindState) (cursorRva length : Nat) (displacement : Int) : EpilogueStep :=
  let imageBase := module.mapped.loadBase
  let next : Nat := (imageBase + cursorRva + length) % 2 ^ 64
  let target := (next : Int) + displacement
  let begin_ : Nat := (imageBase + entry.beginAddress) % 2 ^ 64
  let end_ : Nat := (imageBase + entry.endAddress) % 2 ^ 64
  if target < 0 ∨ (uint64Max : Int) < target then .rejected
  else if (begin_ : Int) < target ∧ target < (end_ : Int) then .rejected
  else leaveFrame stack candidate

/-- The length of `jmp r/m64` behind its prefix, by its addressing mode. -/
def indirectJumpLength (mode encodedBase sibBase : Nat) : Nat :=
  let sib := if mode ≠ 3 ∧ encodedBase = 4 then 1 else 0
  let sibDisplacement := if mode ≠ 3 ∧ encodedBase = 4 ∧ mode = 0 ∧ sibBase = 5 then 4 else 0
  let displacement :=
    if mode = 0 ∧ encodedBase = 5 then 4 else if mode = 1 then 1 else if mode = 2 then 4 else 0
  3 + sib + sibDisplacement + displacement

/-- The jumps that end an epilogue. -/
def epilogueJump (module : PeModule) (entry : RuntimeFunction) (stack : Stack)
    (candidate : UnwindState) (cursorRva remaining : Nat) : EpilogueStep :=
  let code (index : Nat) : Nat := byteAt module (cursorRva + index)
  if remaining ≥ 2 ∧ code 0 = 0xeb then
    directJump module entry stack candidate cursorRva 2 (signed8 (code 1))
  else if remaining ≥ 5 ∧ code 0 = 0xe9 then
    directJump module entry stack candidate cursorRva 5
      (signed32 (loadU32 module (cursorRva + 1)))
  else if remaining ≥ 6 ∧ code 0 = 0xff ∧ code 1 = 0x25 then leaveFrame stack candidate
  else if remaining ≥ 3 ∧ code 0 / 8 = 9 ∧ code 1 = 0xff ∧ code 2 / 8 % 8 = 4 then
    let mode := code 2 / 64
    let encodedBase := code 2 % 8
    if mode ≠ 3 ∧ encodedBase = 4 ∧ remaining < 4 then .rejected
    else if indirectJumpLength mode encodedBase (code 3 % 8) > remaining then .rejected
    else leaveFrame stack candidate
  else .rejected

/-- `lea rsp, [...]`, which must be off the frame register. -/
def epilogueLea (module : PeModule) (frameRegister : Nat) (candidate : UnwindState)
    (cursorRva remaining : Nat) (seen : Bool) : EpilogueStep :=
  let code (index : Nat) : Nat := byteAt module (cursorRva + index)
  let modrm := code 2
  let mode := modrm / 64
  let destination := modrm / 8 % 8
  let encodedBase := modrm % 8
  let baseRegister := encodedBase + code 0 % 2 * 8
  let displacementOffset := if encodedBase = 4 then 4 else 3
  if destination ≠ 4 ∨ (mode ≠ 1 ∧ mode ≠ 2) then .rejected
  else if encodedBase = 4 ∧ (remaining < 5 ∨ code 0 / 2 % 2 = 1 ∨ code 3 ≠ 0x24) then .rejected
  else if baseRegister ≠ frameRegister then .rejected
  else if mode = 1 then
    leaRsp candidate (displacementOffset + 1) baseRegister (signed8 (code displacementOffset)) seen
  else if remaining < displacementOffset + 4 then .rejected
  else leaRsp candidate (displacementOffset + 4) baseRegister
    (signed32 (loadU32 module (cursorRva + displacementOffset))) seen

/-- One round of the loop of `simulate_epilogue`. -/
def epilogueStep (module : PeModule) (entry : RuntimeFunction) (frameRegister : Nat)
    (stack : Stack) (cursorRva remaining : Nat) (first seen : Bool) (candidate : UnwindState) :
    EpilogueStep :=
  let code (index : Nat) : Nat := byteAt module (cursorRva + index)
  if first = true ∧ remaining ≥ 4 ∧ code 0 = 0x48 ∧ code 1 = 0x83 ∧ code 2 = 0xc4 then
    addRsp candidate 4 (signed8 (code 3)) seen
  else if first = true ∧ remaining ≥ 7 ∧ code 0 = 0x48 ∧ code 1 = 0x81 ∧ code 2 = 0xc4 then
    addRsp candidate 7 (signed32 (loadU32 module (cursorRva + 3))) seen
  else if first = true ∧ frameRegister ≠ 0 ∧ remaining ≥ 4 ∧ code 0 / 8 = 9 ∧
      code 0 / 4 % 2 = 0 ∧ code 1 = 0x8d then
    epilogueLea module frameRegister candidate cursorRva remaining seen
  else if seen = false ∧ 0x58 ≤ code 0 ∧ code 0 ≤ 0x5f then
    popRegister stack candidate 1 (code 0 - 0x58) seen
  else if seen = false ∧ remaining ≥ 2 ∧ code 0 / 16 = 4 ∧ 0x58 ≤ code 1 ∧ code 1 ≤ 0x5f then
    popRegister stack candidate 2 (code 1 - 0x58 + code 0 % 2 * 8) seen
  else if seen = false ∧ code 0 = 0xf2 then .next 1 candidate true
  else if code 0 = 0xc3 ∨ (remaining ≥ 2 ∧ code 0 = 0xf3 ∧ code 1 = 0xc3) then
    leaveFrame stack candidate
  else if remaining ≥ 3 ∧ code 0 = 0xc2 then
    returnAndRelease stack candidate (code 1 + 256 * code 2)
  else epilogueJump module entry stack candidate cursorRva remaining

/-- The loop of `simulate_epilogue`, for as many instructions as the first argument says. -/
def simulateInstructions (module : PeModule) (entry : RuntimeFunction) (frameRegister : Nat)
    (stack : Stack) : Nat → Nat → Bool → Bool → UnwindState → Option UnwindState
  | 0, _, _, _, _ => none
  | count + 1, cursorRva, first, seen, candidate =>
    let remaining := entry.endAddress - cursorRva
    if remaining = 0 ∨ moduleWindow module cursorRva remaining = false then none
    else match epilogueStep module entry frameRegister stack cursorRva remaining first seen
        candidate with
      | .rejected => none
      | .transfer candidate => some candidate
      | .next length candidate seen =>
        if length = 0 ∨ length > remaining then none
        else simulateInstructions module entry frameRegister stack count (cursorRva + length) false
          seen candidate

def simulateEpilogue (module : PeModule) (entry : RuntimeFunction) (frameRegister controlPc : Nat)
    (stack : Stack) (state : UnwindState) : Option UnwindState :=
  let imageBase := module.mapped.loadBase
  let cursorRva := controlPc - imageBase
  if controlPc < imageBase ∨ cursorRva > uint32Max then none
  else if cursorRva < entry.beginAddress ∨ cursorRva ≥ entry.endAddress then none
  else simulateInstructions module entry frameRegister stack 32 cursorRva true false state

/-! ### Version 2 -/

/-- The scan for the first push among the codes, which passes over `skip` slots first: the codes
from it on, none when there is no push, or a failure. -/
def scanToPush (version : Nat) : List CodeSlot → Nat → Option (List CodeSlot)
  | [], _ => some []
  | _ :: rest, skip + 1 => scanToPush version rest skip
  | slot :: rest, 0 =>
    let slots := unwindOperationSlots version slot.operation slot.info
    if slot.operation = .pushNonvol ∨ slot.operation = .pushMachframe then some (slot :: rest)
    else if slots = 0 ∨ slots > rest.length + 1 then none
    else scanToPush version rest (slots - 1)

/-- Reads a record of a chain and scans it for a push. -/
def recordWithPush (module : PeModule) (entry : RuntimeFunction) :
    Option (UnwindRecord × List CodeSlot) :=
  match readUnwindRecord module entry.unwindData with
  | none => none
  | some record =>
    if validateV2EpilogueRanges record entry = false then none
    else (scanToPush record.version record.codes record.epilogues.codeSlots).map (record, ·)

/-- The entry a record is chained to. -/
def chainedEntry (module : PeModule) (record : UnwindRecord) : Option RuntimeFunction :=
  let chained := readRuntimeFunction module record.trailerRva
  if moduleWindow module record.trailerRva runtimeFunctionSize = true ∧
      runtimeFunctionIsValid module chained = true then some chained
  else none

/-- The loop that selects the record of a chain with its pushes; with it, how many links the rest
of the chain may have. -/
def selectRecord (module : PeModule) :
    Nat → RuntimeFunction → Option (UnwindRecord × List CodeSlot × Nat)
  | 0, _ => none
  | depth + 1, entry =>
    match recordWithPush module entry with
    | none => none
    | some (record, codes) =>
      if codes ≠ [] ∨ hasFlag record.flags flagChainInfo = false then some (record, codes, depth)
      else (chainedEntry module record).bind (selectRecord module depth)

/-- The loop over the parents of the selected record, none of which may push. -/
def parentsPushNothing (module : PeModule) : Nat → UnwindRecord → Bool
  | depth, record =>
    if hasFlag record.flags flagChainInfo = false then true
    else match depth with
      | 0 => false
      | depth + 1 =>
        match (chainedEntry module record).bind (recordWithPush module) with
        | some (parent, []) => parentsPushNothing module depth parent
        | _ => false

/-- The loop over the pushes: undoes those whose pop lies at the offset or behind it. -/
def popRemaining (stack : Stack) (epilogueOffset : Nat) :
    List CodeSlot → Nat → UnwindState → Option (List CodeSlot × Nat × UnwindState)
  | [], currentOffset, state => some ([], currentOffset, state)
  | slot :: rest, currentOffset, state =>
    if slot.operation ≠ .pushNonvol then some (slot :: rest, currentOffset, state)
    else
      let length := if slot.info ≥ 8 then 2 else 1
      if currentOffset ≥ epilogueOffset then
        (popInteger stack state slot.info).bind
          (popRemaining stack epilogueOffset rest (currentOffset + length))
      else popRemaining stack epilogueOffset rest (currentOffset + length) state

/-- The one-byte pop that undoes `pushfq`. -/
def popFlags (epilogueOffset currentOffset : Nat) :
    List CodeSlot → UnwindState → Option (List CodeSlot × UnwindState)
  | [], state => some ([], state)
  | slot :: rest, state =>
    if slot.operation = .allocSmall ∧ slot.info = 0 then
      if currentOffset ≥ epilogueOffset then (release state 8).map (rest, ·) else some (rest, state)
    else some (slot :: rest, state)

/-- The return of an interrupt handler. -/
def popInterruptFrame (stack : Stack) (state : UnwindState) : Option UnwindState := do
  let rip ← readStackU64 stack state.context.rsp
  let oldRsp ← (addStackOffset state.context.rsp 24).bind (readStackU64 stack)
  some { state with context := { state.context.setInteger registerRsp oldRsp with rip := rip } }

/-- The control transfer that ends a declared epilogue. -/
def leaveV2Epilogue (stack : Stack) : List CodeSlot → UnwindState → Option UnwindState
  | [], state => popReturnAddress stack state
  | [slot], state =>
    if slot.operation = .pushMachframe then popInterruptFrame stack state else none
  | _ :: _ :: _, _ => none

def unwindV2Epilogue (module : PeModule) (entry : RuntimeFunction) (epilogueOffset : Nat)
    (stack : Stack) (state : UnwindState) : Option UnwindState := do
  let (record, codes, depth) ← selectRecord module maxChainDepth entry
  if parentsPushNothing module depth record = false then none
  else
    let (codes, currentOffset, state) ← popRemaining stack epilogueOffset codes 0 state
    let (codes, state) ← popFlags epilogueOffset currentOffset codes state
    leaveV2Epilogue stack codes state

end SadLayer.Unwind
