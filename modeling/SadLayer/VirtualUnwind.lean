import SadLayer.Epilogues

/-! Unwinding one frame: from a context inside a function to that of its caller,
with the handler of the function. -/
namespace SadLayer.Unwind
open SadLayer.Library SadLayer.Pe

/-- A handler that a record names, and where the data behind it begins, both in the host. -/
structure LanguageHandler where
  handler : Nat
  handlerData : Nat
  deriving DecidableEq, Repr

/-- What `sl_win64_virtual_unwind` commits. -/
structure Unwound where
  context : Context
  pointers : Option ContextPointers
  establisherFrame : Nat
  languageHandler : Option LanguageHandler

/-- `runtime_entry_from_pointer`. -/
def runtimeEntryFromPointer (module : PeModule) (functionEntry : Nat) : Option RuntimeFunction :=
  match exceptionDirectory module with
  | none => none
  | some (table, entryCount) =>
    let tableAddress := module.mapped.address + table
    let tableSize := entryCount * runtimeFunctionSize
    if functionEntry < tableAddress ∨
        functionEntry - tableAddress > tableSize - runtimeFunctionSize ∨
        (functionEntry - tableAddress) % runtimeFunctionSize ≠ 0 then none
    else
      let entry := readRuntimeFunction module (table + (functionEntry - tableAddress))
      if runtimeFunctionIsValid module entry then some entry else none

/-- Whether a record's frame register is established; `none` when the scan never ends. -/
def frameIsEstablished (record : UnwindRecord) (inPrologue : Bool) (prologueOffset : Nat) :
    Option Bool :=
  if record.frameRegister = 0 then some false
  else if hasFlag record.flags flagChainInfo = true ∧ record.hasFrameSetup = false then some true
  else frameRegisterIsEstablished record.version inPrologue prologueOffset record.codes 0

/-- The base of a frame: off its frame register when that is established, else the stack
pointer. -/
def frameBaseOf (record : UnwindRecord) (inPrologue : Bool) (prologueOffset : Nat)
    (context : Context) : Option (Except Status Nat) :=
  match frameIsEstablished record inPrologue prologueOffset with
  | none => none
  | some false => some (.ok context.rsp)
  | some true =>
    let frameValue := context.integer record.frameRegister
    let scaledOffset := record.frameOffset * 16
    if frameValue < scaledOffset then some (.error .invalidImage)
    else some (.ok (frameValue - scaledOffset))

/-- Where the records of a chain end. -/
structure ChainEnd where
  state : UnwindState
  flags : Nat
  trailerRva : Nat
  establisherFrame : Nat
  allowHandler : Bool

/-- The loop of `sl_win64_virtual_unwind` over the records of a chain; `first` is what the first
one settled, the establisher frame and whether a handler may be called. -/
def unwindRecords (module : PeModule) (controlPc : Nat) (stack : Stack) :
    Nat → Option (Nat × Bool) → RuntimeFunction → UnwindState → Option (Except Status ChainEnd)
  | 0, _, _, _ => some (.error .forwarderLimit)
  | depth + 1, first, entry, state =>
    match unwindRecordAt module entry.unwindData with
    | none => some (.error .invalidImage)
    | some record =>
      let relativePc := controlPc - module.mapped.loadBase
      let procedureOffset :=
        if entry.beginAddress ≤ relativePc then relativePc - entry.beginAddress else uint64Max
      let inPrologue := first.isNone && procedureOffset < record.prologueSize
      let prologueOffset := if inPrologue then procedureOffset else 255
      match frameBaseOf record inPrologue prologueOffset state.context with
      | none => none
      | some (.error status) => some (.error status)
      | some (.ok frameBase) =>
        let settled := first.getD (frameBase, !inPrologue)
        match applyUnwindCodes record.version inPrologue prologueOffset frameBase stack record.codes
            0 state with
        | .endless => none
        | .rejected => some (.error .invalidImage)
        | .done state =>
          if record.trailerRva > uint32Max then some (.error .invalidImage)
          else if hasFlag record.flags flagChainInfo then
            match chainedEntry module record with
            | none => some (.error .invalidImage)
            | some entry => unwindRecords module controlPc stack depth (some settled) entry state
          else some (.ok {
            state := state
            flags := record.flags
            trailerRva := record.trailerRva
            establisherFrame := settled.1
            allowHandler := settled.2 })

/-- The handler of a chain's last record, when one of that type is asked for and allowed. -/
def findHandler (module : PeModule) (handlerType : Nat) (last : ChainEnd) :
    Except Status (Option LanguageHandler) :=
  if last.allowHandler = true ∧ hasFlag last.flags handlerType = true then
    if handlerIsValid module last.trailerRva = false ∨
        last.trailerRva + 4 > module.mapped.size then .error .invalidImage
    else .ok (some {
      handler := module.mapped.address + loadU32 module last.trailerRva
      handlerData := module.mapped.address + last.trailerRva + 4 })
  else .ok none

/-- The state of the caller: a machine frame holds all of it, else there is a return address. -/
def finalState (stack : Stack) (last : ChainEnd) : Option UnwindState :=
  if last.state.machineFrame then some last.state else popReturnAddress stack last.state

/-- The end of `sl_win64_virtual_unwind`. -/
def finishUnwind (module : PeModule) (handlerType : Nat) (stack : Stack) (last : ChainEnd) :
    Except Status Unwound :=
  match findHandler module handlerType last with
  | .error status => .error status
  | .ok languageHandler =>
    match finalState stack last with
    | none => .error .invalidImage
    | some state => .ok {
        context := state.context
        pointers := state.pointers
        establisherFrame := last.establisherFrame
        languageHandler := languageHandler }

/-- What a recognised epilogue comes to, if there is one. -/
def unwindEpilogue (module : PeModule) (entry : RuntimeFunction) (record : UnwindRecord)
    (controlPc : Nat) (stack : Stack) (state : UnwindState) :
    Except Status (Option UnwindState) :=
  if record.version = 1 then
    .ok (simulateEpilogue module entry record.frameRegister controlPc stack state)
  else match findV2Epilogue record entry (controlPc - module.mapped.loadBase) with
    | none => .ok none
    | some epilogueOffset =>
      match unwindV2Epilogue module entry epilogueOffset stack state with
      | none => .error .invalidImage
      | some state => .ok (some state)

/-- The establisher frame of the first record, before anything is undone. -/
def initialEstablisher (module : PeModule) (controlPc : Nat) (entry : RuntimeFunction)
    (firstRecord : UnwindRecord) (context : Context) : Option (Except Status Nat) :=
  let procedureOffset := controlPc - module.mapped.loadBase - entry.beginAddress
  let inPrologue := decide (procedureOffset < firstRecord.prologueSize)
  frameBaseOf firstRecord inPrologue (if inPrologue then procedureOffset else 255) context

/-- `sl_win64_virtual_unwind` behind the checks of its arguments and of the chain; `none` when it
never returns. -/
def unwindValidated (module : PeModule) (handlerType controlPc : Nat) (entry : RuntimeFunction)
    (firstRecord : UnwindRecord) (stack : Stack) (state : UnwindState) :
    Option (Except Status Unwound) :=
  match initialEstablisher module controlPc entry firstRecord state.context with
  | none => none
  | some (.error status) => some (.error status)
  | some (.ok establisherFrame) =>
    match unwindEpilogue module entry firstRecord controlPc stack state with
    | .error status => some (.error status)
    | .ok (some state) => some (.ok {
        context := state.context
        pointers := state.pointers
        establisherFrame := establisherFrame
        languageHandler := none })
    | .ok none =>
      match unwindRecords module controlPc stack maxChainDepth none entry state with
      | none => none
      | some (.error status) => some (.error status)
      | some (.ok last) => some (finishUnwind module handlerType stack last)

/-- `sl_win64_virtual_unwind`; `none` when it never returns. -/
def virtualUnwind (module : PeModule) (handlerType controlPc functionEntry : Nat)
    (context : Context) (stack : Stack) (pointers : Option ContextPointers) :
    Option (Except Status Unwound) :=
  let relativePc := controlPc - module.mapped.loadBase
  if stack.limit ≥ stack.base ∨ (handlerType ≠ flagNHandler ∧ handlerType ≠ flagEHandler ∧
      handlerType ≠ flagUHandler) then some (.error .invalidArgument)
  else match runtimeEntryFromPointer module functionEntry with
    | none => some (.error .invalidArgument)
    | some entry =>
      if controlPc < module.mapped.loadBase ∨ relativePc < entry.beginAddress ∨
          relativePc ≥ entry.endAddress then some (.error .invalidArgument)
      else match validateUnwindChain module maxChainDepth none entry with
        | .error status => some (.error status)
        | .ok firstRecord => unwindValidated module handlerType controlPc entry firstRecord stack
            { context := context, pointers := pointers }

/-- `sl_win64_unwind_leaf`. -/
def unwindLeaf (context : Context) (stack : Stack) : Except Status Context :=
  if stack.limit ≥ stack.base then .error .invalidArgument
  else match popReturnAddress stack { context := context, pointers := none } with
    | none => .error .invalidImage
    | some state => .ok state.context

end SadLayer.Unwind
