import SadLayer.Library.Rounds
import SadLayer.VirtualUnwindFacts

/-! The two passes over a guest stack: the search for a handler when an exception
is raised, and the unwind that a handler starts, which calls the termination
handlers up to its target. Guest code is whatever it does with what it is given. -/
namespace SadLayer.Unwind
open SadLayer.Library SadLayer.Module

def exceptionNoncontinuable : Nat := 0x01
def exceptionUnwinding : Nat := 0x02
def exceptionExitUnwind : Nat := 0x04
def exceptionTargetUnwind : Nat := 0x20

/-- `SL_WIN64_EXCEPTION_DISPOSITION_`. -/
def dispositionContinueExecution : Int := 0
def dispositionContinueSearch : Int := 1
def dispositionCollidedUnwind : Int := 3

/-- The answers of a top-level filter. -/
def filterContinueExecution : Int := -1
def filterExecuteHandler : Int := 1

/-- `SL_WIN64_STATUS_UNWIND`. -/
def statusUnwind : Nat := 0xc0000027

def maximumParameters : Nat := 15

/-- How many frames a walk visits at most. -/
def maxFrames : Nat := 256

/-- `sl_win64_exception_record`; the parameters are the first `number_parameters` of its array. -/
structure ExceptionRecord where
  exceptionCode : Nat := 0
  exceptionFlags : Nat := 0
  exceptionRecord : Nat := 0
  exceptionAddress : Nat := 0
  exceptionInformation : List Nat := []
  deriving DecidableEq, Repr

def ExceptionRecord.withFlags (record : ExceptionRecord) (flags : Nat) : ExceptionRecord :=
  { record with exceptionFlags := flags }

/-- `sl_win64_dispatcher_context`, with the context that it points to. -/
structure DispatcherContext where
  controlPc : Nat
  imageBase : Nat
  functionEntry : Nat
  establisherFrame : Nat
  targetIp : Nat
  contextRecord : Context
  languageHandler : LanguageHandler
  historyTable : Nat
  scopeIndex : Nat := 0

/-- What a language handler is given. In the second pass both contexts are one. -/
structure HandlerCall where
  record : ExceptionRecord
  establisherFrame : Nat
  context : Context
  dispatcher : DispatcherContext

/-- A handler that was called, and its disposition; none when it never returned. -/
structure HandlerRun where
  call : HandlerCall
  disposition : Option Int

/-- The arguments of `RtlUnwindEx`; a target frame of zero unwinds everything. -/
structure UnwindRequest where
  targetFrame : Nat
  targetIp : Nat
  record : Option ExceptionRecord
  returnValue : Nat
  historyTable : Nat := 0

/-- What a handler does: it returns, with whatever it left in the record and the contexts, or it
calls `RtlUnwindEx`, from where nothing comes back to it. A handler that returns may have lost its
link to an unwind inside it. -/
inductive HandlerOutcome where
  | returned (disposition : Int) (record : ExceptionRecord) (context callerContext : Context)
      (linked : Bool)
  | unwinds (request : UnwindRequest)

/-- What the top-level filter answers and leaves behind. -/
structure FilterOutcome where
  disposition : Int
  record : ExceptionRecord
  context : Context

/-- A guest thread: its modules, its stack, and its code, which may depend on all that was called
before. -/
structure Guest where
  memory : Memory
  registry : Option Registry
  stack : Stack
  handler : List HandlerRun → HandlerCall → HandlerOutcome
  filter : Option (List HandlerRun → ExceptionRecord → Context → FilterOutcome)

/-! ### What both passes see -/

/-- `sl_win64_virtual_unwind`, which always returns. -/
def virtualUnwindStatus (module : PeModule) (handlerType : HandlerType)
    (controlPc functionEntry : Nat) (context : Context) (stack : Stack)
    (pointers : Option ContextPointers) : Except Status Unwound :=
  (virtualUnwind module handlerType.flag controlPc functionEntry context stack pointers).get
    (Option.isSome_iff_ne_none.mpr
      (virtual_unwind_returns module controlPc functionEntry context stack pointers handlerType))

/-- Where an instruction lies. -/
inductive Located where
  | outside
  | leaf
  | function (found : FunctionEntry)
  /-- A lookup that failed, or found another module than the address did. -/
  | failed (status : Status)

def locate (memory : Memory) (registry : Registry) (rip : Nat) : Located :=
  match resolveAddress memory registry rip with
  | .error _ => .outside
  | .ok containing =>
    match lookupFunctionEntry memory registry rip with
    | .error .addressOutOfRange => .leaf
    | .error status => .failed status
    | .ok found => if found.index ≠ containing then .failed .ok else .function found

/-- The caller of a function without a table entry. -/
def leafCaller (stack : Stack) (context : Context) : Except Status Context :=
  match unwindLeaf context stack with
  | .error _ => .error .invalidImage
  | .ok caller => if caller.rsp ≤ context.rsp then .error .invalidImage else .ok caller

/-- Unwinds a function with a table entry, and checks that this makes progress. -/
def unwindFunction (stack : Stack) (handlerType : HandlerType) (found : FunctionEntry)
    (context : Context) : Except Status Unwound :=
  match virtualUnwindStatus found.module handlerType context.rip found.functionEntry context stack
      none with
  | .error status => .error status
  | .ok unwound =>
    if unwound.context.rsp ≤ context.rsp ∨
        stackFrameIsValid stack unwound.establisherFrame = false then .error .invalidImage
    else .ok unwound

/-- The links of `sl_win64_execute_handler` behind a handler: its own is taken off, or was lost
and takes all of them along. -/
def linksBehind (links : List Context) (linked : Bool) : List Context :=
  if linked then links else []

/-- `sl_win64_take_handler_unwind_origin`. -/
def takeHandlerUnwindOrigin (links : List Context) (context : Context) :
    Context × List Context :=
  match links with
  | [] => (context, [])
  | origin :: _ => (origin, [])

/-! ### The first pass -/

/-- What `dispatch_raised_exception` works on, with the handlers it called. -/
structure Dispatching where
  walking : Context
  record : ExceptionRecord
  original : Context
  links : List Context
  runs : List HandlerRun

/-- How the search ends: `leave` is a `break`, `stop` a `return`. -/
inductive SearchEnd where
  | leave (state : Dispatching)
  | stop (resumes : Bool) (state : Dispatching)
  | unwinds (request : UnwindRequest) (state : Dispatching)

/-- The call of a handler in the first pass. -/
def searchCall (dispatchFlags : Nat) (found : FunctionEntry) (unwound : Unwound)
    (languageHandler : LanguageHandler) (state : Dispatching) : HandlerCall := {
  record := state.record.withFlags dispatchFlags
  establisherFrame := unwound.establisherFrame
  context := state.original
  dispatcher := {
    controlPc := state.walking.rip
    imageBase := found.imageBase
    functionEntry := found.functionEntry
    establisherFrame := unwound.establisherFrame
    targetIp := 0
    contextRecord := unwound.context
    languageHandler := languageHandler
    historyTable := 0 } }

def noncontinuable (record : ExceptionRecord) : Bool :=
  hasFlag record.exceptionFlags exceptionNoncontinuable

/-- What a handler that returned leaves of the first pass. -/
def Dispatching.answered (state : Dispatching) (dispatchFlags : Nat) (call : HandlerCall)
    (disposition : Int) (record : ExceptionRecord) (context : Context) (linked : Bool) :
    Dispatching := {
  walking := state.walking
  record := record.withFlags dispatchFlags
  original := context
  links := linksBehind state.links linked
  runs := state.runs ++ [{ call := call, disposition := some disposition }] }

/-- Calls the handler of a frame in the first pass. -/
def searchHandler (guest : Guest) (dispatchFlags : Nat) (call : HandlerCall)
    (state : Dispatching) : Round Dispatching SearchEnd :=
  match guest.handler state.runs call with
  | .unwinds request => .done (.unwinds request { state with
      record := call.record
      links := state.walking :: state.links
      runs := state.runs ++ [{ call := call, disposition := none }] })
  | .returned disposition record context callerContext linked =>
    let state := state.answered dispatchFlags call disposition record context linked
    if disposition = dispositionContinueExecution then
      .done (.stop (!noncontinuable state.record) state)
    else if disposition ≠ dispositionContinueSearch then .done (.stop false state)
    else .next { state with walking := callerContext }

/-- One round of the loop of `dispatch_raised_exception`. -/
def searchStep (guest : Guest) (registry : Registry) (dispatchFlags : Nat) (state : Dispatching) :
    Round Dispatching SearchEnd :=
  match locate guest.memory registry state.walking.rip with
  | .outside => .done (.leave state)
  | .failed _ => .done (.stop false state)
  | .leaf =>
    match leafCaller guest.stack state.walking with
    | .error _ => .done (.stop false state)
    | .ok caller => .next { state with walking := caller }
  | .function found =>
    match unwindFunction guest.stack .exception found state.walking with
    | .error _ => .done (.stop false state)
    | .ok unwound =>
      match unwound.languageHandler with
      | none => .next { state with walking := unwound.context }
      | some languageHandler =>
        searchHandler guest dispatchFlags
          (searchCall dispatchFlags found unwound languageHandler state) state

/-- The loop of `dispatch_raised_exception`. -/
def searchFrames (guest : Guest) (registry : Registry) (dispatchFlags : Nat)
    (start : Dispatching) : SearchEnd :=
  rounds (searchStep guest registry dispatchFlags) .leave maxFrames start

/-- `sl_kernel32_unhandled_exception_filter`. -/
def unhandledExceptionFilter (guest : Guest) (state : Dispatching) : FilterOutcome :=
  match guest.filter with
  | none => {
      disposition := filterExecuteHandler
      record := state.record
      context := state.original }
  | some filter =>
    let answer := filter state.runs state.record state.original
    if answer.disposition = filterContinueExecution ∨
        answer.disposition = filterExecuteHandler then answer
    else { answer with disposition := filterExecuteHandler }

/-- How a dispatch ends: it returns, after it asked the filter or without, or a handler unwinds. -/
inductive Dispatched where
  | returned (resumes : Bool) (filtered : Option Int) (state : Dispatching)
  | unwinds (request : UnwindRequest) (state : Dispatching)

/-- `dispatch_flags`. -/
def dispatchFlagsOf (record : ExceptionRecord) : Nat :=
  record.exceptionFlags &&& exceptionNoncontinuable

/-- What the search of `dispatch_raised_exception` begins with. -/
def searchStart (record : ExceptionRecord) (original : Context) (links : List Context) :
    Dispatching := {
  walking := original
  record := record.withFlags (dispatchFlagsOf record)
  original := original
  links := links
  runs := [] }

/-- The search of `dispatch_raised_exception`, none without a registry. -/
def searchRaised (guest : Guest) (record : ExceptionRecord) (original : Context)
    (links : List Context) : SearchEnd :=
  match guest.registry with
  | none => .leave (searchStart record original links)
  | some registry =>
    searchFrames guest registry (dispatchFlagsOf record) (searchStart record original links)

/-- `dispatch_raised_exception`. -/
def dispatchRaisedException (guest : Guest) (record : ExceptionRecord) (original : Context)
    (links : List Context) : Dispatched :=
  match searchRaised guest record original links with
  | .leave state =>
    let answer := unhandledExceptionFilter guest state
    let state := { state with
      record := answer.record.withFlags (dispatchFlagsOf record)
      original := answer.context }
    .returned (answer.disposition = filterContinueExecution && !noncontinuable state.record)
      (some answer.disposition) state
  | .stop resumes state => .returned resumes none state
  | .unwinds request state => .unwinds request state

/-- The record that `sl_kernel32_raise_exception_dispatch` raises. -/
def raisedRecord (exceptionCode exceptionFlags : Nat) (arguments : Option (List Nat))
    (context : Context) : ExceptionRecord := {
  exceptionCode := exceptionCode
  exceptionFlags := exceptionFlags &&& exceptionNoncontinuable
  exceptionAddress := context.rip
  exceptionInformation := (arguments.getD []).take maximumParameters }

/-! ### The second pass -/

/-- A frame that an unwind came to. -/
structure VisitedFrame where
  controlPc : Nat
  rsp : Nat
  establisherFrame : Nat
  deriving DecidableEq

/-- The frame of a context. -/
def Context.visit (context : Context) (establisherFrame : Nat) : VisitedFrame := {
  controlPc := context.rip
  rsp := context.rsp
  establisherFrame := establisherFrame }

/-- What `sl_win64_unwind_to_frame` works on, with the frames it visited and the handlers it
called. -/
structure Unwinding where
  walking : Context
  record : ExceptionRecord
  links : List Context
  visited : List VisitedFrame
  runs : List HandlerRun

/-- How the walk ends: `arrive` writes the target context. -/
inductive WalkEnd where
  | stop (status : Status) (state : Unwinding)
  | arrive (context : Context) (state : Unwinding)
  | unwinds (request : UnwindRequest) (state : Unwinding)

/-- The context that an unwind resumes. -/
def resumeAt (request : UnwindRequest) (context : Context) : Context :=
  { context.setInteger registerRax request.returnValue with rip := request.targetIp }

/-- `at_target`. -/
def atTarget (request : UnwindRequest) (establisherFrame : Nat) : Bool :=
  request.targetFrame != 0 && establisherFrame == request.targetFrame

/-- The call of a handler in the second pass. -/
def terminationCall (request : UnwindRequest) (found : FunctionEntry) (unwound : Unwound)
    (languageHandler : LanguageHandler) (state : Unwinding) : HandlerCall :=
  let flags := state.record.exceptionFlags
  let walking := state.walking.setInteger registerRax request.returnValue
  { record := state.record.withFlags
      (if atTarget request unwound.establisherFrame then flags ||| exceptionTargetUnwind
        else flags)
    establisherFrame := unwound.establisherFrame
    context := walking
    dispatcher := {
      controlPc := state.walking.rip
      imageBase := found.imageBase
      functionEntry := found.functionEntry
      establisherFrame := unwound.establisherFrame
      targetIp := request.targetIp
      contextRecord := walking
      languageHandler := languageHandler
      historyTable := request.historyTable } }

/-- What a handler that returned leaves of the second pass. -/
def Unwinding.answered (state : Unwinding) (unwindFlags : Nat) (call : HandlerCall)
    (disposition : Int) (record : ExceptionRecord) (context : Context) (linked : Bool) :
    Unwinding := {
  walking := context
  record := record.withFlags unwindFlags
  links := linksBehind state.links linked
  visited := state.visited
  runs := state.runs ++ [{ call := call, disposition := some disposition }] }

/-- Calls the handler of a frame in the second pass, and goes on with the caller unless the frame
is the target. What the handler leaves in the context only counts there. -/
def terminationHandler (guest : Guest) (request : UnwindRequest) (unwindFlags : Nat)
    (call : HandlerCall) (caller : Context) (state : Unwinding) : Round Unwinding WalkEnd :=
  match guest.handler state.runs call with
  | .unwinds nested => .done (.unwinds nested { state with
      record := call.record
      links := call.context :: state.links
      runs := state.runs ++ [{ call := call, disposition := none }] })
  | .returned disposition record context _ linked =>
    let state := state.answered unwindFlags call disposition record context linked
    if disposition ≠ dispositionContinueSearch then .done (.stop
      (if disposition = dispositionCollidedUnwind then .notImplemented else .invalidState) state)
    else if atTarget request call.establisherFrame then
      .done (.arrive (resumeAt request state.walking) state)
    else .next { state with walking := caller }

/-- One round of the loop of `sl_win64_unwind_to_frame`. -/
def unwindStep (guest : Guest) (registry : Registry) (request : UnwindRequest) (unwindFlags : Nat)
    (state : Unwinding) : Round Unwinding WalkEnd :=
  let targetFrame := request.targetFrame
  if stackFrameIsValid guest.stack state.walking.rsp = false then
    .done (.stop .invalidImage state)
  else match locate guest.memory registry state.walking.rip with
  | .outside => .done (.stop (if targetFrame = 0 then .notImplemented else .invalidState) state)
  | .failed status => .done (.stop status state)
  | .leaf =>
    let state := { state with
      visited := state.visited ++ [state.walking.visit state.walking.rsp] }
    if targetFrame ≠ 0 ∧ state.walking.rsp = targetFrame then
      .done (.arrive (resumeAt request state.walking) state)
    else match leafCaller guest.stack state.walking with
      | .error status => .done (.stop status state)
      | .ok caller => .next { state with walking := caller }
  | .function found =>
    match unwindFunction guest.stack .termination found state.walking with
    | .error status => .done (.stop status state)
    | .ok unwound =>
      let state := { state with
        visited := state.visited ++ [state.walking.visit unwound.establisherFrame] }
      if targetFrame ≠ 0 ∧ unwound.establisherFrame > targetFrame then
        .done (.stop .invalidState state)
      else match unwound.languageHandler with
        | some languageHandler =>
          terminationHandler guest request unwindFlags
            (terminationCall request found unwound languageHandler state)
            unwound.context state
        | none =>
          if atTarget request unwound.establisherFrame then
            .done (.arrive (resumeAt request state.walking) state)
          else .next { state with walking := unwound.context }

/-- The loop of `sl_win64_unwind_to_frame`. -/
def unwindFrames (guest : Guest) (registry : Registry) (request : UnwindRequest)
    (unwindFlags : Nat) (start : Unwinding) : WalkEnd :=
  rounds (unwindStep guest registry request unwindFlags) (.stop .forwarderLimit) maxFrames start

/-- `unwind_flags`. -/
def unwindFlagsOf (request : UnwindRequest) (record : ExceptionRecord) : Nat :=
  let flags := (record.exceptionFlags &&& exceptionNoncontinuable) ||| exceptionUnwinding
  if request.targetFrame = 0 then flags ||| exceptionExitUnwind else flags

/-- What `sl_win64_unwind_to_frame` asks of its arguments. -/
def unwindArgumentsStatus (guest : Guest) (request : UnwindRequest) (context : Context) :
    Status :=
  let targetFrame := request.targetFrame
  if stackFrameIsValid guest.stack context.rsp = false ∨ (targetFrame ≠ 0 ∧
      (stackFrameIsValid guest.stack targetFrame = false ∨ targetFrame < context.rsp ∨
        request.targetIp = 0)) then .invalidArgument
  else match guest.registry with
    | none => .invalidArgument
    | some registry =>
      if targetFrame = 0 then .ok
      else match resolveAddress guest.memory registry request.targetIp with
        | .error _ => .addressOutOfRange
        | .ok index =>
          match (registry.modules index).contents with
          | .native _ => .addressOutOfRange
          | .pe _ _ => .ok

/-- How an unwind ends: it returns a status and what is in the target context then, or a handler
starts another unwind. -/
inductive Unwinds where
  | returned (status : Status) (targetContext : Context) (state : Unwinding)
  | unwinds (request : UnwindRequest) (state : Unwinding)

/-- What an end of the walk is for its caller. -/
def WalkEnd.returns (targetContext : Context) : WalkEnd → Unwinds
  | .stop status state => .returned status targetContext state
  | .arrive resumed state => .returned .ok resumed state
  | .unwinds nested state => .unwinds nested state

/-- `sl_win64_unwind_to_frame`. -/
def unwindToFrame (guest : Guest) (request : UnwindRequest) (record : ExceptionRecord)
    (context : Context) (links : List Context) (targetContext : Context) : Unwinds :=
  let start : Unwinding := {
    walking := context
    record := record
    links := links
    visited := []
    runs := [] }
  match unwindArgumentsStatus guest request context, guest.registry with
  | .ok, some registry =>
    let unwindFlags := unwindFlagsOf request record
    let start := { start with record := record.withFlags unwindFlags }
    (unwindFrames guest registry request unwindFlags start).returns targetContext
  | status, _ => .returned status targetContext start

/-- How `RtlUnwindEx` ends: it resumes a context, aborts, or a handler starts another unwind. -/
inductive UnwindEnd where
  | resumed (context : Context) (state : Unwinding)
  | aborted (state : Unwinding)
  | unwinds (request : UnwindRequest) (state : Unwinding)

/-- `sl_kernel32_rtl_unwind_ex_dispatch`, from the context that was captured in its caller. What
the local target context holds before it is written does not matter. -/
def rtlUnwindExDispatch (guest : Guest) (request : UnwindRequest) (captured : Context)
    (links : List Context) : UnwindEnd :=
  let (context, links) := takeHandlerUnwindOrigin links captured
  let record := request.record.getD {
    exceptionCode := statusUnwind
    exceptionAddress := context.rip }
  match unwindToFrame guest request record context links {} with
  | .returned .ok resumed state => .resumed resumed state
  | .returned _ _ state => .aborted state
  | .unwinds nested state => .unwinds nested state

end SadLayer.Unwind
