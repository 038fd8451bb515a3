import SadLayer.FirstPass
import SadLayer.SecondPass

/-! The unwind that the handler of a dispatch starts: it begins in the frame of the
handler, so that the termination handlers of the frames below are not called. -/
namespace SadLayer.Unwind
open SadLayer.Library SadLayer.Module

/-- The frames that a search has passed, the first one first. Each handler on the way went on with
the search. -/
inductive SearchStack (guest : Guest) (registry : Registry) (dispatchFlags : Nat) :
    Dispatching → List GuestFrame → Dispatching → Prop where
  | empty (state : Dispatching) : SearchStack guest registry dispatchFlags state [] state
  | frame {state after last : Dispatching} {frame : GuestFrame} {frames : List GuestFrame} :
      frameAt guest registry state.walking = some frame →
      searchStep guest registry dispatchFlags state = .next after →
      SearchStack guest registry dispatchFlags after frames last →
      SearchStack guest registry dispatchFlags state (frame :: frames) last

section Search
variable {guest : Guest} {registry : Registry} {dispatchFlags : Nat} {start state : Dispatching}
  {frames : List GuestFrame}

theorem SearchStack.reaches (passed : SearchStack guest registry dispatchFlags start frames state) :
    Reaches (searchStep guest registry dispatchFlags) frames.length start state := by
  induction passed with
  | empty state => exact .here state
  | frame _ stepped _ ih => exact .next stepped ih

/-- Where handlers leave the contexts of their callers alone, these are the frames of the call
stack. -/
theorem SearchStack.call_stack (polite : LeavesCallers guest)
    (passed : SearchStack guest registry dispatchFlags start frames state) :
    CallStack guest registry start.walking frames state.walking := by
  induction passed with
  | empty state => exact .empty state.walking
  | @frame state after last frame frames found stepped _ ih =>
    obtain ⟨ended, stopped, -⟩ | ⟨next, went, walking, -⟩ :=
      (search_step_searched guest registry dispatchFlags state).in_frame polite found
    · cases stopped.symm.trans stepped
    · cases went.symm.trans stepped
      exact .frame found (walking ▸ ih)

/-- A handler that unwinds behind such frames ends the dispatch. -/
theorem SearchStack.dispatch {record : ExceptionRecord} {original : Context}
    {links : List Context} {request : UnwindRequest} {after : Dispatching}
    (registered : guest.registry = some registry)
    (passed : SearchStack guest registry (dispatchFlagsOf record)
      (searchStart record original links) frames state) (fits : frames.length < maxFrames)
    (unwinds : searchStep guest registry (dispatchFlagsOf record) state =
      .done (.unwinds request after)) :
    dispatchRaisedException guest record original links = .unwinds request after := by
  have run := passed.reaches.rounds .leave (maxFrames - frames.length - 1 + 1)
  rw [show frames.length + (maxFrames - frames.length - 1 + 1) = maxFrames by omega,
    rounds_done unwinds] at run
  have searched : searchRaised guest record original links = .unwinds request after := by
    rw [searchRaised, registered]
    exact run
  rw [dispatchRaisedException, searched]

/-- The link of a handler that unwinds leads to its frame. -/
theorem searched_links {request : UnwindRequest} {after : Dispatching}
    (unwinds : searchStep guest registry dispatchFlags state = .done (.unwinds request after)) :
    after.links = state.walking :: state.links ∧
    ∃ frame, frameAt guest registry state.walking = some frame ∧ frame.exceptionHandler ≠ none := by
  have searched : Searched guest registry dispatchFlags state (.done (.unwinds request after)) :=
    unwinds ▸ search_step_searched guest registry dispatchFlags state
  cases searched with
  | calls frame found languageHandler declared call site caller searched =>
    cases searched with
    | unwinds request outcome => exact ⟨rfl, frame, found, by simp [declared]⟩

end Search

/-! ### The unwind from the frame of the handler -/

theorem resolved_is_pe {memory : Memory} {registry : Registry} {address index : Nat}
    (resolved : resolveAddress memory registry address = .ok index) :
    address ≠ 0 ∧ ∃ image mapped, (registry.modules index).contents = .pe image mapped := by
  unfold resolveAddress at resolved
  dsimp only at resolved
  split at resolved
  · cases resolved
  · rename_i nonzero
    refine ⟨nonzero, ?_⟩
    split at resolved
    · cases resolved
    · rename_i known
      cases resolved
      have holds := (first_index_eq_some.mp known).2.1
      cases contents : (registry.modules index).contents with
      | native exports =>
        rw [contents] at holds
        cases holds
      | pe image mapped => exact ⟨image, mapped, rfl⟩

/-- Handlers that all go on with the search. -/
def Continues (handler : List HandlerRun → HandlerCall → HandlerOutcome) : Prop :=
  ∀ runs call, ∃ record context callerContext linked, handler runs call =
    .returned dispositionContinueSearch record context callerContext linked

section Unwind
variable (guest : Guest) {registry : Registry} {request : UnwindRequest} {context : Context}
  {frame : GuestFrame} {index : Nat}

/-- What the arguments of an unwind to a frame come to, when its target lies in a module. -/
theorem unwind_arguments_accepted (context : Context)
    (registered : guest.registry = some registry) (nonzero : request.targetFrame ≠ 0)
    (valid : stackFrameIsValid guest.stack request.targetFrame = true)
    (inModule : resolveAddress guest.memory registry request.targetIp = .ok index) :
    unwindArgumentsStatus guest request context =
      if stackFrameIsValid guest.stack context.rsp = true ∧ context.rsp ≤ request.targetFrame
      then .ok else .invalidArgument := by
  obtain ⟨nonzeroIp, image, mapped, contents⟩ := resolved_is_pe inModule
  unfold unwindArgumentsStatus
  by_cases fits : stackFrameIsValid guest.stack context.rsp = true ∧
      context.rsp ≤ request.targetFrame
  · have accepted : ¬ (stackFrameIsValid guest.stack context.rsp = false ∨
        (request.targetFrame ≠ 0 ∧ (stackFrameIsValid guest.stack request.targetFrame = false ∨
          request.targetFrame < context.rsp ∨ request.targetIp = 0))) := by
      simp [fits.1, valid, nonzeroIp, fits.2]
    simp only [if_pos fits, if_neg accepted, registered, if_neg nonzero, inModule, contents]
  · have refused : stackFrameIsValid guest.stack context.rsp = false ∨
        (request.targetFrame ≠ 0 ∧ (stackFrameIsValid guest.stack request.targetFrame = false ∨
          request.targetFrame < context.rsp ∨ request.targetIp = 0)) := by
      rw [not_and_or, Bool.not_eq_true, Nat.not_le] at fits
      rcases fits with invalid | above
      · exact .inl invalid
      · exact .inr ⟨nonzero, .inr (.inl above)⟩
    simp only [if_neg fits, if_pos refused]

variable {guest}

/-- A frame with a handler is that of a function, which the second pass unwinds as well. -/
theorem handled_function (found : frameAt guest registry context = some frame)
    (handled : frame.exceptionHandler ≠ none) :
    ∃ function unwound, locate guest.memory registry context.rip = .function function ∧
      unwindFunction guest.stack .termination function context = .ok unwound ∧
      unwound.establisherFrame = frame.establisherFrame ∧
      unwound.languageHandler = frame.terminationHandler ∧ frame.context = context := by
  obtain ⟨caller, -, -, rfl⟩ |
      ⟨function, searched, terminated, located, -, second, -, sameFrame, rfl⟩ :=
    frame_at_some found
  · exact absurd rfl handled
  · exact ⟨function, terminated, located, second, sameFrame, rfl, rfl⟩

/-- A walk that begins at its target calls the handler there alone. -/
theorem walk_at_target (found : frameAt guest registry context = some frame)
    (handled : frame.exceptionHandler ≠ none) (continues : Continues guest.handler)
    (nonzero : request.targetFrame ≠ 0) (target : request.targetFrame = frame.establisherFrame)
    (valid : stackFrameIsValid guest.stack context.rsp = true) (unwindFlags : Nat)
    (start : Unwinding) (stands : start.walking = context) (fresh : start.runs = []) :
    ∃ resumed state, unwindFrames guest registry request unwindFlags start =
        .arrive resumed state ∧ resumed.rip = request.targetIp ∧
      state.runs.map (fun run => run.call.site) = frame.terminationSite.toList := by
  subst stands
  obtain ⟨function, unwound, located, unwinds, sameFrame, handler, here⟩ :=
    handled_function found handled
  have arrived : atTarget request unwound.establisherFrame = true :=
    at_target_iff.mpr ⟨nonzero, by rw [sameFrame, target]⟩
  have notAbove : ¬ (request.targetFrame ≠ 0 ∧
      unwound.establisherFrame > request.targetFrame) := by
    rw [sameFrame, target]
    omega
  have inside : ¬ stackFrameIsValid guest.stack start.walking.rsp = false := by simp [valid]
  suffices stepped : ∃ resumed state,
      unwindStep guest registry request unwindFlags start = .done (.arrive resumed state) ∧
        resumed.rip = request.targetIp ∧
        state.runs.map (fun run => run.call.site) = frame.terminationSite.toList by
    obtain ⟨resumed, state, ends, rip, sites⟩ := stepped
    refine ⟨resumed, state, ?_, rip, sites⟩
    rw [unwindFrames, show maxFrames = 255 + 1 from rfl]
    exact rounds_done ends
  cases declared : unwound.languageHandler with
  | none =>
    refine ⟨resumeAt request start.walking,
      start.visiting (start.walking.visit unwound.establisherFrame), ?_, rfl, ?_⟩
    · simp only [unwindStep, if_neg inside, located, unwinds, if_neg notAbove, declared,
        if_pos arrived]
      rfl
    · rw [declared] at handler
      simp [Unwinding.visiting, fresh, GuestFrame.terminationSite, ← handler]
  | some languageHandler =>
    obtain ⟨record, left, callerContext, linked, outcome⟩ := continues start.runs
      (terminationCall request function unwound languageHandler
        (start.visiting (start.walking.visit unwound.establisherFrame)))
    refine ⟨resumeAt request left,
      (start.visiting (start.walking.visit unwound.establisherFrame)).answered unwindFlags
        (terminationCall request function unwound languageHandler
          (start.visiting (start.walking.visit unwound.establisherFrame)))
        dispositionContinueSearch record left linked, ?_, rfl, ?_⟩
    · simp only [unwindStep, if_neg inside, located, unwinds, if_neg notAbove, declared]
      unfold terminationHandler
      simp only [Unwinding.visiting] at outcome
      have atCall : atTarget request (terminationCall request function unwound languageHandler
          (start.visiting (start.walking.visit unwound.establisherFrame))).establisherFrame =
          true := arrived
      simp only [outcome, ne_eq, not_true_eq_false, if_false]
      simp only [Unwinding.visiting] at atCall
      rw [if_pos atCall]
      rfl
    · rw [declared] at handler
      simp [Unwinding.answered, Unwinding.visiting, fresh, GuestFrame.terminationSite, ← handler,
        HandlerCall.site, GuestFrame.site, terminationCall, here, sameFrame]

variable (guest)

/-- An unwind whose target is the frame of an accepted context arrives there at once. -/
theorem unwind_at_target (registered : guest.registry = some registry)
    (found : frameAt guest registry context = some frame)
    (handled : frame.exceptionHandler ≠ none) (continues : Continues guest.handler)
    (nonzero : request.targetFrame ≠ 0) (target : request.targetFrame = frame.establisherFrame)
    (accepted : unwindArgumentsStatus guest request context = .ok)
    (valid : stackFrameIsValid guest.stack context.rsp = true) (record : ExceptionRecord)
    (links : List Context) (targetContext : Context) :
    ∃ resumed state, unwindToFrame guest request record context links targetContext =
        .returned .ok resumed state ∧ resumed.rip = request.targetIp ∧
      state.runs.map (fun run => run.call.site) = frame.terminationSite.toList := by
  obtain ⟨resumed, state, arrives, rip, sites⟩ := walk_at_target found handled continues nonzero
    target valid (unwindFlagsOf request record)
    ⟨context, record.withFlags (unwindFlagsOf request record), links, [], []⟩ rfl rfl
  refine ⟨resumed, state, ?_, rip, sites⟩
  unfold unwindToFrame
  simp only [accepted, registered, arrives, WalkEnd.returns]

end Unwind

/-! ### Which termination handlers are called -/

/-- The second pass resumes at the target, behind the termination handlers of the frames, from the
innermost on, once each. -/
def CompletesSecondPass (ended : UnwindEnd) (request : UnwindRequest) (frames : List GuestFrame) :
    Prop :=
  ∃ resumed state, ended = .resumed resumed state ∧ resumed.rip = request.targetIp ∧
    state.runs.map (fun run => run.call.site) = frames.filterMap GuestFrame.terminationSite

/-- The frame that handles the exception is one that an unwind can begin in and go to, and none of
the frames that it called has a termination handler. -/
structure HandlesAlone (guest : Guest) (inner : List GuestFrame) (context : Context)
    (frame : GuestFrame) : Prop where
  nothingInside : ∀ other ∈ inner, other.terminationHandler = none
  nonzero : frame.establisherFrame ≠ 0
  valid : stackFrameIsValid guest.stack context.rsp = true
  below : context.rsp ≤ frame.establisherFrame

theorem termination_sites_nil {frames : List GuestFrame} :
    frames.filterMap GuestFrame.terminationSite = [] ↔
      ∀ other ∈ frames, other.terminationHandler = none := by
  rw [List.filterMap_eq_nil_iff]
  simp [GuestFrame.terminationSite]

/-- An unwind that resumes was one that returned `SL_OK`. -/
theorem resumed_returned {guest : Guest} {request : UnwindRequest} {captured resumed : Context}
    {context : Context} {links : List Context} {state : Unwinding}
    (resumes : rtlUnwindExDispatch guest request captured (context :: links) =
      .resumed resumed state) :
    unwindToFrame guest request (request.record.getD {
      exceptionCode := statusUnwind
      exceptionAddress := context.rip }) context [] {} = .returned .ok resumed state := by
  unfold rtlUnwindExDispatch at resumes
  simp only [takeHandlerUnwindOrigin] at resumes
  split at resumes
  · rename_i returned
    cases resumes
    exact returned
  · cases resumes
  · cases resumes

theorem returned_resumed {guest : Guest} {request : UnwindRequest} {captured resumed : Context}
    {context : Context} {links : List Context} {state : Unwinding}
    (returned : unwindToFrame guest request (request.record.getD {
      exceptionCode := statusUnwind
      exceptionAddress := context.rip }) context [] {} = .returned .ok resumed state) :
    rtlUnwindExDispatch guest request captured (context :: links) = .resumed resumed state := by
  unfold rtlUnwindExDispatch
  simp only [takeHandlerUnwindOrigin, returned]

/-- An unwind that begins at a frame to go to that frame calls all handlers of the frames before
it, and its own, if and only if there are none before it. -/
theorem unwind_completes_iff (guest : Guest) (registry : Registry)
    (registered : guest.registry = some registry) (inner : List GuestFrame) (context : Context)
    (frame : GuestFrame) (found : frameAt guest registry context = some frame)
    (handled : frame.exceptionHandler ≠ none) (request : UnwindRequest)
    (target : request.targetFrame = frame.establisherFrame) (index : Nat)
    (inModule : resolveAddress guest.memory registry request.targetIp = .ok index)
    (continues : Continues guest.handler) (captured : Context) (links : List Context) :
    CompletesSecondPass (rtlUnwindExDispatch guest request captured (context :: links)) request
        (inner ++ [frame]) ↔
      HandlesAlone guest inner context frame := by
  have validTarget : stackFrameIsValid guest.stack request.targetFrame = true := by
    obtain ⟨function, unwound, -, second, sameFrame, -⟩ := handled_function found handled
    rw [target, ← sameFrame]
    exact (unwind_function_progress second).2
  constructor
  · rintro ⟨resumed, ending, resumes, rip, sites⟩
    have returned := resumed_returned resumes
    have nonzero : request.targetFrame ≠ 0 :=
      ((unwind_to_frame_contract _ _ _ _ _ _).arrives resumed ending returned).target
    have begins := unwind_arguments_accepted guest context registered nonzero validTarget inModule
    by_cases below : stackFrameIsValid guest.stack context.rsp = true ∧
        context.rsp ≤ request.targetFrame
    · rw [if_pos below] at begins
      obtain ⟨resumed', ending', arrives, -, called⟩ := unwind_at_target guest registered found
        handled continues nonzero target begins below.1 (request.record.getD _) [] {}
      cases arrives.symm.trans returned
      have nothing : inner.filterMap GuestFrame.terminationSite = [] := by
        have lengths := congrArg List.length (called.symm.trans sites)
        rw [List.filterMap_append, List.length_append] at lengths
        have last : ([frame].filterMap GuestFrame.terminationSite).length =
            frame.terminationSite.toList.length := by
          cases terminal : frame.terminationSite <;> simp [terminal]
        rw [last] at lengths
        exact List.length_eq_zero_iff.mp (by omega)
      exact ⟨termination_sites_nil.mp nothing, target ▸ nonzero, below.1, target ▸ below.2⟩
    · rw [if_neg below] at begins
      unfold unwindToFrame at returned
      simp only [begins] at returned
      cases returned
  · intro alone
    have nonzero : request.targetFrame ≠ 0 := target ▸ alone.nonzero
    have accepted := unwind_arguments_accepted guest context registered nonzero validTarget inModule
    rw [if_pos ⟨alone.valid, target ▸ alone.below⟩] at accepted
    obtain ⟨resumed, ending, returned, rip, sites⟩ := unwind_at_target guest registered found
      handled continues nonzero target accepted alone.valid (request.record.getD _) [] {}
    refine ⟨resumed, ending, returned_resumed returned, rip, ?_⟩
    rw [sites, List.filterMap_append, termination_sites_nil.mpr alone.nothingInside]
    cases terminal : frame.terminationSite <;> simp [terminal]

/-- A dispatch that a handler ends with an unwind to its own frame calls all termination handlers
from the raise on before it resumes, if and only if there are none in the frames in between. -/
theorem second_pass_completes_iff (guest : Guest) (registry : Registry)
    (registered : guest.registry = some registry) (record : ExceptionRecord)
    (original : Context) (links : List Context) (inner : List GuestFrame) (state : Dispatching)
    (passed : SearchStack guest registry (dispatchFlagsOf record)
      (searchStart record original links) inner state)
    (fits : inner.length < maxFrames) (frame : GuestFrame)
    (found : frameAt guest registry state.walking = some frame) (request : UnwindRequest)
    (after : Dispatching) (unwinds : searchStep guest registry (dispatchFlagsOf record) state =
      .done (.unwinds request after))
    (target : request.targetFrame = frame.establisherFrame) (index : Nat)
    (inModule : resolveAddress guest.memory registry request.targetIp = .ok index)
    (later : List HandlerRun → HandlerCall → HandlerOutcome) (continues : Continues later)
    (captured : Context) :
    dispatchRaisedException guest record original links = .unwinds request after ∧
    (CompletesSecondPass
        (rtlUnwindExDispatch { guest with handler := later } request captured after.links)
        request (inner ++ [frame]) ↔
      HandlesAlone guest inner state.walking frame) := by
  refine ⟨passed.dispatch registered fits unwinds, ?_⟩
  obtain ⟨linked, other, known, handled⟩ := searched_links unwinds
  cases known.symm.trans found
  rw [linked]
  have begins := unwind_completes_iff { guest with handler := later } registry registered inner
    state.walking frame found handled request target index inModule continues captured state.links
  exact begins.trans ⟨fun alone => ⟨alone.1, alone.2, alone.3, alone.4⟩,
    fun alone => ⟨alone.1, alone.2, alone.3, alone.4⟩⟩

/-! ### A termination handler below the frame that handles the exception -/

/-- The outer function of the pair unwinds to its own frame and resumes one byte further on. -/
def pairRequest : UnwindRequest where
  targetFrame := 0x1008
  targetIp := 0x10049
  record := none
  returnValue := 0

def pairGuest : Guest :=
  { searchingGuest pairStack with handler := fun _ _ => .unwinds pairRequest }

theorem continuing_handlers (stack : Stack) : Continues (searchingGuest stack).handler :=
  fun _ call => ⟨call.record, call.context, call.dispatcher.contextRecord, true, rfl⟩

theorem pair_handlers : ((frameAt pairGuest handlerRegistry (contextAt 0x10040 0)).bind
    fun inner => (frameAt pairGuest handlerRegistry inner.caller).map fun outer =>
      (inner.exceptionHandler, inner.terminationHandler, outer.exceptionHandler,
        outer.establisherFrame)) =
    some (none, some ⟨0x10060, 0x10024⟩, some ⟨0x10064, 0x10030⟩, 0x1008) := by
  decide +kernel

theorem Searched.passes_plain {guest : Guest} {registry : Registry} {dispatchFlags : Nat}
    {state : Dispatching} {round : Round Dispatching SearchEnd} {frame : GuestFrame}
    (searched : Searched guest registry dispatchFlags state round)
    (found : frameAt guest registry state.walking = some frame)
    (plain : frame.exceptionHandler = none) :
    round = .next { state with walking := frame.caller } := by
  cases searched with
  | outside located => simp [frameAt, located] at found
  | stuck unknown => cases unknown.symm.trans found
  | passes other known _ =>
    cases known.symm.trans found
    rfl
  | calls other known languageHandler declared call site caller searched =>
    cases known.symm.trans found
    cases declared.symm.trans plain

theorem Searched.unwinds_handled {guest : Guest} {registry : Registry} {dispatchFlags : Nat}
    {state : Dispatching} {round : Round Dispatching SearchEnd} {frame : GuestFrame}
    {request : UnwindRequest} (searched : Searched guest registry dispatchFlags state round)
    (found : frameAt guest registry state.walking = some frame)
    {languageHandler : LanguageHandler} (handled : frame.exceptionHandler = some languageHandler)
    (always : ∀ runs call, guest.handler runs call = .unwinds request) :
    ∃ after, round = .done (.unwinds request after) := by
  cases searched with
  | outside located => simp [frameAt, located] at found
  | stuck unknown => cases unknown.symm.trans found
  | passes other known plain =>
    cases known.symm.trans found
    cases plain.symm.trans handled
  | calls other known declaredHandler declared call site caller searched =>
    cases searched with
    | unwinds other outcome =>
      cases outcome.symm.trans (always _ _)
      exact ⟨_, rfl⟩
    | resumes record context callerContext linked outcome => cases outcome.symm.trans (always _ _)
    | rejects disposition record context callerContext linked outcome =>
      cases outcome.symm.trans (always _ _)
    | continues record context callerContext linked outcome =>
      cases outcome.symm.trans (always _ _)

/-- The search through the pair ends in its outer function. -/
theorem pair_search : ∃ inner outer state after,
    SearchStack pairGuest handlerRegistry (dispatchFlagsOf {})
      (searchStart {} (contextAt 0x10040 0) []) [inner] state ∧
    frameAt pairGuest handlerRegistry state.walking = some outer ∧
    searchStep pairGuest handlerRegistry (dispatchFlagsOf {}) state =
      .done (.unwinds pairRequest after) ∧
    pairRequest.targetFrame = outer.establisherFrame ∧
    inner.terminationHandler = some ⟨0x10060, 0x10024⟩ := by
  obtain ⟨inner, first, rest⟩ := Option.bind_eq_some_iff.mp pair_handlers
  obtain ⟨outer, second, seen⟩ := Option.map_eq_some_iff.mp rest
  simp only [Prod.mk.injEq] at seen
  obtain ⟨plain, terminal, handled, establisher⟩ := seen
  have passes := (search_step_searched pairGuest handlerRegistry (dispatchFlagsOf {})
    (searchStart {} (contextAt 0x10040 0) [])).passes_plain first plain
  have ends := (search_step_searched pairGuest handlerRegistry (dispatchFlagsOf {})
    { searchStart {} (contextAt 0x10040 0) [] with walking := inner.caller }).unwinds_handled
      second handled (fun _ _ => rfl)
  obtain ⟨after, unwinds⟩ := ends
  exact ⟨inner, outer, _, after, .frame first passes (.empty _), second, unwinds, establisher.symm,
    terminal⟩

theorem pair_target : resolveAddress handlerMemory handlerRegistry pairRequest.targetIp = .ok 0 := by
  decide +kernel

theorem pair_completes_iff : ∃ (inner outer : GuestFrame) (state after : Dispatching),
    dispatchRaisedException pairGuest {} (contextAt 0x10040 0) [] = .unwinds pairRequest after ∧
    (CompletesSecondPass (rtlUnwindExDispatch (searchingGuest pairStack) pairRequest {} after.links)
        pairRequest [inner, outer] ↔
      HandlesAlone pairGuest [inner] state.walking outer) := by
  obtain ⟨inner, outer, state, after, passed, found, unwinds, target, -⟩ := pair_search
  exact ⟨inner, outer, state, after, second_pass_completes_iff pairGuest handlerRegistry rfl {} _ []
    [inner] state passed (by simp [maxFrames]) outer found pairRequest after unwinds target 0
    pair_target (searchingGuest pairStack).handler (continuing_handlers pairStack) {}⟩

/-- The termination handler of the inner function is not called. -/
theorem inner_termination_handler_skipped : ∃ inner outer state after,
    SearchStack pairGuest handlerRegistry (dispatchFlagsOf {})
      (searchStart {} (contextAt 0x10040 0) []) [inner] state ∧
    frameAt pairGuest handlerRegistry state.walking = some outer ∧
    pairRequest.targetFrame = outer.establisherFrame ∧
    resolveAddress handlerMemory handlerRegistry pairRequest.targetIp = .ok 0 ∧
    dispatchRaisedException pairGuest {} (contextAt 0x10040 0) [] = .unwinds pairRequest after ∧
    inner.terminationHandler = some ⟨0x10060, 0x10024⟩ ∧
    Continues (searchingGuest pairStack).handler ∧
    ¬ CompletesSecondPass
      (rtlUnwindExDispatch (searchingGuest pairStack) pairRequest {} after.links) pairRequest
      [inner, outer] := by
  obtain ⟨inner, outer, state, after, passed, found, unwinds, target, terminal⟩ := pair_search
  obtain ⟨linked, other, known, handled⟩ := searched_links unwinds
  cases known.symm.trans found
  refine ⟨inner, outer, state, after, passed, found, target, pair_target,
    passed.dispatch rfl (by simp [maxFrames]) unwinds, terminal, continuing_handlers pairStack, ?_⟩
  intro completes
  rw [linked] at completes
  have alone := (unwind_completes_iff (searchingGuest pairStack) handlerRegistry rfl [inner]
    state.walking outer found handled pairRequest target 0 pair_target
    (continuing_handlers pairStack) {} state.links).mp completes
  rw [alone.nothingInside inner (List.mem_singleton_self inner)] at terminal
  cases terminal

end SadLayer.Unwind
