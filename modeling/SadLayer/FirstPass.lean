import SadLayer.GuestFrames

/-! The first pass: when a dispatch lets the guest resume, and which handlers it has
called by the time it asks the top-level filter. -/
namespace SadLayer.Unwind
open SadLayer.Library SadLayer.Module

/-! ### One round of the search -/

/-- What the call of a handler comes to in the first pass. -/
inductive HandlerSearched (guest : Guest) (dispatchFlags : Nat) (call : HandlerCall)
    (state : Dispatching) : Round Dispatching SearchEnd → Prop where
  | unwinds (request : UnwindRequest)
      (outcome : guest.handler state.runs call = .unwinds request) :
      HandlerSearched guest dispatchFlags call state (.done (.unwinds request { state with
        record := call.record
        links := state.walking :: state.links
        runs := state.runs ++ [{ call := call, disposition := none }] }))
  | resumes (record : ExceptionRecord) (context callerContext : Context) (linked : Bool)
      (outcome : guest.handler state.runs call =
        .returned dispositionContinueExecution record context callerContext linked) :
      HandlerSearched guest dispatchFlags call state (.done (.stop
        (!noncontinuable (record.withFlags dispatchFlags))
        (state.answered dispatchFlags call dispositionContinueExecution record context linked)))
  | rejects (disposition : Int) (record : ExceptionRecord) (context callerContext : Context)
      (linked : Bool) (outcome : guest.handler state.runs call =
        .returned disposition record context callerContext linked) :
      HandlerSearched guest dispatchFlags call state (.done (.stop false
        (state.answered dispatchFlags call disposition record context linked)))
  | continues (record : ExceptionRecord) (context callerContext : Context) (linked : Bool)
      (outcome : guest.handler state.runs call =
        .returned dispositionContinueSearch record context callerContext linked) :
      HandlerSearched guest dispatchFlags call state (.next {
        state.answered dispatchFlags call dispositionContinueSearch record context linked with
        walking := callerContext })

theorem search_handler_searched (guest : Guest) (dispatchFlags : Nat) (call : HandlerCall)
    (state : Dispatching) : HandlerSearched guest dispatchFlags call state
      (searchHandler guest dispatchFlags call state) := by
  unfold searchHandler
  cases outcome : guest.handler state.runs call with
  | unwinds request => exact .unwinds request outcome
  | returned disposition record context callerContext linked =>
    by_cases resumed : disposition = dispositionContinueExecution
    · subst resumed
      exact .resumes record context callerContext linked outcome
    · by_cases rejected : disposition ≠ dispositionContinueSearch
      · simp only [if_neg resumed, if_pos rejected]
        exact .rejects disposition record context callerContext linked outcome
      · simp only [if_neg resumed, if_neg rejected]
        rw [not_not.mp rejected] at outcome ⊢
        exact .continues record context callerContext linked outcome

/-- What one round of the search does: it is out of the modules, gets stuck, passes a frame without
a handler, or calls the handler of the frame. -/
inductive Searched (guest : Guest) (registry : Registry) (dispatchFlags : Nat)
    (state : Dispatching) : Round Dispatching SearchEnd → Prop where
  | outside (located : locate guest.memory registry state.walking.rip = .outside) :
      Searched guest registry dispatchFlags state (.done (.leave state))
  | stuck (unknown : frameAt guest registry state.walking = none) :
      Searched guest registry dispatchFlags state (.done (.stop false state))
  | passes (frame : GuestFrame) (found : frameAt guest registry state.walking = some frame)
      (plain : frame.exceptionHandler = none) :
      Searched guest registry dispatchFlags state (.next { state with walking := frame.caller })
  | calls (frame : GuestFrame) (found : frameAt guest registry state.walking = some frame)
      (languageHandler : LanguageHandler)
      (declared : frame.exceptionHandler = some languageHandler) (call : HandlerCall)
      (site : call.site = frame.site languageHandler)
      (caller : call.dispatcher.contextRecord = frame.caller)
      {round : Round Dispatching SearchEnd}
      (searched : HandlerSearched guest dispatchFlags call state round) :
      Searched guest registry dispatchFlags state round

theorem search_step_searched (guest : Guest) (registry : Registry) (dispatchFlags : Nat)
    (state : Dispatching) : Searched guest registry dispatchFlags state
      (searchStep guest registry dispatchFlags state) := by
  unfold searchStep
  cases located : locate guest.memory registry state.walking.rip with
  | outside => exact .outside located
  | failed status => exact .stuck (by rw [frameAt, located])
  | leaf =>
    cases popped : leafCaller guest.stack state.walking with
    | error status => exact .stuck (by rw [frameAt, located, popped]; rfl)
    | ok caller => exact .passes (leafFrame state.walking caller) (frame_at_leaf located popped) rfl
  | function found =>
    cases first : unwindFunction guest.stack .exception found state.walking with
    | error status =>
      have unknown : frameAt guest registry state.walking = none := by
        simp only [frameAt, located, first]
      simp only [first]
      exact .stuck unknown
    | ok searched =>
      obtain ⟨terminated, second, -⟩ := unwind_function_same .termination first
      have frame := frame_at_function located first second
      cases declared : searched.languageHandler with
      | none =>
        simp only [first, declared]
        exact .passes (functionFrame state.walking searched terminated) frame declared
      | some languageHandler =>
        simp only [first, declared]
        exact .calls (functionFrame state.walking searched terminated) frame languageHandler
          declared (searchCall dispatchFlags found searched languageHandler state) rfl rfl
          (search_handler_searched guest dispatchFlags _ state)

/-! ### How a search ends -/

def SearchEnd.state : SearchEnd → Dispatching
  | .leave state => state
  | .stop _ state => state
  | .unwinds _ state => state

/-- Whether the search ended with a handler that resumes. -/
def SearchEnd.resumes : SearchEnd → Bool
  | .stop resumes _ => resumes
  | _ => false

theorem noncontinuable_with_flags (record : ExceptionRecord) (flags : Nat) :
    noncontinuable (record.withFlags flags) = hasFlag flags exceptionNoncontinuable :=
  rfl

/-- A search that resumes does so for a handler that said so, and not with the flag. -/
structure Justified (dispatchFlags : Nat) (ended : SearchEnd) : Prop where
  continuable : hasFlag dispatchFlags exceptionNoncontinuable = false
  said : ∃ run ∈ ended.state.runs, run.disposition = some dispositionContinueExecution

/-- What holds of the end of a round that began with so many handler calls. -/
structure SearchEnded (guest : Guest) (dispatchFlags calls : Nat) (ended : SearchEnd) : Prop where
  logged : Logged guest ended.state.runs
  bounded : ended.state.runs.length ≤ calls + 1
  justified : ended.resumes = true → Justified dispatchFlags ended

theorem HandlerSearched.ends {guest : Guest} {dispatchFlags : Nat} {call : HandlerCall}
    {state : Dispatching} (logged : Logged guest state.runs) {ended : SearchEnd}
    (searched : HandlerSearched guest dispatchFlags call state (.done ended)) :
    SearchEnded guest dispatchFlags state.runs.length ended := by
  cases searched with
  | unwinds request outcome => exact {
      logged := logged.append (by rw [outcome]; rfl)
      bounded := by simp [SearchEnd.state]
      justified := by simp [SearchEnd.resumes] }
  | resumes record context callerContext linked outcome => exact {
      logged := logged.append (by rw [outcome]; rfl)
      bounded := by simp [SearchEnd.state, Dispatching.answered]
      justified := by
        intro resumes
        rw [SearchEnd.resumes, noncontinuable_with_flags, Bool.not_eq_true'] at resumes
        exact ⟨resumes, _, List.mem_append_right _ (List.mem_singleton_self _), rfl⟩ }
  | rejects disposition record context callerContext linked outcome => exact {
      logged := logged.append (by rw [outcome]; rfl)
      bounded := by simp [SearchEnd.state, Dispatching.answered]
      justified := by simp [SearchEnd.resumes] }

theorem Searched.ends {guest : Guest} {registry : Registry} {dispatchFlags : Nat}
    {state : Dispatching} (logged : Logged guest state.runs) {ended : SearchEnd}
    (searched : Searched guest registry dispatchFlags state (.done ended)) :
    SearchEnded guest dispatchFlags state.runs.length ended := by
  cases searched with
  | outside located => exact ⟨logged, Nat.le_succ _, by simp [SearchEnd.resumes]⟩
  | stuck unknown => exact ⟨logged, Nat.le_succ _, by simp [SearchEnd.resumes]⟩
  | calls frame found languageHandler declared call site caller searched =>
    exact searched.ends logged

theorem Searched.goes_on {guest : Guest} {registry : Registry} {dispatchFlags : Nat}
    {state after : Dispatching} (logged : Logged guest state.runs)
    (searched : Searched guest registry dispatchFlags state (.next after)) :
    Logged guest after.runs ∧ after.runs.length ≤ state.runs.length + 1 := by
  cases searched with
  | passes frame found plain => exact ⟨logged, Nat.le_succ _⟩
  | calls frame found languageHandler declared call site caller searched =>
    cases searched with
    | continues record context callerContext linked outcome =>
      exact ⟨logged.append (by rw [outcome]; rfl), by simp [Dispatching.answered]⟩

/-- So many rounds call at most so many handlers. -/
theorem search_reaches {guest : Guest} {registry : Registry} {dispatchFlags count : Nat}
    {start last : Dispatching}
    (reached : Reaches (searchStep guest registry dispatchFlags) count start last)
    (logged : Logged guest start.runs) :
    Logged guest last.runs ∧ last.runs.length ≤ start.runs.length + count := by
  induction reached with
  | here => exact ⟨logged, Nat.le_refl _⟩
  | @next count state after last stepped _ ih =>
    obtain ⟨kept, more⟩ := (stepped ▸ search_step_searched guest registry dispatchFlags state :
      Searched guest registry dispatchFlags state (.next after)).goes_on logged
    obtain ⟨keptOn, bounded⟩ := ih kept
    exact ⟨keptOn, by omega⟩

theorem search_frames_ended (guest : Guest) (registry : Registry) (dispatchFlags : Nat)
    (start : Dispatching) (fresh : start.runs = []) :
    Logged guest (searchFrames guest registry dispatchFlags start).state.runs ∧
    (searchFrames guest registry dispatchFlags start).state.runs.length ≤ maxFrames ∧
    ((searchFrames guest registry dispatchFlags start).resumes = true →
      Justified dispatchFlags (searchFrames guest registry dispatchFlags start)) := by
  have none_ : Logged guest start.runs := by
    intro before run after split
    simp [fresh] at split
  unfold searchFrames
  obtain ⟨count, last, result, bound, reached, ended, run⟩ | ⟨last, reached, run⟩ :=
    rounds_end (searchStep guest registry dispatchFlags) .leave maxFrames start
  · obtain ⟨logged, calls⟩ := search_reaches reached none_
    have final := (ended ▸ search_step_searched guest registry dispatchFlags last :
      Searched guest registry dispatchFlags last (.done result)).ends logged
    rw [run]
    refine ⟨final.logged, ?_, final.justified⟩
    have most := final.bounded
    rw [fresh, List.length_nil] at calls
    omega
  · obtain ⟨logged, calls⟩ := search_reaches reached none_
    rw [fresh, List.length_nil] at calls
    rw [run]
    exact ⟨logged, by simpa [SearchEnd.state] using calls, by simp [SearchEnd.resumes]⟩

theorem search_raised_ended (guest : Guest) (record : ExceptionRecord) (original : Context)
    (links : List Context) :
    Logged guest (searchRaised guest record original links).state.runs ∧
    (searchRaised guest record original links).state.runs.length ≤ maxFrames ∧
    ((searchRaised guest record original links).resumes = true →
      Justified (dispatchFlagsOf record) (searchRaised guest record original links)) := by
  unfold searchRaised
  cases guest.registry with
  | none =>
    refine ⟨?_, Nat.zero_le _, by simp [SearchEnd.resumes]⟩
    intro before run after split
    simp [SearchEnd.state, searchStart] at split
  | some registry => exact search_frames_ended guest registry _ _ rfl

/-! ### When a dispatch resumes the guest -/

/-- The answer of a dispatch; none when a handler unwinds, from where it does not return. -/
def Dispatched.answer : Dispatched → Option Bool
  | .returned resumes _ _ => some resumes
  | .unwinds _ _ => none

/-- What the top-level filter answered, if it was asked. -/
def Dispatched.filtered : Dispatched → Option Int
  | .returned _ filtered _ => filtered
  | .unwinds _ _ => none

def Dispatched.state : Dispatched → Dispatching
  | .returned _ _ state => state
  | .unwinds _ state => state

theorem flags_of_noncontinuable (record : ExceptionRecord) :
    hasFlag (dispatchFlagsOf record) exceptionNoncontinuable = noncontinuable record := by
  unfold hasFlag dispatchFlagsOf noncontinuable hasFlag
  rw [Nat.and_assoc, Nat.and_self]

/-- What a filter that continues answered. -/
theorem filter_continues {guest : Guest} {state : Dispatching}
    (continues : (unhandledExceptionFilter guest state).disposition = filterContinueExecution) :
    ∃ filter, guest.filter = some filter ∧
      (filter state.runs state.record state.original).disposition = filterContinueExecution := by
  unfold unhandledExceptionFilter at continues
  cases known : guest.filter with
  | none =>
    rw [known] at continues
    cases continues
  | some filter =>
    rw [known] at continues
    dsimp only at continues
    split at continues
    · exact ⟨filter, rfl, continues⟩
    · cases continues

/-- Who told a dispatch to resume the guest: a handler, or the top-level filter. -/
inductive Resumed (guest : Guest) (state : Dispatching) : Prop where
  | handler (run : HandlerRun) (called : run ∈ state.runs)
      (said : run.disposition = some dispositionContinueExecution)
  | filter (record : ExceptionRecord) (original : Context)
      (filter : List HandlerRun → ExceptionRecord → Context → FilterOutcome)
      (registered : guest.filter = some filter)
      (said : (filter state.runs record original).disposition = filterContinueExecution)

/-- A dispatch calls at most as many handlers as there are frames in a walk, each unwind on its way
returns, and its answer is never to resume a noncontinuable exception, nor without a handler or the
filter saying so, whatever these do to the record and the contexts. -/
theorem noncontinuable_never_resumes (guest : Guest) (record : ExceptionRecord)
    (original : Context) (links : List Context) :
    (∀ (found : FunctionEntry) (context : Context), virtualUnwind found.module
      HandlerType.exception.flag context.rip found.functionEntry context guest.stack none ≠ none) ∧
    (dispatchRaisedException guest record original links).state.runs.length ≤ maxFrames ∧
    Logged guest (dispatchRaisedException guest record original links).state.runs ∧
    (noncontinuable record = true →
      (dispatchRaisedException guest record original links).answer ≠ some true) ∧
    ((dispatchRaisedException guest record original links).answer = some true →
      Resumed guest (dispatchRaisedException guest record original links).state) := by
  obtain ⟨logged, bounded, justified⟩ := search_raised_ended guest record original links
  refine ⟨fun found context => virtual_unwind_returns found.module context.rip found.functionEntry
    context guest.stack none .exception, ?_⟩
  unfold dispatchRaisedException
  cases searched : searchRaised guest record original links with
  | leave state =>
    rw [searched] at logged bounded
    refine ⟨bounded, logged, ?_, ?_⟩
    · intro marked
      simp [Dispatched.answer, noncontinuable_with_flags, flags_of_noncontinuable, marked]
    · intro resumed
      simp only [Dispatched.answer, Option.some.injEq, Bool.and_eq_true, decide_eq_true_eq]
        at resumed
      obtain ⟨filter, registered, said⟩ := filter_continues resumed.1
      exact .filter state.record state.original filter registered said
  | stop resumes state =>
    rw [searched] at logged bounded justified
    refine ⟨bounded, logged, ?_, ?_⟩
    · intro marked resumed
      have continuable := (justified (Option.some.inj resumed)).continuable
      rw [flags_of_noncontinuable, marked] at continuable
      cases continuable
    · intro resumed
      obtain ⟨run, called, said⟩ := (justified (Option.some.inj resumed)).said
      exact .handler run called said
  | unwinds request state =>
    rw [searched] at logged bounded
    exact ⟨bounded, logged, by simp [Dispatched.answer], by simp [Dispatched.answer]⟩

/-! ### The handlers called before the filter -/

/-- Handlers that return leave the caller context of the dispatcher alone. -/
def LeavesCallers (guest : Guest) : Prop :=
  ∀ runs call disposition record context callerContext linked,
    guest.handler runs call = .returned disposition record context callerContext linked →
    callerContext = call.dispatcher.contextRecord

/-- A search that has passed the frames: it stands behind them, and has called the handler of each
in turn, which went on with the search. -/
structure Passed (frames : List GuestFrame) (last : Context) (start state : Dispatching) :
    Prop where
  walking : state.walking = last
  runs : ∃ more, state.runs = start.runs ++ more ∧
    more.map (fun run => run.call.site) = frames.filterMap GuestFrame.exceptionSite ∧
    ∀ run ∈ more, run.disposition = some dispositionContinueSearch

theorem Passed.start (state : Dispatching) : Passed [] state.walking state state :=
  ⟨rfl, [], by simp⟩

theorem Passed.behind {frame : GuestFrame} {frames : List GuestFrame} {last : Context}
    {start after state : Dispatching}
    (rest : Passed frames last after state)
    (first : ∃ more, after.runs = start.runs ++ more ∧
      more.map (fun run => run.call.site) = frame.exceptionSite.toList ∧
      ∀ run ∈ more, run.disposition = some dispositionContinueSearch) :
    Passed (frame :: frames) last start state := by
  obtain ⟨walking, later, extended, sites, went⟩ := rest
  obtain ⟨more, called, site, wentFirst⟩ := first
  refine ⟨walking, more ++ later, by rw [extended, called, List.append_assoc], ?_, ?_⟩
  · rw [List.map_append, site, sites]
    cases known : frame.exceptionSite with
    | none => simp [known]
    | some declared => simp [known]
  · intro run member
    rcases List.mem_append.mp member with member | member
    · exact wentFirst run member
    · exact went run member

/-- A round in a frame ends the search without leaving it, or goes on to the caller behind a call
of the handler. -/
theorem Searched.in_frame {guest : Guest} {registry : Registry} {dispatchFlags : Nat}
    {state : Dispatching} {round : Round Dispatching SearchEnd} {frame : GuestFrame}
    (searched : Searched guest registry dispatchFlags state round) (polite : LeavesCallers guest)
    (found : frameAt guest registry state.walking = some frame) :
    (∃ ended, round = .done ended ∧ ∀ left, ended ≠ .leave left) ∨
    ∃ after, round = .next after ∧ after.walking = frame.caller ∧
      ∃ more, after.runs = state.runs ++ more ∧
        more.map (fun run => run.call.site) = frame.exceptionSite.toList ∧
        ∀ run ∈ more, run.disposition = some dispositionContinueSearch := by
  cases searched with
  | outside located =>
    simp [frameAt, located] at found
  | stuck unknown => exact .inl ⟨_, rfl, by simp⟩
  | passes other known plain =>
    cases known.symm.trans found
    exact .inr ⟨_, rfl, rfl, [], by simp [GuestFrame.exceptionSite, plain]⟩
  | calls other known languageHandler declared call site caller searched =>
    cases known.symm.trans found
    cases searched with
    | unwinds request outcome => exact .inl ⟨_, rfl, by simp⟩
    | resumes record context callerContext linked outcome => exact .inl ⟨_, rfl, by simp⟩
    | rejects disposition record context callerContext linked outcome =>
      exact .inl ⟨_, rfl, by simp⟩
    | continues record context callerContext linked outcome =>
      refine .inr ⟨_, rfl, ?_, [_], rfl, ?_, ?_⟩
      · rw [← caller]
        exact polite _ _ _ _ _ _ _ outcome
      · simp [GuestFrame.exceptionSite, declared, site]
      · intro run member
        rw [List.mem_singleton.mp member]

/-- A search through a call stack passes all of its frames, or ends in one without leaving. -/
theorem call_stack_searched {guest : Guest} {registry : Registry} {context last : Context}
    {frames : List GuestFrame} (stack : CallStack guest registry context frames last)
    (polite : LeavesCallers guest) (dispatchFlags : Nat) (state : Dispatching)
    (stands : state.walking = context) :
    (∃ count mid ended, count < frames.length ∧
      Reaches (searchStep guest registry dispatchFlags) count state mid ∧
      searchStep guest registry dispatchFlags mid = .done ended ∧ ∀ left, ended ≠ .leave left) ∨
    ∃ behind, Reaches (searchStep guest registry dispatchFlags) frames.length state behind ∧
      Passed frames last state behind := by
  induction stack generalizing state with
  | empty context =>
    subst stands
    exact .inr ⟨state, .here state, .start state⟩
  | @frame context last frame frames found _ ih =>
    subst stands
    obtain ⟨ended, stepped, stays⟩ | ⟨after, stepped, walking, called⟩ :=
      (search_step_searched guest registry dispatchFlags state).in_frame polite found
    · exact .inl ⟨0, state, ended, Nat.succ_pos _, .here state, stepped, stays⟩
    · obtain ⟨count, mid, ended, bound, reached, ends, stays⟩ | ⟨behind, reached, passed⟩ :=
        ih after walking
      · exact .inl ⟨count + 1, mid, ended, Nat.succ_lt_succ bound, .next stepped reached, ends,
          stays⟩
      · exact .inr ⟨behind, .next stepped reached, passed.behind called⟩

/-- Where a call stack that fits the walk ends out of the modules, a search that leaves it has
passed every frame. -/
theorem search_leaves_behind {guest : Guest} {registry : Registry} {context last : Context}
    {frames : List GuestFrame} (stack : CallStack guest registry context frames last)
    (outside : locate guest.memory registry last.rip = .outside)
    (fits : frames.length ≤ maxFrames) (polite : LeavesCallers guest) (dispatchFlags : Nat)
    (start state : Dispatching) (stands : start.walking = context)
    (left : searchFrames guest registry dispatchFlags start = .leave state) :
    Passed frames last start state := by
  unfold searchFrames at left
  obtain ⟨count, mid, ended, bound, reached, ends, stays⟩ | ⟨behind, reached, passed⟩ :=
    call_stack_searched stack polite dispatchFlags start stands
  · have run := reached.rounds .leave (maxFrames - count - 1 + 1)
    rw [show count + (maxFrames - count - 1 + 1) = maxFrames by omega, rounds_done ends] at run
    exact absurd (run.symm.trans left) (stays state)
  · have run := reached.rounds .leave (maxFrames - frames.length)
    rw [show frames.length + (maxFrames - frames.length) = maxFrames by omega] at run
    have stops : rounds (searchStep guest registry dispatchFlags) .leave
        (maxFrames - frames.length) behind = .leave behind := by
      cases maxFrames - frames.length with
      | zero => rfl
      | succ more =>
        apply rounds_done
        rw [searchStep, passed.walking, outside]
    rw [run, stops] at left
    cases left
    exact passed

/-- When a dispatch asks the top-level filter on a stack that ends out of the modules within the
reach of a walk, the handler of every frame that has one was called before, from the innermost on,
once each, and went on with the search. -/
theorem filter_asked_behind_all_handlers (guest : Guest) (registry : Registry)
    (registered : guest.registry = some registry) (record : ExceptionRecord)
    (original : Context) (links : List Context) (frames : List GuestFrame) (last : Context)
    (stack : CallStack guest registry original frames last)
    (outside : locate guest.memory registry last.rip = .outside)
    (fits : frames.length ≤ maxFrames) (polite : LeavesCallers guest)
    (asked : (dispatchRaisedException guest record original links).filtered ≠ none) :
    (dispatchRaisedException guest record original links).state.runs.map
      (fun run => run.call.site) = frames.filterMap GuestFrame.exceptionSite ∧
    ∀ run ∈ (dispatchRaisedException guest record original links).state.runs,
      run.disposition = some dispositionContinueSearch := by
  unfold dispatchRaisedException searchRaised at asked ⊢
  simp only [registered] at asked ⊢
  cases searched : searchFrames guest registry (dispatchFlagsOf record)
      (searchStart record original links) with
  | leave behind =>
    have passed := search_leaves_behind stack outside fits polite _ _ behind rfl searched
    obtain ⟨more, extended, sites, went⟩ := passed.runs
    rw [searchStart, List.nil_append] at extended
    exact ⟨extended ▸ sites, extended ▸ went⟩
  | stop stopped behind =>
    rw [searched] at asked
    exact absurd rfl asked
  | unwinds request behind =>
    rw [searched] at asked
    exact absurd rfl asked

/-! ### A function with a termination handler, and one with an exception handler -/

/-- Two table entries at 4: a record at 28 for 64 to 72 with a termination handler, and one at 40
for 72 to 80 with an exception handler. What follows are leaves. -/
def handlerBytes (index : Nat) : UInt8 :=
  [0, 0, 0, 0, 64, 0, 0, 0, 72, 0, 0, 0, 28, 0, 0, 0, 72, 0, 0, 0, 80, 0, 0, 0, 40, 0, 0, 0,
    0x11, 0, 0, 0, 96, 0, 0, 0, 0, 0, 0, 0, 0x09, 0, 0, 0, 100, 0, 0, 0].getD index 0

def handlerMemory : Memory where
  images _ := {
    file := { size := 0, data := fun _ => 0 }
    machine := Pe.machineAmd64
    isPe32Plus := true
    imageSize := 128
    directories := fun index =>
      if index = directoryException then { rva := 4, size := 24 } else {} }
  mappings _ := { address := 0x10000, bytes := handlerBytes, size := 128, loadBase := 0x10000 }

def handlerRegistry : Registry where
  count := 1

/-- A stack from 0x1000 on, of return addresses that are 0x10000 and a last byte. -/
def returnStack (count : Nat) (lastByte : Nat → UInt8) : Stack where
  limit := 0x1000
  base := 0x1000 + 8 * (count + 1)
  bytes address :=
    if count ≤ (address - 0x1000) / 8 then 0
    else if address % 8 = 0 then lastByte ((address - 0x1000) / 8)
    else if address % 8 = 2 then 1
    else 0

/-- The context at an address of the module, so many return addresses up. -/
def contextAt (rip : Nat) (depth : Nat) : Context where
  integer := Function.update (fun _ => 0) registerRsp (0x1000 + 8 * depth)
  rip := rip

/-- A guest whose handlers all go on with the search. -/
def searchingGuest (stack : Stack) : Guest where
  memory := handlerMemory
  registry := some handlerRegistry
  stack := stack
  handler _ call := .returned dispositionContinueSearch call.record call.context
    call.dispatcher.contextRecord true
  filter := none

theorem searching_leaves_callers (stack : Stack) : LeavesCallers (searchingGuest stack) := by
  intro runs call disposition record context callerContext linked outcome
  cases outcome
  rfl

/-- The function with a termination handler, called by the one with an exception handler. -/
def pairStack : Stack := returnStack 1 fun _ => 72

theorem pair_frames : ((frameAt (searchingGuest pairStack) handlerRegistry
    (contextAt 0x10040 0)).bind fun inner =>
      (frameAt (searchingGuest pairStack) handlerRegistry inner.caller).map fun outer =>
        (inner.exceptionSite, outer.exceptionSite, outer.caller.rip)) =
    some (none, some ⟨0x10048, 0x1008, ⟨0x10064, 0x10030⟩⟩, 0) := by
  decide +kernel

theorem pair_searched : ∃ frames last,
    CallStack (searchingGuest pairStack) handlerRegistry (contextAt 0x10040 0) frames last ∧
    frames.filterMap GuestFrame.exceptionSite = [⟨0x10048, 0x1008, ⟨0x10064, 0x10030⟩⟩] ∧
    (dispatchRaisedException (searchingGuest pairStack) {} (contextAt 0x10040 0) []).state.runs.map
      (fun run => run.call.site) = frames.filterMap GuestFrame.exceptionSite ∧
    ∀ run ∈ (dispatchRaisedException (searchingGuest pairStack) {} (contextAt 0x10040 0)
      []).state.runs, run.disposition = some dispositionContinueSearch := by
  obtain ⟨inner, first, rest⟩ := Option.bind_eq_some_iff.mp pair_frames
  obtain ⟨outer, second, seen⟩ := Option.map_eq_some_iff.mp rest
  simp only [Prod.mk.injEq] at seen
  obtain ⟨innerSite, outerSite, rip⟩ := seen
  have stack : CallStack (searchingGuest pairStack) handlerRegistry (contextAt 0x10040 0)
      [inner, outer] outer.caller := .frame first (.frame second (.empty _))
  have outside : locate handlerMemory handlerRegistry outer.caller.rip = .outside := by
    rw [rip]
    rfl
  have asked : (dispatchRaisedException (searchingGuest pairStack) {} (contextAt 0x10040 0)
      []).filtered ≠ none := by
    decide +kernel
  exact ⟨[inner, outer], outer.caller, stack, by simp [innerSite, outerSite],
    filter_asked_behind_all_handlers _ handlerRegistry rfl {} _ [] _ _ stack outside
      (by simp [maxFrames]) (searching_leaves_callers pairStack) asked⟩

/-! ### A handler out of the reach of a walk -/

/-- As many leaves as a walk visits, called by the function with an exception handler. -/
def tallStack : Stack := returnStack 256 fun depth => if depth < 255 then 80 else 72

def tallRip (depth : Nat) : Nat := if depth < 256 then 0x10050 else 0x10048

theorem tall_stack_reads : ∀ depth < 256,
    readStackU64 tallStack (0x1000 + 8 * depth) = some (tallRip (depth + 1)) := by
  decide +kernel

theorem context_at_rsp (rip depth : Nat) : (contextAt rip depth).rsp = 0x1000 + 8 * depth := by
  simp [Context.rsp, contextAt]

theorem tall_leaf_caller {depth : Nat} (inside : depth < 256) :
    leafCaller tallStack (contextAt (tallRip depth) depth) =
      .ok (contextAt (tallRip (depth + 1)) (depth + 1)) := by
  have popped : popReturnAddress tallStack
      { context := contextAt (tallRip depth) depth, pointers := none } =
      some { context := contextAt (tallRip (depth + 1)) (depth + 1), pointers := none } := by
    have room : ¬ 8 > uint64Max - (0x1000 + 8 * depth) := by
      unfold uint64Max
      omega
    simp only [popReturnAddress, release, addU64, context_at_rsp, tall_stack_reads depth inside,
      Option.bind_some, if_neg room, Option.map_some]
    simp [contextAt, Context.setInteger, Nat.mul_add, Nat.add_assoc]
  have bounds : ¬ tallStack.limit ≥ tallStack.base := by decide
  have progress : ¬ (contextAt (tallRip (depth + 1)) (depth + 1)).rsp ≤
      (contextAt (tallRip depth) depth).rsp := by
    rw [context_at_rsp, context_at_rsp]
    omega
  simp only [leafCaller, unwindLeaf, if_neg bounds, popped, if_neg progress]

theorem leaf_located : locate handlerMemory handlerRegistry 0x10050 = .leaf := by
  have resolved : resolveAddress handlerMemory handlerRegistry 0x10050 = .ok 0 := by
    decide +kernel
  have table : exceptionDirectory ⟨handlerMemory.images 0, handlerMemory.mappings 0⟩ =
      some (4, 2) := by
    decide +kernel
  have scanned : scanEntries ⟨handlerMemory.images 0, handlerMemory.mappings 0⟩ 4 0x50 2 0 0 none =
      .ok none := by
    decide +kernel
  have known : peModule handlerMemory (handlerRegistry.modules 0) =
      some ⟨handlerMemory.images 0, handlerMemory.mappings 0⟩ := rfl
  have base : (handlerMemory.mappings 0).loadBase = 0x10000 := rfl
  simp [locate, lookupFunctionEntry, resolved, known, table, scanned, base, uint32Max]

theorem tall_leaf_located {depth : Nat} (inside : depth < 256) :
    locate handlerMemory handlerRegistry (contextAt (tallRip depth) depth).rip = .leaf := by
  rw [contextAt, tallRip, if_pos inside]
  exact leaf_located

theorem tall_leaves {depth : Nat} (within : depth ≤ 256) : ∃ frames, frames.length = depth ∧
    frames.filterMap GuestFrame.exceptionSite = [] ∧
    CallStack (searchingGuest tallStack) handlerRegistry (contextAt (tallRip 0) 0) frames
      (contextAt (tallRip depth) depth) := by
  induction depth with
  | zero => exact ⟨[], rfl, rfl, .empty _⟩
  | succ depth ih =>
    obtain ⟨frames, length, plain, stack⟩ := ih (by omega)
    refine ⟨frames ++ [leafFrame (contextAt (tallRip depth) depth)
      (contextAt (tallRip (depth + 1)) (depth + 1))], by simp [length], ?_, ?_⟩
    · rw [List.filterMap_append, plain]
      rfl
    · exact stack.append (.frame (frame_at_leaf (tall_leaf_located within)
        (tall_leaf_caller within)) (.empty _))

theorem tall_search {depth : Nat} (within : depth ≤ 256) (state : Dispatching)
    (stands : state.walking = contextAt (tallRip 0) 0) :
    Reaches (searchStep (searchingGuest tallStack) handlerRegistry 0) depth state
      { state with walking := contextAt (tallRip depth) depth } := by
  induction depth with
  | zero =>
    rw [← stands]
    exact .here state
  | succ depth ih =>
    apply (ih (by omega)).concat
    have located := tall_leaf_located within
    have popped := tall_leaf_caller within
    simp only [searchStep, searchingGuest, located, popped]

theorem tall_handler : (frameAt (searchingGuest tallStack) handlerRegistry
    (contextAt (tallRip 256) 256)).map (fun frame => (frame.exceptionSite, frame.caller.rip)) =
    some (some ⟨0x10048, 0x1800, ⟨0x10064, 0x10030⟩⟩, 0) := by
  decide +kernel

/-- Behind as many leaves as a walk visits, a handler is not called before the filter is asked. -/
theorem distant_handler_skipped : ∃ frames last,
    CallStack (searchingGuest tallStack) handlerRegistry (contextAt 0x10050 0) frames last ∧
    locate handlerMemory handlerRegistry last.rip = .outside ∧
    LeavesCallers (searchingGuest tallStack) ∧
    frames.filterMap GuestFrame.exceptionSite = [⟨0x10048, 0x1800, ⟨0x10064, 0x10030⟩⟩] ∧
    (dispatchRaisedException (searchingGuest tallStack) {} (contextAt 0x10050 0) []).filtered =
      some filterExecuteHandler ∧
    (dispatchRaisedException (searchingGuest tallStack) {} (contextAt 0x10050 0) []).state.runs =
      [] := by
  obtain ⟨frames, length, plain, leaves⟩ := tall_leaves (Nat.le_refl 256)
  obtain ⟨handled, found, seen⟩ := Option.map_eq_some_iff.mp tall_handler
  simp only [Prod.mk.injEq] at seen
  have searched : searchRaised (searchingGuest tallStack) {} (contextAt 0x10050 0) [] =
      .leave { searchStart {} (contextAt 0x10050 0) [] with
        walking := contextAt (tallRip 256) 256 } := by
    have run := (tall_search (Nat.le_refl 256) (searchStart {} (contextAt 0x10050 0) [])
      rfl).rounds .leave 0
    exact run
  refine ⟨frames ++ [handled], handled.caller, leaves.append (.frame found (.empty _)), ?_,
    searching_leaves_callers tallStack, ?_, ?_, ?_⟩
  · rw [seen.2]
    rfl
  · simp [plain, seen.1]
  · rw [dispatchRaisedException, searched]
    rfl
  · rw [dispatchRaisedException, searched]
    rfl

end SadLayer.Unwind
