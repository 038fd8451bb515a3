import SadLayer.GuestFrames
import Mathlib.Data.List.Infix

/-! The second pass: the frames that an unwind visits, whatever the termination
handlers do, the flags that these see, and when there is a context to resume. -/
namespace SadLayer.Unwind
open SadLayer.Library SadLayer.Module

/-! ### The way up the stack -/

/-- The frame that a context is in, and the context of its caller if the frame is a leaf without
one or a function. -/
def nextVisit (memory : Memory) (registry : Registry) (stack : Stack) (context : Context) :
    Option (VisitedFrame × Option Context) :=
  match locate memory registry context.rip with
  | .outside | .failed _ => none
  | .leaf => some (context.visit context.rsp, (leafCaller stack context).toOption)
  | .function found =>
    (unwindFunction stack .termination found context).toOption.map fun unwound =>
      (context.visit unwound.establisherFrame, some unwound.context)

/-- The frames from a context on, of which no handler decides. -/
def unwindPath (memory : Memory) (registry : Registry) (stack : Stack) :
    Nat → Context → List VisitedFrame
  | 0, _ => []
  | depth + 1, context =>
    match nextVisit memory registry stack context with
    | none => []
    | some (visit, none) => [visit]
    | some (visit, some caller) => visit :: unwindPath memory registry stack depth caller

section Path
variable {memory : Memory} {registry : Registry} {stack : Stack} {context caller : Context}
  {visit : VisitedFrame}

theorem next_visit_leaf (stack : Stack) (located : locate memory registry context.rip = .leaf) :
    nextVisit memory registry stack context =
      some (context.visit context.rsp, (leafCaller stack context).toOption) := by
  rw [nextVisit, located]

theorem next_visit_function {found : FunctionEntry} {unwound : Unwound}
    (located : locate memory registry context.rip = .function found)
    (unwinds : unwindFunction stack .termination found context = .ok unwound) :
    nextVisit memory registry stack context =
      some (context.visit unwound.establisherFrame, some unwound.context) := by
  rw [nextVisit, located]
  dsimp only
  rw [unwinds]
  rfl

/-- A visit is at the stack pointer of the context, and what comes next is above it. -/
theorem next_visit_progress {next : Option Context}
    (visited : nextVisit memory registry stack context = some (visit, next)) :
    visit.rsp = context.rsp ∧ ∀ caller, next = some caller → context.rsp < caller.rsp := by
  unfold nextVisit at visited
  split at visited
  · cases visited
  · cases visited
  · cases visited
    refine ⟨rfl, ?_⟩
    intro caller known
    cases popped : leafCaller stack context with
    | error status =>
      rw [popped] at known
      cases known
    | ok other =>
      rw [popped] at known
      cases known
      exact leaf_caller_progress popped
  · rename_i found located
    obtain ⟨unwound, known, same⟩ := Option.map_eq_some_iff.mp visited
    cases same
    cases unwinds : unwindFunction stack .termination found context with
    | error status =>
      rw [unwinds] at known
      cases known
    | ok other =>
      rw [unwinds] at known
      cases known
      refine ⟨rfl, ?_⟩
      intro caller same
      cases same
      exact (unwind_function_progress unwinds).1

theorem unwind_path_visit {next : Option Context} (depth : Nat)
    (visited : nextVisit memory registry stack context = some (visit, next)) :
    [visit] <+: unwindPath memory registry stack (depth + 1) context := by
  rw [unwindPath, visited]
  cases next with
  | none => exact List.prefix_rfl
  | some caller => exact ⟨_, rfl⟩

theorem unwind_path_goes_on (depth : Nat)
    (visited : nextVisit memory registry stack context = some (visit, some caller)) :
    unwindPath memory registry stack (depth + 1) context =
      visit :: unwindPath memory registry stack depth caller := by
  rw [unwindPath, visited]

end Path

/-! ### One round of the unwind -/

theorem scan_entries_fail {module : PeModule} {table relativePc remaining index previousEnd : Nat}
    {found : Option Nat} {status : Status}
    (failed : scanEntries module table relativePc remaining index previousEnd found =
      .error status) : status = .invalidImage := by
  induction remaining generalizing index previousEnd found with
  | zero => cases failed
  | succ remaining ih =>
    unfold scanEntries at failed
    dsimp only at failed
    split at failed
    · cases failed
      rfl
    · exact ih failed

theorem lookup_function_entry_fails {memory : Memory} {registry : Registry} {controlPc : Nat}
    {status : Status} (looked : lookupFunctionEntry memory registry controlPc = .error status) :
    status = .addressOutOfRange ∨ status = .invalidImage := by
  unfold lookupFunctionEntry at looked
  split at looked
  · exact .inl (Except.error.inj looked).symm
  split at looked
  · exact .inl (Except.error.inj looked).symm
  split at looked
  · exact .inl (Except.error.inj looked).symm
  split at looked
  · exact .inl (Except.error.inj looked).symm
  dsimp only at looked
  split at looked
  · exact .inl (Except.error.inj looked).symm
  split at looked
  · rename_i scanned
    cases looked
    exact .inr (scan_entries_fail scanned)
  · exact .inl (Except.error.inj looked).symm
  · cases looked

/-- A lookup in the module that holds the address finds an entry of that module, or says why not. -/
theorem locate_fails {memory : Memory} {registry : Registry} {rip : Nat} {status : Status}
    (located : locate memory registry rip = .failed status) : status ≠ .ok := by
  unfold locate at located
  cases resolved : resolveAddress memory registry rip with
  | error status =>
    rw [resolved] at located
    cases located
  | ok containing =>
    simp only [resolved] at located
    cases looked : lookupFunctionEntry memory registry rip with
    | ok found =>
      have same : found.index = containing := by
        unfold lookupFunctionEntry at looked
        simp only [resolved] at looked
        split at looked
        · cases looked
        split at looked
        · cases looked
        split at looked
        · cases looked
        split at looked
        · cases looked
        split at looked
        · cases looked
        · cases looked
        · cases looked
          rfl
      simp [looked, same] at located
    | error why =>
      rcases lookup_function_entry_fails looked with rfl | rfl
      · simp [looked] at located
      · simp only [looked, Located.failed.injEq] at located
        rw [← located]
        decide

theorem unwind_function_fails {stack : Stack} {handlerType : HandlerType} {found : FunctionEntry}
    {context : Context} {status : Status}
    (failed : unwindFunction stack handlerType found context = .error status) : status ≠ .ok := by
  unfold unwindFunction at failed
  split at failed
  · rename_i known
    cases failed
    exact virtual_unwind_fails (virtual_unwind_status.trans (congrArg some known))
  · split at failed
    · cases failed
      nofun
    · cases failed

theorem leaf_caller_fails {stack : Stack} {context : Context} {status : Status}
    (failed : leafCaller stack context = .error status) : status ≠ .ok := by
  unfold leafCaller at failed
  split at failed
  · cases failed
    nofun
  · split at failed
    · cases failed
      nofun
    · cases failed

/-- What the call of a handler comes to in the second pass. -/
inductive HandlerUnwound (guest : Guest) (request : UnwindRequest) (unwindFlags : Nat)
    (call : HandlerCall) (caller : Context) (state : Unwinding) :
    Round Unwinding WalkEnd → Prop where
  | unwinds (nested : UnwindRequest)
      (outcome : guest.handler state.runs call = .unwinds nested) :
      HandlerUnwound guest request unwindFlags call caller state (.done (.unwinds nested { state with
        record := call.record
        links := call.context :: state.links
        runs := state.runs ++ [{ call := call, disposition := none }] }))
  | refuses (disposition : Int) (record : ExceptionRecord) (context callerContext : Context)
      (linked : Bool) (outcome : guest.handler state.runs call =
        .returned disposition record context callerContext linked)
      (bad : disposition ≠ dispositionContinueSearch) :
      HandlerUnwound guest request unwindFlags call caller state (.done (.stop
        (if disposition = dispositionCollidedUnwind then .notImplemented else .invalidState)
        (state.answered unwindFlags call disposition record context linked)))
  | arrives (record : ExceptionRecord) (context callerContext : Context) (linked : Bool)
      (outcome : guest.handler state.runs call =
        .returned dispositionContinueSearch record context callerContext linked)
      (target : atTarget request call.establisherFrame = true) :
      HandlerUnwound guest request unwindFlags call caller state (.done (.arrive
        (resumeAt request context)
        (state.answered unwindFlags call dispositionContinueSearch record context linked)))
  | continues (record : ExceptionRecord) (context callerContext : Context) (linked : Bool)
      (outcome : guest.handler state.runs call =
        .returned dispositionContinueSearch record context callerContext linked)
      (elsewhere : atTarget request call.establisherFrame = false) :
      HandlerUnwound guest request unwindFlags call caller state (.next {
        state.answered unwindFlags call dispositionContinueSearch record context linked with
        walking := caller })

theorem termination_handler_unwound (guest : Guest) (request : UnwindRequest) (unwindFlags : Nat)
    (call : HandlerCall) (caller : Context) (state : Unwinding) :
    HandlerUnwound guest request unwindFlags call caller state
      (terminationHandler guest request unwindFlags call caller state) := by
  unfold terminationHandler
  cases outcome : guest.handler state.runs call with
  | unwinds nested => exact .unwinds nested outcome
  | returned disposition record context callerContext linked =>
    by_cases bad : disposition ≠ dispositionContinueSearch
    · simp only [if_pos bad]
      exact .refuses disposition record context callerContext linked outcome bad
    · rw [not_not.mp bad] at outcome
      simp only [if_neg bad]
      cases target : atTarget request call.establisherFrame with
      | true =>
        rw [not_not.mp bad]
        exact .arrives record context callerContext linked outcome target
      | false =>
        rw [not_not.mp bad]
        exact .continues record context callerContext linked outcome target

def HandlerCall.visit (call : HandlerCall) : VisitedFrame := {
  controlPc := call.dispatcher.controlPc
  rsp := call.context.rsp
  establisherFrame := call.establisherFrame }

/-- The flags that the handler of a frame sees. -/
def flagsAt (request : UnwindRequest) (unwindFlags establisherFrame : Nat) : Nat :=
  if atTarget request establisherFrame then unwindFlags ||| exceptionTargetUnwind
  else unwindFlags

def Unwinding.visiting (state : Unwinding) (visit : VisitedFrame) : Unwinding :=
  { state with visited := state.visited ++ [visit] }

/-- What one round of the unwind does: it fails before or in a frame, arrives in it, passes it, or
calls its handler. -/
inductive UnwindStepped (guest : Guest) (registry : Registry) (request : UnwindRequest)
    (unwindFlags : Nat) (state : Unwinding) : Round Unwinding WalkEnd → Prop where
  | fails (status : Status) (bad : status ≠ .ok) :
      UnwindStepped guest registry request unwindFlags state (.done (.stop status state))
  | failsIn (visit : VisitedFrame) (next : Option Context)
      (visited : nextVisit guest.memory registry guest.stack state.walking = some (visit, next))
      (status : Status) (bad : status ≠ .ok) :
      UnwindStepped guest registry request unwindFlags state
        (.done (.stop status (state.visiting visit)))
  | arrives (visit : VisitedFrame) (next : Option Context)
      (visited : nextVisit guest.memory registry guest.stack state.walking = some (visit, next))
      (target : atTarget request visit.establisherFrame = true) :
      UnwindStepped guest registry request unwindFlags state
        (.done (.arrive (resumeAt request state.walking) (state.visiting visit)))
  | passes (visit : VisitedFrame) (caller : Context) (visited : nextVisit guest.memory registry
        guest.stack state.walking = some (visit, some caller)) :
      UnwindStepped guest registry request unwindFlags state
        (.next { state.visiting visit with walking := caller })
  | calls (visit : VisitedFrame) (caller : Context) (visited : nextVisit guest.memory registry
        guest.stack state.walking = some (visit, some caller))
      (call : HandlerCall) (place : call.visit = visit)
      (flags : call.record.exceptionFlags =
        flagsAt request state.record.exceptionFlags visit.establisherFrame)
      {round : Round Unwinding WalkEnd}
      (unwound : HandlerUnwound guest request unwindFlags call caller (state.visiting visit)
        round) :
      UnwindStepped guest registry request unwindFlags state round

theorem at_target_iff {request : UnwindRequest} {establisherFrame : Nat} :
    atTarget request establisherFrame = true ↔
      request.targetFrame ≠ 0 ∧ establisherFrame = request.targetFrame := by
  simp [atTarget]

theorem set_rax_rsp (context : Context) (value : Nat) :
    (context.setInteger registerRax value).rsp = context.rsp := by
  simp [Context.rsp, Context.setInteger, registerRax, registerRsp]

theorem unwind_step_stepped (guest : Guest) (registry : Registry) (request : UnwindRequest)
    (unwindFlags : Nat) (state : Unwinding) :
    UnwindStepped guest registry request unwindFlags state
      (unwindStep guest registry request unwindFlags state) := by
  unfold unwindStep
  by_cases invalid : stackFrameIsValid guest.stack state.walking.rsp = false
  · simp only [if_pos invalid]
    exact .fails _ nofun
  simp only [if_neg invalid]
  cases located : locate guest.memory registry state.walking.rip with
  | outside =>
    apply UnwindStepped.fails
    split <;> nofun
  | failed status => exact .fails status (locate_fails located)
  | leaf =>
    have visited := next_visit_leaf guest.stack located
    by_cases target : request.targetFrame ≠ 0 ∧ state.walking.rsp = request.targetFrame
    · simp only [if_pos target]
      exact .arrives _ _ visited (at_target_iff.mpr target)
    · simp only [if_neg target]
      cases popped : leafCaller guest.stack state.walking with
      | error status => exact .failsIn _ _ visited status (leaf_caller_fails popped)
      | ok caller =>
        rw [popped] at visited
        exact .passes _ caller visited
  | function found =>
    dsimp only
    cases unwinds : unwindFunction guest.stack .termination found state.walking with
    | error status => exact .fails status (unwind_function_fails unwinds)
    | ok unwound =>
      have visited := next_visit_function located unwinds
      by_cases above : request.targetFrame ≠ 0 ∧
          unwound.establisherFrame > request.targetFrame
      · simp only [if_pos above]
        exact .failsIn _ _ visited _ nofun
      simp only [if_neg above]
      cases declared : unwound.languageHandler with
      | some languageHandler =>
        dsimp only
        refine .calls _ unwound.context visited
          (terminationCall request found unwound languageHandler _) ?_ rfl
          (termination_handler_unwound guest request unwindFlags _ _ _)
        simp [HandlerCall.visit, terminationCall, Context.visit, set_rax_rsp]
      | none =>
        dsimp only
        cases target : atTarget request unwound.establisherFrame with
        | true =>
          simp only [if_pos]
          exact .arrives _ _ visited target
        | false => exact .passes _ unwound.context visited

/-! ### What is kept on the way -/

/-- The frames visited so far are each above the one before, the handlers called are those of some
of them, and saw the flags that are due. -/
structure Recorded (guest : Guest) (request : UnwindRequest) (unwindFlags : Nat)
    (state : Unwinding) : Prop where
  ascending : (state.visited.map VisitedFrame.rsp).Pairwise (· < ·)
  called : (state.runs.map (fun run => run.call.visit)).Sublist state.visited
  flags : ∀ run ∈ state.runs, run.call.record.exceptionFlags =
    flagsAt request unwindFlags run.call.establisherFrame
  logged : Logged guest state.runs

/-- What holds between two rounds. -/
structure Climbing (guest : Guest) (request : UnwindRequest) (unwindFlags : Nat)
    (state : Unwinding) : Prop extends Recorded guest request unwindFlags state where
  below : ∀ visit ∈ state.visited, visit.rsp < state.walking.rsp
  recordFlags : state.record.exceptionFlags = unwindFlags

def WalkEnd.state : WalkEnd → Unwinding
  | .stop _ state => state
  | .arrive _ state => state
  | .unwinds _ state => state

section Kept
variable {guest : Guest} {registry : Registry} {request : UnwindRequest} {unwindFlags : Nat}
  {state after : Unwinding} {visit : VisitedFrame} {next : Option Context} {caller : Context}
  {call : HandlerCall}

theorem Climbing.visits (climbing : Climbing guest request unwindFlags state)
    (visited : nextVisit guest.memory registry guest.stack state.walking = some (visit, next)) :
    Recorded guest request unwindFlags (state.visiting visit) := by
  refine { climbing.toRecorded with ascending := ?_, called := ?_ }
  · rw [Unwinding.visiting, List.map_append, List.pairwise_append]
    refine ⟨climbing.ascending, List.pairwise_singleton _ _, ?_⟩
    intro lower member upper last
    obtain ⟨before, among, rfl⟩ := List.mem_map.mp member
    rw [List.map_singleton, List.mem_singleton] at last
    rw [last, (next_visit_progress visited).1]
    exact climbing.below before among
  · exact climbing.called.trans (List.sublist_append_left _ _)

/-- A frame that was visited lies below its caller. -/
theorem Climbing.visited_below (climbing : Climbing guest request unwindFlags state)
    (visited : nextVisit guest.memory registry guest.stack state.walking =
      some (visit, some caller)) :
    ∀ frame ∈ (state.visiting visit).visited, frame.rsp < caller.rsp := by
  obtain ⟨here, above⟩ := next_visit_progress visited
  have progress := above caller rfl
  intro frame member
  rcases List.mem_append.mp member with member | member
  · exact Nat.lt_trans (climbing.below frame member) progress
  · rw [List.mem_singleton.mp member, here]
    exact progress

/-- The call of a handler in the frame that was just visited. -/
theorem Climbing.calls (climbing : Climbing guest request unwindFlags state)
    (visited : nextVisit guest.memory registry guest.stack state.walking = some (visit, next))
    (place : call.visit = visit)
    (flags : call.record.exceptionFlags = flagsAt request unwindFlags visit.establisherFrame)
    {disposition : Option Int}
    (outcome : (guest.handler state.runs call).disposition = disposition)
    (visitedAfter : after.visited = state.visited ++ [visit])
    (runs : after.runs = state.runs ++ [{ call := call, disposition := disposition }]) :
    Recorded guest request unwindFlags after where
  ascending := by
    rw [visitedAfter]
    exact (climbing.visits visited).ascending
  called := by
    rw [visitedAfter, runs, List.map_append]
    exact climbing.called.append (by simp [place])
  flags := by
    intro run member
    rw [runs] at member
    rcases List.mem_append.mp member with member | member
    · exact climbing.flags run member
    · rw [List.mem_singleton.mp member, flags, ← place]
      rfl
  logged := by
    rw [runs]
    exact climbing.logged.append outcome

/-- A context that an unwind resumes. -/
structure Arrived (request : UnwindRequest) (visited : List VisitedFrame) (context : Context) :
    Prop where
  target : request.targetFrame ≠ 0
  reached : ∃ visit ∈ visited, visit.establisherFrame = request.targetFrame
  rax : context.integer registerRax = request.returnValue
  rip : context.rip = request.targetIp

theorem resume_at_arrives {visited : List VisitedFrame} {context : Context}
    (target : atTarget request visit.establisherFrame = true) (member : visit ∈ visited) :
    Arrived request visited (resumeAt request context) where
  target := (at_target_iff.mp target).1
  reached := ⟨visit, member, (at_target_iff.mp target).2⟩
  rax := by simp [resumeAt, Context.setInteger]
  rip := rfl

/-- What holds of an end of the walk. -/
structure WalkEnded (guest : Guest) (request : UnwindRequest) (unwindFlags : Nat)
    (ended : WalkEnd) : Prop where
  recorded : Recorded guest request unwindFlags ended.state
  fails : ∀ status state, ended = .stop status state → status ≠ .ok
  arrives : ∀ context state, ended = .arrive context state →
    Arrived request state.visited context

theorem UnwindStepped.goes_on
    (stepped : UnwindStepped guest registry request unwindFlags state (.next after))
    (climbing : Climbing guest request unwindFlags state) :
    Climbing guest request unwindFlags after := by
  cases stepped with
  | passes visit caller visited => exact {
      toRecorded := { climbing.visits visited with }
      below := climbing.visited_below visited
      recordFlags := climbing.recordFlags }
  | calls visit caller visited call place flags unwound =>
    rw [climbing.recordFlags] at flags
    cases unwound with
    | continues record context callerContext linked outcome elsewhere => exact {
        toRecorded := climbing.calls visited place flags (congrArg _ outcome) rfl rfl
        below := climbing.visited_below visited
        recordFlags := rfl }

theorem UnwindStepped.ends {ended : WalkEnd}
    (stepped : UnwindStepped guest registry request unwindFlags state (.done ended))
    (climbing : Climbing guest request unwindFlags state) :
    WalkEnded guest request unwindFlags ended := by
  cases stepped with
  | fails status bad => exact ⟨climbing.toRecorded, by rintro _ _ ⟨⟩; exact bad, by rintro _ _ ⟨⟩⟩
  | failsIn visit next visited status bad =>
    exact ⟨climbing.visits visited, by rintro _ _ ⟨⟩; exact bad, by rintro _ _ ⟨⟩⟩
  | arrives visit next visited target =>
    refine ⟨climbing.visits visited, by rintro _ _ ⟨⟩, ?_⟩
    rintro _ _ ⟨⟩
    exact resume_at_arrives target (List.mem_append_right _ (List.mem_singleton_self visit))
  | calls visit caller visited call place flags unwound =>
    rw [climbing.recordFlags] at flags
    cases unwound with
    | unwinds nested outcome =>
      exact ⟨climbing.calls visited place flags (congrArg _ outcome) rfl rfl,
        by rintro _ _ ⟨⟩, by rintro _ _ ⟨⟩⟩
    | refuses disposition record context callerContext linked outcome bad =>
      refine ⟨climbing.calls visited place flags (congrArg _ outcome) rfl rfl, ?_,
        by rintro _ _ ⟨⟩⟩
      rintro _ _ ⟨⟩
      split <;> nofun
    | arrives record context callerContext linked outcome target =>
      refine ⟨climbing.calls visited place flags (congrArg _ outcome) rfl rfl,
        by rintro _ _ ⟨⟩, ?_⟩
      rintro _ _ ⟨⟩
      have same : call.establisherFrame = visit.establisherFrame := by rw [← place]; rfl
      rw [same] at target
      exact resume_at_arrives target (List.mem_append_right _ (List.mem_singleton_self visit))

/-- A round that goes on visits the next frame of the path. -/
theorem UnwindStepped.visits_path
    (stepped : UnwindStepped guest registry request unwindFlags state (.next after)) :
    ∃ visit, nextVisit guest.memory registry guest.stack state.walking =
        some (visit, some after.walking) ∧ after.visited = state.visited ++ [visit] := by
  cases stepped with
  | passes visit caller visited => exact ⟨visit, visited, rfl⟩
  | calls visit caller visited call place flags unwound =>
    cases unwound with
    | continues record context callerContext linked outcome elsewhere =>
      exact ⟨visit, visited, rfl⟩

/-- A round that ends the walk visits the next frame of the path, or none. -/
theorem UnwindStepped.ends_on_path {ended : WalkEnd}
    (stepped : UnwindStepped guest registry request unwindFlags state (.done ended)) :
    ended.state.visited = state.visited ∨ ∃ visit next,
      nextVisit guest.memory registry guest.stack state.walking = some (visit, next) ∧
      ended.state.visited = state.visited ++ [visit] := by
  cases stepped with
  | fails status bad => exact .inl rfl
  | failsIn visit next visited status bad => exact .inr ⟨visit, next, visited, rfl⟩
  | arrives visit next visited target => exact .inr ⟨visit, next, visited, rfl⟩
  | calls visit caller visited call place flags unwound =>
    refine .inr ⟨visit, some caller, visited, ?_⟩
    cases unwound with
    | unwinds nested outcome => rfl
    | refuses disposition record context callerContext linked outcome bad => rfl
    | arrives record context callerContext linked outcome target => rfl

end Kept

/-! ### A whole walk -/

theorem unwind_path_length (memory : Memory) (registry : Registry) (stack : Stack) (depth : Nat)
    (context : Context) : (unwindPath memory registry stack depth context).length ≤ depth := by
  induction depth generalizing context with
  | zero => exact Nat.le_refl 0
  | succ depth ih =>
    unfold unwindPath
    split
    · exact Nat.zero_le _
    · exact Nat.succ_le_succ (Nat.zero_le _)
    · exact Nat.succ_le_succ (ih _)

section Walk
variable {guest : Guest} {registry : Registry} {request : UnwindRequest} {unwindFlags : Nat}

/-- So many rounds visit so many frames of the path. -/
theorem unwind_reaches {count : Nat} {start last : Unwinding}
    (reached : Reaches (unwindStep guest registry request unwindFlags) count start last)
    (climbing : Climbing guest request unwindFlags start) :
    Climbing guest request unwindFlags last ∧
    ∃ more, last.visited = start.visited ++ more ∧ ∀ extra,
      unwindPath guest.memory registry guest.stack (count + extra) start.walking =
        more ++ unwindPath guest.memory registry guest.stack extra last.walking := by
  induction reached with
  | here => exact ⟨climbing, [], by simp⟩
  | @next count state after last stepped _ ih =>
    have round : UnwindStepped guest registry request unwindFlags state (.next after) :=
      stepped ▸ unwind_step_stepped guest registry request unwindFlags state
    obtain ⟨visit, visited, extended⟩ := round.visits_path
    obtain ⟨kept, more, extendedOn, path⟩ := ih (round.goes_on climbing)
    refine ⟨kept, visit :: more, by rw [extendedOn, extended, List.append_assoc]; rfl, ?_⟩
    intro extra
    rw [show count + 1 + extra = count + extra + 1 by omega, unwind_path_goes_on _ visited,
      path extra, List.cons_append]

theorem unwind_frames_ended (registry : Registry) {start : Unwinding}
    (climbing : Climbing guest request unwindFlags start) (fresh : start.visited = []) :
    WalkEnded guest request unwindFlags (unwindFrames guest registry request unwindFlags start) ∧
    (unwindFrames guest registry request unwindFlags start).state.visited <+:
      unwindPath guest.memory registry guest.stack maxFrames start.walking := by
  unfold unwindFrames
  obtain ⟨count, last, result, bound, reached, ended, run⟩ | ⟨last, reached, run⟩ :=
    rounds_end (unwindStep guest registry request unwindFlags) (.stop .forwarderLimit) maxFrames
      start
  · obtain ⟨kept, more, extended, path⟩ := unwind_reaches reached climbing
    have round : UnwindStepped guest registry request unwindFlags last (.done result) :=
      ended ▸ unwind_step_stepped guest registry request unwindFlags last
    rw [run]
    refine ⟨round.ends kept, ?_⟩
    rw [fresh, List.nil_append] at extended
    have whole := path (maxFrames - count - 1 + 1)
    rw [show count + (maxFrames - count - 1 + 1) = maxFrames by omega] at whole
    rw [whole]
    obtain same | ⟨visit, next, visited, longer⟩ := round.ends_on_path
    · rw [same, extended]
      exact List.prefix_append _ _
    · rw [longer, extended]
      exact (List.prefix_append_right_inj more).mpr (unwind_path_visit _ visited)
  · obtain ⟨kept, more, extended, path⟩ := unwind_reaches reached climbing
    rw [run]
    refine ⟨⟨kept.toRecorded, by rintro _ _ ⟨⟩; nofun, by rintro _ _ ⟨⟩⟩, ?_⟩
    have whole := path 0
    rw [Nat.add_zero] at whole
    rw [whole, WalkEnd.state, extended, fresh, List.nil_append]
    exact List.prefix_append _ _

end Walk

def Unwinds.state : Unwinds → Unwinding
  | .returned _ _ state => state
  | .unwinds _ state => state

/-- What `sl_win64_unwind_to_frame` promises. -/
structure UnwindContract (guest : Guest) (request : UnwindRequest) (record : ExceptionRecord)
    (context target : Context) (ended : Unwinds) : Prop where
  bounded : ended.state.visited.length ≤ maxFrames
  ascending : (ended.state.visited.map VisitedFrame.rsp).Pairwise (· < ·)
  onPath : ∀ registry, guest.registry = some registry → ended.state.visited <+:
    unwindPath guest.memory registry guest.stack maxFrames context
  once : (ended.state.runs.map (fun run => run.call.visit)).Sublist ended.state.visited
  logged : Logged guest ended.state.runs
  flags : ∀ run ∈ ended.state.runs, run.call.record.exceptionFlags =
    flagsAt request (unwindFlagsOf request record) run.call.establisherFrame
  arrives : ∀ written state, ended = .returned .ok written state →
    Arrived request state.visited written
  untouched : ∀ status written state, ended = .returned status written state → status ≠ .ok →
    written = target

theorem unwind_start_climbing (guest : Guest) (request : UnwindRequest) (unwindFlags : Nat)
    {start : Unwinding} (visited : start.visited = []) (runs : start.runs = [])
    (flags : start.record.exceptionFlags = unwindFlags) :
    Climbing guest request unwindFlags start where
  ascending := by simp [visited]
  called := by simp [runs]
  flags := by simp [runs]
  logged := by
    intro before run after split
    simp [runs] at split
  below := by simp [visited]
  recordFlags := flags

theorem returns_state (ended : WalkEnd) (target : Context) :
    (ended.returns target).state = ended.state := by
  cases ended <;> rfl

/-- An end of the walk keeps the contract. -/
theorem WalkEnded.contract {guest : Guest} {registry : Registry} {request : UnwindRequest}
    {record : ExceptionRecord} {context : Context} (target : Context) {ended : WalkEnd}
    (registered : guest.registry = some registry)
    (walked : WalkEnded guest request (unwindFlagsOf request record) ended)
    (onPath : ended.state.visited <+:
      unwindPath guest.memory registry guest.stack maxFrames context) :
    UnwindContract guest request record context target (ended.returns target) where
  bounded := by
    rw [returns_state]
    exact onPath.length_le.trans (unwind_path_length _ _ _ _ _)
  ascending := by
    rw [returns_state]
    exact walked.recorded.ascending
  onPath := by
    intro other known
    cases registered.symm.trans known
    rw [returns_state]
    exact onPath
  once := by
    rw [returns_state]
    exact walked.recorded.called
  logged := by
    rw [returns_state]
    exact walked.recorded.logged
  flags := by
    rw [returns_state]
    exact walked.recorded.flags
  arrives := by
    intro written state returned
    cases ended with
    | stop status stopped =>
      cases returned
      exact absurd rfl (walked.fails _ state rfl)
    | arrive resumed arrived =>
      cases returned
      exact walked.arrives written state rfl
    | unwinds nested left => cases returned
  untouched := by
    intro status written state returned bad
    cases ended with
    | stop stopped state =>
      cases returned
      rfl
    | arrive resumed arrived =>
      cases returned
      exact absurd rfl bad
    | unwinds nested left => cases returned

/-- Arguments that are refused leave everything as it is. -/
theorem refused_contract {guest : Guest} {request : UnwindRequest} {record : ExceptionRecord}
    {context target : Context} {status : Status} (bad : status ≠ .ok) {state : Unwinding}
    (visited : state.visited = []) (runs : state.runs = []) :
    UnwindContract guest request record context target (.returned status target state) where
  bounded := by simp [Unwinds.state, visited]
  ascending := by simp [Unwinds.state, visited]
  onPath := by simp [Unwinds.state, visited]
  once := by simp [Unwinds.state, runs]
  logged := by
    intro before run after split
    simp [Unwinds.state, runs] at split
  flags := by simp [Unwinds.state, runs]
  arrives := by
    rintro _ _ ⟨⟩
    exact absurd rfl bad
  untouched := by
    rintro _ _ _ ⟨⟩ _
    rfl

theorem accepted_registered {guest : Guest} {request : UnwindRequest} {context : Context}
    (accepted : unwindArgumentsStatus guest request context = .ok) :
    ∃ registry, guest.registry = some registry := by
  unfold unwindArgumentsStatus at accepted
  dsimp only at accepted
  split at accepted
  · cases accepted
  · split at accepted
    · cases accepted
    · rename_i registry registered
      exact ⟨registry, registered⟩

theorem unwind_to_frame_contract (guest : Guest) (request : UnwindRequest)
    (record : ExceptionRecord) (context : Context) (links : List Context) (target : Context) :
    UnwindContract guest request record context target
      (unwindToFrame guest request record context links target) := by
  unfold unwindToFrame
  dsimp only
  split
  · rename_i registry accepted registered
    have climbing : Climbing guest request (unwindFlagsOf request record)
        ⟨context, record.withFlags (unwindFlagsOf request record), links, [], []⟩ :=
      unwind_start_climbing guest request _ rfl rfl rfl
    obtain ⟨walked, onPath⟩ := unwind_frames_ended registry climbing rfl
    exact walked.contract target registered onPath
  · rename_i refused
    refine refused_contract ?_ rfl rfl
    intro accepted
    obtain ⟨registry, registered⟩ := accepted_registered accepted
    exact refused registry accepted registered

/-- The flag of the target is added there and nowhere else. -/
theorem target_flag_iff (request : UnwindRequest) (record : ExceptionRecord)
    (establisherFrame : Nat) :
    hasFlag (flagsAt request (unwindFlagsOf request record) establisherFrame)
      exceptionTargetUnwind = true ↔
    request.targetFrame ≠ 0 ∧ establisherFrame = request.targetFrame := by
  have clear : unwindFlagsOf request record &&& exceptionTargetUnwind = 0 := by
    have one : record.exceptionFlags &&& exceptionNoncontinuable &&& exceptionTargetUnwind = 0 := by
      rw [Nat.and_assoc]
      exact Nat.and_zero _
    unfold unwindFlagsOf
    dsimp only
    split
    · rw [Nat.and_or_distrib_right, Nat.and_or_distrib_right, one]
      rfl
    · rw [Nat.and_or_distrib_right, one]
      rfl
  rw [← at_target_iff]
  unfold flagsAt hasFlag
  cases atTarget request establisherFrame with
  | true =>
    rw [if_pos rfl, Nat.and_or_distrib_right, clear]
    exact iff_of_true rfl rfl
  | false => simp [clear]

/-! ### What handlers write -/

/-- A family of handlers that all return, each the disposition that its frame has. -/
def Answers (guest : Guest) (answer : VisitedFrame → Int) : Prop :=
  ∀ runs call, ∃ record context callerContext linked,
    guest.handler runs call = .returned (answer call.visit) record context callerContext linked

def WalkEnd.status : WalkEnd → Option Status
  | .stop status _ => some status
  | .arrive _ _ => some .ok
  | .unwinds _ _ => none

def Unwinds.status : Unwinds → Option Status
  | .returned status _ _ => some status
  | .unwinds _ _ => none

theorem returns_status (ended : WalkEnd) (target : Context) :
    (ended.returns target).status = ended.status := by
  cases ended <;> rfl

/-- Two unwinds that stand at the same place. -/
def Alongside (left right : Unwinding) : Prop :=
  left.walking = right.walking ∧ left.visited = right.visited

/-- Two ends at the same place, for the same reason. -/
def EndAlike (left right : WalkEnd) : Prop :=
  left.state.visited = right.state.visited ∧ left.status = right.status

section Alike
variable {guest : Guest} {later : List HandlerRun → HandlerCall → HandlerOutcome}
  {answer : VisitedFrame → Int} {request : UnwindRequest} {leftFlags rightFlags : Nat}

theorem termination_handlers_alike (first : Answers guest answer)
    (second : Answers { guest with handler := later } answer) {left right : HandlerCall}
    (place : left.visit = right.visit) (caller : Context) {one other : Unwinding}
    (visited : one.visited = other.visited) :
    RoundsAgree Alongside EndAlike
      (terminationHandler guest request leftFlags left caller one)
      (terminationHandler { guest with handler := later } request rightFlags right caller other) := by
  obtain ⟨record, context, callerContext, linked, outcome⟩ := first one.runs left
  obtain ⟨record', context', callerContext', linked', outcome'⟩ := second other.runs right
  change later other.runs right = _ at outcome'
  have frame : left.establisherFrame = right.establisherFrame :=
    congrArg VisitedFrame.establisherFrame place
  rw [← place] at outcome'
  unfold terminationHandler
  simp only [outcome, outcome', ← frame]
  by_cases bad : answer left.visit ≠ dispositionContinueSearch
  · simp only [if_pos bad]
    exact .done ⟨visited, rfl⟩
  · simp only [if_neg bad]
    cases atTarget request left.establisherFrame with
    | true => exact .done ⟨visited, rfl⟩
    | false => exact .next ⟨rfl, visited⟩

theorem unwind_steps_alike (registry : Registry) (first : Answers guest answer)
    (second : Answers { guest with handler := later } answer) {one other : Unwinding}
    (alongside : Alongside one other) :
    RoundsAgree Alongside EndAlike
      (unwindStep guest registry request leftFlags one)
      (unwindStep { guest with handler := later } registry request rightFlags other) := by
  obtain ⟨walking, record, links, visited, runs⟩ := one
  obtain ⟨walking', record', links', visited', runs'⟩ := other
  obtain ⟨rfl, rfl⟩ : walking = walking' ∧ visited = visited' := alongside
  unfold unwindStep
  dsimp only
  by_cases invalid : stackFrameIsValid guest.stack walking.rsp = false
  · simp only [if_pos invalid]
    exact .done ⟨rfl, rfl⟩
  simp only [if_neg invalid]
  cases locate guest.memory registry walking.rip with
  | outside => exact .done ⟨rfl, rfl⟩
  | failed status => exact .done ⟨rfl, rfl⟩
  | leaf =>
    by_cases target : request.targetFrame ≠ 0 ∧ walking.rsp = request.targetFrame
    · simp only [if_pos target]
      exact .done ⟨rfl, rfl⟩
    · simp only [if_neg target]
      cases leafCaller guest.stack walking with
      | error status => exact .done ⟨rfl, rfl⟩
      | ok caller => exact .next ⟨rfl, rfl⟩
  | function found =>
    dsimp only
    cases unwindFunction guest.stack .termination found walking with
    | error status => exact .done ⟨rfl, rfl⟩
    | ok unwound =>
      by_cases above : request.targetFrame ≠ 0 ∧
          unwound.establisherFrame > request.targetFrame
      · simp only [if_pos above]
        exact .done ⟨rfl, rfl⟩
      simp only [if_neg above]
      cases unwound.languageHandler with
      | some languageHandler =>
        dsimp only
        refine termination_handlers_alike first second ?_ unwound.context rfl
        rfl
      | none =>
        dsimp only
        cases atTarget request unwound.establisherFrame with
        | true => exact .done ⟨rfl, rfl⟩
        | false => exact .next ⟨rfl, rfl⟩

/-- Handlers that answer alike, whatever else they do, have the same frames visited. -/
theorem unwinds_alike (first : Answers guest answer)
    (second : Answers { guest with handler := later } answer) (record : ExceptionRecord)
    (context : Context) (links : List Context) (target : Context) :
    (unwindToFrame { guest with handler := later } request record context links
        target).state.visited =
      (unwindToFrame guest request record context links target).state.visited ∧
    (unwindToFrame { guest with handler := later } request record context links target).status =
      (unwindToFrame guest request record context links target).status := by
  have arguments : unwindArgumentsStatus { guest with handler := later } request context =
      unwindArgumentsStatus guest request context := rfl
  unfold unwindToFrame
  simp only [arguments]
  cases unwindArgumentsStatus guest request context with
  | ok =>
    cases guest.registry with
    | none => exact ⟨rfl, rfl⟩
    | some registry =>
      have alike (start : Unwinding) : EndAlike
          (unwindFrames guest registry request (unwindFlagsOf request record) start)
          (unwindFrames { guest with handler := later } registry request
            (unwindFlagsOf request record) start) := by
        unfold unwindFrames
        refine rounds_simulate (fun _ _ => unwind_steps_alike registry first second) ?_ maxFrames
          ⟨rfl, rfl⟩
        intro one other alongside
        exact ⟨alongside.2, rfl⟩
      dsimp only
      rw [returns_state, returns_state, returns_status, returns_status]
      exact ⟨(alike _).1.symm, (alike _).2.symm⟩
  | _ => exact ⟨rfl, rfl⟩

end Alike

/-- An unwind visits frames that each lie above the one before and are none of its handlers' choice,
calls a handler once at most and with the flags due in its frame, and returns `SL_OK` with a context
to resume at the target frame alone; else the target context stays as it was. -/
theorem second_pass_walk (guest : Guest) (request : UnwindRequest) (record : ExceptionRecord)
    (context : Context) (links : List Context) (target : Context) :
    (∀ (found : FunctionEntry) (walking : Context), virtualUnwind found.module
      HandlerType.termination.flag walking.rip found.functionEntry walking guest.stack none ≠
        none) ∧
    UnwindContract guest request record context target
      (unwindToFrame guest request record context links target) ∧
    (∀ run ∈ (unwindToFrame guest request record context links target).state.runs,
      hasFlag run.call.record.exceptionFlags exceptionTargetUnwind = true ↔
        request.targetFrame ≠ 0 ∧ run.call.establisherFrame = request.targetFrame) ∧
    (request.targetFrame = 0 →
      (unwindToFrame guest request record context links target).status ≠ some .ok) ∧
    ∀ later answer, Answers guest answer → Answers { guest with handler := later } answer →
      (unwindToFrame { guest with handler := later } request record context links
          target).state.visited =
        (unwindToFrame guest request record context links target).state.visited ∧
      (unwindToFrame { guest with handler := later } request record context links target).status =
        (unwindToFrame guest request record context links target).status := by
  have contract := unwind_to_frame_contract guest request record context links target
  refine ⟨fun found walking => virtual_unwind_returns found.module walking.rip found.functionEntry
    walking guest.stack none .termination, contract, ?_, ?_, ?_⟩
  · intro run member
    rw [contract.flags run member]
    exact target_flag_iff request record _
  · intro everything ok
    cases ended : unwindToFrame guest request record context links target with
    | returned status written state =>
      rw [ended] at ok
      cases ok
      exact (contract.arrives written state ended).target everything
    | unwinds nested state =>
      rw [ended] at ok
      cases ok
  · intro later answer first second
    exact unwinds_alike first second record context links target

end SadLayer.Unwind
