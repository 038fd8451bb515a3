import SadLayer.ExceptionDispatch

/-! The frames of a guest stack: what is found where a walk stands, the same for
both passes, and the call stack that it leads through. -/
namespace SadLayer.Unwind
open SadLayer.Library SadLayer.Module

/-- A frame of the guest stack: the context in it and in its caller, and the handlers that each of
the passes finds. -/
structure GuestFrame where
  context : Context
  establisherFrame : Nat
  caller : Context
  exceptionHandler : Option LanguageHandler
  terminationHandler : Option LanguageHandler

/-- Where a handler belongs. -/
structure HandlerSite where
  controlPc : Nat
  establisherFrame : Nat
  languageHandler : LanguageHandler
  deriving DecidableEq, Repr

def HandlerCall.site (call : HandlerCall) : HandlerSite := {
  controlPc := call.dispatcher.controlPc
  establisherFrame := call.establisherFrame
  languageHandler := call.dispatcher.languageHandler }

def GuestFrame.site (frame : GuestFrame) (languageHandler : LanguageHandler) : HandlerSite := {
  controlPc := frame.context.rip
  establisherFrame := frame.establisherFrame
  languageHandler := languageHandler }

def GuestFrame.exceptionSite (frame : GuestFrame) : Option HandlerSite :=
  frame.exceptionHandler.map frame.site

def GuestFrame.terminationSite (frame : GuestFrame) : Option HandlerSite :=
  frame.terminationHandler.map frame.site

/-- The frame of a function without a table entry. -/
def leafFrame (context caller : Context) : GuestFrame := {
  context := context
  establisherFrame := context.rsp
  caller := caller
  exceptionHandler := none
  terminationHandler := none }

/-- The frame of a function that both passes unwound. -/
def functionFrame (context : Context) (searched terminated : Unwound) : GuestFrame := {
  context := context
  establisherFrame := searched.establisherFrame
  caller := searched.context
  exceptionHandler := searched.languageHandler
  terminationHandler := terminated.languageHandler }

/-- The frame that a context is in, when it can be unwound. -/
def frameAt (guest : Guest) (registry : Registry) (context : Context) : Option GuestFrame :=
  match locate guest.memory registry context.rip with
  | .outside | .failed _ => none
  | .leaf => (leafCaller guest.stack context).toOption.map (leafFrame context)
  | .function found =>
    match unwindFunction guest.stack .exception found context,
        unwindFunction guest.stack .termination found context with
    | .ok searched, .ok terminated => some (functionFrame context searched terminated)
    | _, _ => none

/-- The frames from one context to another, each one's caller in the next. -/
inductive CallStack (guest : Guest) (registry : Registry) :
    Context → List GuestFrame → Context → Prop where
  | empty (context : Context) : CallStack guest registry context [] context
  | frame {context last : Context} {frame : GuestFrame} {frames : List GuestFrame} :
      frameAt guest registry context = some frame →
      CallStack guest registry frame.caller frames last →
      CallStack guest registry context (frame :: frames) last

/-! ### Both passes unwind a frame alike -/

theorem virtual_unwind_status {module : PeModule} {handlerType : HandlerType}
    {controlPc functionEntry : Nat} {context : Context} {stack : Stack}
    {pointers : Option ContextPointers} :
    virtualUnwind module handlerType.flag controlPc functionEntry context stack pointers =
      some (virtualUnwindStatus module handlerType controlPc functionEntry context stack
        pointers) :=
  (Option.some_get _).symm

theorem virtual_unwind_status_same (module : PeModule) (left right : HandlerType)
    (controlPc functionEntry : Nat) (context : Context) (stack : Stack)
    (pointers : Option ContextPointers) :
    (virtualUnwindStatus module left controlPc functionEntry context stack pointers).map
        Unwound.frame =
      (virtualUnwindStatus module right controlPc functionEntry context stack pointers).map
        Unwound.frame := by
  have same := virtual_unwind_same module controlPc functionEntry context stack pointers left right
  rw [virtual_unwind_status, virtual_unwind_status] at same
  exact Option.some.inj same

/-- Where one pass unwinds a function, the other does, to the same caller and establisher. -/
theorem unwind_function_same {stack : Stack} {left : HandlerType} (right : HandlerType)
    {found : FunctionEntry} {context : Context} {unwound : Unwound}
    (unwinds : unwindFunction stack left found context = .ok unwound) :
    ∃ other, unwindFunction stack right found context = .ok other ∧
      other.context = unwound.context ∧ other.establisherFrame = unwound.establisherFrame := by
  have same := virtual_unwind_status_same found.module left right context.rip found.functionEntry
    context stack none
  unfold unwindFunction at unwinds ⊢
  cases first : virtualUnwindStatus found.module left context.rip found.functionEntry context stack
      none with
  | error status =>
    rw [first] at unwinds
    cases unwinds
  | ok one =>
    rw [first] at unwinds same
    cases second : virtualUnwindStatus found.module right context.rip found.functionEntry context
        stack none with
    | error status =>
      rw [second] at same
      cases same
    | ok other =>
      rw [second] at same
      simp only [Except.map, Except.ok.injEq, Unwound.frame, Prod.mk.injEq] at same
      obtain ⟨sameContext, -, sameFrame⟩ := same
      simp only [← sameContext, ← sameFrame]
      dsimp only at unwinds
      split at unwinds
      · cases unwinds
      · rename_i progress
        cases unwinds
        exact ⟨other, if_neg progress, sameContext.symm, sameFrame.symm⟩

/-- An unwound function makes progress, to a valid establisher frame. -/
theorem unwind_function_progress {stack : Stack} {handlerType : HandlerType}
    {found : FunctionEntry} {context : Context} {unwound : Unwound}
    (unwinds : unwindFunction stack handlerType found context = .ok unwound) :
    context.rsp < unwound.context.rsp ∧
      stackFrameIsValid stack unwound.establisherFrame = true := by
  unfold unwindFunction at unwinds
  split at unwinds
  · cases unwinds
  · split at unwinds
    · cases unwinds
    · rename_i progress
      cases unwinds
      simp only [not_or, Nat.not_le, Bool.not_eq_false] at progress
      exact progress

theorem leaf_caller_progress {stack : Stack} {context caller : Context}
    (popped : leafCaller stack context = .ok caller) : context.rsp < caller.rsp := by
  unfold leafCaller at popped
  split at popped
  · cases popped
  · split at popped
    · cases popped
    · rename_i progress
      cases popped
      exact Nat.not_le.mp progress

/-! ### What is at a context -/

theorem frame_at_leaf {guest : Guest} {registry : Registry} {context caller : Context}
    (located : locate guest.memory registry context.rip = .leaf)
    (popped : leafCaller guest.stack context = .ok caller) :
    frameAt guest registry context = some (leafFrame context caller) := by
  rw [frameAt, located, popped]
  rfl

theorem frame_at_function {guest : Guest} {registry : Registry} {context : Context}
    {found : FunctionEntry} {searched terminated : Unwound}
    (located : locate guest.memory registry context.rip = .function found)
    (first : unwindFunction guest.stack .exception found context = .ok searched)
    (second : unwindFunction guest.stack .termination found context = .ok terminated) :
    frameAt guest registry context = some (functionFrame context searched terminated) := by
  simp only [frameAt, located, first, second]

/-- A frame is that of a leaf or of a function that both passes unwind. -/
theorem frame_at_some {guest : Guest} {registry : Registry} {context : Context}
    {frame : GuestFrame} (found : frameAt guest registry context = some frame) :
    (∃ caller, locate guest.memory registry context.rip = .leaf ∧
      leafCaller guest.stack context = .ok caller ∧ frame = leafFrame context caller) ∨
    ∃ function searched terminated,
      locate guest.memory registry context.rip = .function function ∧
      unwindFunction guest.stack .exception function context = .ok searched ∧
      unwindFunction guest.stack .termination function context = .ok terminated ∧
      terminated.context = searched.context ∧
      terminated.establisherFrame = searched.establisherFrame ∧
      frame = functionFrame context searched terminated := by
  unfold frameAt at found
  cases located : locate guest.memory registry context.rip with
  | outside => rw [located] at found; cases found
  | failed status => rw [located] at found; cases found
  | leaf =>
    rw [located] at found
    cases popped : leafCaller guest.stack context with
    | error status =>
      rw [popped] at found
      cases found
    | ok caller =>
      rw [popped] at found
      cases found
      exact .inl ⟨caller, rfl, rfl, rfl⟩
  | function function =>
    simp only [located] at found
    cases first : unwindFunction guest.stack .exception function context with
    | error status =>
      simp only [first] at found
      cases found
    | ok searched =>
      obtain ⟨terminated, second, sameContext, sameFrame⟩ :=
        unwind_function_same .termination first
      simp only [first, second, Option.some.injEq] at found
      subst found
      exact .inr ⟨function, searched, terminated, rfl, first, second, sameContext, sameFrame, rfl⟩

theorem CallStack.append {guest : Guest} {registry : Registry} {start middle last : Context}
    {frames more : List GuestFrame} (first : CallStack guest registry start frames middle)
    (second : CallStack guest registry middle more last) :
    CallStack guest registry start (frames ++ more) last := by
  induction first with
  | empty => exact second
  | frame found _ ih => exact .frame found (ih second)

/-! ### What was called -/

def HandlerOutcome.disposition : HandlerOutcome → Option Int
  | .returned disposition _ _ _ _ => some disposition
  | .unwinds _ => none

/-- Every entry of the log is a call of the guest's handler behind the entries before it. -/
def Logged (guest : Guest) (runs : List HandlerRun) : Prop :=
  ∀ before run after, runs = before ++ run :: after →
    (guest.handler before run.call).disposition = run.disposition

theorem Logged.append {guest : Guest} {runs : List HandlerRun} (logged : Logged guest runs)
    {call : HandlerCall} {disposition : Option Int}
    (outcome : (guest.handler runs call).disposition = disposition) :
    Logged guest (runs ++ [{ call := call, disposition := disposition }]) := by
  intro before run after split
  rcases List.eq_nil_or_concat after with rfl | ⟨rest, last, rfl⟩
  · obtain ⟨rfl, same⟩ := List.append_inj' split rfl
    cases same
    exact outcome
  · rw [List.concat_eq_append, ← List.cons_append, ← List.append_assoc] at split
    obtain ⟨rfl, -⟩ := List.append_inj' split rfl
    exact logged before run rest rfl

end SadLayer.Unwind
