import Mathlib.Logic.Function.Basic
import SadLayer.Library.Chains
import SadLayer.Status

/-! The scopes in which host threads run guest thread contexts. A scope records
what it was entered over, so that a host thread's scopes are linked from the
innermost outwards, and it keeps the context and its process for as long as it
lasts. Every call is one step; host threads interleave between calls. -/
namespace SadLayer.Contexts

/-- A host thread, named by the address of its own `sl_host_thread_marker`, as
`current_host_thread_token` does. -/
structure HostThread where
  token : UInt64
  nonzero : token ≠ 0
  deriving DecidableEq

/-- `sl_win32_thread_context`, without the values of its local storage. A pointer to an object
is the object's address or, for `NULL`, `none`. -/
structure ThreadContext where
  process : Option UInt64 := none
  lastError : UInt32 := 0
  threadId : UInt32 := 0
  /-- The address of the guest's view of the TEB. -/
  teb : Option Nat := none
  lastErrorAddress : Option Nat := none
  hostThreadToken : UInt64 := 0
  activeScopeCount : Nat := 0
  tebOwnerToken : UInt64 := 0
  deriving DecidableEq, Repr

/-- `sl_win32_context_scope`. -/
structure ContextScope where
  previous : Option UInt64 := none
  installed : Option UInt64 := none
  retainedProcess : Option UInt64 := none
  previousScope : Option UInt64 := none
  deriving DecidableEq, Repr

/-- The thread-local `sl_current_thread` and `sl_current_scope`. -/
structure HostLocals where
  currentThread : Option UInt64 := none
  currentScope : Option UInt64 := none
  deriving DecidableEq, Repr

/-- The objects the calls share, each by its address, and the variables of every host thread. -/
structure State where
  threads : UInt64 → ThreadContext
  scopes : UInt64 → ContextScope
  hosts : HostThread → HostLocals
  activeReferences : UInt64 → Nat

/-- Why a call never returns. -/
inductive Fault where
  | abort
  /-- A freed object is used. -/
  | dangling
  /-- A loop along the scopes of a host thread that comes round to where it was. -/
  | unending
  deriving DecidableEq, Repr

/-- `sl_win32_process_retain`, on a process' references. -/
def processRetain (references : Nat) : Except Status Nat :=
  if references = uint32Max then .error .invalidState else .ok (references + 1)

/-- `sl_win32_process_release`. -/
def processRelease (references : Nat) : Except Fault Nat :=
  if references = 0 then .error .abort else .ok (references - 1)

def claimThreadContext (thread : ThreadContext) (host : HostThread) :
    Except Status ThreadContext :=
  if thread.hostThreadToken = 0 then
    .ok { thread with hostThreadToken := host.token, activeScopeCount := 1 }
  else if thread.hostThreadToken ≠ host.token then .error .invalidState
  else if thread.activeScopeCount = uint32Max then .error .invalidState
  else .ok { thread with activeScopeCount := thread.activeScopeCount + 1 }

def releaseThreadContext (thread : ThreadContext) (host : HostThread) :
    Except Fault ThreadContext :=
  if thread.activeScopeCount = 0 ∨ thread.hostThreadToken ≠ host.token then .error .abort
  else
    let count := thread.activeScopeCount - 1
    .ok { thread with
      activeScopeCount := count
      hostThreadToken := if count = 0 then 0 else thread.hostThreadToken }

/-- The loop of `sl_win32_context_enter` over the active scopes. Of 2 ^ 64 addresses it has seen
one twice when it has not ended by then. -/
def scopeIsActive (s : State) (host : HostThread) (scope : UInt64) : Option Bool :=
  Library.searchChain (fun active => (s.scopes active).previousScope) scope UInt64.size
    (s.hosts host).currentScope

def State.setThread (s : State) (address : UInt64) (thread : ThreadContext) : State :=
  { s with threads := Function.update s.threads address thread }

def State.setReferences (s : State) (process : UInt64) (references : Nat) : State :=
  { s with activeReferences := Function.update s.activeReferences process references }

/-- Fills in the scope and makes it and its context current. -/
def State.install (s : State) (host : HostThread) (thread scope : UInt64)
    (process : Option UInt64) : State :=
  { s with
    scopes := Function.update s.scopes scope
      { previous := (s.hosts host).currentThread
        installed := some thread
        retainedProcess := process
        previousScope := (s.hosts host).currentScope }
    hosts := Function.update s.hosts host
      { currentThread := some thread, currentScope := some scope } }

/-- `sl_win32_context_enter`. -/
def contextEnter (s : State) (host : HostThread) :
    Option UInt64 → Option UInt64 → Except Fault (Status × State)
  | some thread, some scope =>
    match scopeIsActive s host scope with
    | none => .error .unending
    | some true => .ok (.invalidState, s)
    | some false =>
      match claimThreadContext (s.threads thread) host with
      | .error status => .ok (status, s)
      | .ok claimed =>
        let entered := s.setThread thread claimed
        match claimed.process with
        | none => .ok (.ok, entered.install host thread scope none)
        | some process =>
          match processRetain (s.activeReferences process) with
          | .error status => do
            let released ← releaseThreadContext claimed host
            return (status, entered.setThread thread released)
          | .ok references =>
            .ok (.ok, (entered.setReferences process references).install host thread scope
              (some process))
  | _, _ => .ok (.invalidArgument, s)

/-- Gives back the reference a scope keeps, if it keeps one. -/
def State.releaseProcess (s : State) : Option UInt64 → Except Fault State
  | none => .ok s
  | some process => do
    let references ← processRelease (s.activeReferences process)
    return s.setReferences process references

/-- Clears the scope and makes current again what it was entered over. -/
def State.uninstall (s : State) (host : HostThread) (scope : UInt64) : State :=
  { s with
    hosts := Function.update s.hosts host
      { currentThread := (s.scopes scope).previous
        currentScope := (s.scopes scope).previousScope }
    scopes := Function.update s.scopes scope {} }

/-- `sl_win32_context_leave`. -/
def contextLeave (s : State) (host : HostThread) :
    Option UInt64 → Except Fault (Status × State)
  | none => .ok (.invalidArgument, s)
  | some scope =>
    if (s.hosts host).currentScope ≠ some scope then .ok (.invalidArgument, s)
    else
      match (s.scopes scope).installed with
      | none => .ok (.invalidArgument, s)
      | some installed =>
        if (s.hosts host).currentThread ≠ some installed ∨
            (s.threads installed).hostThreadToken ≠ host.token then .ok (.invalidArgument, s)
        else do
          let left ← (s.uninstall host scope).releaseProcess (s.scopes scope).retainedProcess
          let released ← releaseThreadContext (left.threads installed) host
          return (.ok, left.setThread installed released)

/-- `sl_win32_context_claim_inactive`. -/
def contextClaimInactive (s : State) (host : HostThread) :
    Option UInt64 → Except Fault (Status × State)
  | none => .ok (.invalidArgument, s)
  | some thread =>
    if (s.threads thread).hostThreadToken ≠ 0 then .ok (.invalidState, s)
    else if (s.threads thread).activeScopeCount ≠ 0 then .error .abort
    else .ok (.ok, s.setThread thread { s.threads thread with hostThreadToken := host.token })

/-- `sl_win32_context_release_inactive`. -/
def contextReleaseInactive (s : State) (host : HostThread) :
    Option UInt64 → Except Fault State
  | none => .error .abort
  | some thread =>
    if (s.threads thread).hostThreadToken ≠ host.token ∨
        (s.threads thread).activeScopeCount ≠ 0 then .error .abort
    else .ok (s.setThread thread { s.threads thread with hostThreadToken := 0 })

/-- `sl_win32_context_current`. -/
def contextCurrent (s : State) (host : HostThread) : Option UInt64 :=
  (s.hosts host).currentThread

/-- `sl_win32_context_is_active`. -/
def contextIsActive (s : State) : Option UInt64 → Bool
  | none => false
  | some thread => (s.threads thread).hostThreadToken != 0

/-! ### The system of all host threads -/

/-- A call that a host thread makes. -/
inductive Op where
  | enter (thread scope : Option UInt64)
  | leave (scope : Option UInt64)
  | claimInactive (thread : Option UInt64)
  | releaseInactive (thread : Option UInt64)
  deriving DecidableEq, Repr

def perform (s : State) (host : HostThread) : Op → Except Fault (Status × State)
  | .enter thread scope => contextEnter s host thread scope
  | .leave scope => contextLeave s host scope
  | .claimInactive thread => contextClaimInactive s host thread
  | .releaseInactive thread => do
    let after ← contextReleaseInactive s host thread
    return (.ok, after)

end SadLayer.Contexts
