import SadLayer.ContextScopes
import SadLayer.Library.Bytes

/-! The thread environment blocks of thread contexts. Creating a TEB reserves the
context's ownership token and a reference to its process before it allocates, and
gives both back at each exit that fails; the last-error value lives in the context, or in the
TEB while that is attached. -/
namespace SadLayer.ThreadEnvironment
open Contexts

/-- `SL_TEB_WRITABLE_PAGE_COUNT`. -/
def writablePageCount : Nat := 2

/-- `SL_TEB_TOTAL_PAGE_COUNT`. -/
def totalPageCount : Nat := 4

/-- `SL_TEB_OWNERSHIP_RESERVED`, which is `UINTPTR_MAX`. -/
def ownershipReserved : UInt64 := UInt64.ofNat uint64Max

def stackBaseOffset : Nat := 0x08
def stackLimitOffset : Nat := 0x10
def selfOffset : Nat := 0x30
def processIdOffset : Nat := 0x40
def threadIdOffset : Nat := 0x48
def pebOffset : Nat := 0x60
def lastErrorOffset : Nat := 0x68
def tlsSlotsOffset : Nat := 0x1480
def tlsSlotCount : Nat := 64

/-- `sl_win32_teb`; zeroed as `calloc` leaves it. Byte addresses are numbers. -/
structure Teb where
  process : UInt64 := 0
  thread : UInt64 := 0
  stackLimit : UInt64 := 0
  stackBase : UInt64 := 0
  attached : Bool := false
  mapping : Nat := 0
  mappingSize : Nat := 0
  bytes : Nat := 0
  deriving DecidableEq, Repr

structure Machine where
  contexts : State
  /-- The TEB objects that are allocated, by address. -/
  tebs : UInt64 → Option Teb
  memory : Nat → UInt8
  /-- The processes that were destroyed. -/
  destroyed : UInt64 → Bool
  /-- Where each process has its PEB. -/
  peb : UInt64 → Nat
  /-- The thread-local `sl_fallback_last_error`. -/
  fallbackLastError : HostThread → UInt32

/-- What the host answers while a TEB is created. -/
structure Answers where
  /-- `sysconf(_SC_PAGESIZE)`. -/
  pageSize : Int
  /-- `calloc`. -/
  allocation : Option UInt64
  /-- `mmap`. -/
  mapping : Option Nat
  /-- Whether `mprotect` succeeds. -/
  protects : Bool
  processId : UInt32
  deriving DecidableEq, Repr

def storeU32 (memory : Nat → UInt8) (address : Nat) (value : UInt32) : Nat → UInt8 :=
  Library.storeLe memory address 4 value.toNat

def storeUintptr (memory : Nat → UInt8) (address value : Nat) : Nat → UInt8 :=
  Library.storeLe memory address 8 value

def loadU32 (memory : Nat → UInt8) (address : Nat) : UInt32 :=
  UInt32.ofNat (Library.loadLe memory address 4)

/-- `sl_win32_teb_last_error`. -/
def Teb.lastError (teb : Teb) : Nat := teb.bytes + lastErrorOffset

/-! ### The last-error value -/

/-- The value `current_last_error` points to while a context is current. -/
def Machine.visibleLastError (m : Machine) (thread : UInt64) : UInt32 :=
  match (m.contexts.threads thread).lastErrorAddress with
  | none => (m.contexts.threads thread).lastError
  | some address => loadU32 m.memory address

/-- `sl_kernel32_get_last_error`. -/
def getLastError (m : Machine) (host : HostThread) : UInt32 :=
  match contextCurrent m.contexts host with
  | none => m.fallbackLastError host
  | some thread => m.visibleLastError thread

def Machine.setThread (m : Machine) (address : UInt64) (thread : ThreadContext) : Machine :=
  { m with contexts := m.contexts.setThread address thread }

def Machine.setReferences (m : Machine) (process : UInt64) (references : Nat) : Machine :=
  { m with contexts := m.contexts.setReferences process references }

def Machine.setTeb (m : Machine) (address : UInt64) (teb : Option Teb) : Machine :=
  { m with tebs := Function.update m.tebs address teb }

/-- `sl_kernel32_set_last_error`. -/
def setLastError (m : Machine) (host : HostThread) (error : UInt32) : Machine :=
  match contextCurrent m.contexts host with
  | none => { m with fallbackLastError := Function.update m.fallbackLastError host error }
  | some thread =>
    match (m.contexts.threads thread).lastErrorAddress with
    | none => m.setThread thread { m.contexts.threads thread with lastError := error }
    | some address => { m with memory := storeU32 m.memory address error }

/-! ### The bracket around every operation on a TEB -/

/-- `sl_win32_context_claim_inactive`. -/
def Machine.claimInactive (m : Machine) (host : HostThread) (thread : UInt64) :
    Except Fault (Status × Machine) := do
  let (status, contexts) ← contextClaimInactive m.contexts host (some thread)
  return (status, { m with contexts := contexts })

/-- `sl_win32_context_release_inactive` and the return that follows it at every exit. -/
def Machine.leaveWith (m : Machine) (host : HostThread) (thread : UInt64) (status : Status) :
    Except Fault (Status × Machine) := do
  let contexts ← contextReleaseInactive m.contexts host (some thread)
  return (status, { m with contexts := contexts })

/-- The same context with another `teb_owner_token`. -/
def tokenOf (context : ThreadContext) (token : UInt64) : ThreadContext :=
  { context with tebOwnerToken := token }

/-- Stores `teb_owner_token`. -/
def Machine.storeOwner (m : Machine) (thread token : UInt64) : Machine :=
  m.setThread thread (tokenOf (m.contexts.threads thread) token)

/-- `sl_win32_process_release`. -/
def Machine.releaseProcess (m : Machine) (process : UInt64) : Except Fault Machine :=
  if m.destroyed process then .error .dangling
  else do
    let references ← processRelease (m.contexts.activeReferences process)
    return m.setReferences process references

/-! ### Creating and destroying -/

/-- What the failing exits of `sl_win32_teb_create` have in common from the retained process
on: its release, the token's, and the claim's. -/
def Machine.cancel (m : Machine) (host : HostThread) (thread process : UInt64) (status : Status) :
    Except Fault (Status × Machine) := do
  let m ← m.releaseProcess process
  (m.storeOwner thread 0).leaveWith host thread status

/-- The bytes of a new TEB, in the order they are stored. -/
def writeTeb (memory : Nat → UInt8) (teb : Teb) (processId threadId lastError : UInt32)
    (peb : Nat) : Nat → UInt8 :=
  let memory := storeUintptr memory (teb.bytes + stackBaseOffset) teb.stackBase.toNat
  let memory := storeUintptr memory (teb.bytes + stackLimitOffset) teb.stackLimit.toNat
  let memory := storeUintptr memory (teb.bytes + selfOffset) teb.bytes
  let memory := storeUintptr memory (teb.bytes + processIdOffset) processId.toNat
  let memory := storeUintptr memory (teb.bytes + threadIdOffset) threadId.toNat
  let memory := storeUintptr memory (teb.bytes + pebOffset) peb
  storeU32 memory (teb.bytes + lastErrorOffset) lastError

/-- `sl_win32_teb_create` once the process is retained. -/
def tebAllocate (m : Machine) (host : HostThread) (thread process stackLimit stackBase : UInt64)
    (answers : Answers) : Except Fault (Status × Machine) :=
  if answers.pageSize ≤ 0 ∨ (uint64Max : Int) < answers.pageSize then
    m.cancel host thread process .memoryMapping
  else
    let pageSize := answers.pageSize.toNat
    let required := tlsSlotsOffset + tlsSlotCount * 8
    if uint64Max / totalPageCount < pageSize ∨ pageSize * writablePageCount < required then
      m.cancel host thread process .memoryMapping
    else
      match answers.allocation with
      | none => m.cancel host thread process .outOfMemory
      | some address =>
        let m := m.setTeb address (some {})
        match answers.mapping with
        | none => (m.setTeb address none).cancel host thread process .memoryMapping
        | some mapping =>
          if !answers.protects then
            (m.setTeb address none).cancel host thread process .memoryProtection
          else
            let teb : Teb :=
              { process := process
                thread := thread
                stackLimit := stackLimit
                stackBase := stackBase
                mapping := mapping
                mappingSize := pageSize * totalPageCount
                bytes := mapping + pageSize }
            let context := m.contexts.threads thread
            let m := m.setTeb address (some teb)
            let m := { m with
              memory := writeTeb m.memory teb answers.processId context.threadId context.lastError
                (m.peb process) }
            (m.storeOwner thread address).leaveWith host thread .ok

/-- `sl_win32_teb_create`; the allocation is also what a success hands out. -/
def tebCreate (m : Machine) (host : HostThread) (thread : Option UInt64)
    (stackLimit stackBase : UInt64) (answers : Answers) : Except Fault (Status × Machine) :=
  match thread with
  | none => .ok (.invalidArgument, m)
  | some thread =>
    if stackBase ≤ stackLimit then .ok (.invalidArgument, m)
    else do
      let (status, m) ← m.claimInactive host thread
      if status ≠ .ok then return (status, m)
      else
        let context := m.contexts.threads thread
        match context.process with
        | none => m.leaveWith host thread .invalidArgument
        | some process =>
          if context.threadId = 0 ∨ context.teb.isSome ∨ context.lastErrorAddress.isSome then
            m.leaveWith host thread .invalidArgument
          else if context.tebOwnerToken ≠ 0 then m.leaveWith host thread .invalidState
          else
            let m := m.storeOwner thread ownershipReserved
            if m.destroyed process then .error .dangling
            else
              match processRetain (m.contexts.activeReferences process) with
              | .error status => (m.storeOwner thread 0).leaveWith host thread status
              | .ok references =>
                tebAllocate (m.setReferences process references) host thread process stackLimit
                  stackBase answers

/-- `sl_win32_teb_destroy`; the last argument says whether `munmap` succeeds. -/
def tebDestroy (m : Machine) (host : HostThread) (teb : Option UInt64) (unmaps : Bool) :
    Except Fault (Status × Machine) :=
  match teb with
  | none => .ok (.invalidArgument, m)
  | some address =>
    match m.tebs address with
    | none => .error .dangling
    | some teb => do
      let (status, m) ← m.claimInactive host teb.thread
      if status ≠ .ok then return (status, m)
      else if teb.attached then m.leaveWith host teb.thread .invalidState
      else if (m.contexts.threads teb.thread).tebOwnerToken ≠ address then
        m.leaveWith host teb.thread .invalidState
      else
        let m := m.storeOwner teb.thread ownershipReserved
        if !unmaps then (m.storeOwner teb.thread address).leaveWith host teb.thread .memoryMapping
        else do
          let m ← (m.storeOwner teb.thread 0).releaseProcess teb.process
          let (status, m) ← m.leaveWith host teb.thread .ok
          return (status, m.setTeb address none)

/-! ### Attaching and detaching -/

/-- `sl_win32_thread_attach_teb`. -/
def threadAttachTeb (m : Machine) (host : HostThread) :
    Option UInt64 → Option UInt64 → Except Fault (Status × Machine)
  | some thread, some address => do
    let (status, m) ← m.claimInactive host thread
    if status ≠ .ok then return (status, m)
    else
      match m.tebs address with
      | none => .error .dangling
      | some teb =>
        let context := m.contexts.threads thread
        if context.process ≠ some teb.process ∨ thread ≠ teb.thread ∨ context.teb.isSome ∨
            context.lastErrorAddress.isSome ∨ teb.attached ∨ context.tebOwnerToken ≠ address then
          m.leaveWith host thread .invalidArgument
        else
          let m := { m with memory := storeU32 m.memory teb.lastError context.lastError }
          let m := m.setThread thread { context with
            teb := some teb.bytes
            lastErrorAddress := some teb.lastError }
          (m.setTeb address (some { teb with attached := true })).leaveWith host thread .ok
  | _, _ => .ok (.invalidArgument, m)

/-- `sl_win32_thread_detach_teb`. -/
def threadDetachTeb (m : Machine) (host : HostThread) :
    Option UInt64 → Option UInt64 → Except Fault (Status × Machine)
  | some thread, some address => do
    let (status, m) ← m.claimInactive host thread
    if status ≠ .ok then return (status, m)
    else
      match m.tebs address with
      | none => .error .dangling
      | some teb =>
        let context := m.contexts.threads thread
        if context.teb ≠ some teb.bytes ∨ context.lastErrorAddress ≠ some teb.lastError ∨
            thread ≠ teb.thread ∨ teb.attached = false then
          m.leaveWith host thread .invalidState
        else
          let m := m.setThread thread { context with
            lastError := loadU32 m.memory teb.lastError
            lastErrorAddress := none
            teb := none }
          (m.setTeb address (some { teb with attached := false })).leaveWith host thread .ok
  | _, _ => .ok (.invalidArgument, m)

/-! ### The process -/

/-- `sl_win32_process_destroy`, as far as its references go. -/
def processDestroy (m : Machine) : Option UInt64 → Except Fault (Status × Machine)
  | none => .ok (.invalidArgument, m)
  | some process =>
    if m.destroyed process then .error .dangling
    else if m.contexts.activeReferences process ≠ 0 then .ok (.invalidState, m)
    else .ok (.ok, { m with destroyed := Function.update m.destroyed process true })

/-- `sl_win32_process_retain` by a caller of its own. -/
def processRetainBy (m : Machine) : Option UInt64 → Except Fault (Status × Machine)
  | none => .ok (.invalidArgument, m)
  | some process =>
    if m.destroyed process then .error .dangling
    else
      match processRetain (m.contexts.activeReferences process) with
      | .error status => .ok (status, m)
      | .ok references => .ok (.ok, m.setReferences process references)

/-- A call that a host thread makes. -/
inductive Op where
  | scopes (op : Contexts.Op)
  | tebCreate (thread : Option UInt64) (stackLimit stackBase : UInt64) (answers : Answers)
  | tebDestroy (teb : Option UInt64) (unmaps : Bool)
  | attachTeb (thread teb : Option UInt64)
  | detachTeb (thread teb : Option UInt64)
  | processRetain (process : Option UInt64)
  | processRelease (process : UInt64)
  | processDestroy (process : Option UInt64)
  | setLastError (error : UInt32)
  /-- The guest stores to the last-error field of a TEB. -/
  | storeLastError (teb : UInt64) (error : UInt32)
  deriving DecidableEq, Repr

def perform (m : Machine) (host : HostThread) : Op → Except Fault (Status × Machine)
  | .scopes op => do
    let (status, contexts) ← Contexts.perform m.contexts host op
    return (status, { m with contexts := contexts })
  | .tebCreate thread stackLimit stackBase answers =>
    tebCreate m host thread stackLimit stackBase answers
  | .tebDestroy teb unmaps => tebDestroy m host teb unmaps
  | .attachTeb thread teb => threadAttachTeb m host thread teb
  | .detachTeb thread teb => threadDetachTeb m host thread teb
  | .processRetain process => processRetainBy m process
  | .processRelease process => do
    let m ← m.releaseProcess process
    return (.ok, m)
  | .processDestroy process => processDestroy m process
  | .setLastError error => .ok (.ok, setLastError m host error)
  | .storeLastError address error =>
    match m.tebs address with
    | none => .error .dangling
    | some teb => .ok (.ok, { m with memory := storeU32 m.memory teb.lastError error })

end SadLayer.ThreadEnvironment
