import SadLayer.Environment
import SadLayer.Library.LinkedLists

/-! The list of environment blocks that guests have not given back. Threads add their blocks to it
and take them out under one lock, a statement at a time; a block is freed after it has left the
list, when its thread has given the lock up. -/
namespace SadLayer.EnvironmentList
open SadLayer.Library SadLayer.Environment

def environmentMagic : Nat := 0x534c454e56424c4b
def errorInvalidParameter : Nat := 87

/-- `sl_environment_header`, with the block behind it. -/
structure Header where
  magic : Nat
  next : Option Nat
  block : EnvironmentBlock

/-- Where a thread is: outside, in `sl_kernel32_get_environment_strings_w` or in
`sl_kernel32_free_environment_strings_w`, with the variables that are still read. A link is
`&sl_environment_blocks`, or the `next` of a header. -/
inductive Stage where
  | idle
  /-- The block is written. -/
  | filled (header : Nat)
  /-- The lock was not taken, and the block is marked as none. -/
  | dropping (header : Nat)
  | adding (header : Nat)
  | linked (header : Nat)
  | added (header : Nat)
  | asking (environment : Nat)
  | walking (environment : Nat) (link : Option Nat)
  | found (environment : Nat) (link : Option Nat)
  | missed (environment : Nat)
  | removed (environment header : Nat)
  | cleared (environment header : Nat)
  /-- The lock is given up again. -/
  | releasing (environment header : Nat)
  deriving DecidableEq

/-- What a call returned. A guest has a block by the pointer behind its header. -/
inductive Answer where
  | block (environment : Nat)
  | freed (environment : Nat)
  | unknown (environment : Nat)
  | refused
  deriving DecidableEq, Repr

/-- The headers in memory, `sl_environment_blocks`, the holder of the lock, and the threads. -/
structure State where
  headers : Nat → Option Header := fun _ => none
  head : Option Nat := none
  holder : Option Nat := none
  stage : Nat → Stage := fun _ => .idle
  lastError : Nat → Nat := fun _ => 0

inductive Move where
  /-- A call, with what the C library answers and where `calloc` finds memory. -/
  | getEnvironmentStringsW (answers : LibraryAnswers) (environ : Option (List CString))
      (address : Nat)
  | freeEnvironmentStringsW (environment : Option Nat)
  /-- The lock is not ready, or `mtx_lock` fails. -/
  | lockFails
  /-- The next statement. -/
  | goOn

def Move.goesOn : Move → Bool
  | .goOn => true
  | _ => false

inductive Outcome where
  /-- The thread cannot do this now. -/
  | blocked
  /-- Memory was used or freed that is not allocated. -/
  | fault
  | moved (state : State) (answer : Option Answer)

namespace State

def goes (state : State) (thread : Nat) (stage : Stage) : State :=
  { state with stage := Function.update state.stage thread stage }

def put (state : State) (address : Nat) (header : Option Header) : State :=
  { state with headers := Function.update state.headers address header }

def returns (state : State) (thread : Nat) (answer : Answer) : Outcome :=
  .moved (state.goes thread .idle) (some answer)

def fails (state : State) (thread error : Nat) (answer : Answer) : Outcome :=
  { state with lastError := Function.update state.lastError thread error }.returns thread answer

def locks (state : State) (thread : Nat) (stage : Stage) : Outcome :=
  if state.holder = none then .moved ({ state with holder := some thread }.goes thread stage) none
  else .blocked

def unlock (state : State) : State := { state with holder := none }

/-- Reads a header through a pointer to it. -/
def reading (state : State) (address : Nat) (next : Header → Outcome) : Outcome :=
  match state.headers address with
  | none => .fault
  | some header => next header

/-- `*link`, where it is in memory. -/
def atLink (state : State) : Option Nat → Option (Option Nat)
  | none => some state.head
  | some address => (state.headers address).map Header.next

def readingLink (state : State) (link : Option Nat) (next : Option Nat → Outcome) : Outcome :=
  match state.atLink link with
  | none => .fault
  | some value => next value

/-- `*link = value`. -/
def writingLink (state : State) (link value : Option Nat) (next : State → Outcome) : Outcome :=
  match link with
  | none => next { state with head := value }
  | some address => state.reading address fun header =>
      next (state.put address (some { header with next := value }))

/-- `free(header)`. -/
def freeing (state : State) (address : Nat) (next : State → Outcome) : Outcome :=
  state.reading address fun _ => next (state.put address none)

/-- The call up to its lock. Memory that is allocated was free. -/
def getStrings (state : State) (thread : Nat) (answers : LibraryAnswers)
    (environ : Option (List CString)) (address : Nat) : Outcome :=
  let made := Environment.getEnvironmentStringsW { answers with lock := true } environ {}
  match made.1 with
  | none => state.fails thread made.2.lastError .refused
  | some block =>
    if (state.headers address).isSome then .blocked
    else
      let header := { magic := environmentMagic, next := none, block := block }
      .moved ((state.put address (some header)).goes thread (.filled address)) none

end State

/-- One thread goes on by a statement or two that touch the shared state once. -/
def step (state : State) (thread : Nat) (move : Move) : Outcome :=
  match state.stage thread, move with
  | .idle, .getEnvironmentStringsW answers environ address =>
    state.getStrings thread answers environ address
  | .idle, .freeEnvironmentStringsW none => state.fails thread errorInvalidParameter .refused
  | .idle, .freeEnvironmentStringsW (some environment) =>
    .moved (state.goes thread (.asking environment)) none
  | .filled header, .lockFails => state.reading header fun found =>
      .moved ((state.put header (some { found with magic := 0 })).goes thread (.dropping header))
        none
  | .dropping header, .goOn => state.freeing header fun state =>
      state.fails thread errorNotEnoughMemory .refused
  | .filled header, .goOn => state.locks thread (.adding header)
  | .adding header, .goOn => state.reading header fun found =>
      .moved ((state.put header (some { found with next := state.head })).goes thread
        (.linked header)) none
  | .linked header, .goOn =>
    .moved ({ state with head := some header }.goes thread (.added header)) none
  | .added header, .goOn => state.unlock.returns thread (.block (header + headerSize))
  | .asking _, .lockFails => state.fails thread errorInvalidParameter .refused
  | .asking environment, .goOn => state.locks thread (.walking environment none)
  | .walking environment link, .goOn => state.readingLink link fun
      | none => .moved (state.goes thread (.missed environment)) none
      | some header =>
        if header + headerSize ≠ environment then
          .moved (state.goes thread (.walking environment (some header))) none
        else .moved (state.goes thread (.found environment link)) none
  | .missed environment, .goOn =>
    state.unlock.fails thread errorInvalidParameter (.unknown environment)
  | .found environment link, .goOn => state.readingLink link fun
      | none => .fault
      | some header => state.reading header fun found =>
          state.writingLink link found.next fun state =>
            .moved (state.goes thread (.removed environment header)) none
  | .removed environment header, .goOn => state.reading header fun found =>
      .moved ((state.put header (some { found with magic := 0, next := none })).goes thread
        (.cleared environment header)) none
  | .cleared environment header, .goOn =>
    .moved (state.unlock.goes thread (.releasing environment header)) none
  | .releasing environment header, .goOn => state.freeing header fun state =>
      state.returns thread (.freed environment)
  | _, _ => .blocked

/-! ### What the calls agree on -/

/-- The one moment at which a call takes place for all others. -/
inductive Commit where
  | added (environment : Nat)
  | removed (environment : Nat)
  | missed (environment : Nat)
  deriving DecidableEq, Repr

/-- What a thread commits when it goes on from here. -/
def commitOf (state : State) (thread : Nat) (move : Move) : Option Commit :=
  match state.stage thread, move with
  | .linked header, .goOn => some (.added (header + headerSize))
  | .found environment _, .goOn => some (.removed environment)
  | .walking environment link, .goOn =>
    if state.atLink link = some none then some (.missed environment) else none
  | _, _ => none

/-- The environments that are outstanding, when each call is one moment. -/
def Commit.Allowed (outstanding : List Nat) : Commit → Prop
  | .added environment => environment ∉ outstanding
  | .removed environment => environment ∈ outstanding
  | .missed environment => environment ∉ outstanding

def Commit.apply (outstanding : List Nat) : Commit → List Nat
  | .added environment => environment :: outstanding
  | .removed environment => outstanding.erase environment
  | .missed _ => outstanding

/-- What an answer says was done. -/
def Answer.commit : Answer → Option Commit
  | .block environment => some (.added environment)
  | .freed environment => some (.removed environment)
  | .unknown environment => some (.missed environment)
  | .refused => none

namespace Stage

/-- What the thread has committed and not answered yet. -/
def pending : Stage → Option Commit
  | .added header => some (.added (header + headerSize))
  | .missed environment => some (.missed environment)
  | .removed environment _ | .cleared environment _ | .releasing environment _ =>
    some (.removed environment)
  | _ => none

/-- The header that no other thread can come to. -/
def own : Stage → Option Nat
  | .filled header | .dropping header | .adding header | .linked header => some header
  | .removed _ header | .cleared _ header | .releasing _ header => some header
  | _ => none

def locked : Stage → Bool
  | .adding _ | .linked _ | .added _ | .walking _ _ | .found _ _ | .missed _ => true
  | .removed _ _ | .cleared _ _ => true
  | _ => false

end Stage

end SadLayer.EnvironmentList
