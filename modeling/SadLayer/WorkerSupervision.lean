import SadLayer.Library.Run
import SadLayer.WorkerReports
import SadLayer.WorkerWire

/-! A worker and its parent on the two ends of a pipe. The worker may finish, crash,
exit or be killed between any two of its steps, and what it writes may arrive in any
pieces; the parent reads to the end of the pipe and then waits. -/
namespace SadLayer.Runtime
open SadLayer.Library

/-- What became of a worker: it wrote its record and exited, its crash handler did, it exited
without a record, it was killed before it wrote one, or after that but before it exited. -/
inductive Fate where
  | finished (answers : WorkerAnswers)
  | crashed (signalNumber : Int32) (info : SignalInfo) (context : CrashContext)
  | exited (exitCode : Int32)
  | killed (signal : UInt32)
  | cutOff
  deriving DecidableEq, Repr

/-- Where a worker is: before crash reporting is installed, from then on, between its last write
and its exit, or gone with a wait status. -/
inductive Worker where
  | starting
  | running (state : CrashHandlerState)
  | exiting (fate : Fate) (exitCode : Int32)
  | gone (fate : Fate) (waitStatus : UInt32)
  deriving DecidableEq, Repr

/-- What a `read` comes to. -/
inductive ReadAnswer where
  | data (chunk : List UInt8)
  | endOfFile
  | interrupted
  | failed

/-- Where `read_worker_report` is: in its loops, or back with a status and whether bytes followed
the record. -/
inductive Reader where
  | reading (bytes : List UInt8)
  | done (status : Status) (bytes : List UInt8) (hasExtraData : Bool)
  deriving DecidableEq, Repr

def Reader.isOpen : Reader → Bool
  | .reading _ => true
  | .done .. => false

/-- How many bytes are asked for: what the record still lacks, or one that would follow it. -/
def requested (bytes : List UInt8) : Nat := if bytes.length < 72 then 72 - bytes.length else 1

/-- One pass of the loops of `read_worker_report`. -/
def readOnce (bytes : List UInt8) : ReadAnswer → Reader
  | .data chunk => if bytes.length < 72 then .reading (bytes ++ chunk) else .done .ok bytes true
  | .endOfFile => .done .ok bytes false
  | .interrupted => .reading bytes
  | .failed => .done .io bytes false

/-- The parent waits only after it has read; its own write end is closed before. -/
structure Supervision where
  child : Int32
  worker : Worker := .starting
  pipe : List UInt8 := []
  reader : Reader := .reading []
  waited : Option (Status × UInt32) := none
  deriving DecidableEq, Repr

/-- The signals that can end a process. -/
def signals : List UInt32 := (List.range 64).map fun index => .ofNat (index + 1)

/-- The wait status of a process that was killed. -/
def killedStatus (signal : UInt32) (dumpsCore : Bool) : UInt32 :=
  signal ||| if dumpsCore then 0x80 else 0

/-- Steps of the worker, and then of the parent. -/
inductive Event where
  | install (before : CrashHandlerState) (answers : InstallAnswers) (limit base : UInt64)
      (writeFd : Int32)
  | finish (answers : WorkerAnswers)
  | crash (signalNumber : Int32) (info : SignalInfo) (context : CrashContext)
      (handlerAddress : UInt64) (written : Bool)
  | exitProcess (exitCode : Int32)
  | exit
  | kill (signal : UInt32) (dumpsCore : Bool)
  | read (count : Nat)
  | interruptRead
  | failRead
  | wait
  | interruptWait
  | failWait
  deriving DecidableEq, Repr

/-- A record is written into the pipe whole, as it is no longer than `PIPE_BUF`. -/
def emit (s : Supervision) (wire : WireReport) (fate : Fate) (exitCode : Int32) : Supervision :=
  { s with worker := .exiting fate exitCode, pipe := s.pipe ++ wireBytes wire }

def silent (s : Supervision) (exitCode : Int32) : Supervision :=
  { s with worker := .exiting (.exited exitCode) exitCode }

/-- `install_worker_crash_reporting` in the worker. -/
def install (s : Supervision) (before : CrashHandlerState) (answers : InstallAnswers)
    (limit base : UInt64) (writeFd : Int32) : Supervision :=
  match s.worker, installWorkerCrashReporting before answers limit base writeFd s.child.toUInt32 with
  | .starting, (.ok, state) => { s with worker := .running state }
  | _, _ => s

/-- `run_worker_child` up to its exit. The write of a record succeeds only while it can be read. -/
def finish (s : Supervision) (answers : WorkerAnswers) : Supervision :=
  match runWorkerChild answers with
  | (some wire, exitCode) =>
    if s.reader.isOpen then emit s wire (.finished answers) exitCode else s
  | (none, exitCode) => silent s exitCode

/-- `runtime_crash_signal_handler` up to its exit, on the stack that it was installed with. -/
def crash (s : Supervision) (state : CrashHandlerState) (signalNumber : Int32) (info : SignalInfo)
    (context : CrashContext) (handlerAddress : UInt64) (written : Bool) : Supervision :=
  if signalNumber ∉ crashSignals ∨ handlerAddress < state.stackLimit ∨
      state.stackBase ≤ handlerAddress then s
  else match runtimeCrashSignalHandler state signalNumber (some info) (some context)
      handlerAddress with
    | (some wire, exitCode) =>
      if written && s.reader.isOpen then emit s wire (.crashed signalNumber info context) exitCode
      else silent s exitCode
    | (none, exitCode) => silent s exitCode

/-- What a worker comes to that is killed here. -/
def killedFate (signal : UInt32) : Worker → Fate
  | .exiting (.finished _) _ | .exiting (.crashed ..) _ => .cutOff
  | _ => .killed signal

/-- The kernel's `read`: some of what is in the pipe, or its end once nobody can write. -/
def readAnswer (s : Supervision) (bytes : List UInt8) (count : Nat) : Option ReadAnswer :=
  match s.pipe, s.worker with
  | [], .gone .. => some .endOfFile
  | [], _ => none
  | _, _ => if count = 0 then none else some (.data (s.pipe.take (min count (requested bytes))))

/-- What is left in the pipe. -/
def remaining (pipe : List UInt8) : ReadAnswer → List UInt8
  | .data chunk => pipe.drop chunk.length
  | _ => pipe

def finishRead (s : Supervision) (bytes : List UInt8) (answer : ReadAnswer) : Supervision :=
  { s with reader := readOnce bytes answer, pipe := remaining s.pipe answer }

/-- One step, which is the state itself when it is not possible here. -/
def advance (s : Supervision) : Event → Supervision
  | .install before answers limit base writeFd => install s before answers limit base writeFd
  | .finish answers =>
    if answers.processId ≠ s.child.toUInt32 then s
    else match s.worker with
      | .starting | .running _ => finish s answers
      | _ => s
  | .crash signalNumber info context handlerAddress written =>
    match s.worker with
    | .running state => crash s state signalNumber info context handlerAddress written
    | _ => s
  | .exitProcess exitCode =>
    match s.worker with
    | .running _ => { s with worker := .gone (.exited exitCode) (exitedStatus exitCode) }
    | _ => s
  | .exit =>
    match s.worker with
    | .exiting fate exitCode => { s with worker := .gone fate (exitedStatus exitCode) }
    | _ => s
  | .kill signal dumpsCore =>
    match s.worker with
    | .gone .. => s
    | worker =>
      if signal ∉ signals then s
      else { s with worker := .gone (killedFate signal worker) (killedStatus signal dumpsCore) }
  | .read count =>
    match s.reader with
    | .reading bytes => ((readAnswer s bytes count).map (finishRead s bytes)).getD s
    | .done .. => s
  | .interruptRead =>
    match s.reader with
    | .reading bytes => finishRead s bytes .interrupted
    | .done .. => s
  | .failRead =>
    match s.reader with
    | .reading bytes => finishRead s bytes .failed
    | .done .. => s
  | .wait =>
    match s.reader, s.worker, s.waited with
    | .done .., .gone _ waitStatus, none => { s with waited := some (.ok, waitStatus) }
    | _, _, _ => s
  | .interruptWait => s
  | .failWait =>
    match s.reader, s.waited with
    | .done .., none => { s with waited := some (.io, 0) }
    | _, _ => s

def superviseStep (s : Supervision) (event : Event) : Supervision × Unit := (advance s event, ())

/-- What `sl_runtime_run_trusted_worker` comes to once it has read and waited. -/
def verdict (parentMaskStatus : Status) (s : Supervision) : Option (Status × Report) :=
  match s.reader, s.waited with
  | .done readStatus bytes hasExtraData, some (waitStatusResult, waitStatus) =>
    some (runTrustedWorker s.child parentMaskStatus readStatus waitStatusResult
      { wire := readWire bytes, bytesRead := bytes.length, hasExtraData := hasExtraData } waitStatus)
  | _, _ => none

end SadLayer.Runtime
