import SadLayer.Status
import Mathlib.Data.List.Basic

/-! The reports of a worker process: the record that the worker writes when its entry is
over, the record that its crash handler writes instead, and what the parent makes of
what it reads. -/
namespace SadLayer.Runtime

/-- `sl_runtime_outcome`. -/
inductive Outcome where
  | none
  | returned
  | failed
  | exited
  | signalled
  deriving DecidableEq, Repr

def Outcome.code : Outcome → UInt32
  | .none => 0
  | .returned => 1
  | .failed => 2
  | .exited => 3
  | .signalled => 4

/-- What a status is as a number. -/
def statusCode (status : Status) : UInt32 := .ofNat status.ctorIdx

def reportHasCrashContext : UInt32 := 1
def reportHasSignalCode : UInt32 := 2
def reportHasFaultAddress : UInt32 := 4
def reportHandlerOnAltstack : UInt32 := 8

def wireMagic : UInt32 := 0x57524c53
def wireVersion : UInt32 := 2
def wireSize : UInt32 := 72
def crashExitBase : Int32 := 128

def sigIll : Int32 := 4
def sigTrap : Int32 := 5
def sigAbrt : Int32 := 6
def sigBus : Int32 := 7
def sigFpe : Int32 := 8
def sigSegv : Int32 := 11

/-- `sl_runtime_crash_signals`. -/
def crashSignals : List Int32 := [sigAbrt, sigBus, sigFpe, sigIll, sigSegv, sigTrap]

/-- `is_runtime_crash_signal`. -/
def isRuntimeCrashSignal (signalNumber : Int32) : Bool := crashSignals.contains signalNumber

/-- The signals whose `siginfo_t` has a fault address when the kernel sends them. -/
def signalHasAddress (signalNumber : Int32) : Bool :=
  signalNumber == sigBus || signalNumber == sigFpe || signalNumber == sigIll ||
    signalNumber == sigSegv || signalNumber == sigTrap

/-- `sl_runtime_wire_report`. -/
structure WireReport where
  magic : UInt32 := 0
  version : UInt32 := 0
  size : UInt32 := 0
  outcome : UInt32 := 0
  workerStatus : UInt32 := 0
  returnValue : UInt32 := 0
  lastError : UInt32 := 0
  processId : UInt32 := 0
  exitCode : Int32 := 0
  signalNumber : Int32 := 0
  reportFlags : UInt32 := 0
  signalCode : Int32 := 0
  faultAddress : UInt64 := 0
  instructionPointer : UInt64 := 0
  stackPointer : UInt64 := 0
  deriving DecidableEq, Repr

/-- `sl_runtime_report`. Its enumerations hold any number, as they do in C. -/
structure Report where
  outcome : UInt32 := 0
  workerStatus : UInt32 := 0
  returnValue : UInt32 := 0
  lastError : UInt32 := 0
  workerProcessId : UInt32 := 0
  exitCode : Int32 := 0
  signalNumber : Int32 := 0
  reportFlags : UInt32 := 0
  signalCode : Int32 := 0
  faultAddress : UInt64 := 0
  instructionPointer : UInt64 := 0
  stackPointer : UInt64 := 0
  deriving DecidableEq, Repr

/-! ### The crash handler -/

/-- `sl_runtime_crash_handler_state`. -/
structure CrashHandlerState where
  armed : Bool := false
  handling : Bool := false
  writeFd : Int32 := 0
  processId : Int32 := 0
  stackLimit : UInt64 := 0
  stackBase : UInt64 := 0
  deriving DecidableEq, Repr

/-- What the handler reads of a `siginfo_t`. -/
structure SignalInfo where
  code : Int32
  address : UInt64
  deriving DecidableEq, Repr

/-- What the handler reads of a `ucontext_t`. -/
structure CrashContext where
  rip : UInt64
  rsp : UInt64
  deriving DecidableEq, Repr

/-- What the host answers while crash reporting is installed. -/
structure InstallAnswers where
  /-- `sysconf(_SC_MINSIGSTKSZ)`. -/
  minimumSignalStackSize : Int
  /-- Whether `sigaltstack` succeeds. -/
  setsStack : Bool
  /-- Whether `sigfillset` and every `sigaction` succeed. -/
  setsActions : Bool
  /-- Whether the signal mask is emptied. -/
  unblocks : Bool
  deriving DecidableEq, Repr

/-- `install_worker_crash_reporting`. -/
def installWorkerCrashReporting (state : CrashHandlerState) (answers : InstallAnswers)
    (signalStackLimit signalStackBase : UInt64) (writeFd : Int32) (processId : UInt32) :
    Status × CrashHandlerState :=
  let size := (signalStackBase - signalStackLimit).toNat
  let minimum := answers.minimumSignalStackSize
  if signalStackLimit ≥ signalStackBase ∨ writeFd < 0 then (.invalidArgument, state)
  else if minimum ≤ 0 ∨ minimum > uint64Max ∨ size < minimum.toNat then
    (.threadEnvironment, state)
  else if answers.setsStack = false then (.threadEnvironment, state)
  else
    let prepared : CrashHandlerState := {
      armed := false, handling := false, writeFd := writeFd, processId := processId.toInt32,
      stackLimit := signalStackLimit, stackBase := signalStackBase }
    if answers.setsActions = false then (.threadEnvironment, prepared)
    else if answers.unblocks = false then (.threadEnvironment, prepared)
    else (.ok, { prepared with armed := true })

/-- `runtime_crash_exit_code`. -/
def runtimeCrashExitCode (signalNumber : Int32) : Int32 := crashExitBase + signalNumber

/-- The record of a crash. -/
def crashRecord (state : CrashHandlerState) (signalNumber : Int32) (info : Option SignalInfo)
    (context : Option CrashContext) (handlerAddress : UInt64) : WireReport :=
  let infoFlags := if info.isSome then reportHasSignalCode else 0
  let hasFault := info.any fun info => info.code > 0 && signalHasAddress signalNumber
  let faultFlags := if hasFault then reportHasFaultAddress else 0
  let contextFlags := if context.isSome then reportHasCrashContext else 0
  let stackFlags :=
    if handlerAddress ≥ state.stackLimit ∧ handlerAddress < state.stackBase then
      reportHandlerOnAltstack
    else 0
  { magic := wireMagic
    version := wireVersion
    size := wireSize
    outcome := Outcome.signalled.code
    workerStatus := statusCode .ok
    returnValue := 0
    lastError := 0
    processId := state.processId.toUInt32
    exitCode := 0
    signalNumber := signalNumber
    reportFlags := infoFlags ||| faultFlags ||| contextFlags ||| stackFlags
    signalCode := (info.map SignalInfo.code).getD 0
    faultAddress := if hasFault then (info.map SignalInfo.address).getD 0 else 0
    instructionPointer := (context.map CrashContext.rip).getD 0
    stackPointer := (context.map CrashContext.rsp).getD 0 }

/-- `runtime_crash_signal_handler`: what it writes, if anything, and what it exits with. -/
def runtimeCrashSignalHandler (state : CrashHandlerState) (signalNumber : Int32)
    (info : Option SignalInfo) (context : Option CrashContext) (handlerAddress : UInt64) :
    Option WireReport × Int32 :=
  let exitCode := runtimeCrashExitCode signalNumber
  if state.armed = false ∨ state.handling = true then (none, exitCode)
  else (some (crashRecord state signalNumber info context handlerAddress), exitCode)

/-! ### The worker -/

/-- What the steps of a worker come to. -/
structure WorkerAnswers where
  /-- `getpid`. -/
  processId : UInt32
  resetSignals : Status
  installReporting : Status
  setImageBase : Status
  createTeb : Status
  attachTeb : Status
  /-- `sl_win32_teb_base` of the TEB that is created. -/
  tebBase : UInt64
  /-- `get_gs_base` before the base is changed, after that, and after it is restored. -/
  originalGs : Option UInt64
  installedGs : Option UInt64
  restoredGs : Option UInt64
  /-- Whether `set_gs_base` succeeds, and whether it does when the base is restored. -/
  setsGs : Bool
  restoresGs : Bool
  callEntry : Status
  /-- What the entry returns. -/
  guestResult : UInt32
  /-- The last error of the thread when the entry is over. -/
  lastError : UInt32
  detachTeb : Status
  destroyTeb : Status
  /-- Whether signals can be blocked again. -/
  blocksSignals : Bool
  /-- What the write of the record returns. -/
  written : Int
  deriving DecidableEq, Repr

/-- A step that is made while no earlier one failed. -/
def afterOk (status next : Status) : Status := if status = .ok then next else status

/-- Up to the creation of the TEB. -/
def WorkerAnswers.created (answers : WorkerAnswers) : Status :=
  afterOk (afterOk (afterOk answers.resetSignals answers.installReporting) answers.setImageBase)
    answers.createTeb

def WorkerAnswers.attached (answers : WorkerAnswers) : Status :=
  afterOk answers.created answers.attachTeb

def WorkerAnswers.gsRead (answers : WorkerAnswers) : Status :=
  afterOk answers.attached (if answers.originalGs.isSome then .ok else .threadEnvironment)

/-- The change of the GS base, which is attempted where its old value is known. -/
def WorkerAnswers.gsChanged (answers : WorkerAnswers) : Status :=
  afterOk answers.gsRead (
    if answers.setsGs = false then .threadEnvironment
    else match answers.installedGs with
      | none => .threadEnvironment
      | some installed => if installed = answers.tebBase then .ok else .threadEnvironment)

def WorkerAnswers.called (answers : WorkerAnswers) : Status :=
  afterOk answers.gsChanged answers.callEntry

def WorkerAnswers.gsChangeAttempted (answers : WorkerAnswers) : Bool := answers.gsRead = .ok

def WorkerAnswers.gsRestoreVerified (answers : WorkerAnswers) : Bool :=
  answers.restoresGs && answers.restoredGs.isSome && answers.restoredGs == answers.originalGs

def WorkerAnswers.restored (answers : WorkerAnswers) : Status :=
  if answers.gsChangeAttempted = true ∧ answers.gsRestoreVerified = false then .threadEnvironment
  else answers.called

/-- The status that the worker reports. -/
def WorkerAnswers.status (answers : WorkerAnswers) : Status :=
  if answers.gsChangeAttempted = false ∨ answers.gsRestoreVerified = true then
    let detached :=
      if answers.attached = .ok then afterOk answers.restored answers.detachTeb
      else answers.restored
    let stillAttached : Bool := answers.attached = .ok ∧ answers.detachTeb ≠ .ok
    if answers.created = .ok ∧ stillAttached = false then afterOk detached answers.destroyTeb
    else detached
  else answers.restored

/-- `sl_runtime_call_trusted_entry` stores 0 where it fails, and it is called only while nothing
failed. -/
def WorkerAnswers.returnValue (answers : WorkerAnswers) : UInt32 :=
  if answers.gsChanged = .ok ∧ answers.callEntry = .ok then answers.guestResult else 0

def WorkerAnswers.reportedLastError (answers : WorkerAnswers) : UInt32 :=
  if answers.gsChanged = .ok then answers.lastError else 0

/-- The record of a worker that was not interrupted. -/
def workerRecord (processId : UInt32) (status : Status) (returnValue lastError : UInt32) :
    WireReport where
  magic := wireMagic
  version := wireVersion
  size := wireSize
  outcome := (if status = .ok then Outcome.returned else Outcome.failed).code
  workerStatus := statusCode status
  returnValue := returnValue
  lastError := lastError
  processId := processId

/-- `write_worker_report_and_exit`; a record that is not written whole is none. -/
def writeWorkerReportAndExit (answers : WorkerAnswers) (wire : WireReport) :
    Option WireReport × Int32 :=
  if answers.blocksSignals = false then (none, 126)
  else if answers.written = 72 then (some wire, 0)
  else (none, 126)

/-- `run_worker_child`: what it writes, if anything, and what it exits with. -/
def runWorkerChild (answers : WorkerAnswers) : Option WireReport × Int32 :=
  writeWorkerReportAndExit answers (workerRecord answers.processId answers.status
    answers.returnValue answers.reportedLastError)

/-! ### The parent -/

/-- The wait status of a process that exited. -/
def exitedStatus (exitCode : Int32) : UInt32 := (exitCode.toUInt32 &&& 0xff) <<< 8

/-- `WTERMSIG`. -/
def wtermsig (waitStatus : UInt32) : UInt32 := waitStatus &&& 0x7f

/-- `WIFEXITED`. -/
def wifexited (waitStatus : UInt32) : Bool := wtermsig waitStatus == 0

/-- `WEXITSTATUS`. -/
def wexitstatus (waitStatus : UInt32) : Int32 := ((waitStatus &&& 0xff00) >>> 8).toInt32

/-- `WIFSIGNALED`. -/
def wifsignaled (waitStatus : UInt32) : Bool :=
  (wtermsig waitStatus + 1).toUInt8.toInt8 >>> 1 > 0

/-- `wire_report_is_valid`. -/
def wireReportIsValid (wire : WireReport) (processId : Int32) : Bool :=
  if wire.magic ≠ wireMagic ∨ wire.version ≠ wireVersion ∨ wire.size ≠ wireSize ∨
      wire.processId ≠ processId.toUInt32 ∨
      wire.workerStatus > statusCode .notImplemented then false
  else if wire.outcome = Outcome.returned.code ∨ wire.outcome = Outcome.failed.code then
    wire.exitCode == 0 && wire.reportFlags == 0 && wire.signalNumber == 0 &&
      wire.signalCode == 0 && wire.faultAddress == 0 && wire.instructionPointer == 0 &&
      wire.stackPointer == 0 &&
      ((wire.outcome == Outcome.returned.code && wire.workerStatus == statusCode .ok) ||
        (wire.outcome == Outcome.failed.code && wire.workerStatus != statusCode .ok))
  else
    let requiredFlags := reportHasCrashContext ||| reportHasSignalCode ||| reportHandlerOnAltstack
    let allowedFlags := requiredFlags ||| reportHasFaultAddress
    let signalHasFaultAddress := wire.signalCode > 0 && signalHasAddress wire.signalNumber
    let reportHasFaultAddress : Bool := wire.reportFlags &&& reportHasFaultAddress ≠ 0
    let faultAddressIsConsistent :=
      signalHasFaultAddress == reportHasFaultAddress &&
        (reportHasFaultAddress || wire.faultAddress == 0)
    wire.outcome == Outcome.signalled.code && wire.workerStatus == statusCode .ok &&
      wire.reportFlags &&& requiredFlags == requiredFlags &&
      wire.reportFlags &&& ~~~allowedFlags == 0 && faultAddressIsConsistent &&
      wire.returnValue == 0 && wire.lastError == 0 && wire.exitCode == 0 &&
      isRuntimeCrashSignal wire.signalNumber

/-- `wire_exit_status_is_valid`. -/
def wireExitStatusIsValid (wire : WireReport) (waitStatus : UInt32) : Bool :=
  let expectedExitCode :=
    if wire.outcome = Outcome.signalled.code then runtimeCrashExitCode wire.signalNumber else 0
  wifexited waitStatus && wexitstatus waitStatus == expectedExitCode

/-- `decode_wire_report`. -/
def decodeWireReport (wire : WireReport) : Report where
  outcome := wire.outcome
  workerStatus := wire.workerStatus
  returnValue := wire.returnValue
  lastError := wire.lastError
  workerProcessId := wire.processId
  exitCode := wire.exitCode
  signalNumber := wire.signalNumber
  reportFlags := wire.reportFlags
  signalCode := wire.signalCode
  faultAddress := wire.faultAddress
  instructionPointer := wire.instructionPointer
  stackPointer := wire.stackPointer

/-- What the parent reads of the pipe: so many bytes of a record, and whether more follow. -/
structure Reading where
  wire : WireReport
  bytesRead : Nat
  hasExtraData : Bool
  deriving DecidableEq, Repr

/-- What arrives of one atomic write, if there was one. -/
def delivered : Option WireReport → Reading
  | none => { wire := {}, bytesRead := 0, hasExtraData := false }
  | some wire => { wire := wire, bytesRead := 72, hasExtraData := false }

/-- The end of `sl_runtime_run_trusted_worker`, once the worker is gone: the statuses are those of
the parent's signal mask, of the reading and of the waiting. -/
def runTrustedWorker (child : Int32) (parentMaskStatus readStatus waitStatusResult : Status)
    (reading : Reading) (waitStatus : UInt32) : Status × Report :=
  let report : Report := { workerProcessId := child.toUInt32 }
  if parentMaskStatus ≠ .ok then (parentMaskStatus, report)
  else if readStatus ≠ .ok then (readStatus, report)
  else if waitStatusResult ≠ .ok then (waitStatusResult, report)
  else if wifsignaled waitStatus then
    if reading.bytesRead ≠ 0 ∨ reading.hasExtraData = true then (.workerProtocol, report)
    else (.ok, { report with
      outcome := Outcome.signalled.code
      signalNumber := (wtermsig waitStatus).toInt32 })
  else if wifexited waitStatus = false then (.workerProtocol, report)
  else if reading.bytesRead = 0 then
    (.ok, { report with outcome := Outcome.exited.code, exitCode := wexitstatus waitStatus })
  else if reading.bytesRead ≠ 72 ∨ reading.hasExtraData = true ∨
      wireReportIsValid reading.wire child = false ∨
      wireExitStatusIsValid reading.wire waitStatus = false then (.workerProtocol, report)
  else (.ok, decodeWireReport reading.wire)

end SadLayer.Runtime
