import SadLayer.WorkerReports

/-! The parent accepts exactly the records that a worker or its crash handler can write,
with the exit code that goes with each, and tells the three kinds apart. -/
namespace SadLayer.Runtime

/-- A worker of this process id, or its crash handler, writes this record and exits with this code;
the outcome is the one the writer means. -/
def Emits (child : Int32) : Outcome → WireReport → Int32 → Prop
  | .returned, wire, exitCode => ∃ answers : WorkerAnswers,
      answers.processId = child.toUInt32 ∧ answers.status = .ok ∧
        runWorkerChild answers = (some wire, exitCode)
  | .failed, wire, exitCode => ∃ answers : WorkerAnswers,
      answers.processId = child.toUInt32 ∧ answers.status ≠ .ok ∧
        runWorkerChild answers = (some wire, exitCode)
  | .signalled, wire, exitCode => ∃ before state answers limit base writeFd,
      installWorkerCrashReporting before answers limit base writeFd child.toUInt32 = (.ok, state) ∧
        ∃ signalNumber ∈ crashSignals, ∃ info context, ∃ handlerAddress : UInt64,
          limit ≤ handlerAddress ∧ handlerAddress < base ∧
            runtimeCrashSignalHandler state signalNumber (some info) (some context)
              handlerAddress = (some wire, exitCode)
  | .none, _, _ | .exited, _, _ => False

/-- A record is accepted with this wait status, and comes to this report. -/
structure Agrees (child : Int32) (wire : WireReport) (waitStatus : UInt32) (report : Report) :
    Prop where
  valid : wireReportIsValid wire child = true
  exitValid : wireExitStatusIsValid wire waitStatus = true
  decoded : decodeWireReport wire = report
  parent : runTrustedWorker child .ok .ok .ok (delivered (some wire)) waitStatus = (.ok, report)

/-- The flags of every crash report that is sent from the alternate stack. -/
def crashFlags (hasFaultAddress : Bool) : UInt32 :=
  reportHasCrashContext ||| reportHasSignalCode ||| reportHandlerOnAltstack |||
    if hasFaultAddress then reportHasFaultAddress else 0

/-- Whether the kernel gave a fault address for this signal. -/
def faultIsKnown (signalNumber : Int32) (info : SignalInfo) : Bool :=
  info.code > 0 && signalHasAddress signalNumber

/-- What a worker means by the record that it writes. -/
def WorkerAnswers.meant (answers : WorkerAnswers) : Report where
  outcome := (if answers.status = .ok then Outcome.returned else Outcome.failed).code
  workerStatus := statusCode answers.status
  returnValue := answers.returnValue
  lastError := answers.reportedLastError
  workerProcessId := answers.processId

/-- What the handler means by its record. -/
def crashReport (processId : UInt32) (signalNumber : Int32) (info : SignalInfo)
    (context : CrashContext) : Report where
  outcome := Outcome.signalled.code
  workerStatus := statusCode .ok
  workerProcessId := processId
  signalNumber := signalNumber
  reportFlags := crashFlags (faultIsKnown signalNumber info)
  signalCode := info.code
  faultAddress := if faultIsKnown signalNumber info then info.address else 0
  instructionPointer := context.rip
  stackPointer := context.rsp

/-! ### Wait statuses -/

theorem exited_not_signaled {waitStatus : UInt32} (exited : wifexited waitStatus = true) :
    wifsignaled waitStatus = false := by
  unfold wifexited at exited
  unfold wifsignaled
  rw [eq_of_beq exited]
  rfl

/-- Every exit code below 256 is read back. -/
theorem exited_status_read (exitCode : Int32) (listed : exitCode ∈ 0 :: crashSignals.map
    runtimeCrashExitCode) : wifexited (exitedStatus exitCode) = true ∧
      wexitstatus (exitedStatus exitCode) = exitCode := by
  have all : (0 :: crashSignals.map runtimeCrashExitCode).all (fun exitCode =>
      wifexited (exitedStatus exitCode) && wexitstatus (exitedStatus exitCode) == exitCode) =
        true := by
    decide
  simpa using List.all_eq_true.mp all exitCode listed

/-! ### What the parent makes of a record -/

variable {child : Int32} {wire : WireReport} {waitStatus : UInt32} {report : Report}

theorem parent_accepts (valid : wireReportIsValid wire child = true)
    (exitValid : wireExitStatusIsValid wire waitStatus = true) :
    Agrees child wire waitStatus (decodeWireReport wire) := by
  refine ⟨valid, exitValid, rfl, ?_⟩
  have exited : wifexited waitStatus = true := (Bool.and_eq_true _ _ ▸ exitValid).1
  unfold runTrustedWorker delivered
  simp [valid, exitValid, exited, exited_not_signaled exited]

/-- What the parent reports without a record is no report of the worker's own. -/
theorem parent_report_cases {parentMaskStatus readStatus waitStatusResult : Status}
    {reading : Reading}
    (reported : runTrustedWorker child parentMaskStatus readStatus waitStatusResult reading
      waitStatus = (.ok, report)) :
    (reading.bytesRead = 0 ∧ (report.outcome = Outcome.exited.code ∨
      report.outcome = Outcome.signalled.code ∧ report.reportFlags = 0)) ∨
    reading.bytesRead = 72 ∧ reading.hasExtraData = false ∧
      Agrees child reading.wire waitStatus report := by
  unfold runTrustedWorker at reported
  dsimp only at reported
  split at reported
  · rename_i failed
    cases reported
    exact absurd rfl failed
  split at reported
  · rename_i failed
    cases reported
    exact absurd rfl failed
  split at reported
  · rename_i failed
    cases reported
    exact absurd rfl failed
  split at reported
  · split at reported
    · cases reported
    · rename_i silent
      cases reported
      exact .inl ⟨by omega, .inr ⟨rfl, rfl⟩⟩
  split at reported
  · cases reported
  split at reported
  · rename_i silent
    cases reported
    exact .inl ⟨silent, .inl rfl⟩
  split at reported
  · cases reported
  · rename_i accepted
    cases reported
    simp only [not_or, not_not, Bool.not_eq_true, Bool.not_eq_false] at accepted
    obtain ⟨whole, alone, valid, exitValid⟩ := accepted
    exact .inr ⟨whole, alone, parent_accepts valid exitValid⟩

/-! ### The worker -/

theorem status_code_le (status : Status) : statusCode status ≤ statusCode .notImplemented := by
  cases status <;> decide

theorem status_code_ok_iff (status : Status) :
    statusCode status = statusCode .ok ↔ status = .ok := by
  cases status <;> decide

theorem status_of_code {code : UInt32} (small : code ≤ statusCode .notImplemented) :
    ∃ status, statusCode status = code := by
  have all : ∀ value < 33, ∃ status, statusCode status = .ofNat value := by
    intro value below
    refine ⟨Status.ofNat value, ?_⟩
    revert value
    decide
  obtain ⟨status, same⟩ := all code.toNat (Nat.lt_succ_of_le small)
  exact ⟨status, by rw [same, UInt32.ofNat_toNat]⟩

theorem run_worker_child_eq {answers : WorkerAnswers} {exitCode : Int32}
    (emitted : runWorkerChild answers = (some wire, exitCode)) :
    exitCode = 0 ∧ wire = workerRecord answers.processId answers.status answers.returnValue
      answers.reportedLastError := by
  unfold runWorkerChild writeWorkerReportAndExit at emitted
  split at emitted
  · cases emitted
  split at emitted
  · cases emitted
    exact ⟨rfl, rfl⟩
  · cases emitted

theorem worker_record_not_signalled (processId : UInt32) (status : Status)
    (returnValue lastError : UInt32) :
    (workerRecord processId status returnValue lastError).outcome ≠ Outcome.signalled.code := by
  unfold workerRecord
  dsimp only
  split <;> decide

theorem worker_record_valid (status : Status) (returnValue lastError : UInt32) :
    wireReportIsValid (workerRecord child.toUInt32 status returnValue lastError) child = true := by
  have bounded := UInt32.not_lt.mpr (status_code_le status)
  have same := status_code_ok_iff status
  unfold wireReportIsValid workerRecord
  by_cases returned : status = .ok
  · subst returned
    simp [bounded]
  · simp [bounded, returned, same, Outcome.code]

/-- Some worker reports each status, return value and last error there are. -/
theorem worker_emits (status : Status) (returnValue lastError : UInt32) :
    ∃ answers : WorkerAnswers, answers.processId = child.toUInt32 ∧ answers.status = status ∧
      runWorkerChild answers =
        (some (workerRecord child.toUInt32 status returnValue lastError), 0) := by
  let answers : WorkerAnswers := {
    processId := child.toUInt32, resetSignals := .ok, installReporting := .ok
    setImageBase := .ok, createTeb := .ok, attachTeb := .ok, tebBase := 0
    originalGs := some 0, installedGs := some 0, restoredGs := some 0
    setsGs := true, restoresGs := true, callEntry := .ok
    guestResult := returnValue, lastError := lastError
    detachTeb := .ok, destroyTeb := status, blocksSignals := true, written := 72 }
  have reported : answers.status = status := by
    simp [answers, WorkerAnswers.status, WorkerAnswers.created, WorkerAnswers.attached,
      WorkerAnswers.gsRead, WorkerAnswers.gsChanged, WorkerAnswers.called,
      WorkerAnswers.gsChangeAttempted, WorkerAnswers.gsRestoreVerified, WorkerAnswers.restored,
      afterOk]
  have changed : answers.gsChanged = .ok := by
    simp [answers, WorkerAnswers.created, WorkerAnswers.attached, WorkerAnswers.gsRead,
      WorkerAnswers.gsChanged, afterOk]
  refine ⟨answers, rfl, reported, ?_⟩
  unfold runWorkerChild
  rw [reported, WorkerAnswers.returnValue, WorkerAnswers.reportedLastError, changed]
  rfl

/-! ### The crash handler -/

theorem install_ok {before state : CrashHandlerState} {answers : InstallAnswers}
    {limit base : UInt64} {writeFd : Int32} {processId : UInt32}
    (installed : installWorkerCrashReporting before answers limit base writeFd processId =
      (.ok, state)) :
    state = {
      armed := true, handling := false, writeFd := writeFd, processId := processId.toInt32
      stackLimit := limit, stackBase := base } := by
  unfold installWorkerCrashReporting at installed
  dsimp only at installed
  split at installed
  · cases installed
  split at installed
  · cases installed
  split at installed
  · cases installed
  split at installed
  · cases installed
  split at installed
  · cases installed
  · cases installed
    rfl

theorem crash_record_eq {state : CrashHandlerState} {signalNumber : Int32} {info : SignalInfo}
    {context : CrashContext} {handlerAddress : UInt64}
    (above : state.stackLimit ≤ handlerAddress) (below : handlerAddress < state.stackBase) :
    crashRecord state signalNumber (some info) (some context) handlerAddress = {
      magic := wireMagic, version := wireVersion, size := wireSize
      outcome := Outcome.signalled.code, workerStatus := statusCode .ok
      processId := state.processId.toUInt32, signalNumber := signalNumber
      reportFlags := crashFlags (faultIsKnown signalNumber info), signalCode := info.code
      faultAddress := if faultIsKnown signalNumber info then info.address else 0
      instructionPointer := context.rip, stackPointer := context.rsp } := by
  have inside : handlerAddress ≥ state.stackLimit ∧ handlerAddress < state.stackBase :=
    ⟨above, below⟩
  have flags (known : Bool) : reportHasSignalCode ||| (if known then reportHasFaultAddress else 0)
      ||| reportHasCrashContext ||| reportHandlerOnAltstack = crashFlags known := by
    cases known <;> decide
  unfold crashRecord
  simp only [Option.isSome_some, if_true, Option.any_some, if_pos inside, Option.map_some,
    Option.getD_some, ← flags, faultIsKnown]
  rfl

theorem crash_flags_facts (known : Bool) :
    crashFlags known &&& (reportHasCrashContext ||| reportHasSignalCode |||
        reportHandlerOnAltstack) =
      (reportHasCrashContext ||| reportHasSignalCode ||| reportHandlerOnAltstack) ∧
    crashFlags known &&& ~~~(reportHasCrashContext ||| reportHasSignalCode |||
      reportHandlerOnAltstack ||| reportHasFaultAddress) = 0 ∧
    (crashFlags known &&& reportHasFaultAddress ≠ 0 ↔ known = true) := by
  cases known <;> decide

/-- There are only two sets of flags that the parent takes for a crash. -/
theorem crash_flags_cases {flags : UInt32}
    (required : flags &&& (reportHasCrashContext ||| reportHasSignalCode |||
        reportHandlerOnAltstack) =
      (reportHasCrashContext ||| reportHasSignalCode ||| reportHandlerOnAltstack))
    (allowed : flags &&& ~~~(reportHasCrashContext ||| reportHasSignalCode |||
      reportHandlerOnAltstack ||| reportHasFaultAddress) = 0) :
    ∃ known, flags = crashFlags known := by
  have whole : flags.toBitVec = flags.toBitVec &&& 15 := by
    have outside := congrArg UInt32.toBitVec allowed
    calc flags.toBitVec = flags.toBitVec &&& (15 ||| ~~~15) := by
          rw [show (15 ||| ~~~15 : BitVec 32) = BitVec.allOnes 32 by decide, BitVec.and_allOnes]
      _ = flags.toBitVec &&& 15 := by
          rw [BitVec.and_or_distrib_left, show flags.toBitVec &&& ~~~15 = 0 from outside,
            show (0 : BitVec 32) = 0#32 from rfl, BitVec.or_zero]
  have small : flags.toNat < 16 := by
    have value : flags.toNat = flags.toNat &&& 15 := congrArg BitVec.toNat whole
    rw [value]
    exact Nat.lt_succ_of_le Nat.and_le_right
  have all : ∀ value < 16, UInt32.ofNat value &&& 11 = 11 →
      UInt32.ofNat value = crashFlags false ∨ UInt32.ofNat value = crashFlags true := by
    decide
  have known := all flags.toNat small
  rw [UInt32.ofNat_toNat] at known
  rcases known required with plain | fault
  · exact ⟨false, plain⟩
  · exact ⟨true, fault⟩

/-- What the handler writes on the alternate stack of a worker is what the parent takes for a
crash. -/
theorem crash_record_valid {state : CrashHandlerState} {signalNumber : Int32} {info : SignalInfo}
    {context : CrashContext} {handlerAddress : UInt64}
    (listed : signalNumber ∈ crashSignals) (process : state.processId.toUInt32 = child.toUInt32)
    (above : state.stackLimit ≤ handlerAddress) (below : handlerAddress < state.stackBase) :
    wireReportIsValid (crashRecord state signalNumber (some info) (some context) handlerAddress)
      child = true := by
  have bounded := UInt32.not_lt.mpr (status_code_le .ok)
  have fatal : isRuntimeCrashSignal signalNumber = true := List.contains_iff_mem.mpr listed
  obtain ⟨required, allowed, fault⟩ := crash_flags_facts (faultIsKnown signalNumber info)
  rw [crash_record_eq above below]
  unfold wireReportIsValid
  dsimp only
  rw [if_neg (by simp [process, bounded]), if_neg (by decide), required, allowed]
  have same : (decide (crashFlags (faultIsKnown signalNumber info) &&& reportHasFaultAddress ≠ 0))
      = faultIsKnown signalNumber info := by
    rw [Bool.eq_iff_iff, decide_eq_true_iff, fault]
  rw [same, show (decide (info.code > 0) && signalHasAddress signalNumber) =
    faultIsKnown signalNumber info from rfl, fatal]
  cases faultIsKnown signalNumber info <;> simp

/-- A record that the parent accepts is that of a worker or that of a crash. -/
theorem valid_wire_report_cases (valid : wireReportIsValid wire child = true) :
    (∃ status returnValue lastError,
      wire = workerRecord child.toUInt32 status returnValue lastError) ∨
    ∃ signalNumber ∈ crashSignals, ∃ info context, ∀ state : CrashHandlerState,
      state.processId.toUInt32 = child.toUInt32 → ∀ handlerAddress,
      state.stackLimit ≤ handlerAddress → handlerAddress < state.stackBase →
      wire = crashRecord state signalNumber (some info) (some context) handlerAddress := by
  unfold wireReportIsValid at valid
  split at valid
  · cases valid
  rename_i header
  simp only [not_or, not_not, UInt32.not_lt, gt_iff_lt] at header
  obtain ⟨magic, version, size, process, bounded⟩ := header
  split at valid
  · left
    rename_i ended
    simp only [Bool.and_eq_true, beq_iff_eq, Bool.or_eq_true, bne_iff_ne] at valid
    obtain ⟨⟨⟨⟨⟨⟨⟨exitCode, flags⟩, signal⟩, code⟩, fault⟩, rip⟩, rsp⟩, outcome⟩ := valid
    obtain ⟨status, reported⟩ := status_of_code bounded
    refine ⟨status, wire.returnValue, wire.lastError, ?_⟩
    have meant : wire.outcome =
        (if status = .ok then Outcome.returned else Outcome.failed).code := by
      rcases outcome with ⟨returned, fine⟩ | ⟨failed, wrong⟩
      · rw [if_pos ((status_code_ok_iff status).mp (reported.trans fine)), returned]
      · rw [if_neg fun fine => wrong (reported.symm.trans ((status_code_ok_iff status).mpr fine)),
          failed]
    cases wire
    simp_all [workerRecord]
  · right
    simp only [Bool.and_eq_true, beq_iff_eq, Bool.or_eq_true] at valid
    obtain ⟨⟨⟨⟨⟨⟨⟨⟨outcome, status⟩, required⟩, allowed⟩, consistent⟩, value⟩, error⟩, exitCode⟩,
      fatal⟩ := valid
    obtain ⟨known, flags⟩ := crash_flags_cases required allowed
    refine ⟨wire.signalNumber, List.contains_iff_mem.mp fatal,
      ⟨wire.signalCode, wire.faultAddress⟩, ⟨wire.instructionPointer, wire.stackPointer⟩,
      fun state process' handlerAddress above below => ?_⟩
    have same : (decide (crashFlags known &&& reportHasFaultAddress ≠ 0)) = known := by
      rw [Bool.eq_iff_iff, decide_eq_true_iff, (crash_flags_facts known).2.2]
    rw [flags, same] at consistent
    obtain ⟨fault, address⟩ := consistent
    rw [crash_record_eq above below, process']
    have found : faultIsKnown wire.signalNumber ⟨wire.signalCode, wire.faultAddress⟩ = known :=
      fault
    rw [found]
    cases wire
    cases known <;> simp_all

/-! ### Agreement -/

theorem worker_report_agrees {answers : WorkerAnswers} {exitCode : Int32}
    (process : answers.processId = child.toUInt32)
    (emitted : runWorkerChild answers = (some wire, exitCode)) :
    Agrees child wire (exitedStatus exitCode) answers.meant := by
  obtain ⟨rfl, rfl⟩ := run_worker_child_eq emitted
  obtain ⟨exited, code⟩ := exited_status_read 0 (List.mem_cons_self ..)
  have valid : wireReportIsValid (workerRecord answers.processId answers.status
      answers.returnValue answers.reportedLastError) child = true := by
    rw [process]
    exact worker_record_valid ..
  have exitValid : wireExitStatusIsValid (workerRecord answers.processId answers.status
      answers.returnValue answers.reportedLastError) (exitedStatus 0) = true := by
    rw [wireExitStatusIsValid, if_neg (worker_record_not_signalled _ _ _ _), exited, code]
    rfl
  have meant : answers.meant = decodeWireReport (workerRecord answers.processId answers.status
      answers.returnValue answers.reportedLastError) := by
    simp only [WorkerAnswers.meant, decodeWireReport, workerRecord]
  rw [meant]
  exact parent_accepts valid exitValid

theorem crash_report_agrees {state : CrashHandlerState} {signalNumber : Int32}
    {info : SignalInfo} {context : CrashContext} {handlerAddress : UInt64} {exitCode : Int32}
    (listed : signalNumber ∈ crashSignals) (process : state.processId.toUInt32 = child.toUInt32)
    (above : state.stackLimit ≤ handlerAddress) (below : handlerAddress < state.stackBase)
    (emitted : runtimeCrashSignalHandler state signalNumber (some info) (some context)
      handlerAddress = (some wire, exitCode)) :
    Agrees child wire (exitedStatus exitCode)
      (crashReport child.toUInt32 signalNumber info context) := by
  unfold runtimeCrashSignalHandler at emitted
  dsimp only at emitted
  split at emitted
  · cases emitted
  cases emitted
  obtain ⟨exited, code⟩ := exited_status_read (runtimeCrashExitCode signalNumber)
    (List.mem_cons_of_mem _ (List.mem_map_of_mem listed))
  have exitValid : wireExitStatusIsValid (crashRecord state signalNumber (some info)
      (some context) handlerAddress) (exitedStatus (runtimeCrashExitCode signalNumber)) = true := by
    rw [crash_record_eq above below, wireExitStatusIsValid, if_pos rfl, exited, code]
    exact beq_self_eq_true _
  have meant : decodeWireReport (crashRecord state signalNumber (some info) (some context)
      handlerAddress) = crashReport child.toUInt32 signalNumber info context := by
    rw [crash_record_eq above below, process]
    rfl
  rw [← meant]
  exact parent_accepts (crash_record_valid listed process above below) exitValid

/-- The handler of an installed worker writes a record the first time it runs. -/
theorem installed_handler_emits {before state : CrashHandlerState} {answers : InstallAnswers}
    {limit base : UInt64} {writeFd : Int32} {processId : UInt32}
    (installed : installWorkerCrashReporting before answers limit base writeFd processId =
      (.ok, state)) (signalNumber : Int32) (info : Option SignalInfo)
    (context : Option CrashContext) (handlerAddress : UInt64) :
    state.stackLimit = limit ∧ state.stackBase = base ∧ state.processId.toUInt32 = processId ∧
    runtimeCrashSignalHandler state signalNumber info context handlerAddress =
      (some (crashRecord state signalNumber info context handlerAddress),
        runtimeCrashExitCode signalNumber) := by
  have known := install_ok installed
  subst known
  exact ⟨rfl, rfl, rfl, rfl⟩

theorem accepted_record_emitted (agrees : Agrees child wire waitStatus report) :
    ∃ outcome exitCode, Emits child outcome wire exitCode ∧ report.outcome = outcome.code ∧
      wifexited waitStatus = true ∧ wexitstatus waitStatus = exitCode := by
  have exit := agrees.exitValid
  rw [wireExitStatusIsValid, Bool.and_eq_true, beq_iff_eq] at exit
  obtain ⟨exited, code⟩ := exit
  have outcome : report.outcome = wire.outcome := by rw [← agrees.decoded, decodeWireReport]
  rcases valid_wire_report_cases agrees.valid with
    ⟨status, returnValue, lastError, rfl⟩ | ⟨signalNumber, listed, info, context, same⟩
  · obtain ⟨answers, process, ended, emitted⟩ := @worker_emits child status returnValue
      lastError
    rw [if_neg (worker_record_not_signalled _ _ _ _)] at code
    by_cases returned : status = .ok
    · refine ⟨.returned, 0, ⟨answers, process, ended.trans returned, emitted⟩, ?_, exited, code⟩
      rw [outcome, workerRecord, if_pos returned]
    · refine ⟨.failed, 0, ⟨answers, process, ended ▸ returned, emitted⟩, ?_, exited, code⟩
      rw [outcome, workerRecord, if_neg returned]
  · let state : CrashHandlerState := {
      armed := true, handling := false, writeFd := 0, processId := child.toUInt32.toInt32
      stackLimit := 0, stackBase := 1 }
    have installed : installWorkerCrashReporting {} ⟨1, true, true, true⟩ 0 1 0 child.toUInt32 =
        (.ok, state) := by
      unfold installWorkerCrashReporting
      dsimp only
      rw [if_neg (by decide), if_neg (by decide)]
      rfl
    obtain ⟨-, -, process, emitted⟩ := installed_handler_emits installed signalNumber (some info)
      (some context) 0
    have low : (0 : UInt64) < 1 := by decide
    have record := same state process 0 (UInt64.le_refl 0) low
    refine ⟨.signalled, runtimeCrashExitCode signalNumber, ⟨{}, state, _, 0, 1, 0, installed,
      signalNumber, listed, info, context, 0, UInt64.le_refl 0, low, ?_⟩, ?_, exited, ?_⟩
    · rw [emitted, record]
    · rw [outcome, record]
      rfl
    · rw [code, record]
      rfl

/-- A record says with which outcome and which exit code it was written. -/
theorem emits_known {outcome : Outcome} {exitCode : Int32}
    (emits : Emits child outcome wire exitCode) :
    wire.outcome = outcome.code ∧ exitCode =
      if wire.outcome = Outcome.signalled.code then runtimeCrashExitCode wire.signalNumber
      else 0 := by
  cases outcome with
  | none => exact emits.elim
  | exited => exact emits.elim
  | returned =>
    obtain ⟨answers, -, returned, emitted⟩ := emits
    obtain ⟨rfl, rfl⟩ := run_worker_child_eq emitted
    rw [if_neg (worker_record_not_signalled _ _ _ _), workerRecord, if_pos returned]
    exact ⟨rfl, rfl⟩
  | failed =>
    obtain ⟨answers, -, failed, emitted⟩ := emits
    obtain ⟨rfl, rfl⟩ := run_worker_child_eq emitted
    rw [if_neg (worker_record_not_signalled _ _ _ _), workerRecord, if_neg failed]
    exact ⟨rfl, rfl⟩
  | signalled =>
    obtain ⟨before, state, answers, limit, base, writeFd, installed, signalNumber, listed, info,
      context, handlerAddress, above, below, emitted⟩ := emits
    obtain ⟨-, -, -, handled⟩ := installed_handler_emits installed signalNumber (some info)
      (some context) handlerAddress
    rw [handled] at emitted
    cases emitted
    exact ⟨rfl, rfl⟩

theorem outcome_code_injective {outcome outcome' : Outcome} (same : outcome.code = outcome'.code) :
    outcome = outcome' := by
  revert outcome outcome'
  intro outcome outcome'
  cases outcome <;> cases outcome' <;> decide

/-- The two producers of records and the checks of the parent agree. What a worker or its crash
handler writes is accepted and comes to what was meant; what is accepted is written by one of
them, with the outcome it reports; and no record is written with two outcomes. -/
theorem worker_reports_agree (child : Int32) :
    (∀ answers wire exitCode, answers.processId = child.toUInt32 →
      runWorkerChild answers = (some wire, exitCode) →
      Agrees child wire (exitedStatus exitCode) answers.meant) ∧
    (∀ before state answers limit base writeFd,
      installWorkerCrashReporting before answers limit base writeFd child.toUInt32 = (.ok, state) →
      ∀ signalNumber ∈ crashSignals, ∀ info context, ∀ handlerAddress : UInt64,
      limit ≤ handlerAddress → handlerAddress < base →
      ∃ wire exitCode, runtimeCrashSignalHandler state signalNumber (some info) (some context)
          handlerAddress = (some wire, exitCode) ∧
        Agrees child wire (exitedStatus exitCode)
          (crashReport child.toUInt32 signalNumber info context)) ∧
    (∀ parentMaskStatus readStatus waitStatusResult reading waitStatus report,
      runTrustedWorker child parentMaskStatus readStatus waitStatusResult reading waitStatus =
        (.ok, report) →
      (reading.bytesRead = 0 ∧ (report.outcome = Outcome.exited.code ∨
        report.outcome = Outcome.signalled.code ∧ report.reportFlags = 0)) ∨
      reading = delivered (some reading.wire) ∧ report = decodeWireReport reading.wire ∧
        ∃ outcome exitCode, Emits child outcome reading.wire exitCode ∧
          report.outcome = outcome.code ∧ wifexited waitStatus = true ∧
          wexitstatus waitStatus = exitCode) ∧
    ∀ outcome outcome' wire exitCode exitCode', Emits child outcome wire exitCode →
      Emits child outcome' wire exitCode' → outcome = outcome' ∧ exitCode = exitCode' := by
  refine ⟨?_, ?_, ?_, ?_⟩
  · intro answers wire exitCode process emitted
    exact worker_report_agrees process emitted
  · intro before state answers limit base writeFd installed signalNumber listed info context
      handlerAddress above below
    obtain ⟨rfl, rfl, process, emitted⟩ := installed_handler_emits installed signalNumber
      (some info) (some context) handlerAddress
    exact ⟨_, _, emitted, crash_report_agrees listed process above below emitted⟩
  · intro parentMaskStatus readStatus waitStatusResult reading waitStatus report reported
    rcases parent_report_cases reported with silent | ⟨whole, alone, agrees⟩
    · exact .inl silent
    · refine .inr ⟨?_, agrees.decoded.symm, accepted_record_emitted agrees⟩
      cases reading
      cases whole
      cases alone
      rfl
  · intro outcome outcome' wire exitCode exitCode' first second
    obtain ⟨meant, code⟩ := emits_known first
    obtain ⟨meant', code'⟩ := emits_known second
    exact ⟨outcome_code_injective (meant.symm.trans meant'), code.trans code'.symm⟩

/-- A worker of process 7 that does what it is asked to, and returns 42. -/
def wellWorker : WorkerAnswers where
  processId := 7
  resetSignals := .ok
  installReporting := .ok
  setImageBase := .ok
  createTeb := .ok
  attachTeb := .ok
  tebBase := 0x10000
  originalGs := some 0
  installedGs := some 0x10000
  restoredGs := some 0
  setsGs := true
  restoresGs := true
  callEntry := .ok
  guestResult := 42
  lastError := 5
  detachTeb := .ok
  destroyTeb := .ok
  blocksSignals := true
  written := 72

/-- The parent reads what the worker returned; and had the worker touched an address it must not,
the parent would read where. -/
theorem well_worker_read_back :
    (∃ wire, runWorkerChild wellWorker = (some wire, 0) ∧
      runTrustedWorker 7 .ok .ok .ok (delivered (some wire)) (exitedStatus 0) = (.ok, {
        outcome := Outcome.returned.code, workerStatus := statusCode .ok, returnValue := 42
        lastError := 5, workerProcessId := 7 })) ∧
      ∃ state wire exitCode,
        installWorkerCrashReporting {} ⟨2048, true, true, true⟩ 0x1000 0x5000 4 7 = (.ok, state) ∧
        runtimeCrashSignalHandler state sigSegv (some ⟨1, 0x30⟩) (some ⟨0x401000, 0x7000⟩) 0x2000 =
          (some wire, exitCode) ∧
        runTrustedWorker 7 .ok .ok .ok (delivered (some wire)) (exitedStatus exitCode) =
          (.ok, crashReport 7 sigSegv ⟨1, 0x30⟩ ⟨0x401000, 0x7000⟩) := by
  obtain ⟨returns, crashes, -, -⟩ := worker_reports_agree 7
  constructor
  · have emitted : runWorkerChild wellWorker = (some (workerRecord 7 .ok 42 5), 0) := by
      decide +kernel
    exact ⟨_, emitted, (returns wellWorker _ 0 rfl emitted).parent⟩
  · have installed : installWorkerCrashReporting {} ⟨2048, true, true, true⟩ 0x1000 0x5000 4 7 =
        (.ok, ⟨true, false, 4, 7, 0x1000, 0x5000⟩) := by decide +kernel
    obtain ⟨wire, exitCode, emitted, agrees⟩ := crashes _ _ _ _ _ _ installed sigSegv (by decide)
      ⟨1, 0x30⟩ ⟨0x401000, 0x7000⟩ 0x2000 (by decide) (by decide)
    exact ⟨_, wire, exitCode, installed, emitted, agrees.parent⟩

end SadLayer.Runtime
