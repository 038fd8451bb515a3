import SadLayer.WorkerAgreement
import SadLayer.WorkerSupervision

/-! The parent reports what became of the worker, however their steps interleave and
in whatever pieces the record arrives. -/
namespace SadLayer.Runtime
open SadLayer.Library

/-- What the parent should report of a worker. -/
def Fate.told (child : Int32) : Fate → Status × Report
  | .finished answers => (.ok, answers.meant)
  | .crashed signalNumber info context =>
    (.ok, crashReport child.toUInt32 signalNumber info context)
  | .exited exitCode => (.ok, {
      workerProcessId := child.toUInt32
      outcome := Outcome.exited.code
      exitCode := (exitCode.toUInt32 &&& 0xff).toInt32 })
  | .killed signal => (.ok, {
      workerProcessId := child.toUInt32
      outcome := Outcome.signalled.code
      signalNumber := signal.toInt32 })
  | .cutOff => (.workerProtocol, { workerProcessId := child.toUInt32 })

/-- The record and the wait status that go with a fate. -/
inductive Left (child : Int32) : Fate → Option WireReport → UInt32 → Prop where
  | finished {answers : WorkerAnswers} {wire : WireReport} {waitStatus : UInt32}
      (agrees : Agrees child wire waitStatus answers.meant) :
      Left child (.finished answers) (some wire) waitStatus
  | crashed {signalNumber : Int32} {info : SignalInfo} {context : CrashContext}
      {wire : WireReport} {waitStatus : UInt32}
      (agrees : Agrees child wire waitStatus
        (crashReport child.toUInt32 signalNumber info context)) :
      Left child (.crashed signalNumber info context) (some wire) waitStatus
  | exited (exitCode : Int32) {waitStatus : UInt32} (ended : waitStatus = exitedStatus exitCode) :
      Left child (.exited exitCode) none waitStatus
  | killed {signal waitStatus : UInt32} (dumpsCore : Bool) (listed : signal ∈ signals)
      (ended : waitStatus = killedStatus signal dumpsCore) :
      Left child (.killed signal) none waitStatus
  | cutOff {signal waitStatus : UInt32} (dumpsCore : Bool) (listed : signal ∈ signals)
      (ended : waitStatus = killedStatus signal dumpsCore) (wire : WireReport) :
      Left child .cutOff (some wire) waitStatus

variable {child : Int32} {fate : Fate} {record : Option WireReport} {waitStatus : UInt32}
  {s : Supervision}

/-! ### Wait statuses -/

theorem low_bits (word mask : UInt32) {bits : Nat} (low : mask.toNat = 2 ^ bits - 1) :
    (word &&& mask).toNat = word.toNat % 2 ^ bits := by
  rw [UInt32.toNat_and, low, Nat.and_two_pow_sub_one_eq_mod]

theorem exited_status_nat (exitCode : Int32) :
    (exitedStatus exitCode).toNat = exitCode.toUInt32.toNat % 2 ^ 8 * 2 ^ 8 := by
  unfold exitedStatus
  rw [UInt32.toNat_shiftLeft, low_bits _ 0xff (by decide : _ = 2 ^ 8 - 1), Nat.shiftLeft_eq]
  have eight : (8 : UInt32).toNat % 32 = 8 := by decide
  rw [eight]
  omega

theorem exited_status_signal (exitCode : Int32) : wtermsig (exitedStatus exitCode) = 0 := by
  apply UInt32.toNat_inj.mp
  rw [wtermsig, low_bits _ 0x7f (by decide : _ = 2 ^ 7 - 1), exited_status_nat, UInt32.toNat_zero]
  omega

theorem exited_status_exited (exitCode : Int32) : wifexited (exitedStatus exitCode) = true := by
  rw [wifexited, exited_status_signal]
  rfl

theorem exited_status_code (exitCode : Int32) :
    wexitstatus (exitedStatus exitCode) = (exitCode.toUInt32 &&& 0xff).toInt32 := by
  unfold wexitstatus
  congr 1
  apply UInt32.toNat_inj.mp
  rw [UInt32.toNat_shiftRight, UInt32.toNat_and, exited_status_nat, Nat.shiftRight_and_distrib]
  have mask : (0xff00 : UInt32).toNat >>> ((8 : UInt32).toNat % 32) = 2 ^ 8 - 1 := by decide
  have eight : (8 : UInt32).toNat % 32 = 8 := by decide
  rw [mask, eight, Nat.and_two_pow_sub_one_eq_mod, Nat.shiftRight_eq_div_pow,
    low_bits _ 0xff (by decide : _ = 2 ^ 8 - 1)]
  omega

theorem killed_status_signal (dumpsCore : Bool) {signal : UInt32} (listed : signal ∈ signals) :
    wifsignaled (killedStatus signal dumpsCore) = true ∧
      wtermsig (killedStatus signal dumpsCore) = signal := by
  have all : signals.all (fun signal => [true, false].all fun dumpsCore =>
      wifsignaled (killedStatus signal dumpsCore) &&
        wtermsig (killedStatus signal dumpsCore) == signal) = true := by
    decide
  have both := List.all_eq_true.mp (List.all_eq_true.mp all signal listed) dumpsCore (by
    cases dumpsCore <;> decide)
  simpa using both

/-- The parent's report is the one that the fate calls for. -/
theorem Left.told (left : Left child fate record waitStatus) :
    runTrustedWorker child .ok .ok .ok (delivered record) waitStatus = fate.told child := by
  cases left with
  | finished agrees => exact agrees.parent
  | crashed agrees => exact agrees.parent
  | exited exitCode ended =>
    subst ended
    have exited := exited_status_exited exitCode
    simp [runTrustedWorker, delivered, exited, exited_not_signaled exited, Fate.told,
      exited_status_code]
  | killed dumpsCore listed ended =>
    subst ended
    obtain ⟨signaled, signal⟩ := killed_status_signal dumpsCore listed
    simp [runTrustedWorker, delivered, signaled, signal, Fate.told]
  | cutOff dumpsCore listed ended wire =>
    subst ended
    obtain ⟨signaled, -⟩ := killed_status_signal dumpsCore listed
    simp [runTrustedWorker, delivered, signaled, Fate.told]

/-! ### What is in the pipe -/

/-- What a worker has written so far. -/
inductive Wrote (child : Int32) : Worker → Option WireReport → Prop where
  | starting : Wrote child .starting none
  | running {before state : CrashHandlerState} {answers : InstallAnswers} {limit base : UInt64}
      {writeFd : Int32} (installed : installWorkerCrashReporting before answers limit base writeFd
        child.toUInt32 = (.ok, state)) : Wrote child (.running state) none
  | exiting {fate : Fate} {exitCode : Int32} {record : Option WireReport}
      (left : Left child fate record (exitedStatus exitCode)) :
      Wrote child (.exiting fate exitCode) record
  | gone {fate : Fate} {waitStatus : UInt32} {record : Option WireReport}
      (left : Left child fate record waitStatus) : Wrote child (.gone fate waitStatus) record

def recordBytes (record : Option WireReport) : List UInt8 := (record.map wireBytes).getD []

theorem length_record_bytes (record : Option WireReport) : (recordBytes record).length ≤ 72 := by
  cases record with
  | none => exact Nat.zero_le _
  | some wire => exact Nat.le_of_eq (length_wire_bytes wire)

def Worker.isGone : Worker → Bool
  | .gone .. => true
  | _ => false

theorem Worker.gone_of_is_gone {worker : Worker} (gone : worker.isGone = true) :
    ∃ fate waitStatus, worker = .gone fate waitStatus := by
  cases worker with
  | gone fate waitStatus => exact ⟨fate, waitStatus, rfl⟩
  | _ => contradiction

/-- What was read and what is in the pipe make the record up, and the parent knows it all once it
is back from its loops. -/
structure Tracked (s : Supervision) (record : Option WireReport) : Prop where
  wrote : Wrote s.child s.worker record
  stream : ∀ bytes, s.reader = .reading bytes → bytes ++ s.pipe = recordBytes record
  readAll : ∀ status bytes hasExtraData, s.reader = .done status bytes hasExtraData →
    status = .io ∨ status = .ok ∧ bytes = recordBytes record ∧ hasExtraData = false ∧
      s.worker.isGone = true
  awaited : ∀ status waitStatus, s.waited = some (status, waitStatus) →
    s.reader.isOpen = false ∧
      (status = .io ∨ status = .ok ∧ ∃ fate, s.worker = .gone fate waitStatus)

/-- The worker moves on without writing. -/
theorem Tracked.moved {worker : Worker} (tracked : Tracked s record)
    (alive : s.worker.isGone = false) (wrote : Wrote s.child worker record) :
    Tracked { s with worker := worker } record where
  wrote := wrote
  stream := tracked.stream
  readAll := by
    intro status bytes hasExtraData ended
    rcases tracked.readAll status bytes hasExtraData ended with failed | ⟨-, -, -, gone⟩
    · exact .inl failed
    · rw [alive] at gone
      contradiction
  awaited := by
    intro status waitStatus known
    obtain ⟨closed, failed | ⟨-, fate, gone⟩⟩ := tracked.awaited status waitStatus known
    · exact ⟨closed, .inl failed⟩
    · rw [gone] at alive
      contradiction

theorem Tracked.emitted {wire : WireReport} {exitCode : Int32} (tracked : Tracked s none)
    (reading : s.reader.isOpen = true) (left : Left s.child fate (some wire) (exitedStatus exitCode)) :
    Tracked (emit s wire fate exitCode) (some wire) where
  wrote := .exiting left
  stream := by
    intro bytes still
    have nothing : bytes ++ s.pipe = [] := tracked.stream bytes still
    obtain ⟨noneRead, nonePiped⟩ := List.append_eq_nil_iff.mp nothing
    change bytes ++ (s.pipe ++ wireBytes wire) = wireBytes wire
    rw [noneRead, nonePiped, List.nil_append, List.nil_append]
  readAll := by
    intro status bytes hasExtraData ended
    rw [show s.reader = _ from ended] at reading
    contradiction
  awaited := by
    intro status waitStatus known
    have closed := (tracked.awaited status waitStatus known).1
    rw [closed] at reading
    contradiction

theorem Tracked.silenced {exitCode : Int32} (tracked : Tracked s none)
    (alive : s.worker.isGone = false) : Tracked (silent s exitCode) none :=
  tracked.moved alive (.exiting (.exited exitCode rfl))

/-- A worker that is killed leaves what it had written. -/
theorem Wrote.killed {worker : Worker} (wrote : Wrote child worker record)
    (alive : worker.isGone = false) (dumpsCore : Bool) {signal : UInt32}
    (listed : signal ∈ signals) :
    Left child (killedFate signal worker) record (killedStatus signal dumpsCore) := by
  cases wrote with
  | starting => exact .killed dumpsCore listed rfl
  | running installed => exact .killed dumpsCore listed rfl
  | @exiting fate exitCode record left =>
    cases left with
    | finished agrees => exact .cutOff dumpsCore listed rfl _
    | crashed agrees => exact .cutOff dumpsCore listed rfl _
    | exited exitCode' ended => exact .killed dumpsCore listed rfl
    | killed dumpsCore' listed' ended => exact .killed dumpsCore listed rfl
    | cutOff dumpsCore' listed' ended wire =>
      have signaled := (killed_status_signal dumpsCore' listed').1
      rw [← ended, exited_not_signaled (exited_status_exited exitCode)] at signaled
      contradiction
  | gone left => contradiction

/-! ### The steps of the worker -/

theorem Tracked.installs (tracked : Tracked s record) (before : CrashHandlerState)
    (answers : InstallAnswers) (limit base : UInt64) (writeFd : Int32) :
    ∃ record, Tracked (install s before answers limit base writeFd) record := by
  have wrote := tracked.wrote
  unfold install
  split
  · rename_i state starting installed
    rw [starting] at wrote
    cases wrote
    exact ⟨none, tracked.moved (by rw [starting]; rfl) (.running installed)⟩
  · exact ⟨record, tracked⟩

theorem Tracked.finishes {answers : WorkerAnswers} (tracked : Tracked s none)
    (alive : s.worker.isGone = false) (process : answers.processId = s.child.toUInt32) :
    ∃ record, Tracked (finish s answers) record := by
  unfold finish
  split
  · rename_i wire exitCode emitted
    split
    · rename_i reading
      exact ⟨_, tracked.emitted reading (.finished (worker_report_agrees process emitted))⟩
    · exact ⟨_, tracked⟩
  · exact ⟨_, tracked.silenced alive⟩

theorem Tracked.crashes {state : CrashHandlerState} (tracked : Tracked s none)
    (running : s.worker = .running state) (signalNumber : Int32) (info : SignalInfo)
    (context : CrashContext) (handlerAddress : UInt64) (written : Bool) :
    ∃ record, Tracked (crash s state signalNumber info context handlerAddress written) record := by
  have alive : s.worker.isGone = false := by rw [running]; rfl
  have wrote := tracked.wrote
  rw [running] at wrote
  cases wrote with
  | running installed =>
    obtain ⟨limit, base, process, -⟩ := installed_handler_emits installed signalNumber (some info)
      (some context) handlerAddress
    unfold crash
    split
    · exact ⟨_, tracked⟩
    rename_i possible
    rw [not_or, not_or, not_not, UInt64.not_lt, UInt64.not_le] at possible
    obtain ⟨listed, above, below⟩ := possible
    split
    · rename_i wire exitCode emitted
      split
      · rename_i reading
        have agrees := crash_report_agrees listed process above below emitted
        exact ⟨_, tracked.emitted (Bool.and_eq_true _ _ ▸ reading).2 (.crashed agrees)⟩
      · exact ⟨_, tracked.silenced alive⟩
    · exact ⟨_, tracked.silenced alive⟩

theorem Tracked.killed (tracked : Tracked s record) (signal : UInt32) (dumpsCore : Bool) :
    Tracked (advance s (.kill signal dumpsCore)) record := by
  simp only [advance]
  split
  · exact tracked
  · rename_i alive
    have alive : s.worker.isGone = false := by
      cases place : s.worker with
      | gone fate waitStatus => exact absurd place (alive fate waitStatus)
      | _ => rfl
    split
    · exact tracked
    · rename_i listed
      exact tracked.moved alive (.gone (tracked.wrote.killed alive dumpsCore (not_not.mp listed)))

/-! ### The steps of the parent -/

/-- A pass of the loops keeps account of what was read. -/
theorem Tracked.reads {bytes : List UInt8} (tracked : Tracked s record)
    (reading : s.reader = .reading bytes) (count : Nat) :
    Tracked (((readAnswer s bytes count).map (finishRead s bytes)).getD s) record := by
  have whole := tracked.stream bytes reading
  have unwaited : ∀ status waitStatus, s.waited ≠ some (status, waitStatus) := by
    intro status waitStatus known
    have closed := (tracked.awaited status waitStatus known).1
    rw [reading] at closed
    contradiction
  unfold readAnswer
  split
  · rename_i fate waitStatus empty gone
    rw [empty, List.append_nil] at whole
    exact {
      wrote := tracked.wrote
      stream := fun _ still => by contradiction
      readAll := by
        intro status bytes' hasExtraData ended
        obtain ⟨rfl, rfl, rfl⟩ := Reader.done.inj ended
        exact .inr ⟨rfl, whole, rfl, by
          change s.worker.isGone = true
          rw [gone]
          rfl⟩
      awaited := fun status waitStatus known => absurd known (unwaited status waitStatus) }
  · exact tracked
  · rename_i filled _
    split
    · exact tracked
    rename_i some'
    have total := length_record_bytes record
    rw [← whole, List.length_append] at total
    have room : bytes.length < 72 := by
      have := List.length_pos_iff.mpr (filled ·)
      omega
    have amount : (s.pipe.take (min count (requested bytes))).length =
        min (min count (requested bytes)) s.pipe.length := List.length_take
    exact {
      wrote := tracked.wrote
      stream := by
        intro bytes' still
        simp only [Option.map_some, Option.getD_some, finishRead, readOnce, if_pos room] at still
        rw [← Reader.reading.inj still]
        change bytes ++ _ ++ s.pipe.drop _ = _
        rw [← whole, List.append_assoc, amount, List.take_eq_take_min, List.take_append_drop]
      readAll := by
        intro status bytes' hasExtraData ended
        simp only [Option.map_some, Option.getD_some, finishRead, readOnce, if_pos room] at ended
        contradiction
      awaited := fun status waitStatus known => absurd known (unwaited status waitStatus) }

theorem Tracked.breaks {bytes : List UInt8} (tracked : Tracked s record)
    (reading : s.reader = .reading bytes) : Tracked (finishRead s bytes .failed) record where
  wrote := tracked.wrote
  stream := fun _ still => by contradiction
  readAll := by
    intro status bytes' hasExtraData ended
    exact .inl (Reader.done.inj ended).1.symm
  awaited := by
    intro status waitStatus known
    have closed := (tracked.awaited status waitStatus known).1
    rw [reading] at closed
    contradiction

theorem Tracked.waits {status : Status} {waitStatus : UInt32} (tracked : Tracked s record)
    (closed : s.reader.isOpen = false)
    (ended : status = .io ∨ status = .ok ∧ ∃ fate, s.worker = .gone fate waitStatus) :
    Tracked { s with waited := some (status, waitStatus) } record where
  wrote := tracked.wrote
  stream := tracked.stream
  readAll := tracked.readAll
  awaited := by
    intro status' waitStatus' known
    obtain ⟨rfl, rfl⟩ := Prod.mk.inj (Option.some.inj known)
    exact ⟨closed, ended⟩

theorem tracked_step (tracked : Tracked s record) (event : Event) :
    ∃ record, Tracked (advance s event) record := by
  cases event with
  | install before answers limit base writeFd =>
    exact tracked.installs before answers limit base writeFd
  | finish answers =>
    simp only [advance]
    split
    · exact ⟨_, tracked⟩
    rename_i process
    have wrote := tracked.wrote
    split
    · rename_i starting
      rw [starting] at wrote
      cases wrote
      exact tracked.finishes (by rw [starting]; rfl) (not_not.mp process)
    · rename_i state running
      rw [running] at wrote
      cases wrote
      exact tracked.finishes (by rw [running]; rfl) (not_not.mp process)
    · exact ⟨_, tracked⟩
  | crash signalNumber info context handlerAddress written =>
    simp only [advance]
    split
    · rename_i state running
      have wrote := tracked.wrote
      rw [running] at wrote
      cases wrote
      exact tracked.crashes running signalNumber info context handlerAddress written
    · exact ⟨_, tracked⟩
  | exitProcess exitCode =>
    simp only [advance]
    split
    · rename_i state running
      have wrote := tracked.wrote
      rw [running] at wrote
      cases wrote
      exact ⟨none, tracked.moved (by rw [running]; rfl) (.gone (.exited exitCode rfl))⟩
    · exact ⟨_, tracked⟩
  | exit =>
    simp only [advance]
    split
    · rename_i fate exitCode leaving
      have wrote := tracked.wrote
      rw [leaving] at wrote
      cases wrote with
      | exiting left => exact ⟨_, tracked.moved (by rw [leaving]; rfl) (.gone left)⟩
    · exact ⟨_, tracked⟩
  | kill signal dumpsCore => exact ⟨_, tracked.killed signal dumpsCore⟩
  | read count =>
    simp only [advance]
    split
    · rename_i bytes reading
      exact ⟨_, tracked.reads reading count⟩
    · exact ⟨_, tracked⟩
  | interruptRead =>
    simp only [advance]
    split
    · rename_i bytes reading
      have same : finishRead s bytes .interrupted = s := by
        simp only [finishRead, readOnce, remaining, ← reading]
      exact ⟨_, same ▸ tracked⟩
    · exact ⟨_, tracked⟩
  | failRead =>
    simp only [advance]
    split
    · rename_i bytes reading
      exact ⟨_, tracked.breaks reading⟩
    · exact ⟨_, tracked⟩
  | wait =>
    simp only [advance]
    split
    · rename_i status bytes hasExtraData fate waitStatus ended gone unwaited
      exact ⟨_, tracked.waits (by rw [ended]; rfl) (.inr ⟨rfl, fate, gone⟩)⟩
    · exact ⟨_, tracked⟩
  | interruptWait => exact ⟨_, tracked⟩
  | failWait =>
    simp only [advance]
    split
    · rename_i status bytes hasExtraData ended unwaited
      exact ⟨_, tracked.waits (by rw [ended]; rfl) (.inl rfl)⟩
    · exact ⟨_, tracked⟩

/-! ### Failures -/

def Event.byWorker : Event → Bool
  | .install .. | .finish _ | .crash .. | .exitProcess _ | .exit | .kill .. => true
  | _ => false

/-- The worker's steps leave what the parent did alone. -/
theorem worker_step_frame (event : Event) (byWorker : event.byWorker = true) :
    (advance s event).child = s.child ∧ (advance s event).reader = s.reader ∧
      (advance s event).waited = s.waited := by
  cases event with
  | install before answers limit base writeFd =>
    simp only [advance, install]
    split <;> exact ⟨rfl, rfl, rfl⟩
  | finish answers =>
    simp only [advance, finish]
    repeat' split
    all_goals exact ⟨rfl, rfl, rfl⟩
  | crash signalNumber info context handlerAddress written =>
    simp only [advance, crash]
    repeat' split
    all_goals exact ⟨rfl, rfl, rfl⟩
  | exitProcess exitCode =>
    simp only [advance]
    split <;> exact ⟨rfl, rfl, rfl⟩
  | exit =>
    simp only [advance]
    split <;> exact ⟨rfl, rfl, rfl⟩
  | kill signal dumpsCore =>
    simp only [advance]
    split
    · exact ⟨rfl, rfl, rfl⟩
    · split <;> exact ⟨rfl, rfl, rfl⟩
  | _ => contradiction

/-- The parent's reading or its waiting failed. -/
def Failed (s : Supervision) : Prop :=
  (∃ bytes hasExtraData, s.reader = .done .io bytes hasExtraData) ∨
    ∃ waitStatus, s.waited = some (.io, waitStatus)

theorem Failed.congr {after : Supervision} (failed : Failed after)
    (reader : after.reader = s.reader) (waited : after.waited = s.waited) : Failed s := by
  unfold Failed at failed ⊢
  rwa [← reader, ← waited]

theorem parent_step_frame (event : Event) (byParent : event.byWorker = false) :
    (advance s event).child = s.child ∧ (advance s event).worker = s.worker := by
  cases event with
  | read count =>
    simp only [advance]
    split
    · rename_i bytes reading
      cases readAnswer s bytes count <;> exact ⟨rfl, rfl⟩
    · exact ⟨rfl, rfl⟩
  | interruptRead =>
    simp only [advance]
    split <;> exact ⟨rfl, rfl⟩
  | failRead =>
    simp only [advance]
    split <;> exact ⟨rfl, rfl⟩
  | wait =>
    simp only [advance]
    split <;> exact ⟨rfl, rfl⟩
  | interruptWait => exact ⟨rfl, rfl⟩
  | failWait =>
    simp only [advance]
    split <;> exact ⟨rfl, rfl⟩
  | _ => contradiction

theorem advance_child (event : Event) : (advance s event).child = s.child := by
  cases byWorker : event.byWorker with
  | true => exact (worker_step_frame event byWorker).1
  | false => exact (parent_step_frame event byWorker).1

/-- An answer of the kernel to a read that succeeds. -/
theorem read_answer_not_failed {bytes : List UInt8} {count : Nat} {answer : ReadAnswer}
    (answered : readAnswer s bytes count = some answer) : answer ≠ .failed := by
  unfold readAnswer at answered
  split at answered
  · rw [← Option.some.inj answered]
    simp
  · contradiction
  · split at answered
    · contradiction
    · rw [← Option.some.inj answered]
      simp

theorem failed_step (event : Event) (failed : Failed (advance s event)) :
    Failed s ∨ event = .failRead ∨ event = .failWait := by
  cases byWorker : event.byWorker with
  | true =>
    obtain ⟨-, reader, waited⟩ := worker_step_frame (s := s) event byWorker
    exact .inl (failed.congr reader waited)
  | false =>
    cases event with
    | read count =>
      left
      simp only [advance] at failed
      split at failed
      · rename_i bytes reading
        cases answered : readAnswer s bytes count with
        | none => rwa [answered] at failed
        | some answer =>
          rw [answered, Option.map_some, Option.getD_some] at failed
          rcases failed with ⟨bytes', hasExtraData, ended⟩ | waited
          · have other := read_answer_not_failed answered
            cases answer with
            | data chunk =>
              simp only [finishRead, readOnce] at ended
              split at ended <;> cases ended
            | endOfFile => cases ended
            | interrupted => cases ended
            | failed => contradiction
          · exact .inr waited
      · exact failed
    | interruptRead =>
      left
      simp only [advance] at failed
      split at failed
      · rcases failed with ⟨bytes', hasExtraData, ended⟩ | waited
        · cases ended
        · exact .inr waited
      · exact failed
    | failRead => exact .inr (.inl rfl)
    | wait =>
      left
      simp only [advance] at failed
      split at failed
      · rcases failed with ended | ⟨waitStatus, known⟩
        · exact .inl ended
        · cases known
      · exact failed
    | interruptWait => exact .inl failed
    | failWait => exact .inr (.inr rfl)
    | _ => contradiction

/-! ### The verdict -/

theorem delivered_bytes (record : Option WireReport) :
    Reading.mk (readWire (recordBytes record)) (recordBytes record).length false =
      delivered record := by
  cases record with
  | none => decide
  | some wire =>
    change Reading.mk (readWire (wireBytes wire)) (wireBytes wire).length false = _
    rw [read_wire_bytes, length_wire_bytes]
    rfl

theorem Tracked.told {outcome : Status × Report} (tracked : Tracked s record)
    (reached : verdict .ok s = some outcome) :
    (∃ fate waitStatus, s.worker = .gone fate waitStatus ∧ outcome = fate.told s.child) ∨
      outcome = (.io, { workerProcessId := s.child.toUInt32 }) ∧ Failed s := by
  unfold verdict at reached
  split at reached
  · rename_i readStatus bytes hasExtraData waitStatusResult waitStatus ended known
    have same := Option.some.inj reached
    rcases tracked.readAll _ _ _ ended with rfl | ⟨rfl, rfl, rfl, -⟩
    · exact .inr ⟨same.symm, .inl ⟨_, _, ended⟩⟩
    obtain ⟨-, rfl | ⟨rfl, fate, gone⟩⟩ := tracked.awaited _ _ known
    · exact .inr ⟨same.symm, .inr ⟨_, known⟩⟩
    · have wrote := tracked.wrote
      rw [gone] at wrote
      cases wrote with
      | gone left =>
        rw [delivered_bytes, left.told] at same
        exact .inl ⟨fate, waitStatus, gone, same.symm⟩
  · contradiction

theorem tracked_run (child : Int32) (events : List Event) :
    (∃ record, Tracked (run superviseStep { child := child } events).state record) ∧
      (run superviseStep { child := child } events).state.child = child ∧
      (Failed (run superviseStep { child := child } events).state →
        .failRead ∈ events ∨ .failWait ∈ events) := by
  induction events using List.reverseRecOn with
  | nil =>
    refine ⟨⟨none, .starting, ?_, ?_, ?_⟩, rfl, ?_⟩
    · intro bytes still
      rw [← Reader.reading.inj still]
      rfl
    · intro status bytes hasExtraData ended
      contradiction
    · intro status waitStatus known
      contradiction
    · rintro (⟨bytes, hasExtraData, ended⟩ | ⟨waitStatus, known⟩) <;> contradiction
  | append_singleton events event ih =>
    obtain ⟨⟨record, tracked⟩, same, failures⟩ := ih
    rw [run_concat]
    refine ⟨tracked_step tracked event, (advance_child event).trans same, ?_⟩
    intro failed
    rw [List.mem_append, List.mem_append, List.mem_singleton, List.mem_singleton]
    rcases failed_step event failed with earlier | rfl | rfl
    · exact (failures earlier).imp .inl .inl
    · exact .inl (.inr rfl)
    · exact .inr (.inr rfl)

/-- Whatever the worker does and however its steps interleave with the parent's, whatever pieces
its record arrives in: what the parent comes to is what the fate of the worker calls for, which is
ended by then. Otherwise reading or waiting failed, and the parent says so. -/
theorem worker_fate_told (child : Int32) (events : List Event) :
    ∀ outcome, verdict .ok (run superviseStep { child := child } events).state = some outcome →
      (∃ fate waitStatus,
        (run superviseStep { child := child } events).state.worker = .gone fate waitStatus ∧
          outcome = fate.told child) ∨
      outcome = (.io, { workerProcessId := child.toUInt32 }) ∧
        (.failRead ∈ events ∨ .failWait ∈ events) := by
  intro outcome reached
  obtain ⟨⟨record, tracked⟩, same, failures⟩ := tracked_run child events
  rcases tracked.told reached with known | ⟨blank, failed⟩
  · rw [same] at known
    exact .inl known
  · rw [same] at blank
    exact .inr ⟨blank, failures failed⟩

/-- A crash whose record is read in two pieces. -/
def crashInPieces : List Event := [
  .install {} ⟨2048, true, true, true⟩ 4096 8192 5,
  .crash sigSegv ⟨1, 16⟩ ⟨4660, 4464⟩ 5000 true, .read 40, .interruptRead, .exit, .read 72,
  .read 1, .wait]

theorem crash_in_pieces_told :
    (∃ fate waitStatus,
      (run superviseStep { child := 7 } crashInPieces).state.worker = .gone fate waitStatus ∧
        ((.ok, crashReport 7 sigSegv ⟨1, 16⟩ ⟨4660, 4464⟩) : Status × Report) = fate.told 7) ∨
    ((.ok, crashReport 7 sigSegv ⟨1, 16⟩ ⟨4660, 4464⟩) : Status × Report) =
        (.io, { workerProcessId := (7 : Int32).toUInt32 }) ∧
      (Event.failRead ∈ crashInPieces ∨ Event.failWait ∈ crashInPieces) :=
  worker_fate_told 7 crashInPieces _ (by decide)

/-! ### Coming to a verdict -/

/-- A read that asks for something. -/
def Event.isRead : Event → Bool
  | .read count => count != 0
  | _ => false

/-- Steps of the parent in its loops that do not fail. -/
def Event.goesOn : Event → Bool
  | .read _ | .interruptRead | .interruptWait => true
  | _ => false

/-- Once the worker is gone, a read takes something out of the pipe or finds its end. -/
theorem read_answer_gone (gone : s.worker.isGone = true) (bytes : List UInt8) {count : Nat}
    (some' : count ≠ 0) : readAnswer s bytes count = some .endOfFile ∨
      ∃ chunk, readAnswer s bytes count = some (.data chunk) ∧ 0 < chunk.length ∧
        chunk.length ≤ s.pipe.length := by
  obtain ⟨fate, waitStatus, ended⟩ := Worker.gone_of_is_gone gone
  have asked : 0 < requested bytes := by
    unfold requested
    split <;> omega
  unfold readAnswer
  rw [ended]
  cases piped : s.pipe with
  | nil => exact .inl rfl
  | cons first rest =>
    right
    refine ⟨_, if_neg some', ?_, ?_⟩
    · rw [List.length_take, List.length_cons]
      omega
    · rw [List.length_take]
      exact Nat.min_le_right _ _

theorem read_goes_on (event : Event) (goesOn : event.goesOn = true)
    (gone : s.worker.isGone = true) (room : s.reader.isOpen = true → s.pipe.length < budget) :
    (advance s event).reader.isOpen = true →
      (advance s event).pipe.length + (if event.isRead then 1 else 0) < budget := by
  intro still
  cases event with
  | read count =>
    simp only [advance] at still ⊢
    split at still
    · rename_i bytes reading
      have here := room (by rw [reading]; rfl)
      by_cases none' : count = 0
      · subst none'
        have blocked : readAnswer s bytes 0 = none ∨ readAnswer s bytes 0 = some .endOfFile := by
          unfold readAnswer
          split <;> simp
        rcases blocked with blocked | ended
        · rw [blocked]
          exact here
        · rw [ended] at still
          contradiction
      · have counted : (Event.read count).isRead = true := by simp [Event.isRead, none']
        rcases read_answer_gone gone bytes none' with ended | ⟨chunk, given, filled, inside⟩
        · rw [ended] at still
          contradiction
        · rw [given, counted]
          change (s.pipe.drop chunk.length).length + 1 < budget
          rw [List.length_drop]
          omega
    · rename_i status bytes hasExtraData ended
      rw [ended] at still
      contradiction
  | interruptRead =>
    simp only [advance] at still ⊢
    split at still
    · rename_i bytes reading
      exact room (by rw [reading]; rfl)
    · rename_i status bytes hasExtraData ended
      rw [ended] at still
      contradiction
  | interruptWait => exact room still
  | _ => contradiction

theorem reads_end (more : List Event) (goesOn : ∀ event ∈ more, event.goesOn = true)
    (gone : s.worker.isGone = true)
    (room : s.reader.isOpen = true → s.pipe.length < more.countP Event.isRead) :
    (more.foldl advance s).reader.isOpen = false ∧ (more.foldl advance s).worker = s.worker := by
  induction more generalizing s with
  | nil =>
    refine ⟨?_, rfl⟩
    cases reading : s.reader.isOpen with
    | false => exact reading
    | true => exact absurd (room reading) (Nat.not_lt_zero _)
  | cons event more ih =>
    have here := goesOn event List.mem_cons_self
    have byParent : event.byWorker = false := by
      cases event <;> first | rfl | contradiction
    obtain ⟨-, same⟩ := parent_step_frame (s := s) event byParent
    have onward := read_goes_on event here gone room
    rw [List.foldl_cons, ← same]
    apply ih (fun other member => goesOn other (List.mem_cons_of_mem _ member))
    · rw [same]
      exact gone
    · intro still
      have less := onward still
      rw [List.countP_cons] at less
      omega

theorem run_advance (events more : List Event) (start : Supervision) :
    (run superviseStep start (events ++ more)).state =
      more.foldl advance (run superviseStep start events).state := by
  induction more using List.reverseRecOn with
  | nil => rw [List.append_nil, List.foldl_nil]
  | append_singleton more event ih =>
    rw [← List.append_assoc, run_concat, List.foldl_append, ← ih]
    rfl

theorem Tracked.pipe_bounded (tracked : Tracked s record) (reading : s.reader.isOpen = true) :
    s.pipe.length < 73 := by
  cases place : s.reader with
  | reading bytes =>
    have whole := tracked.stream bytes place
    have total := length_record_bytes record
    rw [← whole, List.length_append] at total
    omega
  | done status bytes hasExtraData =>
    rw [place] at reading
    contradiction

theorem wait_reaches (closed : s.reader.isOpen = false) (gone : s.worker = .gone fate waitStatus) :
    ∃ outcome, verdict .ok (advance s .wait) = some outcome := by
  obtain ⟨child, worker, pipe, reader, waited⟩ := s
  cases reader with
  | reading bytes => contradiction
  | done status bytes hasExtraData =>
    change worker = _ at gone
    subst gone
    cases waited with
    | none => exact ⟨_, rfl⟩
    | some known => exact ⟨_, rfl⟩

/-- The parent comes to its verdict: once the worker is gone, 73 reads of any sizes are enough, with
any interruptions between them. -/
theorem worker_verdict_reached (child : Int32) (events more : List Event) (fate : Fate)
    (waitStatus : UInt32)
    (ended : (run superviseStep { child := child } events).state.worker = .gone fate waitStatus)
    (unbroken : .failRead ∉ events ∧ .failWait ∉ events)
    (goesOn : ∀ event ∈ more, event.goesOn = true) (enough : 73 ≤ more.countP Event.isRead) :
    verdict .ok (run superviseStep { child := child } (events ++ (more ++ [.wait]))).state =
      some (fate.told child) := by
  obtain ⟨⟨record, tracked⟩, -, -⟩ := tracked_run child events
  obtain ⟨⟨record', tracked'⟩, same, failures⟩ :=
    tracked_run child (events ++ (more ++ [.wait]))
  have gone : (run superviseStep { child := child } events).state.worker.isGone = true := by
    rw [ended]
    rfl
  obtain ⟨closed, still⟩ := reads_end more goesOn gone
    fun reading => lt_of_lt_of_le (tracked.pipe_bounded reading) enough
  rw [ended] at still
  have unfailed : ¬ Failed (run superviseStep { child := child } (events ++ (more ++ [.wait]))).state := by
    intro failed
    have absent : ∀ event, event.goesOn = false → event ≠ .wait → event ∉ events →
        event ∉ events ++ (more ++ [.wait]) := by
      intro event stops other absent member
      rcases List.mem_append.mp member with earlier | later
      · exact absent earlier
      rcases List.mem_append.mp later with between | last
      · rw [goesOn event between] at stops
        contradiction
      · exact other (List.mem_singleton.mp last)
    rcases failures failed with first | second
    · exact absent _ rfl (by simp) unbroken.1 first
    · exact absent _ rfl (by simp) unbroken.2 second
  rw [run_advance, List.foldl_append] at tracked' unfailed same ⊢
  generalize more.foldl advance (run superviseStep { child := child } events).state = before at *
  obtain ⟨outcome, reached⟩ := wait_reaches closed still
  have ended := (parent_step_frame (s := before) .wait rfl).2.trans still
  rw [List.foldl_cons, List.foldl_nil] at tracked' unfailed same ⊢
  rcases tracked'.told reached with ⟨fate', waitStatus', ended', told⟩ | ⟨-, failed⟩
  · rw [ended] at ended'
    rw [reached, told, same, (Worker.gone.inj ended').1]
  · exact absurd failed unfailed

/-- A worker that is killed before it wrote anything. -/
def killedEarly : List Event := [.interruptRead, .kill 9 false]

theorem killed_early_reached :
    verdict .ok (run superviseStep { child := 7 }
        (killedEarly ++ (List.replicate 73 (.read 1) ++ [.wait]))).state =
      some ((Fate.killed 9).told 7) := by
  apply worker_verdict_reached 7 killedEarly (List.replicate 73 (.read 1)) (.killed 9) 9 (by decide)
    (by decide)
  · intro event member
    rw [List.eq_of_mem_replicate member]
    rfl
  · rw [List.countP_replicate]
    decide

end SadLayer.Runtime
