import SadLayer.Status

/-! Files: a descriptor of the host, the access it was opened for, and its type. The loops
around the host's calls go on until they are answered; the answers are listed beforehand. -/
namespace SadLayer.Files

def eperm : Nat := 1
def eintr : Nat := 4
def eio : Nat := 5
def ebadf : Nat := 9
def eacces : Nat := 13
def einval : Nat := 22
def espipe : Nat := 29

def genericRead : UInt32 := 0x80000000
def genericWrite : UInt32 := 0x40000000

/-- `sl_win32_file_type`; a caller can pass a value that is none of the enumeration's. -/
inductive FileType where
  | disk
  | char
  | other (value : Nat)
  deriving DecidableEq, Repr

def fileTypeIsValid : FileType → Bool
  | .disk => true
  | .char => true
  | .other _ => false

def accessIsValid (desiredAccess : UInt32) : Bool :=
  desiredAccess &&& ~~~(genericRead ||| genericWrite) == 0

/-- `sl_win32_file`. -/
structure Win32File where
  fd : Nat
  desiredAccess : UInt32
  type : FileType
  deriving DecidableEq, Repr

/-- `sl_win32_file_create_owned_fd`, its output not null. -/
def createOwnedFd (allocated : Bool) (fd : Int) (desiredAccess : UInt32) (type : FileType) :
    Except Status Win32File :=
  if fd < 0 ∨ accessIsValid desiredAccess = false ∨ fileTypeIsValid type = false then
    .error .invalidArgument
  else if allocated = false then .error .outOfMemory
  else .ok { fd := fd.toNat, desiredAccess := desiredAccess, type := type }

/-- What an open of the console comes to: its status, the host's error, the file, and the
descriptors that were opened and closed. -/
structure Opened where
  status : Status
  hostError : Nat := 0
  file : Option Win32File := none
  opened : List Nat := []
  closed : List Nat := []
  deriving DecidableEq, Repr

/-- `sl_win32_file_open_console_output`, its output not null. The duplicate is the host's to
answer. -/
def openConsoleOutput (duplicate : Except Nat Nat) (allocated : Bool) : Opened :=
  match duplicate with
  | .error errno => { status := .io, hostError := errno }
  | .ok fd =>
    match createOwnedFd allocated fd genericWrite .char with
    | .error status => { status := status, opened := [fd], closed := [fd] }
    | .ok file => { status := .ok, file := some file, opened := [fd] }

def canRead (file : Win32File) : Bool := file.desiredAccess &&& genericRead != 0
def canWrite (file : Win32File) : Bool := file.desiredAccess &&& genericWrite != 0

/-! ### Writing -/

/-- What a caller passes to be written. A null pointer comes with a count all the same. -/
inductive Buffer (unit : Type) where
  | null (count : Nat)
  | array (given : List unit)
  deriving DecidableEq, Repr

def Buffer.contents {unit : Type} : Buffer unit → List unit
  | .null _ => []
  | .array given => given

/-- A null pointer with something to read behind it. -/
def Buffer.isMissing {unit : Type} : Buffer unit → Bool
  | .null count => count != 0
  | .array _ => false

/-- An answer of `write`: how much it took of what it was offered, or an error. -/
inductive Transfer where
  | took (count : Nat)
  | failed (errno : Nat)
  deriving DecidableEq, Repr

/-- What a write comes to, and what the descriptor has got by it. -/
structure Transferred where
  status : Status
  bytesWritten : Nat := 0
  hostError : Nat := 0
  sent : List UInt8 := []
  deriving DecidableEq, Repr

def Transferred.behind (chunk : List UInt8) (later : Transferred) : Transferred :=
  { later with sent := chunk ++ later.sent }

/-- The loop of `sl_win32_file_write`, so many bytes being written; none when it still waits for
an answer. -/
def writeLoop (bytes : List UInt8) (written : Nat) : List Transfer → Option Transferred
  | [] =>
    if written < bytes.length then none else some { status := .ok, bytesWritten := written }
  | answer :: rest =>
    if written < bytes.length then
      match answer with
      | .took count =>
        let chunk := (bytes.drop written).take count
        if 0 < count then
          (writeLoop bytes (written + chunk.length) rest).map (Transferred.behind chunk)
        else some { status := .io, bytesWritten := written, hostError := eio }
      | .failed errno =>
        if errno = eintr then writeLoop bytes written rest
        else some { status := .io, bytesWritten := written, hostError := errno }
    else some { status := .ok, bytesWritten := written }

/-- `sl_win32_file_write`, its outputs not null. -/
def fileWrite (file : Option Win32File) (buffer : Buffer UInt8) (answers : List Transfer) :
    Option Transferred :=
  match file with
  | none => some { status := .invalidArgument }
  | some file =>
    if buffer.isMissing then some { status := .invalidArgument }
    else if canWrite file then writeLoop buffer.contents 0 answers
    else some { status := .io, hostError := eacces }

/-! ### Seeking and flushing -/

/-- `sl_win32_file_seek_origin`. -/
inductive SeekOrigin where
  | start
  | current
  | finish
  | other (value : Nat)
  deriving DecidableEq, Repr

structure Sought where
  status : Status
  newPosition : Option Nat := none
  hostError : Nat := 0
  deriving DecidableEq, Repr

/-- `sl_win32_file_seek`, its output not null. -/
def fileSeek (lseek : Nat → Int → SeekOrigin → Except Nat Nat) (file : Option Win32File)
    (distance : Int) (origin : SeekOrigin) : Sought :=
  match file with
  | none => { status := .invalidArgument }
  | some file =>
    if origin ≠ .start ∧ origin ≠ .current ∧ origin ≠ .finish then { status := .invalidArgument }
    else if canRead file = false ∧ canWrite file = false then
      { status := .io, hostError := eacces }
    else if file.type ≠ .disk then { status := .io, hostError := espipe }
    else match lseek file.fd distance origin with
      | .error errno => { status := .io, hostError := errno }
      | .ok position => { status := .ok, newPosition := some position }

/-- The loop around `fsync`: the error it ends with, zero for none. -/
def flushLoop : List Nat → Option Nat
  | [] => none
  | errno :: rest => if errno = eintr then flushLoop rest else some errno

/-- `sl_win32_file_flush`: its status and the host's error. Answers of zero are successes. -/
def fileFlush (file : Option Win32File) (answers : List Nat) : Option (Status × Nat) :=
  match file with
  | none => some (.invalidArgument, 0)
  | some file =>
    if canWrite file = false then some (.io, eacces)
    else if file.type ≠ .disk then some (.io, ebadf)
    else (flushLoop answers).map fun errno => if errno = 0 then (.ok, 0) else (.io, errno)

/-! ### What a write delivers -/

/-- An answer after which the loop goes on. -/
def Transfer.goesOn : Transfer → Bool
  | .took count => 0 < count
  | .failed errno => errno == eintr

/-- The error an answer that ends the loop is reported as. -/
def Transfer.error : Transfer → Nat
  | .took _ => eio
  | .failed errno => errno

/-- The answer moves the loop forward or ends it. -/
def Transfer.counts : Transfer → Bool
  | .took _ => true
  | .failed errno => errno != eintr

variable {bytes : List UInt8} {written : Nat} {answers : List Transfer} {result : Transferred}

/-- Why a write stopped short: the first answer that was neither progress nor an interruption. -/
def StoppedBy (answers : List Transfer) (hostError : Nat) : Prop :=
  ∃ before refusal after, answers = before ++ refusal :: after ∧
    (∀ answer ∈ before, answer.goesOn = true) ∧ refusal.goesOn = false ∧
    hostError = refusal.error

theorem StoppedBy.later {hostError : Nat} (stopped : StoppedBy answers hostError)
    (answer : Transfer) (goesOn : answer.goesOn = true) : StoppedBy (answer :: answers) hostError := by
  obtain ⟨before, refusal, after, rfl, progress, refused, error⟩ := stopped
  refine ⟨answer :: before, refusal, after, rfl, ?_, refused, error⟩
  intro other member
  rcases List.mem_cons.mp member with rfl | member
  · exact goesOn
  · exact progress other member

/-- What a call of the loop delivers from where it stands. -/
structure Delivers (bytes : List UInt8) (written : Nat) (answers : List Transfer)
    (result : Transferred) : Prop where
  forward : written ≤ result.bytesWritten
  within : result.bytesWritten ≤ bytes.length
  sent : result.sent = (bytes.drop written).take (result.bytesWritten - written)
  ended : (result.status = .ok ∧ result.bytesWritten = bytes.length ∧ result.hostError = 0) ∨
    (result.status = .io ∧ result.bytesWritten < bytes.length ∧
      StoppedBy answers result.hostError)

theorem delivers_all (full : written = bytes.length) :
    Delivers bytes written answers { status := .ok, bytesWritten := written } where
  forward := Nat.le_refl _
  within := Nat.le_of_eq full
  sent := by simp
  ended := .inl ⟨rfl, full, rfl⟩

theorem delivers_refused {answer : Transfer} (short : written < bytes.length)
    (refused : answer.goesOn = false) :
    Delivers bytes written (answer :: answers)
      { status := .io, bytesWritten := written, hostError := answer.error } where
  forward := Nat.le_refl _
  within := Nat.le_of_lt short
  sent := by simp
  ended := by
    refine .inr ⟨rfl, short, [], answer, answers, rfl, ?_, refused, rfl⟩
    intro other member
    contradiction

/-- What was taken first and what was taken of the rest are one stretch. -/
theorem take_then_rest {offered : List UInt8} {count amount : Nat}
    (enough : (offered.take count).length ≤ amount) :
    offered.take count ++
        (offered.drop (offered.take count).length).take (amount - (offered.take count).length) =
      offered.take amount := by
  have first : offered.take count = offered.take (offered.take count).length := by
    rw [List.length_take, ← List.take_take, List.take_length]
  have split : offered.take
      ((offered.take count).length + (amount - (offered.take count).length)) =
        offered.take (offered.take count).length ++
          (offered.drop (offered.take count).length).take
            (amount - (offered.take count).length) :=
    List.take_add
  rw [Nat.add_sub_cancel' enough, ← first] at split
  exact split.symm

theorem write_loop_delivers (inside : written ≤ bytes.length)
    (returned : writeLoop bytes written answers = some result) :
    Delivers bytes written answers result := by
  induction answers generalizing written result with
  | nil =>
    unfold writeLoop at returned
    split at returned
    · contradiction
    · rw [← Option.some.inj returned]
      exact delivers_all (by omega)
  | cons answer rest ih =>
    unfold writeLoop at returned
    split at returned
    · rename_i short
      cases answer with
      | took count =>
        dsimp only at returned
        split at returned
        · rename_i positive
          obtain ⟨later, went_on, rfl⟩ := Option.map_eq_some_iff.mp returned
          have taken : ((bytes.drop written).take count).length =
              min count (bytes.length - written) := by simp
          have delivered := ih (by omega) went_on
          have forward := delivered.forward
          have within := delivered.within
          refine ⟨by simp only [Transferred.behind]; omega, within, ?_, ?_⟩
          · simp only [Transferred.behind]
            rw [delivered.sent, ← List.drop_drop, Nat.sub_add_eq]
            exact take_then_rest (by omega)
          · rcases delivered.ended with done | ⟨status, stopped_short, stopped⟩
            · exact .inl done
            · exact .inr ⟨status, stopped_short, stopped.later _ (by simpa [Transfer.goesOn])⟩
        · rename_i none_taken
          rw [← Option.some.inj returned]
          exact delivers_refused short (by simpa [Transfer.goesOn] using none_taken)
      | failed errno =>
        dsimp only at returned
        split at returned
        · rename_i interrupted
          have delivered := ih inside returned
          refine ⟨delivered.forward, delivered.within, delivered.sent, ?_⟩
          rcases delivered.ended with done | ⟨status, stopped_short, stopped⟩
          · exact .inl done
          · exact .inr ⟨status, stopped_short,
              stopped.later _ (by simpa [Transfer.goesOn] using interrupted)⟩
        · rename_i refused
          rw [← Option.some.inj returned]
          exact delivers_refused short (by simpa [Transfer.goesOn] using refused)
    · rw [← Option.some.inj returned]
      exact delivers_all (by omega)

/-- The loop returns once there is an answer for each byte, interruptions not counted. -/
theorem write_loop_returns (enough : bytes.length ≤ written + answers.countP Transfer.counts) :
    ∃ result, writeLoop bytes written answers = some result := by
  induction answers generalizing written with
  | nil =>
    unfold writeLoop
    rw [if_neg (by simpa using enough)]
    exact ⟨_, rfl⟩
  | cons answer rest ih =>
    unfold writeLoop
    split
    · cases answer with
      | took count =>
        dsimp only
        split
        · rename_i short positive
          have taken : 1 ≤ ((bytes.drop written).take count).length := by
            simp
            omega
          have one : (Transfer.took count).counts = true := rfl
          rw [List.countP_cons, if_pos one] at enough
          have further : bytes.length ≤
              written + ((bytes.drop written).take count).length +
                rest.countP Transfer.counts := by
            omega
          obtain ⟨later, returned⟩ := ih further
          rw [returned]
          exact ⟨_, rfl⟩
        · exact ⟨_, rfl⟩
      | failed errno =>
        dsimp only
        split
        · rename_i interrupted
          subst interrupted
          exact ih enough
        · exact ⟨_, rfl⟩
    · exact ⟨_, rfl⟩

theorem file_write_writable {file : Win32File} (bytes : List UInt8) (answers : List Transfer)
    (writable : canWrite file = true) :
    fileWrite (some file) (.array bytes) answers = writeLoop bytes 0 answers := by
  simp [fileWrite, Buffer.isMissing, Buffer.contents, writable]

theorem file_write_refused {file : Win32File} (bytes : List UInt8) (answers : List Transfer)
    (readOnly : canWrite file = false) :
    fileWrite (some file) (.array bytes) answers = some { status := .io, hostError := eacces } := by
  simp [fileWrite, Buffer.isMissing, readOnly]

/-- Whatever the host answers: what a write that returned reports is what the descriptor got, the
beginning of the buffer in order; it is all of it when the write succeeds; and otherwise less, the
error being that of the first answer that was neither progress nor an interruption. A file that was
not opened for writing gets nothing. -/
theorem file_write_delivers (file : Win32File) (bytes : List UInt8) (answers : List Transfer) :
    (∀ result, fileWrite (some file) (.array bytes) answers = some result →
      result.sent = bytes.take result.bytesWritten ∧
        ((result.status = .ok ∧ canWrite file = true ∧ result.bytesWritten = bytes.length ∧
            result.hostError = 0) ∨
          (result.status = .io ∧ canWrite file = true ∧ result.bytesWritten < bytes.length ∧
            StoppedBy answers result.hostError) ∨
          (result.status = .io ∧ canWrite file = false ∧ result.bytesWritten = 0 ∧
            result.hostError = eacces))) ∧
      (bytes.length ≤ answers.countP Transfer.counts →
        ∃ result, fileWrite (some file) (.array bytes) answers = some result) := by
  cases writable : canWrite file with
  | false =>
    rw [file_write_refused bytes answers writable]
    refine ⟨?_, fun _ => ⟨_, rfl⟩⟩
    intro result returned
    rw [← Option.some.inj returned]
    exact ⟨rfl, .inr (.inr ⟨rfl, rfl, rfl, rfl⟩)⟩
  | true =>
    rw [file_write_writable bytes answers writable]
    refine ⟨?_, fun enough => write_loop_returns (by rwa [Nat.zero_add])⟩
    intro result returned
    have delivered := write_loop_delivers (Nat.zero_le _) returned
    refine ⟨?_, ?_⟩
    · simpa using delivered.sent
    · rcases delivered.ended with ⟨status, all, error⟩ | ⟨status, short, stopped⟩
      · exact .inl ⟨status, rfl, all, error⟩
      · exact .inr (.inl ⟨status, rfl, short, stopped⟩)

end SadLayer.Files
