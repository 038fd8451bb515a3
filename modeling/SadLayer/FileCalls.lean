import SadLayer.Files
import SadLayer.LossyTranscoding

/-! The calls that write to a handle, to a stream of the host or to a file that the
handle leads to. What a write to the console delivers is its text in UTF-8. -/
namespace SadLayer.Files
open SadLayer.Library SadLayer.Unicode

def errorInvalidFunction : Nat := 1
def errorFileNotFound : Nat := 2
def errorPathNotFound : Nat := 3
def errorTooManyOpenFiles : Nat := 4
def errorAccessDenied : Nat := 5
def errorInvalidHandle : Nat := 6
def errorNotEnoughMemory : Nat := 8
def errorWriteFault : Nat := 29
def errorInvalidParameter : Nat := 87
def errorDiskFull : Nat := 112
def errorFilenameExcedRange : Nat := 206

def enoent : Nat := 2
def enotdir : Nat := 20
def enfile : Nat := 23
def emfile : Nat := 24
def enospc : Nat := 28
def erofs : Nat := 30
def enametoolong : Nat := 36

def stdinHandle : UInt64 := 1
def stdoutHandle : UInt64 := 2
def stderrHandle : UInt64 := 3

/-- `win32_error_from_host`. -/
def win32ErrorFromHost (hostError fallback : Nat) : Nat :=
  if hostError = eacces ∨ hostError = eperm ∨ hostError = erofs then errorAccessDenied
  else if hostError = ebadf then errorInvalidHandle
  else if hostError = emfile ∨ hostError = enfile then errorTooManyOpenFiles
  else if hostError = enoent then errorFileNotFound
  else if hostError = enotdir then errorPathNotFound
  else if hostError = enospc then errorDiskFull
  else if hostError = enametoolong then errorFilenameExcedRange
  else if hostError = espipe then errorInvalidFunction
  else fallback

/-- `stream_for_handle`: whether there is a stream. -/
def streamForHandle (handle : UInt64) : Bool := handle == stdoutHandle || handle == stderrHandle

/-- What a call finds: the file that a handle leads to, whether memory can be had, how much a
stream takes, and the answers of `write`. -/
structure CallHost where
  acquire : UInt64 → Option Win32File
  allocated : Bool := true
  accepts : Nat := 0
  answers : List Transfer := []

/-- What is written to. -/
inductive Target where
  | stream
  | file (file : Win32File)
  deriving DecidableEq, Repr

/-- What a call returns, the last error where it sets one, the count it stores, and the bytes that
its target has got by it. -/
structure CallResult where
  succeeded : Bool
  lastError : Option Nat := none
  count : Nat := 0
  sent : List UInt8 := []
  deriving DecidableEq, Repr

def refuseCall (error : Nat) : CallResult := { succeeded := false, lastError := some error }

def target (host : CallHost) (handle : UInt64) : Option Target :=
  if streamForHandle handle then some .stream else (host.acquire handle).map .file

/-- `fwrite` for a stream, and otherwise `sl_win32_file_write`. -/
def transfer (host : CallHost) (buffer : Buffer UInt8) : Target → Option Transferred
  | .stream =>
    let written := min host.accepts buffer.contents.length
    some {
      status := if written = buffer.contents.length then .ok else .io
      bytesWritten := written
      sent := buffer.contents.take written }
  | .file file => fileWrite (some file) buffer host.answers

/-- `sl_kernel32_write_file`; its pointer arguments besides the buffer are given by whether they
are there. A failing stream leaves no host error. -/
def writeFile (host : CallHost) (handle : UInt64) (buffer : Buffer UInt8)
    (bytesWritten overlapped : Bool) : Option CallResult :=
  if overlapped then some (refuseCall errorInvalidFunction)
  else if bytesWritten = false ∨ buffer.isMissing then some (refuseCall errorInvalidParameter)
  else match target host handle with
    | none => some (refuseCall errorInvalidHandle)
    | some target => (transfer host buffer target).map fun transferred =>
      if transferred.status ≠ .ok then {
        succeeded := false
        lastError := some (win32ErrorFromHost transferred.hostError errorWriteFault)
        count := transferred.bytesWritten
        sent := transferred.sent }
      else {
        succeeded := true, count := transferred.bytesWritten, sent := transferred.sent }

def isConsole : Target → Bool
  | .stream => true
  | .file file => file.type == .char

/-- `sl_kernel32_write_console_w`. -/
def writeConsoleW (host : CallHost) (handle : UInt64) (text : Buffer UInt16) : Option CallResult :=
  match target host handle with
  | none => some (refuseCall errorInvalidHandle)
  | some target =>
    if isConsole target = false then some (refuseCall errorInvalidHandle)
    else if text.isMissing then some (refuseCall errorInvalidParameter)
    else
      let sized := utf16ToUtf8Lossy text.contents none
      let byteCount := sized.written.getD 0
      if sized.status ≠ .ok then some (refuseCall errorInvalidParameter)
      else if host.allocated = false then some (refuseCall errorNotEnoughMemory)
      else
        let conversion := utf16ToUtf8Lossy text.contents (some byteCount)
        if conversion.status ≠ .ok ∨ conversion.written.getD 0 ≠ byteCount then
          some (refuseCall errorInvalidParameter)
        else (transfer host (.array conversion.stored) target).map fun transferred =>
          if transferred.status ≠ .ok ∨ transferred.bytesWritten ≠ byteCount then {
            succeeded := false
            lastError := some (win32ErrorFromHost transferred.hostError errorWriteFault)
            sent := transferred.sent }
          else {
            succeeded := true, count := text.contents.length, sent := transferred.sent }

/-! ### What is delivered -/

variable {host : CallHost} {handle : UInt64} {found : Target} {bytes : List UInt8}
  {transferred : Transferred} {called : CallResult}

/-- A transfer delivers the beginning of what it was given, and all of it exactly when it
succeeds, but for nothing at all to a file that cannot be written. -/
structure Carried (bytes : List UInt8) (transferred : Transferred) : Prop where
  sent : transferred.sent = bytes.take transferred.bytesWritten
  whole : transferred.status = .ok → transferred.bytesWritten = bytes.length
  part : transferred.status ≠ .ok →
    transferred.bytesWritten < bytes.length ∨ transferred.bytesWritten = 0

theorem transfer_carried (returned : transfer host (.array bytes) found = some transferred) :
    Carried bytes transferred := by
  cases found with
  | stream =>
    rw [← Option.some.inj returned]
    refine ⟨rfl, ?_, ?_⟩
    · intro ok
      by_contra short
      simp [Buffer.contents] at ok short
      omega
    · intro failed
      left
      have short : min host.accepts bytes.length ≠ bytes.length := by
        intro all
        simp [Buffer.contents, all] at failed
      change min host.accepts bytes.length < bytes.length
      omega
  | file file =>
    change fileWrite (some file) (.array bytes) host.answers = some transferred at returned
    cases writable : canWrite file with
    | false =>
      rw [file_write_refused bytes host.answers writable] at returned
      rw [← Option.some.inj returned]
      exact ⟨rfl, fun ok => by contradiction, fun _ => .inr rfl⟩
    | true =>
      rw [file_write_writable bytes host.answers writable] at returned
      have delivers := write_loop_delivers (Nat.zero_le _) returned
      refine ⟨by simpa using delivers.sent, ?_, ?_⟩
      · intro ok
        rcases delivers.ended with ⟨-, all, -⟩ | ⟨io, -, -⟩
        · exact all
        · rw [ok] at io
          contradiction
      · intro failed
        rcases delivers.ended with ⟨ok, -, -⟩ | ⟨-, short, -⟩
        · exact absurd ok failed
        · exact .inl short

/-! ### Text on the console -/

/-- Units that a 32-bit count counts. -/
structure ConsoleText where
  units : List UInt16
  counted : units.length < 2 ^ 32

/-- What a call comes to that writes this text to the console. -/
structure Printed (units : List UInt16) (chars : List Char) (called : CallResult) : Prop where
  whole : called.succeeded = true →
    called.sent = encodeUtf8 chars ∧ called.count = units.length ∧ called.lastError = none
  part : called.succeeded = false → called.count = 0 ∧ called.lastError.isSome = true ∧
    ∃ unsent, encodeUtf8 chars = called.sent ++ unsent ∧ (unsent ≠ [] ∨ called.sent = [])

theorem printed_refused (units : List UInt16) (chars : List Char) (error : Nat) :
    Printed units chars (refuseCall error) where
  whole := fun ok => by contradiction
  part := fun _ => ⟨rfl, rfl, _, rfl, .inr rfl⟩

/-- The call that writes the bytes of a text reports whether all of them got there. -/
theorem printed_transfer {units : List UInt16} {chars : List Char}
    (carried : Carried (encodeUtf8 chars) transferred) :
    Printed units chars (
      if transferred.status ≠ .ok ∨ transferred.bytesWritten ≠ (encodeUtf8 chars).length then {
        succeeded := false
        lastError := some (win32ErrorFromHost transferred.hostError errorWriteFault)
        sent := transferred.sent }
      else { succeeded := true, count := units.length, sent := transferred.sent }) := by
  split
  · rename_i failed
    refine ⟨fun ok => by contradiction, fun _ => ⟨rfl, rfl, ?_⟩⟩
    refine ⟨(encodeUtf8 chars).drop transferred.bytesWritten, ?_, ?_⟩
    · rw [carried.sent, List.take_append_drop]
    · have notOk : transferred.status ≠ .ok := by
        intro ok
        exact absurd (carried.whole ok) (failed.resolve_left (not_not.mpr ok))
      rcases carried.part notOk with short | nothing
      · left
        exact List.ne_nil_of_length_pos (by rw [List.length_drop]; omega)
      · right
        rw [carried.sent, nothing, List.take_zero]
  · rename_i done
    rw [not_or, not_not, not_not] at done
    refine ⟨fun _ => ⟨?_, rfl, rfl⟩, fun failed => by contradiction⟩
    rw [carried.sent, done.2, List.take_length]

/-- Each call reads its text on its own, with U+FFFD for every lone surrogate, and prints the UTF-8
of what it read. -/
theorem write_console_printed (text : ConsoleText)
    (returned : writeConsoleW host handle (.array text.units) = some called) :
    ∃ chars, Replaced utf16EncodeChar text.units chars ∧ Printed text.units chars called := by
  obtain ⟨units, counted⟩ := text
  have largest : ptrdiffMax = 2 ^ 63 - 1 := rfl
  obtain ⟨chars, read, stores⟩ := @utf16_to_utf8_lossy_stores units (by omega)
  refine ⟨chars, read, ?_⟩
  unfold writeConsoleW at returned
  split at returned
  · rw [← Option.some.inj returned]
    exact printed_refused units chars _
  split at returned
  · rw [← Option.some.inj returned]
    exact printed_refused units chars _
  simp only [Buffer.isMissing, Bool.false_eq_true, if_false, Buffer.contents, stores.sizing,
    Option.getD_some, ne_eq, not_true_eq_false, stores.stores _ (Nat.le_refl _), or_self]
    at returned
  split at returned
  · rw [← Option.some.inj returned]
    exact printed_refused units chars _
  · obtain ⟨transferred, moved, result⟩ := Option.map_eq_some_iff.mp returned
    rw [← result]
    exact printed_transfer (transfer_carried moved)

/-! ### Text in pieces -/

/-- A text that a source was read as has as many units as the source. -/
theorem replaced_length {units : List UInt16} {chars : List Char}
    (read : Replaced utf16EncodeChar units chars) :
    (encodeUtf16 chars).length = units.length := by
  induction read with
  | nil => rfl
  | char char read ih =>
    unfold encodeUtf16 at ih ⊢
    rw [List.flatMap_cons, List.length_append, List.length_append, ih]
  | invalid first noChar read ih =>
    have here : (utf16EncodeChar replacement).length = 1 := rfl
    unfold encodeUtf16 at ih ⊢
    rw [List.flatMap_cons, List.length_append, List.length_cons, ih, here, Nat.add_comm]

/-- A well-formed source is read as its text. -/
theorem replaced_text {chars read : List Char}
    (replaced : Replaced utf16EncodeChar (encodeUtf16 chars) read) : read = chars := by
  unfold encodeUtf16 at replaced
  induction chars generalizing read with
  | nil =>
    cases replaced' : read with
    | nil => rfl
    | cons first others =>
      have length := replaced_length replaced
      rw [replaced'] at length
      simp only [encodeUtf16, List.flatMap_cons, List.length_append, List.flatMap_nil,
        List.length_nil] at length
      have filled := List.length_pos_iff.mpr (utf16_ne_nil first)
      omega
  | cons char chars ih =>
    rw [List.flatMap_cons] at replaced
    generalize source : utf16EncodeChar char ++ chars.flatMap utf16EncodeChar = units at replaced
    cases replaced with
    | nil => exact absurd (List.append_eq_nil_iff.mp source).1 (utf16_ne_nil char)
    | char other later =>
      obtain ⟨same, rest⟩ := decodes_utf16.cancel source
      rw [← rest] at later
      rw [same, ih later]
    | invalid first noChar later => exact absurd source.symm (noChar char _)

/-- Texts that were read in pieces make up a whole when every piece was one. -/
theorem pieces_whole {pieces : List (List UInt16)} {texts : List (List Char)} {chars : List Char}
    (read : List.Forall₂ (Replaced utf16EncodeChar) pieces texts)
    (whole : pieces.flatten = encodeUtf16 chars) :
    texts.flatten = chars ↔ ∀ piece ∈ pieces, SurrogatesPaired piece := by
  constructor
  · rintro rfl
    induction read with
    | nil => simp
    | @cons piece text pieces texts here later ih =>
      have lengths := replaced_length here
      simp only [encodeUtf16, List.flatten_cons, List.flatMap_append] at whole lengths ih
      obtain ⟨first, rest⟩ := List.append_inj whole lengths.symm
      intro other member
      rcases List.mem_cons.mp member with rfl | among
      · exact surrogates_paired_iff.mpr ⟨text, first⟩
      · exact ih rest other among
  · intro paired
    apply @Decodes.injective _ _ _ decodes_utf16
    change encodeUtf16 texts.flatten = encodeUtf16 chars
    rw [← whole]
    clear whole
    induction read with
    | nil => rfl
    | @cons piece text pieces texts here later ih =>
      obtain ⟨own, split⟩ := surrogates_paired_iff.mp (paired piece List.mem_cons_self)
      have same : text = own := replaced_text (split ▸ here)
      have onward := ih fun other member => paired other (List.mem_cons_of_mem _ member)
      simp only [encodeUtf16, List.flatten_cons, List.flatMap_append] at onward split ⊢
      rw [onward, split, same]

/-- What the calls of a text in pieces have printed, when all of them succeed. -/
theorem pieces_printed {pieces : List (ConsoleText × CallHost)} {calls : List CallResult}
    (returned : pieces.mapM (fun piece => writeConsoleW piece.2 handle (.array piece.1.units)) =
      some calls) (succeeded : ∀ called ∈ calls, called.succeeded = true) :
    ∃ texts, List.Forall₂ (Replaced utf16EncodeChar) (pieces.map fun piece => piece.1.units) texts ∧
      calls.flatMap CallResult.sent = encodeUtf8 texts.flatten := by
  induction pieces generalizing calls with
  | nil =>
    rw [← Option.some.inj returned]
    exact ⟨[], .nil, rfl⟩
  | cons piece pieces ih =>
    rw [List.mapM_cons] at returned
    obtain ⟨called, first, more⟩ := Option.bind_eq_some_iff.mp returned
    obtain ⟨others, rest, same⟩ := Option.bind_eq_some_iff.mp more
    rw [← Option.some.inj same] at succeeded ⊢
    obtain ⟨chars, read, printed⟩ := write_console_printed piece.1 first
    obtain ⟨texts, later, sent⟩ := ih rest fun other member =>
      succeeded other (List.mem_cons_of_mem _ member)
    refine ⟨chars :: texts, .cons read later, ?_⟩
    rw [List.flatMap_cons, sent, (printed.whole (succeeded called List.mem_cons_self)).1,
      List.flatten_cons, encodeUtf8, encodeUtf8, encodeUtf8, List.flatMap_append]

/-- A text that is written to the console in pieces arrives exactly when no piece ends within a
character: a surrogate pair that two calls share is lost. -/
theorem console_text_in_pieces (handle : UInt64) (pieces : List (ConsoleText × CallHost))
    (calls : List CallResult) (chars : List Char)
    (returned : pieces.mapM (fun piece => writeConsoleW piece.2 handle (.array piece.1.units)) =
      some calls) (succeeded : ∀ called ∈ calls, called.succeeded = true)
    (whole : pieces.flatMap (fun piece => piece.1.units) = encodeUtf16 chars) :
    calls.flatMap CallResult.sent = encodeUtf8 chars ↔
      ∀ piece ∈ pieces, SurrogatesPaired piece.1.units := by
  obtain ⟨texts, read, sent⟩ := pieces_printed returned succeeded
  have agree := pieces_whole read whole
  rw [List.forall_mem_map] at agree
  rw [← agree, sent]
  constructor
  · exact @Decodes.injective _ _ _ decodes_utf8 texts.flatten chars
  · exact congrArg encodeUtf8

/-- The standard output of a process without files, which takes everything. -/
def openStream : CallHost := { acquire := fun _ => none, accepts := 100 }

/-- The two halves of U+1F600. -/
def halves : List (ConsoleText × CallHost) :=
  [(⟨[0xd83d], by decide⟩, openStream), (⟨[0xde00], by decide⟩, openStream)]

theorem console_halves_lost :
    [0xef, 0xbf, 0xbd, 0xef, 0xbf, 0xbd] = encodeUtf8 [Char.ofNat 0x1f600] ↔
      ∀ piece ∈ halves, SurrogatesPaired piece.1.units := by
  apply console_text_in_pieces stdoutHandle halves
    [⟨true, none, 1, [0xef, 0xbf, 0xbd]⟩, ⟨true, none, 1, [0xef, 0xbf, 0xbd]⟩] [Char.ofNat 0x1f600]
  · simp [halves, writeConsoleW, target, streamForHandle, openStream, stdoutHandle, isConsole,
      Buffer.isMissing, Buffer.contents, utf16ToUtf8Lossy, utf16ToUtf8With, convert, requiredUnits,
      decodeOrReplace, decodeUtf16, utf8CodepointSize, storeUnits, utf8Bytes, transfer]
  · decide
  · decide

end SadLayer.Files
