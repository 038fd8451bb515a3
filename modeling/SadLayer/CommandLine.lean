import Mathlib.Data.List.TakeWhile
import SadLayer.CodePageRoundTrips
import SadLayer.Library.Run
import SadLayer.Transcoding

/-! The command line of a guest, in 16-bit units and in the bytes of its code page, as the last
text that was accepted left them. -/
namespace SadLayer.CommandLine
open SadLayer.Library SadLayer.Unicode SadLayer.CodePages

/-- `SL_COMMAND_LINE_CAPACITY`. -/
def commandLineCapacity : Nat := 32768

/-- `sl_command_line_a` and `sl_command_line_w`. -/
structure CommandLines where
  ansi : List UInt8 := List.replicate commandLineCapacity 0
  wide : List UInt16 := List.replicate commandLineCapacity 0

/-- An array that is cleared before the text is copied to its start. -/
def cleared (zero : unit) (text : List unit) : List unit :=
  text ++ List.replicate (commandLineCapacity - text.length) zero

/-- The loop over the wide text, after the bytes so far. -/
def ansiBytes (wide : List UInt16) (output : List UInt8) : Except Status (List UInt8) :=
  match wide with
  | [] => .ok output
  | first :: rest =>
    match decodeWideCodepoint (first :: rest) with
    | none => .error .invalidEncoding
    | some (codepoint, consumed) =>
      ansiBytes (rest.drop (consumed - 1))
        (output ++ [(utf16ToSingleByte 1252 codepoint).getD 0x3f])
termination_by wide.length
decreasing_by
  simp only [List.length_drop, List.length_cons]
  omega

/-- What is in memory from a pointer on, as far as there may be memory. -/
structure SourceText where
  memory : List UInt8
  fits : memory.length ≤ ptrdiffMax

/-- The bytes that `strlen` counts. -/
def SourceText.bytes (source : SourceText) : List UInt8 := source.memory.takeWhile (· != 0)

/-- A call of `sl_kernel32_set_command_line_utf8`, its two `calloc` succeeding or not. -/
structure SetCall where
  commandLine : Option SourceText
  wideAllocated : Bool
  ansiAllocated : Bool

/-- `sl_kernel32_set_command_line_utf8`. -/
def setCommandLineUtf8 (lines : CommandLines) (call : SetCall) : CommandLines × Status :=
  match call.commandLine with
  | none => (lines, .invalidArgument)
  | some commandLine =>
    let source := commandLine.bytes
    let sized := utf8ToUtf16 source none
    let wideLength := sized.written.getD 0
    if sized.status ≠ .ok ∨ wideLength ≥ commandLineCapacity then
      (lines, if sized.status = .ok then .bufferTooSmall else sized.status)
    else if call.wideAllocated = false ∨ call.ansiAllocated = false then (lines, .outOfMemory)
    else
      let converted := utf8ToUtf16 source (some wideLength)
      if converted.status = .ok ∧ converted.written.getD 0 = wideLength then
        match ansiBytes converted.stored [] with
        | .error status => (lines, status)
        | .ok ansi => ({ ansi := cleared 0 ansi, wide := cleared 0 converted.stored }, .ok)
      else (lines, converted.status)

/-- What `sl_kernel32_get_command_line_a` and `_w` lead to. -/
def CommandLines.ansiText (lines : CommandLines) : List UInt8 := lines.ansi.takeWhile (· != 0)

def CommandLines.wideText (lines : CommandLines) : List UInt16 := lines.wide.takeWhile (· != 0)

/-! ### One call -/

/-- The byte of a character in the ANSI code page, or a question mark. -/
def ansiByte (char : Char) : UInt8 := (utf16ToSingleByte 1252 char.toNat).getD 0x3f

/-- The two arrays of a text. -/
def linesOf (chars : List Char) : CommandLines where
  ansi := cleared 0 (chars.map ansiByte)
  wide := cleared 0 (encodeUtf16 chars)

/-- A call is given this text, in a length that the arrays hold, and memory to convert it. -/
structure Acceptable (call : SetCall) (chars : List Char) : Prop where
  text : ∃ source, call.commandLine = some source ∧ source.bytes = encodeUtf8 chars
  short : (encodeUtf16 chars).length < commandLineCapacity
  allocated : call.wideAllocated = true ∧ call.ansiAllocated = true

/-- What a call may come to. -/
inductive SetOutcome (lines : CommandLines) (call : SetCall) : CommandLines × Status → Prop where
  | accepted (chars : List Char) (acceptable : Acceptable call chars) :
      SetOutcome lines call (linesOf chars, .ok)
  | refused (status : Status) (failed : status ≠ .ok) (never : ∀ chars, ¬ Acceptable call chars) :
      SetOutcome lines call (lines, status)

theorem ansi_bytes_text (chars : List Char) (output : List UInt8) :
    ansiBytes (encodeUtf16 chars) output = .ok (output ++ chars.map ansiByte) := by
  induction chars generalizing output with
  | nil => simp [encodeUtf16, ansiBytes]
  | cons char rest ih =>
    obtain ⟨first, tail, split, decoded, dropped⟩ :=
      @Decodes.next _ _ _ false decodes_utf16 char (encodeUtf16 rest)
    have known : decodeWideCodepoint (first :: tail) =
        some (char.toNat, (utf16EncodeChar char).length) := by
      have here := decodes_utf16.char char (encodeUtf16 rest)
      rwa [split] at here
    rw [encodeUtf16, List.flatMap_cons, ← encodeUtf16, split, ansiBytes, known]
    simp only [dropped, ih, List.map_cons, List.append_assoc, List.singleton_append]
    rfl

theorem Acceptable.unique {call : SetCall} {source : SourceText} {chars other : List Char}
    (given : call.commandLine = some source) (text : source.bytes = encodeUtf8 chars)
    (acceptable : Acceptable call other) : other = chars := by
  obtain ⟨source', given', text'⟩ := acceptable.text
  rw [given, Option.some_inj] at given'
  subst given'
  exact decodes_utf8.injective (text'.symm.trans text)

/-- A call accepts an acceptable text, and leaves all as it was otherwise. -/
theorem set_command_line_outcome (lines : CommandLines) (call : SetCall) :
    SetOutcome lines call (setCommandLineUtf8 lines call) := by
  unfold setCommandLineUtf8
  cases given : call.commandLine with
  | none =>
    refine .refused _ nofun fun chars acceptable => ?_
    obtain ⟨source, given', -⟩ := acceptable.text
    rw [given] at given'
    contradiction
  | some source =>
    have fits : source.bytes.length ≤ ptrdiffMax :=
      (List.takeWhile_sublist _).length_le.trans source.fits
    dsimp only
    obtain ⟨chars, text, bounded⟩ | ⟨notText, refused⟩ := utf8_to_utf16_strict source.bytes fits
    · rw [text, utf8_to_utf16_size chars bounded]
      by_cases long : (encodeUtf16 chars).length ≥ commandLineCapacity
      · simp only [Option.getD_some, long, or_true, if_true]
        refine .refused _ nofun fun other acceptable => ?_
        rw [Acceptable.unique given text acceptable] at acceptable
        exact absurd acceptable.short (Nat.not_lt.mpr long)
      rw [if_neg (by simpa using long)]
      by_cases poor : call.wideAllocated = false ∨ call.ansiAllocated = false
      · rw [if_pos poor]
        refine .refused _ nofun fun other acceptable => ?_
        simp [acceptable.allocated] at poor
      · rw [if_neg poor, Option.getD_some, utf8_to_utf16_text chars bounded le_rfl]
        simp only [Option.getD_some, and_self, if_true, ansi_bytes_text, List.nil_append]
        refine .accepted chars ⟨⟨source, given, text⟩, by omega, ?_⟩
        simpa using poor
    · rw [refused none, if_pos (by simp), if_neg (by simp)]
      refine .refused _ nofun fun chars acceptable => ?_
      obtain ⟨source', given', text⟩ := acceptable.text
      rw [given, Option.some_inj] at given'
      subst given'
      exact notText ⟨chars, text⟩

/-! ### What is read -/

theorem take_while_cleared [DecidableEq unit] {zero : unit} {text : List unit}
    (filled : zero ∉ text) (short : text.length < commandLineCapacity) :
    (cleared zero text).takeWhile (· != zero) = text := by
  obtain ⟨more, same⟩ := Nat.exists_eq_add_of_lt short
  have rest : commandLineCapacity - text.length = more + 1 := by omega
  rw [cleared, rest, List.replicate_succ, List.takeWhile_append_of_pos]
  · simp
  · intro unit member
    simp
    rintro rfl
    exact filled member

theorem ansi_byte_ne_zero {char : Char} (filled : char ≠ '\u0000') : ansiByte char ≠ 0 := by
  have value : char.toNat ≠ 0 := fun zero => filled (Char.toNat_inj.mp zero)
  unfold ansiByte utf16ToSingleByte
  split
  · rw [Option.getD_some, ← UInt8.toNat_inj.ne, UInt8.toNat_ofNat']
    simp
    omega
  rw [if_neg (by decide)]
  split
  · rw [Option.getD_some, ← UInt8.toNat_inj.ne, UInt8.toNat_ofNat']
    simp
    omega
  · cases found : findExtension cp1252Extension char.toNat with
    | none => simp
    | some byte =>
      obtain ⟨index, -, value, -⟩ := find_extension_some (by decide) found
      rintro rfl
      simp at value

theorem wide_codepoints_text (chars : List Char) :
    wideCodepoints (encodeUtf16 chars) = chars.map fun char => some char.toNat := by
  induction chars with
  | nil => simp [encodeUtf16, wideCodepoints]
  | cons char rest ih =>
    obtain ⟨first, tail, split, decoded, dropped⟩ :=
      @Decodes.next _ _ _ false decodes_utf16 char (encodeUtf16 rest)
    have known : decodeWideCodepoint (first :: tail) =
        some (char.toNat, (utf16EncodeChar char).length) := by
      have here := decodes_utf16.char char (encodeUtf16 rest)
      rwa [split] at here
    rw [encodeUtf16, List.flatMap_cons, ← encodeUtf16, split, wide_codepoints_cons, known]
    simp only [dropped, ih, List.map_cons]

theorem text_length_le (chars : List Char) : chars.length ≤ (encodeUtf16 chars).length := by
  have counted := wide_codepoints_length_le (encodeUtf16 chars)
  rwa [wide_codepoints_text, List.length_map] at counted

variable {chars : List Char}

theorem wide_text_eq (filled : '\u0000' ∉ chars)
    (short : (encodeUtf16 chars).length < commandLineCapacity) :
    (linesOf chars).wideText = encodeUtf16 chars :=
  take_while_cleared ((@ascii_mem_utf16 '\u0000' chars (by decide)).not.mpr filled) short

theorem ansi_text_eq (filled : '\u0000' ∉ chars)
    (short : (encodeUtf16 chars).length < commandLineCapacity) :
    (linesOf chars).ansiText = chars.map ansiByte := by
  have fewer := text_length_le chars
  apply take_while_cleared
  · intro member
    obtain ⟨char, among, zero⟩ := List.mem_map.mp member
    exact ansi_byte_ne_zero (fun null => filled (null ▸ among)) zero
  · simp only [List.length_map]
    omega

/-- What a conversion reads of a text in the array, up to its terminator. -/
theorem wide_read (filled : '\u0000' ∉ chars)
    (short : (encodeUtf16 chars).length < commandLineCapacity) :
    sourceLengthOf 0 (some (linesOf chars).wide) (-1) = .ok ((encodeUtf16 chars).length + 1) ∧
      (linesOf chars).wide.take ((encodeUtf16 chars).length + 1) =
        encodeUtf16 (chars ++ ['\u0000']) := by
  have text := wide_text_eq filled short
  constructor
  · rw [CommandLines.wideText] at text
    unfold sourceLengthOf
    dsimp only
    rw [if_neg (by decide), if_pos rfl, text, if_neg]
    have small : commandLineCapacity ≤ int32Max := by decide
    omega
  · obtain ⟨more, same⟩ := Nat.exists_eq_add_of_lt short
    have rest : commandLineCapacity - (encodeUtf16 chars).length = more + 1 := by omega
    change (cleared 0 (encodeUtf16 chars)).take _ = _
    rw [cleared, rest, List.replicate_succ, encode_utf16_append, List.take_append,
      List.take_of_length_le (by omega), Nat.add_sub_cancel_left]
    rfl

theorem arguments_accepted_holds {page : UInt32} {count : Nat} {destination : Destination}
    (known : page = 1252 ∨ page = cpUtf8) (holds : destination.Holds count) :
    argumentsAccepted page destination = true := by
  obtain ⟨present, apart, room⟩ := holds
  have nonneg : ¬ destination.capacity < 0 := by omega
  rcases known with rfl | rfl <;> simp [argumentsAccepted, present, apart, nonneg]

/-- Converted to UTF-8, the wide text is the text that was set. -/
theorem wide_converts_back (filled : '\u0000' ∉ chars)
    (short : (encodeUtf16 chars).length < commandLineCapacity) {destination : Destination}
    (holds : destination.Holds ((encodeUtf8 chars).length + 1)) :
    (wideCharToMultiByte cpUtf8 0 (some (linesOf chars).wide) (-1) destination none false).stored =
      encodeUtf8 chars ++ [0] := by
  obtain ⟨counted, read⟩ := wide_read filled short
  have whole : encodeUtf8 (chars ++ ['\u0000']) = encodeUtf8 chars ++ [0] :=
    encode_utf8_append chars ['\u0000']
  have small : 3 * commandLineCapacity + 1 ≤ int32Max ∧ 3 * commandLineCapacity + 1 ≤ uint64Max := by
    decide
  have bounded := encode_utf8_length_le chars
  have length : (encodeUtf8 (chars ++ ['\u0000'])).length = (encodeUtf8 chars).length + 1 := by
    rw [whole, List.length_append, List.length_singleton]
  have sized : utf16ToUtf8With true (encodeUtf16 (chars ++ ['\u0000'])) none =
      { status := .ok, written := some ((encodeUtf8 chars).length + 1) } := by
    rw [← length]
    exact convert_text_size utf8Bytes decodes_utf16 utf8_size_char _ (by rw [← encodeUtf8]; omega)
  have converted : utf16ToUtf8With true (encodeUtf16 (chars ++ ['\u0000']))
      (some destination.capacity.toNat) = {
        status := .ok
        written := some ((encodeUtf8 chars).length + 1)
        stored := encodeUtf8 chars ++ [0] } := by
    rw [← length, ← whole]
    exact convert_text decodes_utf16 utf8_size_char utf8_bytes_char _
      (by rw [← encodeUtf8]; omega) (by rw [← encodeUtf8]; have := holds.2.2; omega)
  simp only [wideCharToMultiByte, show normalizeCodePage cpUtf8 = cpUtf8 by decide,
    show (0 &&& wcErrInvalidChars == 0) = true by decide,
    arguments_accepted_holds (.inr rfl) holds, counted, Option.getD_some, read]
  rw [if_neg (by decide), if_neg (by simp), if_pos trivial]
  simp only [convertUtf8, sized, converted, Option.getD_some]
  rw [if_neg (by simp), if_neg (by simp), finish_conversion (by omega) (by omega) holds]

/-- The bytes are what the code page makes of the wide text. -/
theorem wide_converts_to_ansi (filled : '\u0000' ∉ chars)
    (short : (encodeUtf16 chars).length < commandLineCapacity) {destination : Destination}
    (holds : destination.Holds (chars.length + 1)) (wantsUsedDefault : Bool) :
    (wideCharToMultiByte cpAcp 0 (some (linesOf chars).wide) (-1) destination none
      wantsUsedDefault).stored = (linesOf chars).ansiText ++ [0] := by
  obtain ⟨counted, read⟩ := wide_read filled short
  have small : commandLineCapacity ≤ int32Max := by decide
  have fewer := text_length_le chars
  simp only [wideCharToMultiByte, show normalizeCodePage cpAcp = 1252 by decide,
    arguments_accepted_holds (.inl rfl) holds, counted, Option.getD_some, read,
    wide_codepoints_text, List.length_map, List.length_append, List.length_singleton]
  rw [if_neg (by decide), if_neg (by simp [cpUtf8]), if_neg (by decide),
    finish_conversion (by omega) (by omega) holds, ansi_text_eq filled short]
  simp [ansiByte, Function.comp_def, utf16ToSingleByte]

/-! ### Runs -/

/-- What a guest reads of a text: its units and its bytes, which the conversions make of each
other and of the text. -/
structure Shows (lines : CommandLines) (chars : List Char) : Prop where
  wide : lines.wideText = encodeUtf16 chars
  ansi : lines.ansiText = chars.map ansiByte
  back : ∀ destination : Destination, destination.Holds ((encodeUtf8 chars).length + 1) →
    (wideCharToMultiByte cpUtf8 0 (some lines.wide) (-1) destination none false).stored =
      encodeUtf8 chars ++ [0]
  same : ∀ destination : Destination, destination.Holds (chars.length + 1) →
    (wideCharToMultiByte cpAcp 0 (some lines.wide) (-1) destination none false).stored =
      lines.ansiText ++ [0]

theorem Acceptable.shows {call : SetCall} (acceptable : Acceptable call chars) :
    Shows (linesOf chars) chars := by
  obtain ⟨⟨source, -, text⟩, short, -⟩ := acceptable
  have filled : '\u0000' ∉ chars := by
    intro member
    have null : 0 ∈ source.bytes := by
      rw [text]
      exact (@ascii_mem_utf8 '\u0000' chars (by decide)).mpr member
    simpa using List.mem_takeWhile_imp null
  exact ⟨wide_text_eq filled short, ansi_text_eq filled short,
    fun _ holds => wide_converts_back filled short holds,
    fun _ holds => wide_converts_to_ansi filled short holds false⟩

/-- The text is that of the last call that was accepted, or none was. -/
def LastAccepted (trace : List (SetCall × Status)) (lines : CommandLines) : Prop :=
  (lines = {} ∧ ∀ entry ∈ trace, entry.2 ≠ .ok) ∨
    ∃ chars before call after, trace = before ++ (call, .ok) :: after ∧ Acceptable call chars ∧
      (∀ entry ∈ after, entry.2 ≠ .ok) ∧ lines = linesOf chars

theorem last_accepted_step {trace : List (SetCall × Status)} {lines : CommandLines}
    (last : LastAccepted trace lines) (call : SetCall) :
    LastAccepted (trace ++ [(call, (setCommandLineUtf8 lines call).2)])
      (setCommandLineUtf8 lines call).1 := by
  have outcome := set_command_line_outcome lines call
  generalize setCommandLineUtf8 lines call = after at outcome
  cases outcome with
  | accepted chars acceptable =>
    exact .inr ⟨chars, trace, call, [], rfl, acceptable, by simp, rfl⟩
  | refused status failed never =>
    rcases last with ⟨initial, none'⟩ | ⟨chars, before, call', later, rfl, acceptable, none', same⟩
    · refine .inl ⟨initial, fun entry member => ?_⟩
      rcases List.mem_append.mp member with earlier | new
      · exact none' entry earlier
      · rw [List.mem_singleton.mp new]
        exact failed
    · refine .inr ⟨chars, before, call', later ++ [(call, status)], by simp, acceptable, ?_, same⟩
      intro entry member
      rcases List.mem_append.mp member with earlier | new
      · exact none' entry earlier
      · rw [List.mem_singleton.mp new]
        exact failed

/-- After any calls, a text was accepted where it is UTF-8 that fits and memory was there, and the
guest reads the last of them: its UTF-16 and its bytes in the code page, which `WideCharToMultiByte`
takes for the text that was set and for each other. -/
theorem command_line_kept (calls : List SetCall) :
    (∀ entry ∈ (run setCommandLineUtf8 {} calls).trace,
      entry.2 = .ok ↔ ∃ chars, Acceptable entry.1 chars) ∧
    (((run setCommandLineUtf8 {} calls).state = {} ∧
        ∀ entry ∈ (run setCommandLineUtf8 {} calls).trace, entry.2 ≠ .ok) ∨
      ∃ chars before call after,
        (run setCommandLineUtf8 {} calls).trace = before ++ (call, .ok) :: after ∧
        Acceptable call chars ∧ (∀ entry ∈ after, entry.2 ≠ .ok) ∧
        Shows (run setCommandLineUtf8 {} calls).state chars) := by
  constructor
  · apply run_invariant setCommandLineUtf8 fun trace _ => ∀ entry ∈ trace,
      entry.2 = .ok ↔ ∃ chars, Acceptable entry.1 chars
    · simp
    · intro trace lines call earlier entry member
      rcases List.mem_append.mp member with old | new
      · exact earlier entry old
      rw [List.mem_singleton.mp new]
      have outcome := set_command_line_outcome lines call
      generalize setCommandLineUtf8 lines call = after at outcome
      cases outcome with
      | accepted chars acceptable => exact iff_of_true rfl ⟨chars, acceptable⟩
      | refused status failed never => exact iff_of_false failed fun ⟨chars, may⟩ => never chars may
  · have last : LastAccepted (run setCommandLineUtf8 {} calls).trace
        (run setCommandLineUtf8 {} calls).state := by
      apply run_invariant setCommandLineUtf8 LastAccepted
      · exact .inl ⟨rfl, by simp⟩
      · exact fun trace lines call last => last_accepted_step last call
    refine last.imp_right ?_
    rintro ⟨chars, before, call, after, traced, acceptable, none', same⟩
    exact ⟨chars, before, call, after, traced, acceptable, none', same ▸ acceptable.shows⟩

/-- A line with a letter of two bytes. -/
def typedLine : SetCall where
  commandLine := some ⟨[0x72, 0x75, 0x6e, 0x20, 0xc3, 0xa9, 0], by decide +kernel⟩
  wideAllocated := true
  ansiAllocated := true

/-- A line that ends within such a letter. -/
def brokenLine : SetCall where
  commandLine := some ⟨[0x72, 0x75, 0x6e, 0x20, 0xc3, 0], by decide +kernel⟩
  wideAllocated := true
  ansiAllocated := true

theorem typed_line_kept :
    (run setCommandLineUtf8 {} [typedLine, brokenLine]).trace =
        [(typedLine, .ok), (brokenLine, .invalidEncoding)] ∧
      Shows (run setCommandLineUtf8 {} [typedLine, brokenLine]).state "run é".toList := by
  have statuses : (run setCommandLineUtf8 {} [typedLine, brokenLine]).trace.map Prod.snd =
      [.ok, .invalidEncoding] := by decide +kernel
  have traced : (run setCommandLineUtf8 {} [typedLine, brokenLine]).trace =
      [(typedLine, .ok), (brokenLine, .invalidEncoding)] := by
    obtain ⟨accepted, refused⟩ := List.cons.inj statuses
    exact congrArg₂ List.cons (congrArg (Prod.mk typedLine) accepted)
      (congrArg (fun status => [(brokenLine, status)]) (List.cons.inj refused).1)
  refine ⟨traced, ?_⟩
  obtain ⟨-, ⟨-, none'⟩ | ⟨chars, before, call, after, split, acceptable, -, shows'⟩⟩ :=
    command_line_kept [typedLine, brokenLine]
  · exact absurd rfl (none' (typedLine, .ok) (traced ▸ List.mem_cons_self))
  · have member : (call, Status.ok) ∈ [(typedLine, .ok), (brokenLine, .invalidEncoding)] := by
      rw [← traced, split]
      simp
    obtain rfl : call = typedLine := by simpa using member
    obtain rfl : chars = "run é".toList := Acceptable.unique rfl (by decide +kernel) acceptable
    exact shows'

end SadLayer.CommandLine
