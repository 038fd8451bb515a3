import Mathlib.Data.List.GetD
import Mathlib.Data.List.TakeWhile
import SadLayer.Module

/-! The grammar of forwarders, `module.symbol` or `module.#ordinal`. The parser
leaves ordinals to `strtoul`, whose numbers may have white space and a sign in
front: just there it accepts more than the grammar has. -/
namespace SadLayer.Module
open SadLayer.Library SadLayer.Pe

variable {text before after spaces sign digits forwarder moduleName symbol : CString}
  {separator : UInt8} {value capacity buffer : Nat} {bytes : Nat → UInt8}

/-! ### The last separator -/

theorem split_last_none (absent : splitLast separator text = none) : separator ∉ text := by
  induction text with
  | nil => exact List.not_mem_nil
  | cons first rest ih =>
    rw [splitLast] at absent
    split at absent
    · cases absent
    · rename_i tail
      split at absent
      · cases absent
      · rename_i differs
        intro member
        rcases List.mem_cons.mp member with same | later
        · exact differs same.symm
        · exact ih tail later

theorem split_last_ok (split : splitLast separator text = some (before, after)) :
    text = before ++ separator :: after ∧ separator ∉ after := by
  induction text generalizing before with
  | nil => cases split
  | cons first rest ih =>
    rw [splitLast] at split
    split at split
    · rename_i head tail found
      cases split
      obtain ⟨whole, last⟩ := ih found
      exact ⟨by rw [whole, List.cons_append], last⟩
    · rename_i absent
      split at split
      · rename_i same
        cases split
        exact ⟨by rw [same, List.nil_append], split_last_none absent⟩
      · cases split

theorem split_last_at (last : separator ∉ after) :
    splitLast separator (before ++ separator :: after) = some (before, after) := by
  induction before with
  | nil =>
    rw [List.nil_append, splitLast]
    cases found : splitLast separator after with
    | none => exact if_pos rfl
    | some parts =>
      obtain ⟨whole, -⟩ := split_last_ok found
      refine absurd ?_ last
      rw [whole]
      exact List.mem_append_right _ List.mem_cons_self
  | cons first rest ih => rw [List.cons_append, splitLast, ih]

/-! ### Numbers -/

theorem is_space_iff {character : UInt8} : isSpace character = true ↔
    character.toNat = 0x20 ∨ (0x09 ≤ character.toNat ∧ character.toNat ≤ 0x0d) := by
  simp only [isSpace, Bool.or_eq_true, Bool.and_eq_true, beq_iff_eq, decide_eq_true_eq,
    UInt8.le_iff_toNat_le, ← UInt8.toNat_inj]
  rfl

theorem is_digit_iff {character : UInt8} :
    isDigit character = true ↔ 0x30 ≤ character.toNat ∧ character.toNat ≤ 0x39 := by
  simp only [isDigit, Bool.and_eq_true, decide_eq_true_eq, UInt8.le_iff_toNat_le]
  rfl

/-- What `strtoul` takes for a number: white space, a sign, and digits that do not overflow. -/
structure Number (text spaces sign digits : CString) : Prop where
  whole : text = spaces ++ (sign ++ digits)
  white : ∀ character ∈ spaces, isSpace character = true
  signed : sign = [] ∨ sign = [0x2b] ∨ sign = [0x2d]
  present : digits ≠ []
  decimal : ∀ character ∈ digits, isDigit character = true
  range : decimalValue digits ≤ uint64Max

/-- A minus sign negates modulo `2^64`. -/
def signedValue (sign digits : CString) : Nat :=
  if sign = [0x2d] then (2 ^ 64 - decimalValue digits) % 2 ^ 64 else decimalValue digits

/-- The sign that `strtoul` takes off, and whether it negates. -/
def takeSign (text : CString) : Bool × CString :=
  match text with
  | 0x2d :: rest => (true, rest)
  | 0x2b :: rest => (false, rest)
  | _ => (false, text)

theorem strtoul_eq (text : CString) : strtoul text =
    if (takeSign (text.dropWhile isSpace)).2.takeWhile isDigit = [] then some (0, text)
    else if decimalValue ((takeSign (text.dropWhile isSpace)).2.takeWhile isDigit) > uint64Max then
      none
    else some (if (takeSign (text.dropWhile isSpace)).1
      then (2 ^ 64 - decimalValue ((takeSign (text.dropWhile isSpace)).2.takeWhile isDigit)) % 2 ^ 64
      else decimalValue ((takeSign (text.dropWhile isSpace)).2.takeWhile isDigit),
      (takeSign (text.dropWhile isSpace)).2.dropWhile isDigit) := rfl

theorem take_sign_split (text : CString) :
    ∃ sign, text = sign ++ (takeSign text).2 ∧ (sign = [] ∨ sign = [0x2b] ∨ sign = [0x2d]) ∧
      ((takeSign text).1 = true ↔ sign = [0x2d]) := by
  unfold takeSign
  split
  · rename_i rest
    exact ⟨[0x2d], rfl, .inr (.inr rfl), by simp⟩
  · rename_i rest
    exact ⟨[0x2b], rfl, .inr (.inl rfl), by simp⟩
  · exact ⟨[], rfl, .inl rfl, by simp⟩

/-- A sign in front of a digit is the one that is taken off. -/
theorem take_sign_of (signed : sign = [] ∨ sign = [0x2b] ∨ sign = [0x2d]) (present : digits ≠ [])
    (decimal : ∀ character ∈ digits, isDigit character = true) :
    takeSign (sign ++ digits) = (decide (sign = [0x2d]), digits) := by
  rcases signed with rfl | rfl | rfl
  · obtain ⟨first, rest, rfl⟩ := List.exists_cons_of_ne_nil present
    have digit := is_digit_iff.mp (decimal first List.mem_cons_self)
    rw [List.nil_append]
    unfold takeSign
    split
    · rename_i same
      cases same
      exact absurd digit.1 (by decide)
    · rename_i same
      cases same
      exact absurd digit.1 (by decide)
    · rfl
  · rfl
  · rfl

/-- What is accepted to its end is a number. -/
theorem number_of_strtoul (read : strtoul text = some (value, [])) (present : text ≠ []) :
    ∃ spaces sign digits, Number text spaces sign digits ∧ value = signedValue sign digits := by
  rw [strtoul_eq] at read
  obtain ⟨sign, split, signed, negative⟩ := take_sign_split (text.dropWhile isSpace)
  generalize takeSign (text.dropWhile isSpace) = taken at read split negative
  obtain ⟨negates, unsigned⟩ := taken
  dsimp only at read split negative
  split at read
  · cases read
    exact absurd rfl present
  rename_i some'
  split at read
  · cases read
  rename_i range
  simp only [Option.some.injEq, Prod.mk.injEq] at read
  obtain ⟨rfl, ended⟩ := read
  have decimal := List.dropWhile_eq_nil_iff.mp ended
  have whole : unsigned.takeWhile isDigit = unsigned :=
    List.takeWhile_eq_self_iff.mpr decimal
  rw [whole] at some' range ⊢
  refine ⟨text.takeWhile isSpace, sign, unsigned, {
    whole := by rw [← split, List.takeWhile_append_dropWhile]
    white := fun character member => List.mem_takeWhile_imp member
    signed := signed
    present := some'
    decimal := decimal
    range := by omega }, ?_⟩
  unfold signedValue
  split
  · rw [if_pos (negative.mp ‹_›)]
  · rw [if_neg fun minus => absurd (negative.mpr minus) ‹_›]

theorem strtoul_of_number (number : Number text spaces sign digits) :
    strtoul text = some (signedValue sign digits, []) := by
  obtain ⟨whole, white, signed, present, decimal, range⟩ := number
  have trimmed : text.dropWhile isSpace = sign ++ digits := by
    rw [whole, List.dropWhile_append_of_pos white]
    have notWhite : ∀ first rest, sign ++ digits = first :: rest → isSpace first = false := by
      intro first rest begins
      rw [Bool.eq_false_iff, ne_eq, is_space_iff]
      rcases signed with rfl | rfl | rfl
      · rw [List.nil_append] at begins
        have digit := is_digit_iff.mp (decimal first (by rw [begins]; exact List.mem_cons_self))
        omega
      · cases begins
        decide
      · cases begins
        decide
    cases begins : sign ++ digits with
    | nil => rfl
    | cons first rest => rw [List.dropWhile_cons_of_neg (by rw [notWhite first rest begins]; simp)]
  have taken : digits.takeWhile isDigit = digits := List.takeWhile_eq_self_iff.mpr decimal
  have ended : digits.dropWhile isDigit = [] := List.dropWhile_eq_nil_iff.mpr decimal
  rw [strtoul_eq, trimmed, take_sign_of signed present decimal]
  dsimp only
  rw [taken, ended, if_neg present, if_neg (by omega)]
  simp [signedValue]

/-! ### The grammar -/

/-- A name that ends in `.dll`, in letters of either case. -/
def EndsInDll (name : CString) : Prop :=
  ∃ stem suffix, name = stem ++ suffix ∧ suffix.map asciiFold = dllSuffix

/-- What a forwarder of the grammar says, whose module part is this one. -/
structure Denotes (forwarder moduleName : CString) (capacity : Nat) (forward : Forward) : Prop where
  whole : forwarder = moduleName ++ 0x2e :: forward.symbol
  last : 0x2e ∉ forward.symbol
  module : moduleName ≠ []
  symbol : forward.symbol ≠ []
  suffixed : EndsInDll moduleName → forward.moduleName = moduleName
  completed : ¬ EndsInDll moduleName → forward.moduleName = moduleName ++ dllSuffix
  fits : forward.moduleName.length + 1 ≤ capacity
  ordinal : ∀ digits, forward.symbol = 0x23 :: digits →
    digits ≠ [] ∧ (∀ character ∈ digits, isDigit character = true) ∧
      decimalValue digits ≤ uint32Max ∧ forward.ordinal = decimalValue digits ∧
      forward.byOrdinal = true
  name : (∀ digits, forward.symbol ≠ 0x23 :: digits) →
    forward.ordinal = 0 ∧ forward.byOrdinal = false

/-- An ordinal with white space or a sign in front, which `strtoul` makes a 32-bit number of. -/
structure Lenient (forwarder : CString) (capacity : Nat) (moduleName spaces sign digits : CString) :
    Prop where
  whole : forwarder = moduleName ++ 0x2e :: 0x23 :: (spaces ++ (sign ++ digits))
  module : moduleName ≠ []
  fits : (forwardedModule moduleName).length + 1 ≤ capacity
  number : Number (spaces ++ (sign ++ digits)) spaces sign digits
  inFront : spaces ++ sign ≠ []
  narrow : signedValue sign digits ≤ uint32Max

theorem has_dll_suffix_iff (name : CString) : hasDllSuffix name = true ↔ EndsInDll name := by
  unfold hasDllSuffix EndsInDll
  simp only [Bool.and_eq_true, decide_eq_true_eq, beq_iff_eq]
  constructor
  · rintro ⟨-, suffix⟩
    exact ⟨name.take (name.length - 4), name.drop (name.length - 4),
      (List.take_append_drop _ _).symm, suffix⟩
  · rintro ⟨stem, suffix, rfl, same⟩
    have four : suffix.length = 4 := by
      have lengths := congrArg List.length same
      rwa [List.length_map] at lengths
    rw [List.length_append, four, Nat.add_sub_cancel, List.drop_left]
    exact ⟨by omega, same⟩

theorem parse_ordinal_hash {ordinal : Nat} {byOrdinal : Bool} :
    parseOrdinal (0x23 :: text) = .ok (ordinal, byOrdinal) ↔
      byOrdinal = true ∧ ∃ spaces sign digits, Number text spaces sign digits ∧
        signedValue sign digits ≤ uint32Max ∧ ordinal = signedValue sign digits := by
  constructor
  · intro parsed
    rw [parseOrdinal] at parsed
    split at parsed
    · cases parsed
    rename_i value rest read
    split at parsed
    · cases parsed
    rename_i accepted
    cases parsed
    obtain ⟨present, ended, narrow⟩ : text ≠ [] ∧ rest = [] ∧ ordinal ≤ uint32Max := by
      refine ⟨fun empty => accepted (.inl empty), ?_, ?_⟩
      · by_contra more
        exact accepted (.inr (.inl more))
      · exact Nat.le_of_not_lt fun large => accepted (.inr (.inr large))
    rw [ended] at read
    obtain ⟨spaces, sign, digits, number, same⟩ := number_of_strtoul read present
    exact ⟨rfl, spaces, sign, digits, number, same ▸ narrow, same⟩
  · rintro ⟨rfl, spaces, sign, digits, number, narrow, rfl⟩
    have present : text ≠ [] := by
      rw [number.whole]
      simp [number.present]
    rw [parseOrdinal, strtoul_of_number number]
    exact if_neg (by simp [present, Nat.not_lt.mpr narrow])

theorem parse_ordinal_name {symbol : CString} (plain : ∀ digits, symbol ≠ 0x23 :: digits) :
    parseOrdinal symbol = .ok (0, false) := by
  unfold parseOrdinal
  split
  · rename_i digits
    exact absurd rfl (plain digits)
  · rfl

theorem parse_forwarder_ok {forward : Forward} :
    parseForwarder forwarder capacity = .ok forward ↔
      ∃ moduleName, forwarder = moduleName ++ 0x2e :: forward.symbol ∧ 0x2e ∉ forward.symbol ∧
        moduleName ≠ [] ∧ forward.symbol ≠ [] ∧ forward.moduleName = forwardedModule moduleName ∧
        forward.moduleName.length + 1 ≤ capacity ∧
        parseOrdinal forward.symbol = .ok (forward.ordinal, forward.byOrdinal) := by
  constructor
  · intro parsed
    unfold parseForwarder at parsed
    split at parsed
    · cases parsed
    rename_i moduleName symbol split'
    obtain ⟨whole, last⟩ := split_last_ok split'
    split at parsed
    · cases parsed
    rename_i present
    split at parsed
    · cases parsed
    rename_i fits
    split at parsed
    · cases parsed
    rename_i ordinal byOrdinal read
    cases parsed
    exact ⟨moduleName, whole, last, fun empty => present (.inl empty),
      fun empty => present (.inr empty), rfl, Nat.le_of_not_lt fits, read⟩
  · rintro ⟨moduleName, whole, last, module, symbol, named, fits, read⟩
    unfold parseForwarder
    rw [whole, split_last_at last]
    dsimp only
    rw [if_neg (not_or.mpr ⟨module, symbol⟩), ← named, if_neg (Nat.not_lt.mpr fits), read]

theorem forwarded_module_of_ends (ends : EndsInDll moduleName) :
    forwardedModule moduleName = moduleName := if_pos ((has_dll_suffix_iff moduleName).mpr ends)

theorem forwarded_module_of_not_ends (other : ¬ EndsInDll moduleName) :
    forwardedModule moduleName = moduleName ++ dllSuffix :=
  if_neg fun ends => other ((has_dll_suffix_iff moduleName).mp ends)

/-- No dot is among what `strtoul` takes. -/
theorem number_dotless (number : Number text spaces sign digits) : 0x2e ∉ text := by
  obtain ⟨whole, white, signed, -, decimal, -⟩ := number
  have dot : (0x2e : UInt8).toNat = 46 := rfl
  intro member
  rw [whole] at member
  rcases List.mem_append.mp member with front | rest
  · have space := is_space_iff.mp (white _ front)
    omega
  rcases List.mem_append.mp rest with front | back
  · rcases signed with rfl | rfl | rfl
    · exact absurd front List.not_mem_nil
    · exact absurd (List.mem_singleton.mp front) (by decide)
    · exact absurd (List.mem_singleton.mp front) (by decide)
  · have digit := is_digit_iff.mp (decimal _ back)
    omega

/-- Digits alone are a number that is its value. -/
theorem number_of_digits (present : digits ≠ [])
    (decimal : ∀ character ∈ digits, isDigit character = true)
    (narrow : decimalValue digits ≤ uint32Max) : Number digits [] [] digits where
  whole := rfl
  white := fun character member => absurd member List.not_mem_nil
  signed := .inl rfl
  present := present
  decimal := decimal
  range := narrow.trans (by decide)

/-- What the grammar has is accepted, with what it says. -/
theorem parse_of_denotes {forward : Forward}
    (denotes : Denotes forwarder moduleName capacity forward) :
    parseForwarder forwarder capacity = .ok forward := by
  refine parse_forwarder_ok.mpr ⟨moduleName, denotes.whole, denotes.last, denotes.module,
    denotes.symbol, ?_, denotes.fits, ?_⟩
  · by_cases ends : EndsInDll moduleName
    · rw [denotes.suffixed ends, forwarded_module_of_ends ends]
    · rw [denotes.completed ends, forwarded_module_of_not_ends ends]
  · by_cases hash : ∃ digits, forward.symbol = 0x23 :: digits
    · obtain ⟨digits, symbol⟩ := hash
      obtain ⟨present, decimal, narrow, ordinal, byOrdinal⟩ := denotes.ordinal digits symbol
      rw [symbol]
      exact parse_ordinal_hash.mpr ⟨byOrdinal, [], [], digits,
        number_of_digits present decimal narrow, narrow, ordinal⟩
    · have plain : ∀ digits, forward.symbol ≠ 0x23 :: digits :=
        fun digits same => hash ⟨digits, same⟩
      obtain ⟨ordinal, byOrdinal⟩ := denotes.name plain
      rw [parse_ordinal_name plain, ordinal, byOrdinal]

/-- What is accepted is in the grammar, or its ordinal has something in front. -/
theorem denotes_or_lenient {forward : Forward}
    (parsed : parseForwarder forwarder capacity = .ok forward) :
    (∃ moduleName, Denotes forwarder moduleName capacity forward) ∨
      ∃ moduleName spaces sign digits, Lenient forwarder capacity moduleName spaces sign digits := by
  obtain ⟨moduleName, whole, last, module, present, named, fits, read⟩ :=
    parse_forwarder_ok.mp parsed
  have denotes (ordinal : ∀ digits, forward.symbol = 0x23 :: digits →
        digits ≠ [] ∧ (∀ character ∈ digits, isDigit character = true) ∧
          decimalValue digits ≤ uint32Max ∧ forward.ordinal = decimalValue digits ∧
          forward.byOrdinal = true)
      (name : (∀ digits, forward.symbol ≠ 0x23 :: digits) →
        forward.ordinal = 0 ∧ forward.byOrdinal = false) :
      Denotes forwarder moduleName capacity forward := {
    whole := whole
    last := last
    module := module
    symbol := present
    suffixed := fun ends => by rw [named, forwarded_module_of_ends ends]
    completed := fun other => by rw [named, forwarded_module_of_not_ends other]
    fits := fits
    ordinal := ordinal
    name := name }
  by_cases hash : ∃ text, forward.symbol = 0x23 :: text
  · obtain ⟨text, symbol⟩ := hash
    rw [symbol] at read
    obtain ⟨byOrdinal, spaces, sign, digits, number, narrow, ordinal⟩ := parse_ordinal_hash.mp read
    by_cases inFront : spaces ++ sign = []
    · obtain ⟨rfl, rfl⟩ := List.append_eq_nil_iff.mp inFront
      obtain rfl : text = digits := number.whole
      refine .inl ⟨moduleName, denotes (fun digits same => ?_) fun plain => absurd symbol (plain text)⟩
      rw [symbol] at same
      cases same
      exact ⟨number.present, number.decimal, narrow, ordinal, byOrdinal⟩
    · refine .inr ⟨moduleName, spaces, sign, digits, {
        whole := by rw [whole, symbol, number.whole]
        module := module
        fits := named ▸ fits
        number := number.whole ▸ number
        inFront := inFront
        narrow := narrow }⟩
  · have plain : ∀ text, forward.symbol ≠ 0x23 :: text := fun text same => hash ⟨text, same⟩
    rw [parse_ordinal_name plain, Except.ok.injEq, Prod.mk.injEq] at read
    exact .inl ⟨moduleName, denotes (fun digits same => absurd same (plain digits)) fun _ =>
      ⟨read.1.symm, read.2.symm⟩⟩

/-! ### The buffer -/

theorem stored_length (moduleName : CString) :
    moduleName.length + (if hasDllSuffix moduleName then 1 else dllSuffix.length + 1) =
      (forwardedModule moduleName).length + 1 := by
  unfold forwardedModule
  split
  · rfl
  · rw [List.length_append, Nat.add_assoc]

/-- The parser answers the same whether or not the buffer is looked at. -/
theorem parse_forwarder_into_fst :
    (parseForwarderInto bytes buffer forwarder capacity).1 = parseForwarder forwarder capacity := by
  unfold parseForwarderInto parseForwarder
  cases splitLast 0x2e forwarder with
  | none => rfl
  | some parts =>
    obtain ⟨moduleName, symbol⟩ := parts
    dsimp only
    rw [stored_length]
    split
    · rfl
    split
    · rfl
    cases parseOrdinal symbol with
    | error status => rfl
    | ok ordinal => rfl

/-- The module name is stored in as many bytes as were asked for, and nothing around them. -/
theorem store_module_name_outside {index : Nat}
    (outside : index < buffer ∨ buffer + ((forwardedModule moduleName).length + 1) ≤ index) :
    storeModuleName bytes buffer moduleName index = bytes index := by
  rw [← stored_length] at outside
  unfold storeModuleName
  split
  · rename_i ends
    rw [if_pos ends] at outside
    exact (store_le_outside (by omega)).trans (copy_bytes_outside (by omega))
  · rename_i other
    rw [if_neg other] at outside
    exact (copy_bytes_outside (by omega)).trans (copy_bytes_outside (by omega))

/-- They hold the name, and a terminator behind it. -/
theorem store_module_name_inside {index : Nat}
    (within : index < (forwardedModule moduleName).length + 1) :
    storeModuleName bytes buffer moduleName (buffer + index) =
      (forwardedModule moduleName).getD index 0 := by
  rw [← stored_length] at within
  unfold storeModuleName forwardedModule
  split
  · rename_i ends
    rw [if_pos ends] at within
    rcases Nat.lt_or_ge index moduleName.length with inName | behind
    · rw [store_le_outside (by omega), copy_bytes_inside (by omega) (by omega), Nat.zero_add,
        Nat.add_sub_cancel_left]
    · rw [store_le_inside (by omega) (by omega), List.getD_eq_default _ _ behind]
      simp
  · rename_i other
    rw [if_neg other] at within
    rcases Nat.lt_or_ge index moduleName.length with inName | behind
    · rw [copy_bytes_outside (by omega), copy_bytes_inside (by omega) (by omega), Nat.zero_add,
        Nat.add_sub_cancel_left, List.getD_append _ _ _ _ inName]
    · rw [copy_bytes_inside (by omega) (by omega), List.getD_append_right _ _ _ _ behind, Nat.zero_add]
      congr 1
      omega

/-- A string and its terminator are read back from memory. -/
theorem c_string_stored {name : CString} {start available : Nat} (terminated : 0 ∉ name)
    (stored : ∀ index < name.length + 1, bytes (start + index) = name.getD index 0)
    (room : name.length + 1 ≤ available) : cString bytes start available = some name := by
  induction name generalizing start available with
  | nil =>
    obtain ⟨available, rfl⟩ : ∃ rest, available = rest + 1 := ⟨available - 1, by omega⟩
    have here : bytes start = 0 := stored 0 (by simp)
    rw [cString, if_pos here]
  | cons first rest ih =>
    rw [List.length_cons] at stored room
    obtain ⟨available, rfl⟩ : ∃ rest, available = rest + 1 := ⟨available - 1, by omega⟩
    have here : bytes start = first := stored 0 (by omega)
    have notZero : bytes start ≠ 0 := by
      rw [here]
      exact fun zero => terminated (zero ▸ List.mem_cons_self)
    have behind : ∀ index < rest.length + 1, bytes (start + 1 + index) = rest.getD index 0 := by
      intro index within
      have next := stored (index + 1) (by omega)
      rw [List.getD_cons_succ] at next
      rw [Nat.add_assoc, Nat.add_comm 1 index]
      exact next
    rw [cString, if_neg notZero, here, ih (fun member => terminated (List.mem_cons_of_mem _ member))
      behind (by omega)]
    rfl

/-- An answer that is accepted comes with the name in the buffer. -/
theorem parse_forwarder_into_ok {forward : Forward} {stored : Nat → UInt8}
    (parsed : parseForwarderInto bytes buffer forwarder capacity = (.ok forward, stored)) :
    ∃ moduleName, forwarder = moduleName ++ 0x2e :: forward.symbol ∧
      forward.moduleName = forwardedModule moduleName ∧ forward.moduleName.length + 1 ≤ capacity ∧
      stored = storeModuleName bytes buffer moduleName := by
  unfold parseForwarderInto at parsed
  split at parsed
  · cases parsed
  rename_i moduleName symbol split'
  rw [stored_length] at parsed
  split at parsed
  · cases parsed
  split at parsed
  · cases parsed
  rename_i fits
  cases read : parseOrdinal symbol with
  | error status =>
    rw [read] at parsed
    cases parsed
  | ok ordinal =>
    rw [read] at parsed
    cases parsed
    exact ⟨moduleName, (split_last_ok split').1, rfl, Nat.le_of_not_lt fits, rfl⟩

theorem parse_forwarder_into_outside {index : Nat}
    (outside : index < buffer ∨ buffer + capacity ≤ index) :
    (parseForwarderInto bytes buffer forwarder capacity).2 index = bytes index := by
  unfold parseForwarderInto
  cases splitLast 0x2e forwarder with
  | none => rfl
  | some parts =>
    obtain ⟨moduleName, symbol⟩ := parts
    dsimp only
    rw [stored_length]
    split
    · rfl
    split
    · rfl
    have kept : storeModuleName bytes buffer moduleName index = bytes index :=
      store_module_name_outside (by omega)
    cases parseOrdinal symbol with
    | error status => exact kept
    | ok ordinal => exact kept

theorem no_dll_zero (terminated : 0 ∉ moduleName) : 0 ∉ forwardedModule moduleName := by
  unfold forwardedModule
  split
  · exact terminated
  · intro member
    rcases List.mem_append.mp member with inName | inSuffix
    · exact terminated inName
    · exact absurd inSuffix (by decide)

/-! ### Where the parser keeps to the grammar -/

/-- The parser accepts what the grammar has and nothing else, answers what it says, with the name
in the buffer, and writes nowhere around the buffer. -/
structure MeetsGrammar (forwarder : CString) (capacity : Nat) : Prop where
  sound : ∀ bytes buffer forward stored,
    parseForwarderInto bytes buffer forwarder capacity = (.ok forward, stored) →
      (∃ moduleName, Denotes forwarder moduleName capacity forward) ∧
        cString stored buffer capacity = some forward.moduleName
  complete : ∀ bytes buffer moduleName forward, Denotes forwarder moduleName capacity forward →
    (parseForwarderInto bytes buffer forwarder capacity).1 = .ok forward
  contained : ∀ bytes buffer index, index < buffer ∨ buffer + capacity ≤ index →
    (parseForwarderInto bytes buffer forwarder capacity).2 index = bytes index

/-- An ordinal with something in front is accepted outside the grammar. -/
theorem lenient_breaks (lenient : Lenient forwarder capacity moduleName spaces sign digits) :
    ¬ MeetsGrammar forwarder capacity := by
  intro meets
  have read : parseOrdinal (0x23 :: (spaces ++ (sign ++ digits))) =
      .ok (signedValue sign digits, true) :=
    parse_ordinal_hash.mpr ⟨rfl, spaces, sign, digits, lenient.number, lenient.narrow, rfl⟩
  have dotless : (0x2e : UInt8) ∉ (0x23 : UInt8) :: (spaces ++ (sign ++ digits)) := by
    intro member
    rcases List.mem_cons.mp member with same | behind
    · exact absurd same (by decide)
    · exact number_dotless lenient.number behind
  have parsed : parseForwarder forwarder capacity = .ok {
      moduleName := forwardedModule moduleName
      symbol := 0x23 :: (spaces ++ (sign ++ digits))
      ordinal := signedValue sign digits
      byOrdinal := true } :=
    parse_forwarder_ok.mpr ⟨moduleName, lenient.whole, dotless, lenient.module,
      List.cons_ne_nil _ _, rfl, lenient.fits, read⟩
  have answered := @parse_forwarder_into_fst forwarder capacity 0 fun _ => 0
  rw [parsed] at answered
  obtain ⟨⟨other, denotes⟩, -⟩ := meets.sound _ _ _ _ (Prod.ext answered rfl)
  have decimal := (denotes.ordinal _ rfl).2.1
  obtain ⟨first, rest, begins⟩ := List.exists_cons_of_ne_nil lenient.inFront
  have among : first ∈ spaces ++ (sign ++ digits) := by
    rw [← List.append_assoc, begins]
    exact List.mem_cons_self
  have digit := is_digit_iff.mp (decimal first among)
  have inFront : first ∈ spaces ++ sign := begins ▸ List.mem_cons_self
  rcases List.mem_append.mp inFront with white | signed
  · have space := is_space_iff.mp (lenient.number.white first white)
    omega
  · rcases lenient.number.signed with rfl | rfl | rfl
    · exact absurd signed List.not_mem_nil
    · rw [List.mem_singleton.mp signed] at digit
      exact absurd digit.1 (by decide)
    · rw [List.mem_singleton.mp signed] at digit
      exact absurd digit.1 (by decide)

/-- The parser keeps to the grammar exactly on the forwarders whose ordinal, if they have one, has
neither white space nor a sign in front of digits that `strtoul` makes a 32-bit number of. -/
theorem forwarder_grammar_iff (terminated : 0 ∉ forwarder) :
    MeetsGrammar forwarder capacity ↔
      ∀ moduleName spaces sign digits,
        ¬ Lenient forwarder capacity moduleName spaces sign digits := by
  constructor
  · intro meets moduleName spaces sign digits lenient
    exact lenient_breaks lenient meets
  · intro strict
    constructor
    · intro bytes buffer forward stored parsed
      have answered := @parse_forwarder_into_fst forwarder capacity buffer bytes
      rw [parsed] at answered
      obtain denotes | ⟨moduleName, spaces, sign, digits, lenient⟩ := denotes_or_lenient answered.symm
      · obtain ⟨moduleName, whole, named, fits, rfl⟩ := parse_forwarder_into_ok parsed
        refine ⟨denotes, ?_⟩
        have clean : 0 ∉ moduleName := by
          intro member
          exact terminated (whole ▸ List.mem_append_left _ member)
        rw [named] at fits ⊢
        exact c_string_stored (no_dll_zero clean) (fun index => store_module_name_inside) fits
      · exact absurd lenient (strict moduleName spaces sign digits)
    · intro bytes buffer moduleName forward denotes
      rw [parse_forwarder_into_fst, parse_of_denotes denotes]
    · intro bytes buffer index outside
      exact parse_forwarder_into_outside outside

/-- `A.#1`. -/
def ordinalForwarder : CString := [0x41, 0x2e, 0x23, 0x31]

/-- `A.#-18446744073709551615`. -/
def negativeForwarder : CString :=
  [0x41, 0x2e, 0x23, 0x2d, 0x31, 0x38, 0x34, 0x34, 0x36, 0x37, 0x34, 0x34, 0x30, 0x37, 0x33, 0x37,
    0x30, 0x39, 0x35, 0x35, 0x31, 0x36, 0x31, 0x35]

theorem ordinal_forwarder_grammar : 0 ∉ ordinalForwarder ∧
    (MeetsGrammar ordinalForwarder forwarderModuleCapacity ↔
      ∀ moduleName spaces sign digits,
        ¬ Lenient ordinalForwarder forwarderModuleCapacity moduleName spaces sign digits) :=
  ⟨by decide, forwarder_grammar_iff (by decide)⟩

/-- It is taken for the ordinal 1. -/
theorem negative_ordinal_accepted :
    parseForwarder negativeForwarder forwarderModuleCapacity = .ok {
      moduleName := [0x41, 0x2e, 0x64, 0x6c, 0x6c]
      symbol := negativeForwarder.drop 2
      ordinal := 1
      byOrdinal := true } ∧
    ¬ MeetsGrammar negativeForwarder forwarderModuleCapacity := by
  refine ⟨by decide +kernel, ?_⟩
  have lenient : Lenient negativeForwarder forwarderModuleCapacity [0x41] [] [0x2d]
      (negativeForwarder.drop 4) := {
    whole := rfl
    module := by decide
    fits := by decide
    number := {
      whole := rfl
      white := fun character member => absurd member List.not_mem_nil
      signed := .inr (.inr rfl)
      present := by decide
      decimal := List.all_eq_true.mp (by decide)
      range := by decide }
    inFront := by decide
    narrow := by decide }
  exact lenient_breaks lenient

end SadLayer.Module
