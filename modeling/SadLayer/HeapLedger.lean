import SadLayer.HeapRefinement
import SadLayer.Library.Tally

/-! What callers can rely on over whole runs: every allocation is taken back as often as it
is handed out, allocations in use do not overlap, and each keeps its contents. -/
namespace SadLayer.Heap
open SadLayer.Library

variable {before after : Allocations} {call : Call} {given : Answer} {memory : UInt64}
  {data : List UInt8} {state : HeapState}

/-! ### The account of one pointer -/

/-- The call handed out this allocation. -/
def handedOut (memory : UInt64) : Call → Answer → Nat
  | .alloc .., .pointer answered => if answered = memory ∧ memory ≠ 0 then 1 else 0
  | .realloc .., .pointer answered => if answered = memory ∧ memory ≠ 0 then 1 else 0
  | _, _ => 0

/-- The call took this allocation back. -/
def takenBack (memory : UInt64) : Call → Answer → Nat
  | .free _ freed, .bool true => if freed = memory then 1 else 0
  | .realloc _ _ resized _, .pointer answered => if resized = memory ∧ answered ≠ 0 then 1 else 0
  | _, _ => 0

def held (memory : UInt64) (allocations : Allocations) : Nat :=
  if allocations memory = none then 0 else 1

theorem held_update_self (entry : Option (List UInt8)) :
    held memory (Function.update before memory entry) = if entry = none then 0 else 1 := by
  rw [held, Function.update_self]

theorem held_update_other {other : UInt64} {entry : Option (List UInt8)}
    (different : memory ≠ other) :
    held memory (Function.update before other entry) = held memory before := by
  rw [held, Function.update_of_ne different, held]

theorem held_none (unknown : before memory = none) : held memory before = 0 := if_pos unknown

theorem held_some (known : before memory = some data) : held memory before = 1 := by
  rw [held, known]
  rfl

/-- What a step hands out and takes back is what its allocations gain and lose. -/
theorem HeapStep.balance (transition : HeapStep before call given after)
    (nulls : before 0 = none) (memory : UInt64) :
    held memory before + handedOut memory call given =
      held memory after + takenBack memory call given := by
  cases transition with
  | @alloc pointer _ flags data bytes valid fresh sized zeroed =>
    by_cases here : pointer = memory
    · subst here
      simp [handedOut, takenBack, held_update_self, held_none fresh, valid]
    · simp [handedOut, takenBack, held_update_other (Ne.symm here), here]
  | @free _ data pointer known =>
    by_cases here : pointer = memory
    · subst here
      simp [handedOut, takenBack, held_update_self, held_some known]
    · simp [handedOut, takenBack, held_update_other (Ne.symm here), here]
  | @shrink flags _ data pointer bytes inPlace known fits =>
    have valid : pointer ≠ 0 := by
      rintro rfl
      rw [known] at nulls
      contradiction
    by_cases here : pointer = memory
    · subst here
      simp [handedOut, takenBack, held_update_self, held_some known, valid]
    · simp [handedOut, takenBack, held_update_other (Ne.symm here), here]
  | @realloc flags _ data moved pointer bytes more anywhere known valid fresh sized copied zeroed =>
    by_cases there : moved = memory
    · subst there
      by_cases here : pointer = moved
      · subst here
        simp [handedOut, takenBack, held_update_self, held_some known, valid]
      · have unknown : before moved = none := fresh.resolve_left (Ne.symm here)
        simp [handedOut, takenBack, held_update_self, held_none unknown, valid, here]
    · by_cases here : pointer = memory
      · subst here
        simp [handedOut, takenBack, held_update_other (Ne.symm there), held_update_self,
          held_some known, valid, there]
      · simp [handedOut, takenBack, held_update_other (Ne.symm there),
          held_update_other (Ne.symm here), here, there]
  | @store _ data offset address byte pointer known inside there =>
    by_cases here : pointer = memory
    · subst here
      simp [handedOut, takenBack, held_update_self, held_some known]
    · simp [handedOut, takenBack, held_update_other (Ne.symm here)]
  | allocFails =>
    simp only [handedOut, takenBack]
    split
    · rename_i null
      exact absurd null.1.symm null.2
    · rfl
  | reallocFails wrong =>
    simp only [handedOut, takenBack]
    split
    · rename_i null
      exact absurd null.1.symm null.2
    · simp
  | _ => rfl

/-! ### What stays -/

/-- The call takes back this allocation or writes into it. -/
def Disturbs (memory : UInt64) (length : Nat) : Call → Prop
  | .free _ freed => freed = memory
  | .realloc _ _ resized _ => resized = memory
  | .store address _ =>
    memory.toNat ≤ address.toNat ∧ address.toNat < memory.toNat + length
  | _ => False

instance (memory : UInt64) (length : Nat) : (call : Call) → Decidable (Disturbs memory length call)
  | .alloc .. => inferInstanceAs (Decidable False)
  | .free .. => inferInstanceAs (Decidable (_ = _))
  | .realloc .. => inferInstanceAs (Decidable (_ = _))
  | .size .. => inferInstanceAs (Decidable False)
  | .store .. => inferInstanceAs (Decidable (_ ∧ _))

/-- A call about other allocations leaves this one as it is. -/
theorem HeapStep.keeps (transition : HeapStep before call given after)
    (known : before memory = some data) (apart : ¬ Disturbs memory data.length call) :
    after memory = some data := by
  cases transition with
  | @alloc pointer _ _ _ _ _ fresh _ _ =>
    rw [Function.update_of_ne, known]
    rintro rfl
    rw [known] at fresh
    contradiction
  | free _ =>
    rw [Function.update_of_ne (Ne.symm apart), known]
  | shrink _ _ _ =>
    rw [Function.update_of_ne (Ne.symm apart), known]
  | @realloc _ _ _ moved _ _ _ _ _ _ fresh _ _ _ =>
    have different : memory ≠ moved := by
      rintro rfl
      rcases fresh with same | unknown
      · exact apart same.symm
      · rw [known] at unknown
        contradiction
    rw [Function.update_of_ne different, Function.update_of_ne (Ne.symm apart), known]
  | @store _ _ offset _ _ pointer known' inside there =>
    rw [Function.update_of_ne, known]
    rintro rfl
    have same := Option.some.inj (known'.symm.trans known)
    subst same
    exact apart ⟨by omega, by omega⟩
  | _ => exact known

/-! ### What is answered of an allocation in use -/

theorem HeapStep.freed_of_held
    (transition : HeapStep before (.free processHeapHandle memory) given after)
    (known : before memory = some data) : given = .bool true := by
  cases transition with
  | freeRefused wrong =>
    rcases wrong with foreign | unknown
    · exact absurd rfl foreign
    · rw [known] at unknown
      contradiction
  | free _ => rfl

theorem HeapStep.size_of_held
    (transition : HeapStep before (.size processHeapHandle memory) given after)
    (known : before memory = some data) : given = .size data.length := by
  cases transition with
  | size known' => rw [Option.some.inj (known.symm.trans known')]
  | sizeRefused foreign => exact absurd rfl foreign
  | sizeUnknown unknown =>
    rw [known] at unknown
    contradiction

/-! ### Runs -/

/-- What was counted over a run. -/
def counted (weight : Call → Answer → Nat) (trace : List ((Call × LibraryAnswer) × Answer)) : Nat :=
  total (fun entry => weight entry.1.1 entry.2) trace

/-- In every run with a defined outcome, a pointer is taken back as often as it was handed out, but
for the one time when it is still in use. -/
theorem heap_ledger (bytes : Nat → UInt8) (labels : List (Call × LibraryAnswer))
    (memory : UInt64) (defined : (run step (some (start bytes)) labels).state = some state) :
    counted (handedOut memory) (run step (some (start bytes)) labels).trace =
      counted (takenBack memory) (run step (some (start bytes)) labels).trace +
        held memory (contents state) := by
  refine (defined_run (fun trace state => counted (handedOut memory) trace =
    counted (takenBack memory) trace + held memory (contents state)) bytes ?_ ?_ labels defined).2
  · rw [contents_start]
    rfl
  · intro trace state after label sound balanced leaves
    have each := (step_refines sound leaves).2.balance sound.null_unknown memory
    simp only [counted, total_append, total_cons, total_nil] at balanced ⊢
    omega

/-- Two bytes as they were found, and three that were cleared. -/
def twoAllocations : List (Call × LibraryAnswer) := [
  (.alloc processHeapHandle 0 2, ⟨some 64, fun _ => 7⟩),
  (.alloc processHeapHandle heapZeroMemory 3, ⟨some 100, fun _ => 7⟩)]

/-- The first is given back, and handed out again. -/
def usedTwice : List (Call × LibraryAnswer) := twoAllocations ++ [
  (.free processHeapHandle 96, ⟨none, fun _ => 0⟩),
  (.alloc processHeapHandle 0 1, ⟨some 64, fun _ => 0⟩)]

theorem heap_used_twice :
    ∃ state, (run step (some (start fun _ => 0)) usedTwice).state = some state ∧
      held 96 (contents state) = 1 ∧
      counted (handedOut 96) (run step (some (start fun _ => 0)) usedTwice).trace = 2 ∧
      2 = counted (takenBack 96) (run step (some (start fun _ => 0)) usedTwice).trace + 1 := by
  have defined : (run step (some (start fun _ => 0)) usedTwice).state = some _ := rfl
  exact ⟨_, defined, by decide, by decide, heap_ledger (fun _ => 0) usedTwice 96 defined⟩

/-- Allocations in use do not overlap, and a call that frees one of them or asks for its size
succeeds. -/
theorem heap_allocations_apart (bytes : Nat → UInt8) (labels : List (Call × LibraryAnswer))
    (answer : LibraryAnswer) (first second : UInt64) (data other : List UInt8)
    (defined : (run step (some (start bytes)) labels).state = some state)
    (known : contents state first = some data) (known' : contents state second = some other) :
    (first = second ∨ first.toNat + data.length < second.toNat ∨
        second.toNat + other.length < first.toNat) ∧
      (∃ after, step (some state) (.free processHeapHandle first, answer) =
        (some after, .bool true)) ∧
      step (some state) (.size processHeapHandle first, answer) =
        (some state, .size data.length) := by
  have sound := run_sound defined
  obtain ⟨⟨block, among, here⟩, long⟩ := length_of_contents known
  refine ⟨?_, ?_, ?_⟩
  · obtain ⟨⟨block', among', here'⟩, long'⟩ := length_of_contents known'
    by_cases same : block.address = block'.address
    · exact .inl (header_injective (by rw [← here, ← here', same]))
    · have apart := sound.laid.blocks_apart among among' same
      have behind := sound.behind_header among here
      have behind' := sound.behind_header among' here'
      have fits := (sound.headed block among).sized
      have fits' := (sound.headed block' among').sized
      rw [here] at fits
      rw [here'] at fits'
      simp only [Block.Apart, headerSize] at *
      omega
  · cases leaves : (step (some state) (.free processHeapHandle first, answer)).1 with
    | none => exact absurd ((undefined_iff sound).mp leaves) (free_of_live ⟨block, among, here⟩)
    | some after =>
      exact ⟨after, Prod.ext leaves ((step_refines sound leaves).2.freed_of_held known)⟩
  · have asked : (step (some state) (.size processHeapHandle first, answer)).1 = some state := rfl
    exact Prod.ext rfl ((step_refines sound asked).2.size_of_held known)

theorem heap_two_allocations_apart :
    ∃ state, (run step (some (start fun _ => 0)) twoAllocations).state = some state ∧
      ((96 : UInt64) = 132 ∨ 98 < 132 ∨ 135 < 96) ∧
      (∃ after, step (some state) (.free processHeapHandle 96, ⟨none, fun _ => 0⟩) =
        (some after, .bool true)) ∧
      step (some state) (.size processHeapHandle 96, ⟨none, fun _ => 0⟩) =
        (some state, .size 2) := by
  have defined : (run step (some (start fun _ => 0)) twoAllocations).state = some _ := rfl
  exact ⟨_, defined, heap_allocations_apart (fun _ => 0) twoAllocations ⟨none, fun _ => 0⟩ 96 132
    [7, 7] [0, 0, 0] defined (by decide) (by decide)⟩

/-- An allocation keeps its contents for as long as no call takes it back or writes into it, in a
run that goes on with defined outcomes. -/
theorem heap_keeps_contents (bytes : Nat → UInt8) (labels more : List (Call × LibraryAnswer))
    (memory : UInt64) (data : List UInt8) {last : HeapState}
    (before : (run step (some (start bytes)) labels).state = some state)
    (known : contents state memory = some data)
    (apart : ∀ label ∈ more, ¬ Disturbs memory data.length label.1)
    (after : (run step (some (start bytes)) (labels ++ more)).state = some last) :
    contents last memory = some data := by
  induction more using List.reverseRecOn generalizing last with
  | nil =>
    rw [List.append_nil, before] at after
    exact Option.some.inj after ▸ known
  | append_singleton more label ih =>
    rw [← List.append_assoc, run_concat] at after
    cases middle : (run step (some (start bytes)) (labels ++ more)).state with
    | none =>
      simp only [Run.extend, middle, step] at after
      cases after
    | some reached =>
      simp only [Run.extend, middle] at after
      have kept := ih (fun other member => apart other (List.mem_append_left _ member)) middle
      have undisturbed := apart label (List.mem_append_right _ List.mem_cons_self)
      exact (step_refines (run_sound middle) after).2.keeps kept undisturbed

theorem heap_keeps_two_bytes :
    ∃ last, (run step (some (start fun _ => 0)) (twoAllocations ++
        [(.store 133 9, ⟨none, fun _ => 0⟩),
          (.free processHeapHandle 132, ⟨none, fun _ => 8⟩)])).state = some last ∧
      contents last 96 = some [7, 7] := by
  have before : (run step (some (start fun _ => 0)) twoAllocations).state = some _ := rfl
  have after : (run step (some (start fun _ => 0)) (twoAllocations ++
      [(.store 133 9, ⟨none, fun _ => 0⟩),
        (.free processHeapHandle 132, ⟨none, fun _ => 8⟩)])).state = some _ := rfl
  exact ⟨_, after, heap_keeps_contents (fun _ => 0) twoAllocations _ 96 [7, 7] before (by decide)
    (by decide) after⟩

end SadLayer.Heap
