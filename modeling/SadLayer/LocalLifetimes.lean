import SadLayer.LocalStorage

/-! The life of a slot: whoever takes it out of a settled state is alone with it, and
its generations are allocated and freed in turn. -/
namespace SadLayer.LocalStorage
open SadLayer.Library

variable {history : List Event} {slots after : Key → LocalSlot} {key : Key} {clock number : Nat}
  {context : Context}

/-! ### Deeds -/

def Allocated (history : List Event) (key : Key) (generation time : Nat) : Prop :=
  ⟨key, time, .allocated generation⟩ ∈ history

def Freed (history : List Event) (key : Key) (generation time : Nat) : Prop :=
  ∃ context, ⟨key, time, .freed context generation⟩ ∈ history

/-- A context has done this by itself, without a change to a slot. -/
def Deed.Private (number : Nat) : Deed → Prop
  | .set context _ _ _ _ => context = number
  | .got context _ _ => context = number
  | .calledBack context _ _ => context = number
  | _ => False

/-- Allocations and frees, each generation of a slot after the one before it. -/
structure Lifetimes (history : List Event) (key : Key) (slot : LocalSlot) : Prop where
  bounds : ∀ generation time, Allocated history key generation time →
    1 ≤ generation ∧ generation ≤ slot.generation
  freed : ∀ generation time, Freed history key generation time →
    ∃ start, Allocated history key generation start ∧ start < time
  once : ∀ generation first second, Allocated history key generation first →
    Allocated history key generation second → first = second
  freedOnce : ∀ generation first second, Freed history key generation first →
    Freed history key generation second → first = second
  order : ∀ earlier later first second, Allocated history key earlier first →
    Allocated history key later second → earlier < later →
    ∃ time, Freed history key earlier time ∧ time < second
  live : slot.state = .allocated →
    (∃ time, Allocated history key slot.generation time) ∧
      ∀ time, ¬ Freed history key slot.generation time
  dead : slot.state ≠ .allocated → ∀ generation time, Allocated history key generation time →
    ∃ time, Freed history key generation time

/-! ### Who holds a slot -/

/-- The slot a call has taken and not given back. -/
def Call.holds : Call → Option Key
  | .allocIncrement key _ => some key
  | .allocIncrementAgain key _ => some key
  | .allocStoreCallback key _ => some key
  | .allocStoreState key => some key
  | .freeLoadGeneration key _ => some key
  | .freeLoadCallback key _ _ _ => some key
  | .freeStoreCallback key _ _ _ _ => some key
  | .freeStoreState key => some key
  | _ => none

def Context.holds (context : Context) : List Key :=
  (context.current.bind Call.holds).toList ++ context.callbacks

/-- Slots that are held are initializing, and each is held once. -/
structure Exclusive (s : System) : Prop where
  initializing : ∀ number, ∀ key ∈ (s.contexts number).holds,
    (s.slots key).state = .initializing
  apart : ∀ one other key, key ∈ (s.contexts one).holds → key ∈ (s.contexts other).holds →
    one = other
  nodup : ∀ number, (s.contexts number).holds.Nodup

/-! ### Effects -/

/-- One slot gets a state and a generation, the others keep theirs. -/
structure Changes (slots after : Key → LocalSlot) (key : Key) (state : SlotState)
    (generation : Nat) : Prop where
  state : (after key).state = state
  generation : (after key).generation = generation
  others : ∀ other, other ≠ key →
    (after other).state = (slots other).state ∧ (after other).generation = (slots other).generation

theorem changes_update (slot : LocalSlot) :
    Changes slots (Function.update slots key slot) key slot.state slot.generation :=
  ⟨by rw [Function.update_self], by rw [Function.update_self], fun other apart => by
    rw [Function.update_of_ne apart]; exact ⟨rfl, rfl⟩⟩

/-- What a move does to the slots and the history, and what its context then holds. -/
inductive Effect (slots : Key → LocalSlot) (clock number : Nat) (before : Context)
    (outcome : Outcome) : Prop
  | keep
      (same : ∀ key, (outcome.slots key).state = (slots key).state ∧
        (outcome.slots key).generation = (slots key).generation)
      (holds : outcome.context.holds = before.holds)
      (own : ∀ event ∈ outcome.deed, event.deed.Private number)
  | reserve (key : Key) (free : (slots key).state = .free)
      (changes : Changes slots outcome.slots key .initializing (slots key).generation)
      (holds : outcome.context.holds = key :: before.holds)
      (deed : outcome.deed = some ⟨key, clock, .reserved⟩)
  | increment (key : Key)
      (current : (∃ callback, before.current = some (.allocIncrement key callback)) ∨
        ∃ callback, before.current = some (.allocIncrementAgain key callback))
      (changes : Changes slots outcome.slots key (slots key).state
        (((slots key).generation + 1) % 2 ^ 64))
      (holds : outcome.context.holds = before.holds) (deed : outcome.deed = none)
  | allocate (key : Key) (current : before.current = some (.allocStoreState key))
      (changes : Changes slots outcome.slots key .allocated (slots key).generation)
      (holds : before.holds = key :: outcome.context.holds)
      (deed : outcome.deed = some ⟨key, clock, .allocated (slots key).generation⟩)
  | claim (key : Key) (allocated : (slots key).state = .allocated)
      (changes : Changes slots outcome.slots key .initializing (slots key).generation)
      (holds : outcome.context.holds = key :: before.holds)
      (deed : outcome.deed = some ⟨key, clock, .freed number (slots key).generation⟩)
  | release (key : Key) (current : before.current = some (.freeStoreState key))
      (changes : Changes slots outcome.slots key .free (slots key).generation)
      (holds : before.holds = key :: outcome.context.holds) (deed : outcome.deed = none)

theorem same_slots : ∀ key, (slots key).state = (slots key).state ∧
    (slots key).generation = (slots key).generation := fun _ => ⟨rfl, rfl⟩

theorem same_update {slot : LocalSlot} (state : slot.state = (slots key).state)
    (generation : slot.generation = (slots key).generation) (other : Key) :
    (Function.update slots key slot other).state = (slots other).state ∧
      (Function.update slots key slot other).generation = (slots other).generation := by
  by_cases here : other = key
  · subst here
    rw [Function.update_self]
    exact ⟨state, generation⟩
  · rw [Function.update_of_ne here]
    exact ⟨rfl, rfl⟩

theorem access_failed_effect {access : Access} (holds : context.callbacks = context.holds) :
    Effect slots clock number context (access.failed key slots context) := by
  cases access <;> exact .keep same_slots holds nofun

theorem access_step_effect {access : Access} (point : AccessPoint)
    (holds : context.callbacks = context.holds) :
    Effect slots clock number context
      (accessStep slots clock number context access key point) := by
  cases point with
  | loadBefore => exact .keep same_slots holds nofun
  | loadState before =>
    unfold accessStep
    dsimp only
    split <;> exact .keep same_slots holds nofun
  | loadAfter before read => exact .keep same_slots holds nofun
  | touch generation read =>
    unfold accessStep
    dsimp only
    cases access <;> exact .keep same_slots holds nofun
  | check generation value read =>
    unfold accessStep
    dsimp only
    split
    · exact .keep same_slots holds nofun
    · exact access_failed_effect holds
  | recheck generation value read checked =>
    unfold accessStep
    dsimp only
    split
    · cases access <;> exact .keep same_slots holds fun event here => by cases here; rfl
    · exact access_failed_effect holds
  | clear => exact .keep same_slots holds nofun

theorem advance_effect {call : Call} (current : context.current = some call) :
    Effect slots clock number context (advance slots clock number context call) := by
  have holds : call.holds.toList ++ context.callbacks = context.holds := by
    rw [Context.holds, current]; rfl
  cases call with
  | allocSearch kind callback index =>
    unfold advance
    dsimp only
    split
    · split
      · rename_i free
        exact .reserve ⟨kind, index⟩ free (changes_update _) (holds ▸ rfl) rfl
      · exact .keep same_slots holds nofun
    · exact .keep same_slots holds nofun
  | allocIncrement key callback =>
    refine .increment key (.inl ⟨callback, current⟩) (changes_update _) ?_ rfl
    rw [← holds]
    unfold advance
    dsimp only
    split <;> rfl
  | allocIncrementAgain key callback =>
    exact .increment key (.inr ⟨callback, current⟩) (changes_update _) holds rfl
  | allocStoreCallback key callback => exact .keep (same_update rfl rfl) holds nofun
  | allocStoreState key => exact .allocate key current (changes_update _) holds.symm rfl
  | freeClaim key =>
    unfold advance
    dsimp only
    split
    · rename_i allocated
      exact .claim key allocated (changes_update _) (holds ▸ rfl) rfl
    · exact .keep same_slots holds nofun
  | freeLoadGeneration key claimed => exact .keep same_slots holds nofun
  | freeLoadCallback key claimed generation value => exact .keep same_slots holds nofun
  | freeStoreCallback key claimed generation value callback =>
    unfold advance
    dsimp only
    split
    · exact .keep (same_update rfl rfl) holds fun event here => by cases here; rfl
    · exact .keep (same_update rfl rfl) holds nofun
  | freeStoreState key => exact .release key current (changes_update _) holds.symm rfl
  | access access key point => exact access_step_effect point holds

theorem move_effect (slots : Key → LocalSlot) (clock number : Nat) (context : Context)
    (move : Move) :
    Effect slots clock number context (context.move slots clock number move) := by
  have idle : Effect slots clock number context
      { slots := slots, context := context, answer := .refused } :=
    .keep same_slots rfl nofun
  unfold Context.move
  dsimp only
  cases current : context.current with
  | none =>
    have holds : context.callbacks = context.holds := by rw [Context.holds, current]; rfl
    cases move with
    | start request =>
      refine .keep same_slots (Eq.trans ?_ holds) nofun
      cases request with
      | alloc kind callback => cases kind <;> rfl
      | free key =>
        unfold start
        dsimp only
        split <;> rfl
      | access access key =>
        unfold start
        dsimp only
        split <;> rfl
    | proceed => exact idle
    | finishCallback =>
      cases running : context.callbacks with
      | nil => exact idle
      | cons key callbacks =>
        refine .keep same_slots ?_ nofun
        rw [← holds, running]
        rfl
  | some call =>
    cases move with
    | start request => exact idle
    | proceed => exact advance_effect current
    | finishCallback => exact idle

/-! ### Exclusive holders -/

variable {s : System} {outcome : Outcome} {state : SlotState} {generation : Nat}

/-- The system after an operation of this context. -/
def System.takes (s : System) (number : Nat) (outcome : Outcome) : System where
  slots := outcome.slots
  contexts := Function.update s.contexts number outcome.context
  clock := s.clock + 1
  history := s.history ++ outcome.deed.toList

theorem takes_context_self : (s.takes number outcome).contexts number = outcome.context :=
  Function.update_self ..

theorem takes_context_other {other : Nat} (apart : other ≠ number) :
    (s.takes number outcome).contexts other = s.contexts other :=
  Function.update_of_ne apart ..

theorem takes_context_cases (s : System) (number : Nat) (outcome : Outcome) (other : Nat) :
    other = number ∧ (s.takes number outcome).contexts other = outcome.context ∨
      other ≠ number ∧ (s.takes number outcome).contexts other = s.contexts other := by
  by_cases here : other = number
  · subst here
    exact .inl ⟨rfl, takes_context_self⟩
  · exact .inr ⟨here, takes_context_other here⟩

theorem Changes.initializing_of_ne (changes : Changes s.slots outcome.slots key state generation)
    {other : Key} (apart : other ≠ key) (held : (s.slots other).state = .initializing) :
    ((s.takes number outcome).slots other).state = .initializing :=
  (changes.others other apart).1.trans held

theorem exclusive_same (exclusive : Exclusive s)
    (holds : outcome.context.holds = (s.contexts number).holds)
    (same : ∀ key, (outcome.slots key).state = (s.slots key).state) :
    Exclusive (s.takes number outcome) := by
  have unchanged (other : Nat) :
      ((s.takes number outcome).contexts other).holds = (s.contexts other).holds := by
    rcases takes_context_cases s number outcome other with
      ⟨rfl, here⟩ | ⟨-, there⟩
    · rw [here, holds]
    · rw [there]
  refine ⟨fun other key held => ?_, fun one other key first second => ?_, fun other => ?_⟩
  · rw [unchanged] at held
    exact (same key).trans (exclusive.initializing other key held)
  · rw [unchanged] at first second
    exact exclusive.apart one other key first second
  · rw [unchanged]
    exact exclusive.nodup other

/-- A slot that nobody held is taken. -/
theorem exclusive_taken (exclusive : Exclusive s) (settled : (s.slots key).state ≠ .initializing)
    (holds : outcome.context.holds = key :: (s.contexts number).holds)
    (changes : Changes s.slots outcome.slots key .initializing generation) :
    Exclusive (s.takes number outcome) := by
  have unheld (other : Nat) : key ∉ (s.contexts other).holds := fun held =>
    settled (exclusive.initializing other key held)
  have held_cases (other : Nat) (member : Key)
      (held : member ∈ ((s.takes number outcome).contexts other).holds) :
      member = key ∧ other = number ∨ member ∈ (s.contexts other).holds := by
    rcases takes_context_cases s number outcome other with
      ⟨rfl, here⟩ | ⟨-, there⟩
    · rw [here, holds, List.mem_cons] at held
      exact held.imp (⟨·, rfl⟩) id
    · rw [there] at held
      exact .inr held
  refine ⟨fun other member held => ?_, fun one other member first second => ?_, fun other => ?_⟩
  · rcases held_cases other member held with ⟨rfl, -⟩ | old
    · exact changes.state
    · exact changes.initializing_of_ne (fun same => unheld other (same ▸ old))
        (exclusive.initializing other member old)
  · rcases held_cases one member first with ⟨rfl, rfl⟩ | old
    · rcases held_cases other member second with ⟨-, rfl⟩ | taken
      · rfl
      · exact absurd taken (unheld other)
    · rcases held_cases other member second with ⟨rfl, rfl⟩ | taken
      · exact absurd old (unheld one)
      · exact exclusive.apart one other member old taken
  · rcases takes_context_cases s number outcome other with
      ⟨rfl, here⟩ | ⟨-, there⟩
    · rw [here, holds, List.nodup_cons]
      exact ⟨unheld other, exclusive.nodup other⟩
    · rw [there]
      exact exclusive.nodup other

/-- A slot is given back by its holder. -/
theorem exclusive_given (exclusive : Exclusive s)
    (holds : (s.contexts number).holds = key :: outcome.context.holds)
    (changes : Changes s.slots outcome.slots key state generation) :
    Exclusive (s.takes number outcome) := by
  have whole := exclusive.nodup number
  rw [holds, List.nodup_cons] at whole
  have held_cases (other : Nat) (member : Key)
      (held : member ∈ ((s.takes number outcome).contexts other).holds) :
      member ≠ key ∧ member ∈ (s.contexts other).holds := by
    rcases takes_context_cases s number outcome other with
      ⟨rfl, here⟩ | ⟨apart, there⟩
    · rw [here] at held
      refine ⟨fun same => whole.1 (same ▸ held), ?_⟩
      rw [holds]
      exact List.mem_cons_of_mem _ held
    · rw [there] at held
      refine ⟨fun same => apart (exclusive.apart other number member held ?_), held⟩
      rw [holds, same]
      exact List.mem_cons_self ..
  refine ⟨fun other member held => ?_, fun one other member first second => ?_, fun other => ?_⟩
  · obtain ⟨apart, old⟩ := held_cases other member held
    exact changes.initializing_of_ne apart (exclusive.initializing other member old)
  · exact exclusive.apart one other member (held_cases one member first).2
      (held_cases other member second).2
  · rcases takes_context_cases s number outcome other with
      ⟨rfl, here⟩ | ⟨-, there⟩
    · rw [here]
      exact whole.2
    · rw [there]
      exact exclusive.nodup other

theorem exclusive_takes (exclusive : Exclusive s)
    (effect : Effect s.slots s.clock number (s.contexts number) outcome) :
    Exclusive (s.takes number outcome) := by
  cases effect with
  | keep same holds own => exact exclusive_same exclusive holds fun key => (same key).1
  | reserve key free changes holds deed =>
    exact exclusive_taken exclusive (by rw [free]; nofun) holds changes
  | increment key current changes holds deed =>
    refine exclusive_same exclusive holds fun other => ?_
    by_cases here : other = key
    · rw [here]
      exact changes.state
    · exact (changes.others other here).1
  | allocate key current changes holds deed => exact exclusive_given exclusive holds changes
  | claim key allocated changes holds deed =>
    exact exclusive_taken exclusive (by rw [allocated]; nofun) holds changes
  | release key current changes holds deed => exact exclusive_given exclusive holds changes

/-- What a context holds is not changed by others, and they do nothing to it. -/
theorem held_unchanged (exclusive : Exclusive s)
    (effect : Effect s.slots s.clock number (s.contexts number) outcome) {other : Nat}
    (apart : other ≠ number) (held : key ∈ (s.contexts other).holds) :
    (outcome.slots key).generation = (s.slots key).generation ∧
      ∀ event ∈ outcome.deed, event.key = key → event.deed.Private number := by
  have initializing := exclusive.initializing other key held
  have foreign {taken : Key} (mine : taken ∈ (s.contexts number).holds) : key ≠ taken :=
    fun same => apart (exclusive.apart other number key held (same ▸ mine))
  cases effect with
  | keep same holds own => exact ⟨(same key).2, fun event here _ => own event here⟩
  | reserve taken free changes holds deed =>
    have other_ : key ≠ taken := by
      rintro rfl
      rw [free] at initializing
      cases initializing
    refine ⟨(changes.others key other_).2, fun event here same => ?_⟩
    rw [deed, Option.mem_some_iff] at here
    subst here
    exact absurd same.symm other_
  | increment taken current changes holds deed =>
    have mine : taken ∈ (s.contexts number).holds := by
      rcases current with ⟨callback, current⟩ | ⟨callback, current⟩ <;>
        rw [Context.holds, current] <;> exact List.mem_cons_self ..
    rw [deed]
    exact ⟨(changes.others key (foreign mine)).2, nofun⟩
  | allocate taken current changes holds deed =>
    have other_ : key ≠ taken := foreign (by rw [holds]; exact List.mem_cons_self ..)
    refine ⟨(changes.others key other_).2, fun event here same => ?_⟩
    rw [deed, Option.mem_some_iff] at here
    subst here
    exact absurd same.symm other_
  | claim taken allocated changes holds deed =>
    have other_ : key ≠ taken := by
      rintro rfl
      rw [allocated] at initializing
      cases initializing
    refine ⟨(changes.others key other_).2, fun event here same => ?_⟩
    rw [deed, Option.mem_some_iff] at here
    subst here
    exact absurd same.symm other_
  | release taken current changes holds deed =>
    rw [deed]
    exact ⟨(changes.others key (foreign (by rw [holds]; exact List.mem_cons_self ..))).2, nofun⟩

/-! ### Lifetimes -/

/-- Nothing is allocated or freed by it. -/
def Deed.Neutral : Deed → Prop
  | .allocated _ => False
  | .freed _ _ => False
  | _ => True

theorem Deed.Private.neutral {deed : Deed} (own : deed.Private number) : deed.Neutral := by
  cases deed <;> first | exact trivial | exact own

theorem allocated_append {deed : Option Event} {time : Nat} :
    Allocated (history ++ deed.toList) key generation time ↔
      Allocated history key generation time ∨ deed = some ⟨key, time, .allocated generation⟩ := by
  unfold Allocated
  rw [List.mem_append, Option.mem_toList]

theorem freed_append {deed : Option Event} {time : Nat} :
    Freed (history ++ deed.toList) key generation time ↔
      Freed history key generation time ∨
        ∃ context, deed = some ⟨key, time, .freed context generation⟩ := by
  unfold Freed
  simp only [List.mem_append, Option.mem_toList, exists_or]

/-- The slot may become another, as long as an allocated one stays as it is. -/
theorem lifetimes_neutral {deed : Option Event} {slot next : LocalSlot}
    (lifetimes : Lifetimes history key slot)
    (neutral : ∀ event ∈ deed, event.key = key → event.deed.Neutral)
    (grows : slot.generation ≤ next.generation)
    (settled : next.state = .allocated ↔ slot.state = .allocated)
    (kept : slot.state = .allocated → next.generation = slot.generation) :
    Lifetimes (history ++ deed.toList) key next := by
  have allocated (generation time : Nat) :
      Allocated (history ++ deed.toList) key generation time ↔
        Allocated history key generation time := by
    rw [allocated_append, or_iff_left]
    exact fun here => neutral _ here rfl
  have freed (generation time : Nat) :
      Freed (history ++ deed.toList) key generation time ↔
        Freed history key generation time := by
    rw [freed_append, or_iff_left]
    exact fun ⟨context, here⟩ => neutral _ here rfl
  constructor
  · intro generation time known
    rw [allocated] at known
    obtain ⟨positive, bound⟩ := lifetimes.bounds generation time known
    exact ⟨positive, Nat.le_trans bound grows⟩
  · simp only [allocated, freed]
    exact lifetimes.freed
  · simp only [allocated]
    exact lifetimes.once
  · simp only [freed]
    exact lifetimes.freedOnce
  · simp only [allocated, freed]
    exact lifetimes.order
  · intro live
    rw [settled] at live
    rw [kept live]
    simp only [allocated, freed]
    exact lifetimes.live live
  · intro unallocated
    rw [Ne, settled] at unallocated
    simp only [allocated, freed]
    exact lifetimes.dead unallocated

/-- The generation of a slot has been allocated by nobody yet. -/
def Fresh (history : List Event) (slots : Key → LocalSlot) (key : Key) : Prop :=
  1 ≤ (slots key).generation ∧ ∀ time, ¬ Allocated history key (slots key).generation time

theorem lifetimes_allocate {slot next : LocalSlot} (lifetimes : Lifetimes history key slot)
    (past : ∀ event ∈ history, event.time < clock) (unallocated : slot.state ≠ .allocated)
    (positive : 1 ≤ slot.generation)
    (fresh : ∀ time, ¬ Allocated history key slot.generation time)
    (state : next.state = .allocated) (same : next.generation = slot.generation) :
    Lifetimes (history ++ (some (Event.mk key clock (.allocated slot.generation))).toList) key
      next := by
  have allocated (generation time : Nat) :
      Allocated (history ++ (some (Event.mk key clock (.allocated slot.generation))).toList) key
        generation time ↔ Allocated history key generation time ∨
          generation = slot.generation ∧ time = clock := by
    rw [allocated_append]
    refine or_congr_right ⟨fun here => ?_, fun ⟨same, now⟩ => by rw [same, now]⟩
    cases here
    exact ⟨rfl, rfl⟩
  have freed (generation time : Nat) :
      Freed (history ++ (some (Event.mk key clock (.allocated slot.generation))).toList) key
        generation time ↔ Freed history key generation time := by
    rw [freed_append, or_iff_left]
    rintro ⟨context, here⟩
    cases here
  constructor
  · intro generation time known
    rw [same]
    rcases (allocated generation time).mp known with old | ⟨rfl, -⟩
    · exact lifetimes.bounds generation time old
    · exact ⟨positive, Nat.le_refl _⟩
  · intro generation time known
    obtain ⟨start, begun, before⟩ := lifetimes.freed generation time ((freed _ _).mp known)
    exact ⟨start, (allocated _ _).mpr (.inl begun), before⟩
  · intro generation first second one other
    rcases (allocated _ _).mp one with old | ⟨rfl, rfl⟩
    · rcases (allocated _ _).mp other with known | ⟨rfl, -⟩
      · exact lifetimes.once generation first second old known
      · exact absurd old (fresh first)
    · rcases (allocated _ _).mp other with known | ⟨-, rfl⟩
      · exact absurd known (fresh second)
      · rfl
  · simp only [freed]
    exact lifetimes.freedOnce
  · intro earlier later first second one other before
    simp only [freed]
    rcases (allocated _ _).mp one with old | ⟨rfl, rfl⟩
    · rcases (allocated _ _).mp other with known | ⟨rfl, rfl⟩
      · exact lifetimes.order earlier later first second old known before
      · obtain ⟨time, context, recorded⟩ := lifetimes.dead unallocated earlier first old
        exact ⟨time, ⟨context, recorded⟩, past _ recorded⟩
    · rcases (allocated _ _).mp other with known | ⟨rfl, -⟩
      · have bound := (lifetimes.bounds later second known).2
        omega
      · omega
  · intro _
    rw [same]
    refine ⟨⟨clock, (allocated _ _).mpr (.inr ⟨rfl, rfl⟩)⟩, fun time ended => ?_⟩
    obtain ⟨start, begun, -⟩ := lifetimes.freed _ time ((freed _ _).mp ended)
    exact fresh start begun
  · exact fun settled => absurd state settled

theorem lifetimes_claim {slot next : LocalSlot} (lifetimes : Lifetimes history key slot)
    (past : ∀ event ∈ history, event.time < clock) (live : slot.state = .allocated)
    (state : next.state ≠ .allocated) (same : next.generation = slot.generation) :
    Lifetimes (history ++ (some (Event.mk key clock (.freed number slot.generation))).toList) key
      next := by
  obtain ⟨⟨start, begun⟩, unended⟩ := lifetimes.live live
  have allocated (generation time : Nat) :
      Allocated (history ++ (some (Event.mk key clock (.freed number slot.generation))).toList) key
        generation time ↔ Allocated history key generation time := by
    rw [allocated_append, or_iff_left]
    nofun
  have freed (generation time : Nat) :
      Freed (history ++ (some (Event.mk key clock (.freed number slot.generation))).toList) key
        generation time ↔ Freed history key generation time ∨
          generation = slot.generation ∧ time = clock := by
    rw [freed_append]
    refine or_congr_right ⟨?_, fun ⟨same, now⟩ => ⟨number, by rw [same, now]⟩⟩
    rintro ⟨context, here⟩
    cases here
    exact ⟨rfl, rfl⟩
  constructor
  · intro generation time known
    rw [same]
    exact lifetimes.bounds generation time ((allocated _ _).mp known)
  · intro generation time known
    simp only [allocated]
    rcases (freed _ _).mp known with old | ⟨rfl, rfl⟩
    · exact lifetimes.freed generation time old
    · exact ⟨start, begun, past _ begun⟩
  · simp only [allocated]
    exact lifetimes.once
  · intro generation first second one other
    rcases (freed _ _).mp one with old | ⟨rfl, rfl⟩
    · rcases (freed _ _).mp other with known | ⟨rfl, -⟩
      · exact lifetimes.freedOnce generation first second old known
      · exact absurd old (unended first)
    · rcases (freed _ _).mp other with known | ⟨-, rfl⟩
      · exact absurd known (unended second)
      · rfl
  · intro earlier later first second one other before
    obtain ⟨time, ended, between⟩ := lifetimes.order earlier later first second
      ((allocated _ _).mp one) ((allocated _ _).mp other) before
    exact ⟨time, (freed _ _).mpr (.inl ended), between⟩
  · exact fun again => absurd again state
  · intro _ generation time known
    have old := (allocated _ _).mp known
    rcases Nat.lt_or_eq_of_le (lifetimes.bounds generation time old).2 with before | rfl
    · obtain ⟨time, ended, -⟩ := lifetimes.order generation slot.generation _ start old begun before
      exact ⟨time, (freed _ _).mpr (.inl ended)⟩
    · exact ⟨clock, (freed _ _).mpr (.inr ⟨rfl, rfl⟩)⟩

/-! ### Every run -/

/-- What an allocation needs to go on. -/
def Call.Allocating (history : List Event) (slots : Key → LocalSlot) : Call → Prop
  | .allocIncrement key _ => (slots key).generation + 1 ≤ reservations history key
  | .allocIncrementAgain _ _ => False
  | .allocStoreCallback key _ => Fresh history slots key
  | .allocStoreState key => Fresh history slots key
  | _ => True

/-- The times a call keeps are past. -/
def Call.Timed (clock : Nat) : Call → Prop
  | .freeLoadGeneration _ claimed => claimed < clock
  | .freeLoadCallback _ claimed _ _ => claimed < clock
  | .freeStoreCallback _ claimed _ _ _ => claimed < clock
  | .access _ _ (.loadAfter _ read) => read < clock
  | .access _ _ (.touch _ read) => read < clock
  | .access _ _ (.check _ _ read) => read < clock
  | .access _ _ (.recheck _ _ read checked) => read < checked ∧ checked < clock
  | _ => True

structure Lives (s : System) : Prop where
  past : ∀ event ∈ s.history, event.time < s.clock
  exclusive : Exclusive s
  lifetimes : ∀ key, Lifetimes s.history key (s.slots key)
  /-- No generation without an allocation. -/
  reserved : ∀ key, (s.slots key).generation ≤ reservations s.history key
  allocating : ∀ number, ∀ call ∈ (s.contexts number).current,
    call.Allocating s.history s.slots
  timed : ∀ number, ∀ call ∈ (s.contexts number).current, call.Timed s.clock

theorem Call.Timed.later {call : Call} (timed : call.Timed clock) : call.Timed (clock + 1) := by
  cases call with
  | access access key point => cases point <;> simp only [Call.Timed] at timed ⊢ <;> omega
  | _ => simp only [Call.Timed] at timed ⊢ <;> omega

theorem access_step_timed {access : Access} {point : AccessPoint}
    (timed : (Call.access access key point).Timed clock) :
    (∀ next ∈ (accessStep slots clock number context access key point).context.current,
      next.Timed (clock + 1)) ∧
    ∀ event ∈ (accessStep slots clock number context access key point).deed,
      event.time ≤ clock := by
  have failed : (∀ next ∈ (access.failed key slots context).context.current,
      next.Timed (clock + 1)) ∧
      ∀ event ∈ (access.failed key slots context).deed, event.time ≤ clock := by
    cases access with
    | get => exact ⟨nofun, nofun⟩
    | set value => exact ⟨fun next here => by cases here; exact trivial, nofun⟩
  cases point with
  | loadBefore => exact ⟨fun next here => by cases here; exact trivial, nofun⟩
  | loadState before =>
    unfold accessStep
    dsimp only
    split
    · exact ⟨fun next here => by cases here; exact Nat.lt_succ_self _, nofun⟩
    · exact ⟨nofun, nofun⟩
  | loadAfter before read =>
    refine ⟨fun next here => ?_, nofun⟩
    cases here
    split
    · exact Nat.lt_succ_of_lt timed
    · exact trivial
  | touch generation read =>
    cases access <;> exact ⟨fun next here => by cases here; exact Nat.lt_succ_of_lt timed, nofun⟩
  | check generation value read =>
    unfold accessStep
    dsimp only
    split
    · exact ⟨fun next here => by cases here; exact ⟨timed, Nat.lt_succ_self _⟩, nofun⟩
    · exact failed
  | recheck generation value read checked =>
    unfold accessStep
    dsimp only
    split
    · cases access <;>
        exact ⟨nofun, fun event here => by cases here; exact Nat.le_of_lt timed.2⟩
    · exact failed
  | clear => exact ⟨nofun, nofun⟩

theorem advance_timed {call : Call} (timed : call.Timed clock) :
    (∀ next ∈ (advance slots clock number context call).context.current,
      next.Timed (clock + 1)) ∧
    ∀ event ∈ (advance slots clock number context call).deed, event.time ≤ clock := by
  cases call with
  | allocSearch kind callback index =>
    unfold advance
    dsimp only
    split
    · split
      · exact ⟨fun next here => by cases here; exact trivial,
          fun event here => by cases here; exact Nat.le_refl _⟩
      · exact ⟨fun next here => by cases here; exact trivial, nofun⟩
    · exact ⟨nofun, nofun⟩
  | allocIncrement key callback =>
    refine ⟨fun next here => ?_, nofun⟩
    cases here
    split <;> exact trivial
  | allocIncrementAgain key callback =>
    exact ⟨fun next here => by cases here; exact trivial, nofun⟩
  | allocStoreCallback key callback =>
    exact ⟨fun next here => by cases here; exact trivial, nofun⟩
  | allocStoreState key => exact ⟨nofun, fun event here => by cases here; exact Nat.le_refl _⟩
  | freeClaim key =>
    unfold advance
    dsimp only
    split
    · exact ⟨fun next here => by cases here; exact Nat.lt_succ_self _,
        fun event here => by cases here; exact Nat.le_refl _⟩
    · exact ⟨nofun, nofun⟩
  | freeLoadGeneration key claimed =>
    exact ⟨fun next here => by cases here; exact Nat.lt_succ_of_lt timed, nofun⟩
  | freeLoadCallback key claimed generation value =>
    exact ⟨fun next here => by cases here; exact Nat.lt_succ_of_lt timed, nofun⟩
  | freeStoreCallback key claimed generation value callback =>
    unfold advance
    dsimp only
    split
    · exact ⟨nofun, fun event here => by cases here; exact Nat.le_of_lt timed⟩
    · exact ⟨fun next here => by cases here; exact trivial, nofun⟩
  | freeStoreState key => exact ⟨nofun, nofun⟩
  | access access key point => exact access_step_timed timed

/-- A call that has done nothing yet, or has only to give its slot back. -/
def Call.Opening : Call → Prop
  | .allocSearch _ _ _ => True
  | .freeClaim _ => True
  | .freeStoreState _ => True
  | .access _ _ .loadBefore => True
  | _ => False

theorem start_opening (context : Context) (request : Request) :
    (start context request).1.values = context.values ∧
      ∀ next ∈ (start context request).1.current, next ∈ context.current ∨ next.Opening := by
  cases request with
  | alloc kind callback =>
    cases kind <;> exact ⟨rfl, fun next here => by cases here; exact .inr trivial⟩
  | free key =>
    unfold start
    dsimp only
    split
    · exact ⟨rfl, nofun⟩
    · exact ⟨rfl, fun next here => by cases here; exact .inr trivial⟩
  | access access key =>
    unfold start
    dsimp only
    split
    · exact ⟨rfl, nofun⟩
    · exact ⟨rfl, fun next here => by cases here; exact .inr trivial⟩

/-- A context that does not go on with its call changes nothing but which call it is in. -/
theorem move_cases (slots : Key → LocalSlot) (clock number : Nat) (context : Context)
    (move : Move) :
    (∃ call, context.current = some call ∧
      context.move slots clock number move = advance slots clock number context call) ∨
    (context.move slots clock number move).slots = slots ∧
      (context.move slots clock number move).deed = none ∧
      (context.move slots clock number move).context.values = context.values ∧
      ((context.move slots clock number move).context.current = context.current ∨
        context.current = none ∧
          ∀ next ∈ (context.move slots clock number move).context.current, next.Opening) := by
  unfold Context.move
  dsimp only
  cases current : context.current with
  | none =>
    refine .inr ?_
    cases move with
    | start request =>
      obtain ⟨values, opening⟩ := start_opening context request
      exact ⟨rfl, rfl, values, .inr ⟨rfl, fun next here => by
        simpa [current] using opening next here⟩⟩
    | proceed => exact ⟨rfl, rfl, rfl, .inl current⟩
    | finishCallback =>
      cases context.callbacks with
      | nil => exact ⟨rfl, rfl, rfl, .inl current⟩
      | cons key callbacks =>
        exact ⟨rfl, rfl, rfl, .inr ⟨rfl, fun next here => by cases here; exact trivial⟩⟩
  | some call =>
    cases move with
    | start request => exact .inr ⟨rfl, rfl, rfl, .inl current⟩
    | proceed => exact .inl ⟨call, rfl, rfl⟩
    | finishCallback => exact .inr ⟨rfl, rfl, rfl, .inl current⟩

theorem Call.Opening.allocating {call : Call} (opening : call.Opening) :
    call.Allocating history slots := by
  cases call <;> first | exact trivial | exact opening.elim

theorem Call.Opening.timed {call : Call} (opening : call.Opening) : call.Timed clock := by
  cases call with
  | access access key point => cases point <;> first | exact trivial | exact opening.elim
  | _ => first | exact trivial | exact opening.elim

theorem reservations_le (deed : Option Event) :
    reservations history key ≤ reservations (history ++ deed.toList) key := by
  unfold reservations
  rw [List.countP_append]
  exact Nat.le_add_right _ _

theorem reservations_reserved :
    reservations (history ++ (some (Event.mk key clock .reserved)).toList) key =
      reservations history key + 1 := by
  unfold reservations
  rw [List.countP_append, Option.toList_some, List.countP_singleton, if_pos (by simp)]

theorem Call.Allocating.holds {call : Call} {deed : Option Event}
    (allocating : call.Allocating history slots)
    (kept : ∀ key ∈ call.holds, (after key).generation = (slots key).generation ∧
      ∀ event ∈ deed, event.key = key → event.deed.Neutral) :
    call.Allocating (history ++ deed.toList) after := by
  have fresh {key : Key} (here : key ∈ call.holds) (fresh : Fresh history slots key) :
      Fresh (history ++ deed.toList) after key := by
    obtain ⟨same, neutral⟩ := kept key here
    obtain ⟨positive, unallocated⟩ := fresh
    refine ⟨same ▸ positive, fun time known => ?_⟩
    rw [same, allocated_append] at known
    rcases known with old | new
    · exact unallocated time old
    · exact neutral _ new rfl
  cases call with
  | allocIncrement key callback =>
    show (after key).generation + 1 ≤ _
    rw [(kept key rfl).1]
    exact Nat.le_trans allocating (reservations_le deed)
  | allocIncrementAgain key callback => exact allocating
  | allocStoreCallback key callback => exact fresh rfl allocating
  | allocStoreState key => exact fresh rfl allocating
  | _ => exact trivial

theorem access_step_allocating {access : Access} {point : AccessPoint} {some_ : List Event}
    {anywhere : Key → LocalSlot} :
    ∀ next ∈ (accessStep slots clock number context access key point).context.current,
      next.Allocating some_ anywhere := by
  have failed : ∀ next ∈ (access.failed key slots context).context.current,
      next.Allocating some_ anywhere := by
    cases access with
    | get => nofun
    | set value => exact fun next here => by cases here; exact trivial
  unfold accessStep
  cases point with
  | loadState before =>
    dsimp only
    split
    · exact fun next here => by cases here; exact trivial
    · nofun
  | touch generation read =>
    cases access <;> exact fun next here => by cases here; exact trivial
  | check generation value read =>
    dsimp only
    split
    · exact fun next here => by cases here; exact trivial
    · exact failed
  | recheck generation value read checked =>
    dsimp only
    split
    · cases access <;> nofun
    · exact failed
  | clear => nofun
  | _ => exact fun next here => by cases here; exact trivial

/-- What an operation leaves its own context to go on with. -/
theorem advance_allocating (lives : Lives s) {call : Call}
    (current : (s.contexts number).current = some call)
    (few : ∀ key, reservations s.history key < 2 ^ 64 - 1) :
    let outcome := advance s.slots s.clock number (s.contexts number) call
    ∀ next ∈ outcome.context.current,
      next.Allocating (s.history ++ outcome.deed.toList) outcome.slots := by
  have allocating := lives.allocating number call current
  cases call with
  | allocSearch kind callback index =>
    unfold advance
    dsimp only
    split
    · split
      · intro next here
        cases here
        show (Function.update s.slots ⟨kind, index⟩ _ ⟨kind, index⟩).generation + 1 ≤ _
        rw [Function.update_self]
        exact Nat.le_trans (Nat.succ_le_succ (lives.reserved _))
          (Nat.le_of_eq reservations_reserved.symm)
      · exact fun next here => by cases here; exact trivial
    · nofun
  | allocIncrement key callback =>
    have room := few key
    unfold Call.Allocating at allocating
    have next_ : (s.slots key).increment.generation = (s.slots key).generation + 1 :=
      Nat.mod_eq_of_lt (by omega)
    intro outcome next here
    cases here
    rw [next_, if_neg (Nat.succ_ne_zero _)]
    refine ⟨?_, fun time known => ?_⟩
    · rw [show outcome.slots key = (s.slots key).increment from Function.update_self .., next_]
      omega
    · rw [show outcome.slots key = (s.slots key).increment from Function.update_self .., next_,
        allocated_append] at known
      have bound := ((lives.lifetimes key).bounds _ time (known.resolve_right nofun)).2
      omega
  | allocIncrementAgain key callback => exact allocating.elim
  | allocStoreCallback key callback =>
    intro outcome next here
    cases here
    obtain ⟨positive, unallocated⟩ := allocating
    have same : (outcome.slots key).generation = (s.slots key).generation :=
      (@same_update s.slots key { s.slots key with callbackAddress := callback } rfl rfl key).2
    refine ⟨same ▸ positive, fun time known => ?_⟩
    rw [same, allocated_append] at known
    exact unallocated time (known.resolve_right nofun)
  | freeClaim key =>
    unfold advance
    dsimp only
    split
    · exact fun next here => by cases here; exact trivial
    · nofun
  | freeStoreCallback key claimed generation value callback =>
    unfold advance
    dsimp only
    split
    · nofun
    · exact fun next here => by cases here; exact trivial
  | access access key point => exact access_step_allocating
  | allocStoreState key => nofun
  | freeStoreState key => nofun
  | _ => exact fun next here => by cases here; exact trivial

/-- The generation an increment gives a slot has not wrapped. -/
theorem Lives.increments (lives : Lives s)
    (current : (∃ callback, (s.contexts number).current = some (.allocIncrement key callback)) ∨
      ∃ callback, (s.contexts number).current = some (.allocIncrementAgain key callback))
    (few : ∀ key, reservations s.history key < 2 ^ 64 - 1) :
    ((s.slots key).generation + 1) % 2 ^ 64 = (s.slots key).generation + 1 ∧
      (s.slots key).generation + 1 ≤ reservations s.history key ∧
      (s.slots key).state = .initializing := by
  rcases current with ⟨callback, current⟩ | ⟨callback, current⟩
  · have room := few key
    have allocating : (s.slots key).generation + 1 ≤ reservations s.history key :=
      lives.allocating number _ current
    refine ⟨Nat.mod_eq_of_lt (by omega), allocating, lives.exclusive.initializing number key ?_⟩
    rw [Context.holds, current]
    exact List.mem_cons_self ..
  · exact (lives.allocating number _ current).elim

theorem Lives.lifetimes_takes (lives : Lives s)
    (effect : Effect s.slots s.clock number (s.contexts number) outcome)
    (few : ∀ key, reservations s.history key < 2 ^ 64 - 1) (other : Key) :
    Lifetimes (s.history ++ outcome.deed.toList) other (outcome.slots other) := by
  have old := lives.lifetimes other
  have unchanged {taken : Key} {state : SlotState} {generation : Nat}
      (changes : Changes s.slots outcome.slots taken state generation) (apart : other ≠ taken)
      (neutral : ∀ event ∈ outcome.deed, event.key = other → event.deed.Neutral) :
      Lifetimes (s.history ++ outcome.deed.toList) other (outcome.slots other) := by
    obtain ⟨state, generation⟩ := changes.others other apart
    exact lifetimes_neutral old neutral (Nat.le_of_eq generation.symm) (by rw [state])
      fun _ => generation
  have elsewhere {taken : Key} {time : Nat} {done : Deed}
      (deed : outcome.deed = some ⟨taken, time, done⟩) (apart : other ≠ taken) :
      ∀ event ∈ outcome.deed, event.key = other → event.deed.Neutral := by
    intro event recorded same
    rw [deed, Option.mem_some_iff] at recorded
    subst recorded
    exact absurd same.symm apart
  cases effect with
  | keep same holds own =>
    obtain ⟨state, generation⟩ := same other
    exact lifetimes_neutral old (fun event here _ => (own event here).neutral)
      (Nat.le_of_eq generation.symm) (by rw [state]) fun _ => generation
  | reserve key free changes holds deed =>
    have neutral : ∀ event ∈ outcome.deed, event.key = other → event.deed.Neutral := by
      rw [deed]
      exact fun event here _ => by cases here; exact trivial
    by_cases here : other = key
    · subst here
      refine lifetimes_neutral old neutral (Nat.le_of_eq changes.generation.symm) ?_
        fun _ => changes.generation
      rw [changes.state, free]
      exact iff_of_false nofun nofun
    · exact unchanged changes here neutral
  | increment key current changes holds deed =>
    obtain ⟨exact_, -, initializing⟩ := lives.increments current few
    have neutral : ∀ event ∈ outcome.deed, event.key = other → event.deed.Neutral := by
      rw [deed]
      nofun
    by_cases here : other = key
    · subst here
      refine lifetimes_neutral old neutral ?_ (by rw [changes.state]) fun live => ?_
      · rw [changes.generation, exact_]
        exact Nat.le_succ _
      · rw [initializing] at live
        cases live
    · exact unchanged changes here neutral
  | allocate key current changes holds deed =>
    by_cases here : other = key
    · subst here
      obtain ⟨positive, fresh⟩ := lives.allocating number _ current
      have initializing := lives.exclusive.initializing number other
        (by rw [holds]; exact List.mem_cons_self ..)
      rw [deed]
      exact lifetimes_allocate old lives.past (by rw [initializing]; nofun) positive fresh
        changes.state changes.generation
    · exact unchanged changes here (elsewhere deed here)
  | claim key allocated changes holds deed =>
    by_cases here : other = key
    · subst here
      rw [deed]
      exact lifetimes_claim old lives.past allocated (by rw [changes.state]; nofun)
        changes.generation
    · exact unchanged changes here (elsewhere deed here)
  | release key current changes holds deed =>
    have neutral : ∀ event ∈ outcome.deed, event.key = other → event.deed.Neutral := by
      rw [deed]
      nofun
    by_cases here : other = key
    · subst here
      have initializing := lives.exclusive.initializing number other
        (by rw [holds]; exact List.mem_cons_self ..)
      refine lifetimes_neutral old neutral (Nat.le_of_eq changes.generation.symm) ?_
        fun _ => changes.generation
      rw [changes.state, initializing]
      exact iff_of_false nofun nofun
    · exact unchanged changes here neutral

theorem Lives.reserved_takes (lives : Lives s)
    (effect : Effect s.slots s.clock number (s.contexts number) outcome)
    (few : ∀ key, reservations s.history key < 2 ^ 64 - 1) (other : Key) :
    (outcome.slots other).generation ≤ reservations (s.history ++ outcome.deed.toList) other := by
  have grown : reservations s.history other ≤
      reservations (s.history ++ outcome.deed.toList) other := reservations_le outcome.deed
  have kept (same : (outcome.slots other).generation = (s.slots other).generation) :
      (outcome.slots other).generation ≤
        reservations (s.history ++ outcome.deed.toList) other :=
    same ▸ Nat.le_trans (lives.reserved other) grown
  have changed {taken : Key} {state : SlotState}
      (changes : Changes s.slots outcome.slots taken state (s.slots taken).generation) :
      (outcome.slots other).generation = (s.slots other).generation := by
    by_cases here : other = taken
    · rw [here, changes.generation]
    · exact (changes.others other here).2
  cases effect with
  | keep same holds own => exact kept (same other).2
  | reserve key free changes holds deed => exact kept (changed changes)
  | increment key current changes holds deed =>
    by_cases here : other = key
    · subst here
      obtain ⟨exact_, room, -⟩ := lives.increments current few
      rw [changes.generation, exact_]
      exact Nat.le_trans room grown
    · exact kept (changes.others other here).2
  | allocate key current changes holds deed => exact kept (changed changes)
  | claim key allocated changes holds deed => exact kept (changed changes)
  | release key current changes holds deed => exact kept (changed changes)

theorem Lives.takes (lives : Lives s) (move : Move)
    (moved : (s.contexts number).move s.slots s.clock number move = outcome)
    (few : ∀ key, reservations s.history key < 2 ^ 64 - 1) :
    Lives (s.takes number outcome) := by
  have effect : Effect s.slots s.clock number (s.contexts number) outcome :=
    moved ▸ move_effect s.slots s.clock number (s.contexts number) move
  have cases_ := move_cases s.slots s.clock number (s.contexts number) move
  rw [moved] at cases_
  refine ⟨fun event member => ?_, exclusive_takes lives.exclusive effect,
    lives.lifetimes_takes effect few, lives.reserved_takes effect few, fun other call here => ?_,
    fun other call here => ?_⟩
  · rcases List.mem_append.mp member with old | new
    · exact Nat.lt_succ_of_lt (lives.past event old)
    · rw [Option.mem_toList] at new
      rcases cases_ with ⟨call, current, advanced⟩ | ⟨-, none_, -⟩
      · rw [advanced] at new
        exact Nat.lt_succ_of_le ((advance_timed (lives.timed number call current)).2 event new)
      · rw [none_] at new
        cases new
  · rcases takes_context_cases s number outcome other with ⟨rfl, mine⟩ | ⟨apart, theirs⟩
    · rw [mine] at here
      rcases cases_ with ⟨call', current, advanced⟩ | ⟨slots, none_, -, opens⟩
      · have allocating := advance_allocating lives current few call
        rw [← advanced] at allocating
        exact allocating here
      · rcases opens with same | ⟨-, opening⟩
        · rw [same] at here
          refine (lives.allocating other call here).holds fun key held => ?_
          rw [none_]
          exact ⟨by rw [System.takes, slots], nofun⟩
        · exact (opening call here).allocating
    · rw [theirs] at here
      refine (lives.allocating other call here).holds fun key held => ?_
      have holding : key ∈ (s.contexts other).holds := by
        rw [Context.holds, Option.mem_def.mp here]
        exact List.mem_append_left _ (Option.mem_toList.mpr held)
      obtain ⟨same, own⟩ := held_unchanged lives.exclusive effect apart holding
      exact ⟨same, fun event recorded here => (own event recorded here).neutral⟩
  · rcases takes_context_cases s number outcome other with ⟨rfl, mine⟩ | ⟨apart, theirs⟩
    · rw [mine] at here
      rcases cases_ with ⟨call', current, advanced⟩ | ⟨-, -, -, opens⟩
      · rw [advanced] at here
        exact (advance_timed (lives.timed other call' current)).1 call here
      · rcases opens with same | ⟨-, opening⟩
        · rw [same] at here
          exact (lives.timed other call here).later
        · exact (opening call here).timed
    · rw [theirs] at here
      exact (lives.timed other call here).later

theorem lives_start : Lives {} where
  past := nofun
  exclusive := ⟨nofun, nofun, fun _ => List.nodup_nil⟩
  lifetimes _ := ⟨nofun, nofun, nofun, nofun, nofun, nofun, nofun⟩
  reserved _ := Nat.le_refl _
  allocating := nofun
  timed := nofun

end SadLayer.LocalStorage
