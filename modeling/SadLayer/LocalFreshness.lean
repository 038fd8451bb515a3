import SadLayer.LocalValues

/-! Local storage by the times of what is done with it: a slot shows a context what the
context last set there since the slot was allocated. -/
namespace SadLayer.LocalStorage
open SadLayer.Library

variable {history : List Event} {key : Key} {number time value : Nat} {s : System}

/-- The slot was allocated at the first time, and then neither freed nor allocated until the
second. -/
def AllocatedSince (history : List Event) (key : Key) (start time : Nat) : Prop :=
  (∃ generation, Allocated history key generation start) ∧ start < time ∧
    ∀ event ∈ history, event.key = key → start < event.time → event.time < time →
      event.deed.Neutral

/-- A successful set of the context, under whatever generation. -/
def SetIn (history : List Event) (number : Nat) (key : Key) (value time : Nat) : Prop :=
  ∃ generation, SetBy history number key generation value time

/-- The value is what the context last set before a time, since the allocation; or null, when all
it set it had set before that. -/
def LastSet (history : List Event) (number : Nat) (key : Key) (start time value : Nat) : Prop :=
  (∃ before, start < before ∧ before < time ∧ SetIn history number key value before ∧
    ∀ other after, SetIn history number key other after → after < time → after ≤ before) ∨
  (∀ other after, SetIn history number key other after → after < time → after < start) ∧ value = 0

theorem Lifetimes.allocated_since {slot : LocalSlot} {generation start : Nat}
    (lifetimes : Lifetimes history key slot) (begun : Allocated history key generation start)
    (current : CurrentAt history key generation time) : AllocatedSince history key start time := by
  obtain ⟨⟨start', begun', started⟩, unended⟩ := current
  obtain rfl := lifetimes.once _ _ _ begun begun'
  refine ⟨⟨generation, begun⟩, started, fun event member same above below => ?_⟩
  obtain ⟨eventKey, eventTime, deed⟩ := event
  obtain rfl : eventKey = key := same
  dsimp only at above below
  cases deed with
  | allocated other =>
    rcases Nat.lt_trichotomy other generation with earlier | rfl | after
    · obtain ⟨stop, ended, between⟩ := lifetimes.order _ _ _ _ member begun earlier
      obtain ⟨again, known, ordered⟩ := lifetimes.freed _ _ ended
      have equal := lifetimes.once _ _ _ member known
      omega
    · have equal := lifetimes.once _ _ _ member begun
      omega
    · obtain ⟨stop, ended, between⟩ := lifetimes.order _ _ _ _ begun member after
      have bound := unended stop ended
      omega
  | freed context other =>
    have ended : Freed history eventKey other eventTime := ⟨context, member⟩
    obtain ⟨first, known, ordered⟩ := lifetimes.freed _ _ ended
    rcases Nat.lt_trichotomy other generation with earlier | rfl | after
    · obtain ⟨stop, ended', between⟩ := lifetimes.order _ _ _ _ known begun earlier
      have equal := lifetimes.freedOnce _ _ _ ended ended'
      omega
    · have bound := unended _ ended
      omega
    · obtain ⟨stop, ended', between⟩ := lifetimes.order _ _ _ _ begun known after
      have bound := unended stop ended'
      omega
  | _ => exact trivial

/-- What was last set under a generation is what was last set since it was allocated. -/
theorem Storage.last_set {generation start : Nat} (storage : Storage s)
    (begun : Allocated s.history key generation start)
    (current : CurrentAt s.history key generation time)
    (latest : LatestAt s.history number key generation value time) :
    LastSet s.history number key start time value := by
  have lifetimes := storage.lives.lifetimes key
  have setAt {other value after : Nat} (set : SetBy s.history number key other value after) :
      CurrentAt s.history key other after := by
    obtain ⟨read, rechecked, recorded⟩ := set
    exact (storage.records.sets _ _ _ _ _ _ _ recorded).2.1
  rcases latest with ⟨before, earlier, set, last⟩ | ⟨never, zero⟩
  · obtain ⟨⟨start', begun', started⟩, -⟩ := setAt set
    obtain rfl := lifetimes.once _ _ _ begun begun'
    refine .inl ⟨before, started, earlier, ⟨generation, set⟩, ?_⟩
    rintro value' after ⟨other, set'⟩ past
    by_contra between
    have one := lifetimes.current_le (setAt set) (setAt set') (by omega)
    have two := lifetimes.current_le (setAt set') current (by omega)
    obtain rfl : other = generation := by omega
    exact between (last value' after set' past)
  · refine .inr ⟨?_, zero⟩
    rintro value' after ⟨other, set'⟩ past
    have bound := lifetimes.current_le (setAt set') current (by omega)
    rcases Nat.lt_or_eq_of_le bound with older | rfl
    · obtain ⟨⟨start', begun', -⟩, unended⟩ := setAt set'
      obtain ⟨stop, ended, between⟩ := lifetimes.order _ _ _ _ begun' begun older
      have bound' := unended stop ended
      omega
    · have bound' := never value' after set'
      omega

theorem reservations_le_length : reservations history key ≤ history.length :=
  List.countP_le_length

/-- A step does at most one thing. -/
theorem history_length_le (labels : List (Nat × Move)) :
    (run step {} labels).state.history.length ≤ labels.length := by
  induction labels using List.reverseRecOn with
  | nil => exact Nat.le_refl _
  | append_singleton labels label ih =>
    rw [run_concat, List.length_append, List.length_singleton]
    refine Nat.le_trans (Nat.le_of_eq List.length_append) (Nat.add_le_add ih ?_)
    cases ((run step {} labels).state.contexts label.1).move _ _ label.1 label.2 |>.deed with
    | none => exact Nat.zero_le 1
    | some event => exact Nat.le_refl 1

/-- In every interleaving with fewer than 2 ^ 64 - 1 allocations of a slot: a successful get
returns what its context last set since the slot was allocated, or null; a successful set took
effect before any free that came after it read the generation, and no allocation came while it
did; a free calls back with what its own context set since the slot was allocated; and between
two allocations of a slot it was freed. -/
theorem local_storage_fresh (labels : List (Nat × Move))
    (few : ∀ key, reservations (run step {} labels).state.history key < 2 ^ 64 - 1) :
    let history := (run step {} labels).state.history
    (∀ key time number generation value,
      ⟨key, time, .got number generation value⟩ ∈ history →
      ∃ start, AllocatedSince history key start time ∧
        LastSet history number key start time value) ∧
    (∀ key time number generation value read rechecked,
      ⟨key, time, .set number generation value read rechecked⟩ ∈ history →
      (∃ start, AllocatedSince history key start time ∧ start < read) ∧
        read < time ∧ time < rechecked ∧ ∀ other again, Allocated history key other again →
          again < read ∨ rechecked ≤ again) ∧
    (∀ key time number generation value,
      ⟨key, time, .calledBack number generation value⟩ ∈ history →
      key.kind = .fls ∧ ⟨key, time, .freed number generation⟩ ∈ history ∧
        ∃ start, AllocatedSince history key start time ∧
          LastSet history number key start time value) ∧
    ∀ key one other first second, Allocated history key one first →
      Allocated history key other second → first < second →
      ∃ generation stop, Freed history key generation stop ∧ first < stop ∧ stop < second := by
  intro history
  have storage : Storage (run step {} labels).state := storage_run labels few
  have lifetimes (key : Key) := storage.lives.lifetimes key
  refine ⟨fun key time number generation value member => ?_,
    fun key time number generation value read rechecked member => ?_,
    fun key time number generation value member => ?_,
    fun key one other first second begun begun' before => ?_⟩
  · obtain ⟨current, latest⟩ := storage.records.gots _ _ _ _ _ member
    have known := current
    obtain ⟨⟨start, begun, -⟩, -⟩ := known
    exact ⟨start, (lifetimes key).allocated_since begun current,
      storage.last_set begun current latest⟩
  · obtain ⟨readAt, current, readSet, setRechecked, -, apart⟩ :=
      storage.records.sets _ _ _ _ _ _ _ member
    obtain ⟨⟨start, begun, started⟩, -⟩ := readAt
    exact ⟨⟨start, (lifetimes key).allocated_since begun current, started⟩, readSet, setRechecked,
      apart⟩
  · obtain ⟨fiber, freed, current, latest⟩ := storage.records.callbacks _ _ _ _ _ member
    have known := current
    obtain ⟨⟨start, begun, -⟩, -⟩ := known
    exact ⟨fiber, freed, start, (lifetimes key).allocated_since begun current,
      storage.last_set begun current latest⟩
  · rcases Nat.lt_trichotomy one other with earlier | rfl | later
    · obtain ⟨stop, ended, between⟩ := (lifetimes key).order _ _ _ _ begun begun' earlier
      obtain ⟨start, known, ordered⟩ := (lifetimes key).freed _ _ ended
      obtain rfl := (lifetimes key).once _ _ _ begun known
      exact ⟨one, stop, ended, ordered, between⟩
    · have equal := (lifetimes key).once _ _ _ begun begun'
      omega
    · obtain ⟨stop, ended, between⟩ := (lifetimes key).order _ _ _ _ begun' begun later
      obtain ⟨start, known, ordered⟩ := (lifetimes key).freed _ _ ended
      have equal := (lifetimes key).once _ _ _ begun' known
      omega

/-- A context allocates an index, sets its value to 7, and gets it. -/
def setAndGet : List (Nat × Move) :=
  (0, .start (.alloc .tls 0)) :: List.replicate 4 (0, .proceed) ++
    (0, .start (.access (.set 7) ⟨.tls, 0⟩)) :: List.replicate 6 (0, .proceed) ++
    (0, .start (.access .get ⟨.tls, 0⟩)) :: List.replicate 6 (0, .proceed)

theorem set_value_is_got :
    let history := (run step {} setAndGet).state.history
    ⟨⟨.tls, 0⟩, 17, .got 0 1 7⟩ ∈ history ∧
      ∃ start, AllocatedSince history ⟨.tls, 0⟩ start 17 ∧
        LastSet history 0 ⟨.tls, 0⟩ start 17 7 := by
  intro history
  have member : ⟨⟨.tls, 0⟩, 17, .got 0 1 7⟩ ∈ history := by decide
  have few (key : Key) : reservations (run step {} setAndGet).state.history key < 2 ^ 64 - 1 :=
    Nat.lt_of_le_of_lt (Nat.le_trans reservations_le_length (history_length_le setAndGet))
      (by decide)
  exact ⟨member, (local_storage_fresh setAndGet few).1 _ _ _ _ _ member⟩

end SadLayer.LocalStorage
