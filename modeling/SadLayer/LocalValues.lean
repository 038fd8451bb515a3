import SadLayer.LocalLifetimes

/-! What a context finds in a slot: what it last set there since the slot was
allocated, whatever the others did in between. -/
namespace SadLayer.LocalStorage
open SadLayer.Library

variable {history : List Event} {slots : Key → LocalSlot} {key : Key} {number : Nat}
  {s next : System} {outcome : Outcome} {generation time value : Nat}

/-- A successful set of the context. -/
def SetBy (history : List Event) (number : Nat) (key : Key) (generation value time : Nat) : Prop :=
  ∃ read rechecked, ⟨key, time, .set number generation value read rechecked⟩ ∈ history

/-- The generation was allocated before this time and not freed before it. -/
def CurrentAt (history : List Event) (key : Key) (generation time : Nat) : Prop :=
  (∃ start, Allocated history key generation start ∧ start < time) ∧
    ∀ stop, Freed history key generation stop → time ≤ stop

/-- The generation is allocated and not freed. -/
def Live (history : List Event) (key : Key) (generation : Nat) : Prop :=
  (∃ start, Allocated history key generation start) ∧ ∀ stop, ¬ Freed history key generation stop

/-- What the context last set under the generation, or nothing. -/
def Latest (history : List Event) (number : Nat) (key : Key) (generation value : Nat) : Prop :=
  (∃ time, SetBy history number key generation value time ∧
    ∀ other after, SetBy history number key generation other after → after ≤ time) ∨
  (∀ other after, ¬ SetBy history number key generation other after) ∧ value = 0

/-- What the context had last set under the generation at this time, or nothing. -/
def LatestAt (history : List Event) (number : Nat) (key : Key) (generation value time : Nat) :
    Prop :=
  (∃ before, before < time ∧ SetBy history number key generation value before ∧
    ∀ other after, SetBy history number key generation other after → after < time →
      after ≤ before) ∨
  (∀ other after, SetBy history number key generation other after → time ≤ after) ∧ value = 0

/-- All the context did by itself it did before this time. -/
def Quiet (history : List Event) (number time : Nat) : Prop :=
  ∀ event ∈ history, event.deed.Private number → event.time < time

/-! ### Generations and times -/

theorem Lifetimes.live_generation {slot : LocalSlot} (lifetimes : Lifetimes history key slot)
    (live : Live history key generation) :
    slot.state = .allocated ∧ generation = slot.generation := by
  obtain ⟨⟨start, begun⟩, unended⟩ := live
  have allocated : slot.state = .allocated := by
    by_contra unallocated
    obtain ⟨stop, ended⟩ := lifetimes.dead unallocated generation start begun
    exact unended stop ended
  refine ⟨allocated, ?_⟩
  obtain ⟨⟨latest, last⟩, -⟩ := lifetimes.live allocated
  rcases Nat.lt_or_eq_of_le (lifetimes.bounds generation start begun).2 with before | same
  · obtain ⟨stop, ended, -⟩ := lifetimes.order _ _ _ _ begun last before
    exact absurd ended (unended stop)
  · exact same

theorem Lifetimes.live_of_allocated {slot : LocalSlot} (lifetimes : Lifetimes history key slot)
    (allocated : slot.state = .allocated) : Live history key slot.generation :=
  lifetimes.live allocated

/-- Later times have later generations. -/
theorem Lifetimes.current_le {slot : LocalSlot} (lifetimes : Lifetimes history key slot)
    {earlier last first second : Nat} (one : CurrentAt history key earlier first)
    (other : CurrentAt history key last second) (before : first ≤ second) : earlier ≤ last := by
  by_contra inverted
  obtain ⟨⟨start, begun, started⟩, -⟩ := one
  obtain ⟨⟨start', begun', -⟩, unended⟩ := other
  obtain ⟨stop, ended, between⟩ := lifetimes.order last earlier _ _ begun' begun (by omega)
  have bound := unended stop ended
  omega

/-- A generation that was current and is over has been freed. -/
theorem Lifetimes.current_freed {slot : LocalSlot} (lifetimes : Lifetimes history key slot)
    (current : CurrentAt history key generation time)
    (over_ : slot.state ≠ .allocated ∨ slot.generation ≠ generation) :
    ∃ stop, Freed history key generation stop := by
  by_contra unended
  rw [not_exists] at unended
  obtain ⟨⟨start, begun, -⟩, -⟩ := current
  obtain ⟨allocated, same⟩ := lifetimes.live_generation ⟨⟨start, begun⟩, unended⟩
  exact over_.elim (absurd allocated) (absurd same.symm)

/-- The generation of an allocated slot is current. -/
theorem Lives.current_now (lives : Lives s) (allocated : (s.slots key).state = .allocated) :
    CurrentAt s.history key (s.slots key).generation s.clock := by
  obtain ⟨⟨start, begun⟩, unended⟩ := (lives.lifetimes key).live allocated
  exact ⟨⟨start, begun, lives.past _ begun⟩, fun stop ended => absurd ended (unended stop)⟩

/-! ### What steps leave as it was -/

/-- What every step keeps. -/
structure Later (s next : System) : Prop where
  ticks : s.clock ≤ next.clock
  grows : ∀ key, (s.slots key).generation ≤ (next.slots key).generation
  kept : ∀ event ∈ s.history, event ∈ next.history
  freed : ∀ key generation stop, Freed next.history key generation stop →
    Freed s.history key generation stop ∨ s.clock ≤ stop
  allocated : ∀ key generation start, Allocated next.history key generation start →
    Allocated s.history key generation start ∨
      s.clock ≤ start ∧ ∀ other, ¬ Allocated s.history key generation other

theorem Lives.later (lives : Lives s)
    (effect : Effect s.slots s.clock number (s.contexts number) outcome)
    (few : ∀ key, reservations s.history key < 2 ^ 64 - 1) : Later s (s.takes number outcome) := by
  have ticks : s.clock ≤ (s.takes number outcome).clock := Nat.le_succ _
  have kept : ∀ event ∈ s.history, event ∈ (s.takes number outcome).history :=
    fun event member => List.mem_append_left _ member
  have changed {taken : Key} {state : SlotState}
      (changes : Changes s.slots outcome.slots taken state (s.slots taken).generation) (key : Key) :
      (s.slots key).generation ≤ (outcome.slots key).generation := by
    by_cases here : key = taken
    · exact Nat.le_of_eq (by rw [here, changes.generation])
    · exact Nat.le_of_eq (changes.others key here).2.symm
  have nothing (neutral : ∀ event ∈ outcome.deed, event.deed.Neutral) :
      (∀ key generation stop, Freed (s.takes number outcome).history key generation stop →
        Freed s.history key generation stop ∨ s.clock ≤ stop) ∧
      ∀ key generation start, Allocated (s.takes number outcome).history key generation start →
        Allocated s.history key generation start ∨
          s.clock ≤ start ∧ ∀ other, ¬ Allocated s.history key generation other := by
    refine ⟨fun key generation stop ended => ?_, fun key generation start begun => ?_⟩
    · rcases freed_append.mp ended with old | ⟨context, new⟩
      · exact .inl old
      · exact (neutral _ new).elim
    · rcases allocated_append.mp begun with old | new
      · exact .inl old
      · exact (neutral _ new).elim
  cases effect with
  | keep same holds own =>
    obtain ⟨unfreed, unallocated⟩ := nothing fun event here => (own event here).neutral
    exact ⟨ticks, fun key => Nat.le_of_eq (same key).2.symm, kept, unfreed, unallocated⟩
  | reserve key free changes holds deed =>
    obtain ⟨unfreed, unallocated⟩ := nothing (by
      rw [deed]
      exact fun event here => by cases here; exact trivial)
    exact ⟨ticks, changed changes, kept, unfreed, unallocated⟩
  | increment key current changes holds deed =>
    obtain ⟨exact_, -, -⟩ := lives.increments current few
    obtain ⟨unfreed, unallocated⟩ := nothing (by
      rw [deed]
      exact fun event here => by cases here)
    refine ⟨ticks, fun other => ?_, kept, unfreed, unallocated⟩
    by_cases here : other = key
    · subst here
      rw [System.takes, changes.generation, exact_]
      exact Nat.le_succ _
    · exact Nat.le_of_eq (changes.others other here).2.symm
  | allocate key current changes holds deed =>
    obtain ⟨-, fresh⟩ := lives.allocating number _ current
    refine ⟨ticks, changed changes, kept, fun other generation stop ended => ?_,
      fun other generation start begun => ?_⟩
    · rcases freed_append.mp ended with old | ⟨context, new⟩
      · exact .inl old
      · rw [deed] at new
        cases new
    · rcases allocated_append.mp begun with old | new
      · exact .inl old
      · rw [deed] at new
        cases new
        exact .inr ⟨Nat.le_refl _, fresh⟩
  | claim key allocated changes holds deed =>
    refine ⟨ticks, changed changes, kept, fun other generation stop ended => ?_,
      fun other generation start begun => ?_⟩
    · rcases freed_append.mp ended with old | ⟨context, new⟩
      · exact .inl old
      · rw [deed] at new
        cases new
        exact .inr (Nat.le_refl _)
    · rcases allocated_append.mp begun with old | new
      · exact .inl old
      · rw [deed] at new
        cases new
  | release key current changes holds deed =>
    obtain ⟨unfreed, unallocated⟩ := nothing (by
      rw [deed]
      exact fun event here => by cases here)
    exact ⟨ticks, changed changes, kept, unfreed, unallocated⟩

theorem CurrentAt.later (current : CurrentAt s.history key generation time) (after : Later s next)
    (past : time ≤ s.clock) : CurrentAt next.history key generation time := by
  obtain ⟨⟨start, begun, started⟩, unended⟩ := current
  refine ⟨⟨start, after.kept _ begun, started⟩, fun stop ended => ?_⟩
  rcases after.freed key generation stop ended with old | new
  · exact unended stop old
  · omega

theorem Live.earlier (live : Live next.history key generation) (after : Later s next) :
    Live s.history key generation ∨ ∀ other, ¬ Allocated s.history key generation other := by
  obtain ⟨⟨start, begun⟩, unended⟩ := live
  rcases after.allocated key generation start begun with old | ⟨-, fresh⟩
  · refine .inl ⟨⟨start, old⟩, fun stop ended => ?_⟩
    obtain ⟨context, recorded⟩ := ended
    exact unended stop ⟨context, after.kept _ recorded⟩
  · exact .inr fresh

/-- The context has not set the slot again. -/
def NoSets (history later : List Event) (number : Nat) (key : Key) : Prop :=
  ∀ generation value time, SetBy later number key generation value time →
    SetBy history number key generation value time

theorem SetBy.kept (set : SetBy s.history number key generation value time)
    (after : Later s next) : SetBy next.history number key generation value time := by
  obtain ⟨read, rechecked, recorded⟩ := set
  exact ⟨read, rechecked, after.kept _ recorded⟩

theorem Latest.later (latest : Latest s.history number key generation value) (after : Later s next)
    (none_ : NoSets s.history next.history number key) :
    Latest next.history number key generation value := by
  rcases latest with ⟨time, set, last⟩ | ⟨never, zero⟩
  · exact .inl ⟨time, set.kept after, fun other again set' => last other again (none_ _ _ _ set')⟩
  · exact .inr ⟨fun other again set => never other again (none_ _ _ _ set), zero⟩

/-! ### What a context knows -/

/-- A slot whose generation the context has read while it was current. -/
structure Reads (s : System) (number : Nat) (key : Key) (generation read : Nat) : Prop where
  past : read < s.clock
  bound : generation ≤ (s.slots key).generation
  current : CurrentAt s.history key generation read
  quiet : Quiet s.history number read

/-- A slot that the context has taken from its current generation, with its value for that. -/
structure Frees (s : System) (number : Nat) (key : Key) (claimed generation value : Nat) :
    Prop where
  freed : ⟨key, claimed, .freed number generation⟩ ∈ s.history
  current : CurrentAt s.history key generation claimed
  quiet : Quiet s.history number claimed
  latest : Latest s.history number key generation value

/-- What an access of the context knows. -/
def AccessPoint.Valid (s : System) (number : Nat) (access : Access) (key : Key) :
    AccessPoint → Prop
  | .loadBefore => True
  | .loadState before => before ≤ (s.slots key).generation
  | .loadAfter before read => before ≤ (s.slots key).generation ∧ Quiet s.history number read ∧
      ((s.slots key).generation = before → CurrentAt s.history key before read)
  | .touch generation read => Reads s number key generation read
  | .check generation value read => Reads s number key generation read ∧
      match access with
      | .get => Live s.history key generation → Latest s.history number key generation value
      | .set _ => (s.contexts number).values key = ⟨value, generation⟩
  | .recheck generation value read checked => Reads s number key generation read ∧
      ((s.slots key).generation = generation → CurrentAt s.history key generation checked) ∧
      match access with
      | .get => (s.slots key).generation = generation →
          Latest s.history number key generation value
      | .set _ => (s.contexts number).values key = ⟨value, generation⟩
  | .clear => access ≠ .get ∧ ∃ generation value read, Reads s number key generation read ∧
      (s.contexts number).values key = ⟨value, generation⟩ ∧
      ∃ stop, Freed s.history key generation stop

def Call.Valid (s : System) (number : Nat) : Call → Prop
  | .freeLoadGeneration key claimed => Frees s number key claimed (s.slots key).generation
      (((s.contexts number).values key).under (s.slots key).generation)
  | .freeLoadCallback key claimed generation value => Frees s number key claimed generation value
  | .freeStoreCallback key claimed generation value _ =>
    Frees s number key claimed generation value
  | .access way key point => point.Valid s number way key
  | _ => True

/-- The slot whose value the context has written and not yet checked. -/
def Call.writes : Call → Option Key
  | .access (.set _) key (.check _ _ _) => some key
  | .access (.set _) key (.recheck _ _ _ _) => some key
  | .access (.set _) key .clear => some key
  | _ => none

/-- What a context knows: its values are of generations that were allocated, and of a live one it
finds what it set last, except for the slot it is just writing to. -/
structure Knows (s : System) (number : Nat) : Prop where
  stored : ∀ key, ((s.contexts number).values key).generation = 0 ∨
    ∃ start, Allocated s.history key ((s.contexts number).values key).generation start
  valued : ∀ key, (s.contexts number).current.bind Call.writes ≠ some key → ∀ generation,
    Live s.history key generation → Latest s.history number key generation
      (((s.contexts number).values key).under generation)
  valid : ∀ call ∈ (s.contexts number).current, call.Valid s number

/-- What the events of the history say. -/
structure Records (s : System) : Prop where
  sets : ∀ key time number generation value read rechecked,
    ⟨key, time, .set number generation value read rechecked⟩ ∈ s.history →
    CurrentAt s.history key generation read ∧ CurrentAt s.history key generation time ∧
      read < time ∧ time < rechecked ∧ rechecked < s.clock ∧
      ∀ other start, Allocated s.history key other start → start < read ∨ rechecked ≤ start
  gots : ∀ key time number generation value,
    ⟨key, time, .got number generation value⟩ ∈ s.history →
    CurrentAt s.history key generation time ∧
      LatestAt s.history number key generation value time
  callbacks : ∀ key time number generation value,
    ⟨key, time, .calledBack number generation value⟩ ∈ s.history →
    key.kind = .fls ∧ ⟨key, time, .freed number generation⟩ ∈ s.history ∧
      CurrentAt s.history key generation time ∧
      LatestAt s.history number key generation value time

/-! ### What steps of others leave known -/

theorem Quiet.later (quiet : Quiet s.history number time)
    (own : ∀ event ∈ next.history, event.deed.Private number → event ∈ s.history) :
    Quiet next.history number time :=
  fun event member mine => quiet event (own event member mine) mine

theorem no_sets_of_own (own : ∀ event ∈ next.history, event.deed.Private number →
    event ∈ s.history) : NoSets s.history next.history number key := by
  rintro generation value time ⟨read, rechecked, recorded⟩
  exact ⟨read, rechecked, own _ recorded rfl⟩

theorem Reads.later {read : Nat} (reads : Reads s number key generation read) (after : Later s next)
    (own : ∀ event ∈ next.history, event.deed.Private number → event ∈ s.history) :
    Reads next number key generation read :=
  ⟨Nat.lt_of_lt_of_le reads.past after.ticks, Nat.le_trans reads.bound (after.grows key),
    reads.current.later after (Nat.le_of_lt reads.past), reads.quiet.later own⟩

theorem Frees.later {claimed : Nat} (frees : Frees s number key claimed generation value)
    (after : Later s next)
    (own : ∀ event ∈ next.history, event.deed.Private number → event ∈ s.history)
    (past : claimed < s.clock) : Frees next number key claimed generation value :=
  ⟨after.kept _ frees.freed, frees.current.later after (Nat.le_of_lt past),
    frees.quiet.later own, frees.latest.later after (no_sets_of_own own)⟩

theorem AccessPoint.Valid.later {access : Access} {point : AccessPoint}
    (valid : point.Valid s number access key) (after : Later s next)
    (own : ∀ event ∈ next.history, event.deed.Private number → event ∈ s.history)
    (same : (next.contexts number).values = (s.contexts number).values)
    (timed : (Call.access access key point).Timed s.clock) :
    point.Valid next number access key := by
  -- a generation that is read can only be left, never come back to
  have back {generation : Nat} (bound : generation ≤ (s.slots key).generation)
      (now : (next.slots key).generation = generation) :
      (s.slots key).generation = generation :=
    Nat.le_antisymm (now ▸ after.grows key) bound
  cases point with
  | loadBefore => exact trivial
  | loadState before => exact Nat.le_trans valid (after.grows key)
  | loadAfter before read =>
    obtain ⟨bound, quiet, current⟩ := valid
    exact ⟨Nat.le_trans bound (after.grows key), quiet.later own, fun now =>
      (current (back bound now)).later after (Nat.le_of_lt timed)⟩
  | touch generation read => exact Reads.later valid after own
  | check generation value read =>
    obtain ⟨reads, carries⟩ := valid
    refine ⟨reads.later after own, ?_⟩
    cases access with
    | get =>
      intro live
      rcases live.earlier after with old | fresh
      · exact (carries old).later after (no_sets_of_own own)
      · obtain ⟨start, begun, -⟩ := reads.current.1
        exact absurd begun (fresh start)
    | set value =>
      dsimp only at carries ⊢
      rw [same]
      exact carries
  | recheck generation value read checked =>
    obtain ⟨reads, current, carries⟩ := valid
    refine ⟨reads.later after own, fun now =>
      (current (back reads.bound now)).later after (Nat.le_of_lt timed.2), ?_⟩
    cases access with
    | get =>
      exact fun now => (carries (back reads.bound now)).later after (no_sets_of_own own)
    | set value =>
      dsimp only at carries ⊢
      rw [same]
      exact carries
  | clear =>
    obtain ⟨sets, generation, value, read, reads, written, stop, context, ended⟩ := valid
    exact ⟨sets, generation, value, read, reads.later after own, by rw [same]; exact written, stop,
      context, after.kept _ ended⟩

theorem Call.Valid.later {call : Call} (valid : call.Valid s number) (after : Later s next)
    (own : ∀ event ∈ next.history, event.deed.Private number → event ∈ s.history)
    (same : (next.contexts number).values = (s.contexts number).values)
    (timed : call.Timed s.clock)
    (held : ∀ key ∈ call.holds, (next.slots key).generation = (s.slots key).generation) :
    call.Valid next number := by
  cases call with
  | freeLoadGeneration key claimed =>
    unfold Call.Valid at valid ⊢
    dsimp only at valid ⊢
    rw [held key rfl, same]
    exact valid.later after own timed
  | freeLoadCallback key claimed generation value => exact Frees.later valid after own timed
  | freeStoreCallback key claimed generation value callback =>
    exact Frees.later valid after own timed
  | access access key point => exact AccessPoint.Valid.later valid after own same timed
  | _ => exact trivial

/-- A generation that is new to a context has no value there. -/
theorem fresh_under (lives : Lives next) (records : Records s) (knows : Knows s number)
    (live : Live next.history key generation)
    (fresh : ∀ other, ¬ Allocated s.history key generation other) :
    ((s.contexts number).values key).under generation = 0 ∧
      ∀ other after, ¬ SetBy s.history number key generation other after := by
  obtain ⟨⟨start, begun⟩, -⟩ := live
  have positive := ((lives.lifetimes key).bounds generation start begun).1
  refine ⟨if_neg fun same => ?_, fun other after set => ?_⟩
  · rcases knows.stored key with zero | ⟨start, stored⟩
    · omega
    · exact fresh start (same ▸ stored)
  · obtain ⟨read, rechecked, recorded⟩ := set
    obtain ⟨start, begun, -⟩ := (records.sets _ _ _ _ _ _ _ recorded).2.1.1
    exact fresh start begun

/-- What a context finds in a slot stays, as long as it stores and sets nothing. -/
theorem Knows.valued_later (knows : Knows s number) (lives : Lives next) (records : Records s)
    (after : Later s next) (none_ : NoSets s.history next.history number key)
    (same : (next.contexts number).values key = (s.contexts number).values key)
    (settled : (s.contexts number).current.bind Call.writes ≠ some key)
    (live : Live next.history key generation) :
    Latest next.history number key generation
      (((next.contexts number).values key).under generation) := by
  rw [same]
  rcases live.earlier after with old | fresh
  · exact (knows.valued key settled generation old).later after none_
  · obtain ⟨zero, never⟩ := fresh_under lives records knows live fresh
    exact .inr ⟨fun other again set => never other again (none_ _ _ _ set), zero⟩

theorem Knows.stored_later (knows : Knows s number) (after : Later s next)
    (same : (next.contexts number).values key = (s.contexts number).values key) :
    ((next.contexts number).values key).generation = 0 ∨
      ∃ start, Allocated next.history key ((next.contexts number).values key).generation start := by
  rw [same]
  exact (knows.stored key).imp_right fun ⟨start, stored⟩ => ⟨start, after.kept _ stored⟩

/-- Another context's step leaves all that a context knows. -/
theorem Knows.others (knows : Knows s number) (lives : Lives s) (lives' : Lives next)
    (records : Records s) (after : Later s next)
    (same : next.contexts number = s.contexts number)
    (own : ∀ event ∈ next.history, event.deed.Private number → event ∈ s.history)
    (held : ∀ key ∈ (s.contexts number).holds,
      (next.slots key).generation = (s.slots key).generation) : Knows next number := by
  refine ⟨fun key => knows.stored_later after (by rw [same]), fun key settled generation live => ?_,
    fun call here => ?_⟩
  · rw [same] at settled
    exact knows.valued_later lives' records after (no_sets_of_own own) (by rw [same]) settled live
  · rw [same] at here
    refine (knows.valid call here).later after own (by rw [same]) (lives.timed number call here)
      fun key holding => held key ?_
    rw [Context.holds, Option.mem_def.mp here]
    exact List.mem_append_left _ (Option.mem_toList.mpr holding)

/-! ### What a context's own steps leave known -/

/-- A step that stores no value and completes no set leaves what the context finds. -/
theorem Knows.goes (knows : Knows s number) (lives' : Lives (s.takes number outcome))
    (records : Records s) (after : Later s (s.takes number outcome))
    (values : outcome.context.values = (s.contexts number).values)
    (none_ : ∀ event ∈ outcome.deed, ∀ context generation value read rechecked,
      event.deed ≠ .set context generation value read rechecked)
    (settled : (s.contexts number).current.bind Call.writes = none ∨
      outcome.context.current.bind Call.writes = (s.contexts number).current.bind Call.writes)
    (valid : ∀ call ∈ outcome.context.current, call.Valid (s.takes number outcome) number) :
    Knows (s.takes number outcome) number := by
  have same : (s.takes number outcome).contexts number = outcome.context := takes_context_self
  have unset (key : Key) : NoSets s.history (s.takes number outcome).history number key := by
    rintro generation value time ⟨read, rechecked, recorded⟩
    rcases List.mem_append.mp recorded with old | new
    · exact ⟨read, rechecked, old⟩
    · exact absurd rfl (none_ _ (Option.mem_toList.mp new) _ _ _ _ _)
  refine ⟨fun key => knows.stored_later after (by rw [same, values]),
    fun key free generation live => ?_, fun call here => ?_⟩
  · rw [same] at free
    refine knows.valued_later lives' records after (unset key) (by rw [same, values]) ?_ live
    rcases settled with idle | unmoved
    · rw [idle]
      nofun
    · exact unmoved ▸ free
  · rw [same] at here
    exact valid call here

theorem own_of_neutral (neutral : ∀ event ∈ outcome.deed, ¬ event.deed.Private number) :
    ∀ event ∈ (s.takes number outcome).history, event.deed.Private number →
      event ∈ s.history := by
  intro event member mine
  rcases List.mem_append.mp member with old | new
  · exact old
  · exact absurd mine (neutral event (Option.mem_toList.mp new))

theorem own_of_none (none_ : outcome.deed = none) :
    ∀ event ∈ (s.takes number outcome).history, event.deed.Private number →
      event ∈ s.history :=
  own_of_neutral fun event here => by
    rw [none_] at here
    cases here

theorem Lives.quiet (lives : Lives s) (number : Nat) : Quiet s.history number s.clock :=
  fun event member _ => lives.past event member

/-- What an access that fails its check knows: a set, that its generation is over. -/
theorem failed_valid {access : Access} {read : Nat} (lives : Lives s)
    (outcome_ : outcome = access.failed key s.slots (s.contexts number))
    (after : Later s (s.takes number outcome)) (reads : Reads s number key generation read)
    (over_ : (s.slots key).state ≠ .allocated ∨ (s.slots key).generation ≠ generation)
    (written : ∀ value, access = .set value →
      ∃ value, (s.contexts number).values key = ⟨value, generation⟩) :
    ∀ call ∈ outcome.context.current, call.Valid (s.takes number outcome) number := by
  intro call here
  cases access with
  | get =>
    rw [outcome_] at here
    cases here
  | set value =>
    obtain ⟨value', written⟩ := written value rfl
    obtain ⟨stop, context, ended⟩ := (lives.lifetimes key).current_freed reads.current over_
    have own := @own_of_none number s outcome (by rw [outcome_]; rfl)
    have same : (s.takes number outcome).contexts number = outcome.context := takes_context_self
    rw [outcome_] at here
    cases here
    refine ⟨nofun, generation, value', read, reads.later after own, ?_, stop, context,
      after.kept _ ended⟩
    rw [same, outcome_]
    exact written

/-- A store into one slot: what the context finds elsewhere stays. -/
theorem Knows.stores (knows : Knows s number) (lives' : Lives (s.takes number outcome))
    (records : Records s) (after : Later s (s.takes number outcome)) (key : Key)
    (values : ∀ other, other ≠ key → outcome.context.values other =
      (s.contexts number).values other)
    (unset : ∀ other, other ≠ key →
      NoSets s.history (s.takes number outcome).history number other)
    (settled : ∀ other, other ≠ key → (s.contexts number).current.bind Call.writes ≠ some other)
    (stored : (outcome.context.values key).generation = 0 ∨
      ∃ start, Allocated (s.takes number outcome).history key
        (outcome.context.values key).generation start)
    (valued : outcome.context.current.bind Call.writes ≠ some key → ∀ generation,
      Live (s.takes number outcome).history key generation →
        Latest (s.takes number outcome).history number key generation
          ((outcome.context.values key).under generation))
    (valid : ∀ call ∈ outcome.context.current, call.Valid (s.takes number outcome) number) :
    Knows (s.takes number outcome) number := by
  have same : (s.takes number outcome).contexts number = outcome.context := takes_context_self
  refine ⟨fun other => ?_, fun other free generation live => ?_, fun call here => ?_⟩
  · by_cases here : other = key
    · rw [here, same]
      exact stored
    · exact knows.stored_later after (by rw [same, values other here])
  · by_cases here : other = key
    · subst here
      rw [same] at free ⊢
      exact valued free generation live
    · exact knows.valued_later lives' records after (unset other here)
        (by rw [same, values other here]) (settled other here) live
  · rw [same] at here
    exact valid call here

/-- A successful set is what the context finds from then on. -/
theorem Knows.sets {written read checked : Nat} (knows : Knows s number) (lives : Lives s)
    (records : Records s)
    (current : (s.contexts number).current =
      some (.access (.set value) key (.recheck generation written read checked)))
    (unchanged : (s.slots key).generation = generation)
    (outcome_ : outcome = {
      slots := s.slots
      context := (s.contexts number).returns
      deed := some ⟨key, checked, .set number generation written read s.clock⟩
      answer := .returned 1 })
    (lives' : Lives (s.takes number outcome)) (after : Later s (s.takes number outcome)) :
    Knows (s.takes number outcome) number := by
  obtain ⟨reads, -, stored⟩ := knows.valid _ current
  obtain ⟨readChecked, -⟩ := lives.timed number _ current
  have history : (s.takes number outcome).history =
      s.history ++ [⟨key, checked, .set number generation written read s.clock⟩] := by
    rw [outcome_]; rfl
  have values : outcome.context.values = (s.contexts number).values := by rw [outcome_]; rfl
  have idle : outcome.context.current = none := by rw [outcome_]; rfl
  have set_cases {other : Key} {generation' value' time' : Nat}
      (set : SetBy (s.takes number outcome).history number other generation' value' time') :
      SetBy s.history number other generation' value' time' ∨
        other = key ∧ generation' = generation ∧ value' = written ∧ time' = checked := by
    obtain ⟨read', rechecked', recorded⟩ := set
    rw [history, List.mem_append, List.mem_singleton] at recorded
    rcases recorded with old | new
    · exact .inl ⟨read', rechecked', old⟩
    · cases new
      exact .inr ⟨rfl, rfl, rfl, rfl⟩
  have now : SetBy (s.takes number outcome).history number key generation written checked :=
    ⟨read, s.clock, by rw [history]; exact List.mem_append_right _ (List.mem_singleton.mpr rfl)⟩
  refine knows.stores lives' records after key (fun other _ => by rw [values])
    (fun other apart generation' value' time' set => ?_) (fun other apart same => ?_) ?_
    (fun _ generation' live => ?_) (by rw [idle]; nofun)
  · exact (set_cases set).resolve_right fun new => apart new.1
  · rw [current] at same
    exact apart (Option.some_inj.mp same).symm
  · rw [values]
    exact (knows.stored key).imp_right fun ⟨start, begun⟩ => ⟨start, after.kept _ begun⟩
  · have slots : (s.takes number outcome).slots = s.slots := by rw [outcome_]; rfl
    obtain ⟨-, same⟩ := (lives'.lifetimes key).live_generation live
    rw [slots, unchanged] at same
    subst same
    refine .inl ⟨checked, ?_, fun other again set => ?_⟩
    · rw [values, stored]
      rw [show LocalValue.under ⟨written, generation'⟩ generation' = written from if_pos rfl]
      exact now
    · rcases set_cases set with ⟨read', rechecked', recorded⟩ | ⟨-, -, -, rfl⟩
      · exact Nat.le_of_lt (Nat.lt_trans (reads.quiet _ recorded rfl) readChecked)
      · exact Nat.le_refl _

/-- A set that fails takes back a value of a generation that is over. -/
theorem Knows.clears (knows : Knows s number) (lives : Lives s) (records : Records s)
    (current : (s.contexts number).current = some (.access (.set value) key .clear))
    (outcome_ : outcome = {
      slots := s.slots
      context := ((s.contexts number).store key {}).fails errorInvalidParameter
      answer := .returned 0 })
    (lives' : Lives (s.takes number outcome)) (after : Later s (s.takes number outcome)) :
    Knows (s.takes number outcome) number := by
  obtain ⟨-, generation, value', read, reads, -, stop, ended⟩ := knows.valid _ current
  have own := @own_of_none number s outcome (by rw [outcome_])
  have values : outcome.context.values = Function.update (s.contexts number).values key {} := by
    rw [outcome_]; rfl
  have idle : outcome.context.current = none := by rw [outcome_]; rfl
  have slots : (s.takes number outcome).slots = s.slots := by rw [outcome_]; rfl
  refine knows.stores lives' records after key
    (fun other apart => by rw [values, Function.update_of_ne apart])
    (fun other _ => no_sets_of_own own) (fun other apart same => ?_)
    (.inl (by rw [values, Function.update_self])) (fun _ generation' live => ?_)
    (by rw [idle]; nofun)
  · rw [current] at same
    exact apart (Option.some_inj.mp same).symm
  · have lifetimes := lives.lifetimes key
    obtain ⟨-, same⟩ := (lives'.lifetimes key).live_generation live
    rw [slots] at same
    have positive := ((lives'.lifetimes key).bounds _ _ live.1.choose_spec).1
    refine .inr ⟨fun other again set => ?_, ?_⟩
    · obtain ⟨read', rechecked', recorded⟩ := no_sets_of_own own _ _ _ set
      have began := (records.sets _ _ _ _ _ _ _ recorded).2.1
      have ordered := lifetimes.current_le began reads.current
        (Nat.le_of_lt (reads.quiet _ recorded rfl))
      have equal : generation' = generation := by
        have bound := reads.bound
        omega
      obtain ⟨context, freed⟩ := ended
      exact live.2 stop ⟨context, equal ▸ after.kept _ freed⟩
    · rw [values, Function.update_self]
      exact if_neg (by dsimp only; omega)

/-- A set writes its value before it checks. -/
theorem Knows.writes {read : Nat} (knows : Knows s number) (records : Records s)
    (current : (s.contexts number).current =
      some (.access (.set value) key (.touch generation read)))
    (outcome_ : outcome = {
      slots := s.slots
      context := ((s.contexts number).store key { value := value, generation := generation }).goes
        (.access (.set value) key (.check generation value read)) })
    (lives' : Lives (s.takes number outcome)) (after : Later s (s.takes number outcome)) :
    Knows (s.takes number outcome) number := by
  have reads : Reads s number key generation read := knows.valid _ current
  have own := @own_of_none number s outcome (by rw [outcome_])
  have values : outcome.context.values =
      Function.update (s.contexts number).values key ⟨value, generation⟩ := by rw [outcome_]; rfl
  have goes : outcome.context.current =
      some (.access (.set value) key (.check generation value read)) := by rw [outcome_]; rfl
  have same : (s.takes number outcome).contexts number = outcome.context := takes_context_self
  refine knows.stores lives' records after key
    (fun other apart => by rw [values, Function.update_of_ne apart])
    (fun other _ => no_sets_of_own own) (fun other _ => by rw [current]; nofun) ?_
    (fun settled => absurd (by rw [goes]; rfl) settled) ?_
  · rw [values, Function.update_self]
    obtain ⟨start, begun, -⟩ := reads.current.1
    exact .inr ⟨start, after.kept _ begun⟩
  · rw [goes]
    intro call here
    cases here
    refine ⟨reads.later after own, ?_⟩
    dsimp only
    rw [same, values, Function.update_self]

/-- A free clears the value of its context while the slot is in nobody else's hands. -/
theorem Knows.freesValue {claimed : Nat} (knows : Knows s number) (lives : Lives s)
    (records : Records s)
    (current : (s.contexts number).current = some (.freeLoadCallback key claimed generation value))
    (outcome_ : outcome = {
      slots := s.slots
      context := ((s.contexts number).store key {}).goes
        (.freeStoreCallback key claimed generation value (s.slots key).callbackAddress) })
    (lives' : Lives (s.takes number outcome)) (after : Later s (s.takes number outcome)) :
    Knows (s.takes number outcome) number := by
  have frees : Frees s number key claimed generation value := knows.valid _ current
  have own := @own_of_none number s outcome (by rw [outcome_])
  have values : outcome.context.values = Function.update (s.contexts number).values key {} := by
    rw [outcome_]; rfl
  have goes : outcome.context.current = some (.freeStoreCallback key claimed generation value
      (s.slots key).callbackAddress) := by rw [outcome_]; rfl
  have initializing : (s.slots key).state = .initializing := by
    refine lives.exclusive.initializing number key ?_
    rw [Context.holds, current]
    exact List.mem_cons_self ..
  refine knows.stores lives' records after key
    (fun other apart => by rw [values, Function.update_of_ne apart])
    (fun other _ => no_sets_of_own own)
    (fun other _ => by rw [current]; exact fun here => by cases here)
    (.inl (by rw [values, Function.update_self])) (fun _ generation' live => ?_) ?_
  · have slots : (s.takes number outcome).slots = s.slots := by rw [outcome_]; rfl
    have allocated := ((lives'.lifetimes key).live_generation live).1
    rw [slots, initializing] at allocated
    cases allocated
  · rw [goes]
    intro call here
    cases here
    exact frees.later after own (lives.timed number _ current)

/-- The second reading of the generation, with the state between the two. -/
theorem Knows.loadsAfter {access : Access} {before read : Nat} (knows : Knows s number)
    (lives : Lives s) (records : Records s)
    (current : (s.contexts number).current = some (.access access key (.loadAfter before read)))
    (outcome_ : outcome =
      accessStep s.slots s.clock number (s.contexts number) access key (.loadAfter before read))
    (lives' : Lives (s.takes number outcome)) (after : Later s (s.takes number outcome)) :
    Knows (s.takes number outcome) number := by
  have idle : (s.contexts number).current.bind Call.writes = none := by
    rw [current]
    cases access <;> rfl
  have own := @own_of_none number s outcome (by rw [outcome_]; rfl)
  obtain ⟨bound, quiet, reached⟩ : AccessPoint.Valid s number access key (.loadAfter before read) :=
    knows.valid _ current
  unfold accessStep at outcome_
  dsimp only at outcome_
  by_cases unchanged : before = (s.slots key).generation
  · rw [if_pos unchanged] at outcome_
    subst outcome_
    refine knows.goes lives' records after rfl nofun (.inl idle) fun call here => ?_
    cases here
    exact Reads.later ⟨lives.timed number _ current, bound, reached unchanged.symm, quiet⟩ after own
  · rw [if_neg unchanged] at outcome_
    subst outcome_
    exact knows.goes lives' records after rfl nofun (.inl idle)
      fun call here => by cases here; exact trivial

/-- The value of a get, read between the two checks of the generation. -/
theorem Knows.loads {read : Nat} (knows : Knows s number) (records : Records s)
    (current : (s.contexts number).current = some (.access .get key (.touch generation read)))
    (outcome_ : outcome =
      accessStep s.slots s.clock number (s.contexts number) .get key (.touch generation read))
    (lives' : Lives (s.takes number outcome)) (after : Later s (s.takes number outcome)) :
    Knows (s.takes number outcome) number := by
  have reads : Reads s number key generation read := knows.valid _ current
  have own := @own_of_none number s outcome (by rw [outcome_]; rfl)
  have same : (s.takes number outcome).contexts number = outcome.context := takes_context_self
  have found (live : Live (s.takes number outcome).history key generation) :=
    knows.valued_later lives' records after (no_sets_of_own own)
      (by rw [same, outcome_]; rfl) (by rw [current]; nofun) live
  subst outcome_
  refine knows.goes lives' records after rfl nofun (.inl (by rw [current]; rfl))
    fun call here => ?_
  cases here
  refine ⟨reads.later after own, fun live => ?_⟩
  rw [same] at found
  exact found live

/-- A slot that is still allocated when its value was touched. -/
theorem Knows.checks {access : Access} {read : Nat} (knows : Knows s number) (lives : Lives s)
    (records : Records s)
    (current : (s.contexts number).current =
      some (.access access key (.check generation value read)))
    (allocated : (s.slots key).state = .allocated)
    (outcome_ : outcome = {
      slots := s.slots
      context := (s.contexts number).goes
        (.access access key (.recheck generation value read s.clock)) })
    (lives' : Lives (s.takes number outcome)) (after : Later s (s.takes number outcome)) :
    Knows (s.takes number outcome) number := by
  obtain ⟨reads, carries⟩ :
      AccessPoint.Valid s number access key (.check generation value read) := knows.valid _ current
  have own := @own_of_none number s outcome (by rw [outcome_])
  have same : (s.takes number outcome).contexts number = outcome.context := takes_context_self
  subst outcome_
  refine knows.goes lives' records after rfl nofun (.inr ?_) fun call here => ?_
  · rw [current]
    cases access <;> rfl
  cases here
  refine ⟨reads.later after own, fun now =>
    (now ▸ lives.current_now allocated).later after (Nat.le_refl _), ?_⟩
  cases access with
  | get =>
    intro now
    have live := (lives.lifetimes key).live_of_allocated allocated
    exact (carries (now ▸ live)).later after (no_sets_of_own own)
  | set value' =>
    dsimp only
    rw [same]
    exact carries

/-- An access that fails one of its checks: a set goes on to clear the value it wrote. -/
theorem Knows.failsCheck {access : Access} {point : AccessPoint} {read : Nat}
    (knows : Knows s number) (lives : Lives s) (records : Records s)
    (current : (s.contexts number).current = some (.access access key point))
    (writes : ∀ value, access = .set value → (Call.access access key point).writes = some key)
    (outcome_ : outcome = access.failed key s.slots (s.contexts number))
    (reads : Reads s number key generation read)
    (over_ : (s.slots key).state ≠ .allocated ∨ (s.slots key).generation ≠ generation)
    (written : ∀ value, access = .set value →
      ∃ value, (s.contexts number).values key = ⟨value, generation⟩)
    (lives' : Lives (s.takes number outcome)) (after : Later s (s.takes number outcome)) :
    Knows (s.takes number outcome) number := by
  have valid := failed_valid lives outcome_ after reads over_ written
  refine knows.goes lives' records after ?_ ?_ ?_ valid
  · rw [outcome_]
    cases access <;> rfl
  · rw [outcome_]
    cases access <;> nofun
  · rw [current, outcome_]
    cases access with
    | get => exact .inl (by cases point <;> rfl)
    | set value => exact .inr (writes value rfl).symm

theorem Knows.access {access : Access} {point : AccessPoint} (knows : Knows s number)
    (lives : Lives s) (records : Records s)
    (current : (s.contexts number).current = some (.access access key point))
    (lives' : Lives (s.takes number
      (accessStep s.slots s.clock number (s.contexts number) access key point)))
    (after : Later s (s.takes number
      (accessStep s.slots s.clock number (s.contexts number) access key point))) :
    Knows (s.takes number
      (accessStep s.slots s.clock number (s.contexts number) access key point)) number := by
  generalize stepped : accessStep s.slots s.clock number (s.contexts number) access key point =
    outcome at lives' after ⊢
  have valid : point.Valid s number access key := knows.valid _ current
  cases point with
  | loadBefore =>
    subst stepped
    refine knows.goes lives' records after rfl nofun (.inl ?_) fun call here => ?_
    · rw [current]
      cases access <;> rfl
    · cases here
      exact Nat.le_refl _
  | loadState before =>
    have idle : (s.contexts number).current.bind Call.writes = none := by
      rw [current]
      cases access <;> rfl
    unfold accessStep at stepped
    dsimp only at stepped
    split at stepped
    · rename_i allocated
      have own := @own_of_none number s outcome (by rw [← stepped])
      subst stepped
      refine knows.goes lives' records after rfl nofun (.inl idle) fun call here => ?_
      cases here
      exact ⟨valid, (lives.quiet number).later own, fun now =>
        (now ▸ lives.current_now allocated).later after (Nat.le_refl _)⟩
    · subst stepped
      exact knows.goes lives' records after rfl nofun (.inl idle) nofun
  | loadAfter before read => exact knows.loadsAfter lives records current stepped.symm lives' after
  | touch generation read =>
    cases access with
    | get => exact knows.loads records current stepped.symm lives' after
    | set value => exact knows.writes records current stepped.symm lives' after
  | check generation value read =>
    unfold accessStep at stepped
    dsimp only at stepped
    split at stepped
    · rename_i allocated
      exact knows.checks lives records current allocated stepped.symm lives' after
    · rename_i unallocated
      refine knows.failsCheck lives records current (fun _ is => by rw [is]; rfl) stepped.symm
        valid.1 (.inl unallocated) (fun value' is => ?_) lives' after
      subst is
      exact ⟨value, valid.2⟩
  | recheck generation value read checked =>
    unfold accessStep at stepped
    dsimp only at stepped
    split at stepped
    · rename_i unchanged
      cases access with
      | get =>
        subst stepped
        exact knows.goes lives' records after rfl (fun event here => by cases here; nofun)
          (.inl (by rw [current]; rfl)) nofun
      | set value' => exact knows.sets lives records current unchanged stepped.symm lives' after
    · rename_i changed
      refine knows.failsCheck lives records current (fun _ is => by rw [is]; rfl) stepped.symm
        valid.1 (.inr changed) (fun value' is => ?_) lives' after
      subst is
      exact ⟨value, valid.2.2⟩
  | clear =>
    cases access with
    | get => exact absurd rfl valid.1
    | set value => exact knows.clears lives records current stepped.symm lives' after

/-- A claimed slot: what the context set last under its generation is the value that is freed. -/
theorem Knows.claims (knows : Knows s number) (lives : Lives s) (records : Records s)
    (current : (s.contexts number).current = some (.freeClaim key))
    (allocated : (s.slots key).state = .allocated)
    (outcome_ : outcome = {
      slots := Function.update s.slots key { s.slots key with state := .initializing }
      context := (s.contexts number).goes (.freeLoadGeneration key s.clock)
      deed := some ⟨key, s.clock, .freed number (s.slots key).generation⟩ })
    (lives' : Lives (s.takes number outcome)) (after : Later s (s.takes number outcome)) :
    Knows (s.takes number outcome) number := by
  have idle : (s.contexts number).current.bind Call.writes = none := by rw [current]; rfl
  have same : (s.takes number outcome).contexts number = outcome.context := takes_context_self
  have own := @own_of_neutral number s outcome (by
    rw [outcome_]
    exact fun event here => by cases here; exact id)
  have live := (lives.lifetimes key).live_of_allocated allocated
  have unmoved : ((s.takes number outcome).slots key).generation = (s.slots key).generation := by
    rw [outcome_]
    exact (changes_update _).generation
  have values : ((s.takes number outcome).contexts number).values =
      (s.contexts number).values := by
    rw [same, outcome_]
    rfl
  have freed : ⟨key, s.clock, .freed number (s.slots key).generation⟩ ∈
      (s.takes number outcome).history := by
    rw [outcome_]
    exact List.mem_append_right _ (List.mem_singleton.mpr rfl)
  have frees : Frees (s.takes number outcome) number key s.clock
      ((s.takes number outcome).slots key).generation
      ((((s.takes number outcome).contexts number).values key).under
        ((s.takes number outcome).slots key).generation) := by
    rw [unmoved, values]
    exact ⟨freed, (lives.current_now allocated).later after (Nat.le_refl _),
      (lives.quiet number).later own,
      (knows.valued key (by rw [idle]; nofun) _ live).later after (no_sets_of_own own)⟩
  refine knows.goes lives' records after (by rw [outcome_]; rfl) ?_ (.inl idle) fun call here => ?_
  · rw [outcome_]
    exact fun event here => by cases here; nofun
  · rw [outcome_] at here
    cases here
    exact frees

theorem Knows.advances {call : Call} (knows : Knows s number) (lives : Lives s)
    (records : Records s) (current : (s.contexts number).current = some call)
    (lives' : Lives (s.takes number (advance s.slots s.clock number (s.contexts number) call)))
    (after : Later s (s.takes number (advance s.slots s.clock number (s.contexts number) call))) :
    Knows (s.takes number (advance s.slots s.clock number (s.contexts number) call)) number := by
  generalize stepped : advance s.slots s.clock number (s.contexts number) call = outcome
    at lives' after ⊢
  have valid : call.Valid s number := knows.valid _ current
  have timed := lives.timed number _ current
  unfold advance at stepped
  cases call with
  | allocSearch kind callback index =>
    have idle : (s.contexts number).current.bind Call.writes = none := by rw [current]; rfl
    dsimp only at stepped
    split at stepped
    · split at stepped
      · subst stepped
        exact knows.goes lives' records after rfl (fun event here => by cases here; nofun)
          (.inl idle) fun call here => by cases here; exact trivial
      · subst stepped
        exact knows.goes lives' records after rfl nofun (.inl idle)
          fun call here => by cases here; exact trivial
    · subst stepped
      exact knows.goes lives' records after rfl nofun (.inl idle) nofun
  | allocIncrement key callback =>
    subst stepped
    refine knows.goes lives' records after rfl nofun (.inl (by rw [current]; rfl))
      fun call here => ?_
    cases here
    dsimp only
    split <;> exact trivial
  | allocIncrementAgain key callback =>
    subst stepped
    exact knows.goes lives' records after rfl nofun (.inl (by rw [current]; rfl))
      fun call here => by cases here; exact trivial
  | allocStoreCallback key callback =>
    subst stepped
    exact knows.goes lives' records after rfl nofun (.inl (by rw [current]; rfl))
      fun call here => by cases here; exact trivial
  | allocStoreState key =>
    subst stepped
    exact knows.goes lives' records after rfl (fun event here => by cases here; nofun)
      (.inl (by rw [current]; rfl)) nofun
  | freeClaim key =>
    have idle : (s.contexts number).current.bind Call.writes = none := by rw [current]; rfl
    dsimp only at stepped
    split at stepped
    · rename_i allocated
      exact knows.claims lives records current allocated stepped.symm lives' after
    · subst stepped
      exact knows.goes lives' records after rfl nofun (.inl idle) nofun
  | freeLoadGeneration key claimed =>
    have own := @own_of_none number s outcome (by rw [← stepped])
    subst stepped
    refine knows.goes lives' records after rfl nofun (.inl (by rw [current]; rfl))
      fun call here => ?_
    cases here
    exact Frees.later valid after own timed
  | freeLoadCallback key claimed generation value =>
    exact knows.freesValue lives records current stepped.symm lives' after
  | freeStoreCallback key claimed generation value callback =>
    have idle : (s.contexts number).current.bind Call.writes = none := by rw [current]; rfl
    dsimp only at stepped
    split at stepped
    · subst stepped
      exact knows.goes lives' records after rfl (fun event here => by cases here; nofun)
        (.inl idle) nofun
    · subst stepped
      exact knows.goes lives' records after rfl nofun (.inl idle)
        fun call here => by cases here; exact trivial
  | freeStoreState key =>
    subst stepped
    exact knows.goes lives' records after rfl nofun (.inl (by rw [current]; rfl)) nofun
  | access access key point =>
    subst stepped
    exact knows.access lives records current lives' after

theorem Call.Opening.valid {call : Call} (opening : call.Opening) : call.Valid s number := by
  cases call with
  | access access key point => cases point <;> first | exact trivial | exact opening.elim
  | _ => first | exact trivial | exact opening.elim

/-- A move leaves its own context knowing what it needs. -/
theorem Knows.moves (knows : Knows s number) (lives : Lives s) (records : Records s) (move : Move)
    (moved : (s.contexts number).move s.slots s.clock number move = outcome)
    (lives' : Lives (s.takes number outcome)) (after : Later s (s.takes number outcome)) :
    Knows (s.takes number outcome) number := by
  have cases_ := move_cases s.slots s.clock number (s.contexts number) move
  rw [moved] at cases_
  rcases cases_ with ⟨call, current, advanced⟩ | ⟨slots, none_, values, opens⟩
  · subst advanced
    exact knows.advances lives records current lives' after
  · have own := @own_of_none number s outcome none_
    have same : (s.takes number outcome).contexts number = outcome.context := takes_context_self
    rcases opens with kept | ⟨idle, opening⟩
    · refine knows.goes lives' records after values (by rw [none_]; nofun)
        (.inr (by rw [kept])) fun call here => ?_
      rw [kept] at here
      exact (knows.valid call here).later after own (by rw [same, values])
        (lives.timed number call here) fun key _ => by rw [System.takes, slots]
    · exact knows.goes lives' records after values (by rw [none_]; nofun)
        (.inl (by rw [idle]; rfl)) fun call here => (opening call here).valid

/-! ### What is recorded -/

/-- A context records what it has done by itself at the last operation of the call. -/
theorem private_deed_cases {move : Move}
    (moved : (s.contexts number).move s.slots s.clock number move = outcome) {event : Event}
    {context : Nat} (here : event ∈ outcome.deed) (own : event.deed.Private context) :
    (∃ key value generation written read checked, (s.contexts number).current =
        some (.access (.set value) key (.recheck generation written read checked)) ∧
      (s.slots key).generation = generation ∧
      event = ⟨key, checked, .set number generation written read s.clock⟩) ∨
    (∃ key generation value read checked, (s.contexts number).current =
        some (.access .get key (.recheck generation value read checked)) ∧
      (s.slots key).generation = generation ∧
      event = ⟨key, checked, .got number generation value⟩) ∨
    ∃ key claimed generation value callback, (s.contexts number).current =
        some (.freeStoreCallback key claimed generation value callback) ∧
      key.kind = .fls ∧ event = ⟨key, claimed, .calledBack number generation value⟩ := by
  have cases_ := move_cases s.slots s.clock number (s.contexts number) move
  rw [moved] at cases_
  rcases cases_ with ⟨call, current, advanced⟩ | ⟨-, none_, -⟩
  · rw [advanced] at here
    unfold advance at here
    cases call with
    | allocSearch kind callback index =>
      dsimp only at here
      split at here
      · split at here
        · cases here
          exact own.elim
        · cases here
      · cases here
    | allocStoreState key =>
      cases here
      exact own.elim
    | freeClaim key =>
      dsimp only at here
      split at here
      · cases here
        exact own.elim
      · cases here
    | freeStoreCallback key claimed generation value callback =>
      dsimp only at here
      split at here
      · rename_i calls
        cases here
        exact .inr (.inr ⟨_, _, _, _, _, current, calls.1, rfl⟩)
      · cases here
    | access access key point =>
      have failed (here : event ∈ (access.failed key s.slots (s.contexts number)).deed) :
          False := by
        cases access <;> cases here
      unfold accessStep at here
      cases point with
      | loadState before =>
        dsimp only at here
        split at here <;> cases here
      | touch generation read => cases access <;> cases here
      | check generation value read =>
        dsimp only at here
        split at here
        · cases here
        · exact (failed here).elim
      | recheck generation value read checked =>
        dsimp only at here
        split at here
        · rename_i unchanged
          cases access with
          | get =>
            cases here
            exact .inr (.inl ⟨_, _, _, _, _, current, unchanged, rfl⟩)
          | set value =>
            cases here
            exact .inl ⟨_, _, _, _, _, _, current, unchanged, rfl⟩
        · exact (failed here).elim
      | _ => cases here
    | _ => cases here
  · rw [none_] at here
    cases here

section
variable {move : Move} {context read rechecked : Nat}

theorem new_set (moved : (s.contexts number).move s.slots s.clock number move = outcome)
    (new : outcome.deed = some ⟨key, time, .set context generation value read rechecked⟩) :
    context = number ∧ rechecked = s.clock ∧ (s.slots key).generation = generation ∧
      ∃ given, (s.contexts number).current =
        some (.access (.set given) key (.recheck generation value read time)) := by
  rcases private_deed_cases moved new rfl with
    ⟨key', given, generation', written, read', checked, current, unchanged, same⟩ |
    ⟨key', generation', value', read', checked, current, -, same⟩ |
    ⟨key', claimed, generation', value', callback, current, -, same⟩
  · cases same
    exact ⟨rfl, rfl, unchanged, given, current⟩
  · cases same
  · cases same

theorem new_got (moved : (s.contexts number).move s.slots s.clock number move = outcome)
    (new : outcome.deed = some ⟨key, time, .got context generation value⟩) :
    context = number ∧ (s.slots key).generation = generation ∧
      ∃ read, (s.contexts number).current =
        some (.access .get key (.recheck generation value read time)) := by
  rcases private_deed_cases moved new rfl with
    ⟨key', given, generation', written, read', checked, current, -, same⟩ |
    ⟨key', generation', value', read', checked, current, unchanged, same⟩ |
    ⟨key', claimed, generation', value', callback, current, -, same⟩
  · cases same
  · cases same
    exact ⟨rfl, unchanged, read', current⟩
  · cases same

theorem new_callback (moved : (s.contexts number).move s.slots s.clock number move = outcome)
    (new : outcome.deed = some ⟨key, time, .calledBack context generation value⟩) :
    context = number ∧ key.kind = .fls ∧ ∃ callback, (s.contexts number).current =
      some (.freeStoreCallback key time generation value callback) := by
  rcases private_deed_cases moved new rfl with
    ⟨key', given, generation', written, read', checked, current, -, same⟩ |
    ⟨key', generation', value', read', checked, current, -, same⟩ |
    ⟨key', claimed, generation', value', callback, current, fiber, same⟩
  · cases same
  · cases same
  · cases same
    exact ⟨rfl, fiber, callback, current⟩

theorem new_private {event : Event}
    (moved : (s.contexts number).move s.slots s.clock number move = outcome)
    (new : outcome.deed = some event) (mine : event.deed.Private context) : context = number := by
  obtain ⟨key, time, deed⟩ := event
  cases deed with
  | set own generation value read rechecked => exact mine.symm.trans (new_set moved new).1
  | got own generation value => exact mine.symm.trans (new_got moved new).1
  | calledBack own generation value => exact mine.symm.trans (new_callback moved new).1
  | _ => exact mine.elim

end

theorem Latest.at (latest : Latest history number key generation value) {bound : Nat}
    (quiet : Quiet history number bound) (later : bound ≤ time) :
    LatestAt history number key generation value time := by
  have past {other after : Nat} (set : SetBy history number key generation other after) :
      after < time := by
    obtain ⟨read, rechecked, recorded⟩ := set
    exact Nat.lt_of_lt_of_le (quiet _ recorded rfl) later
  rcases latest with ⟨before, set, last⟩ | ⟨never, zero⟩
  · exact .inl ⟨before, past set, set, fun other after set' _ => last other after set'⟩
  · exact .inr ⟨fun other after set => absurd set (never other after), zero⟩

theorem LatestAt.later (latest : LatestAt s.history number key generation value time)
    (after : Later s next)
    (sets : ∀ other again, SetBy next.history number key generation other again →
      SetBy s.history number key generation other again ∨ time ≤ again) :
    LatestAt next.history number key generation value time := by
  rcases latest with ⟨before, earlier, set, last⟩ | ⟨never, zero⟩
  · refine .inl ⟨before, earlier, set.kept after, fun other again set' past => ?_⟩
    rcases sets other again set' with old | new
    · exact last other again old past
    · omega
  · refine .inr ⟨fun other again set => ?_, zero⟩
    rcases sets other again set with old | new
    · exact never other again old
    · exact new

/-- An access knows that its generation was allocated before it was read, and none since. -/
theorem Reads.apart {read : Nat} (reads : Reads s number key generation read) (lives : Lives s)
    (unchanged : (s.slots key).generation = generation) {other start : Nat}
    (begun : Allocated s.history key other start) : start < read := by
  have lifetimes := lives.lifetimes key
  obtain ⟨⟨first, known, before⟩, -⟩ := reads.current
  have bound := (lifetimes.bounds other start begun).2
  rcases Nat.lt_or_eq_of_le (unchanged ▸ bound) with earlier | rfl
  · obtain ⟨stop, ended, between⟩ := lifetimes.order _ _ _ _ begun known earlier
    obtain ⟨start', begun', ordered⟩ := lifetimes.freed _ _ ended
    have equal := lifetimes.once _ _ _ begun begun'
    omega
  · have equal := lifetimes.once _ _ _ begun known
    omega

theorem Records.takes (records : Records s) (lives : Lives s) (knows : ∀ number, Knows s number)
    (move : Move) (moved : (s.contexts number).move s.slots s.clock number move = outcome)
    (after : Later s (s.takes number outcome)) : Records (s.takes number outcome) := by
  have past {event : Event} (member : event ∈ s.history) : event.time ≤ s.clock :=
    Nat.le_of_lt (lives.past event member)
  -- a context sets after all it did before
  have sets {key : Key} {context generation value time : Nat} {event : Event}
      (recorded : event ∈ s.history) (mine : event.deed.Private context)
      (set : SetBy (s.takes number outcome).history context key generation value time) :
      SetBy s.history context key generation value time ∨ event.time ≤ time := by
    obtain ⟨read, rechecked, member⟩ := set
    rcases List.mem_append.mp member with old | new
    · exact .inl ⟨read, rechecked, old⟩
    · obtain ⟨rfl, -, -, given, current⟩ := new_set moved (Option.mem_toList.mp new)
      obtain ⟨reads, -⟩ := (knows context).valid _ current
      obtain ⟨readChecked, -⟩ := lives.timed context _ current
      exact .inr (Nat.le_of_lt (Nat.lt_trans (reads.quiet event recorded mine) readChecked))
  have unset {event : Event} (here : outcome.deed = some event) {key : Key}
      {context generation value time : Nat} (other : ∀ read rechecked,
        event.deed ≠ .set context generation value read rechecked)
      (set : SetBy (s.takes number outcome).history context key generation value time) :
      SetBy s.history context key generation value time := by
    obtain ⟨read, rechecked, member⟩ := set
    rcases List.mem_append.mp member with old | new
    · exact ⟨read, rechecked, old⟩
    · rw [here, Option.toList_some, List.mem_singleton] at new
      exact absurd (by rw [← new]) (other read rechecked)
  refine ⟨fun key time context generation value read rechecked member => ?_,
    fun key time context generation value member => ?_,
    fun key time context generation value member => ?_⟩
  · rcases List.mem_append.mp member with old | new
    · obtain ⟨readAt, setAt, readSet, setRechecked, rechecked_, apart⟩ :=
        records.sets _ _ _ _ _ _ _ old
      refine ⟨readAt.later after (by omega), setAt.later after (past old), readSet, setRechecked,
        Nat.lt_succ_of_lt rechecked_, fun other start begun => ?_⟩
      rcases after.allocated key other start begun with known | ⟨new, -⟩
      · exact apart other start known
      · exact .inr (by omega)
    · rw [Option.mem_toList] at new
      obtain ⟨rfl, rfl, unchanged, given, current⟩ := new_set moved new
      obtain ⟨reads, reached, -⟩ := (knows context).valid _ current
      obtain ⟨readChecked, checkedNow⟩ := lives.timed context _ current
      refine ⟨reads.current.later after (Nat.le_of_lt reads.past),
        (reached unchanged).later after (Nat.le_of_lt checkedNow), readChecked, checkedNow,
        Nat.lt_succ_self _, fun other start begun => .inl ?_⟩
      rcases allocated_append.mp begun with known | same
      · exact reads.apart lives unchanged known
      · rw [new] at same
        cases same
  · rcases List.mem_append.mp member with old | new
    · obtain ⟨gotAt, latest⟩ := records.gots _ _ _ _ _ old
      exact ⟨gotAt.later after (past old), latest.later after fun other again set =>
        sets old rfl set⟩
    · rw [Option.mem_toList] at new
      obtain ⟨rfl, unchanged, read, current⟩ := new_got moved new
      obtain ⟨reads, reached, latest⟩ := (knows context).valid _ current
      obtain ⟨readChecked, checkedNow⟩ := lives.timed context _ current
      exact ⟨(reached unchanged).later after (Nat.le_of_lt checkedNow),
        ((latest unchanged).at reads.quiet (Nat.le_of_lt readChecked)).later after
          fun other again set => .inl (unset new nofun set)⟩
  · rcases List.mem_append.mp member with old | new
    · obtain ⟨fiber, freed, current, latest⟩ := records.callbacks _ _ _ _ _ old
      exact ⟨fiber, after.kept _ freed, current.later after (past old),
        latest.later after fun other again set => sets old rfl set⟩
    · rw [Option.mem_toList] at new
      obtain ⟨rfl, fiber, callback, current⟩ := new_callback moved new
      have frees : Frees s context key time generation value := (knows context).valid _ current
      exact ⟨fiber, after.kept _ frees.freed, frees.current.later after (past frees.freed),
        (frees.latest.at frees.quiet (Nat.le_refl _)).later after
          fun other again set => .inl (unset new nofun set)⟩

/-! ### Every run -/

structure Storage (s : System) : Prop where
  lives : Lives s
  records : Records s
  knows : ∀ number, Knows s number

theorem storage_start : Storage {} where
  lives := lives_start
  records := ⟨nofun, nofun, nofun⟩
  knows _ := ⟨fun _ => .inl rfl, fun _ _ _ live => absurd live.1.choose_spec List.not_mem_nil,
    nofun⟩

theorem Storage.step (storage : Storage s) (label : Nat × Move)
    (few : ∀ key, reservations (step s label).1.history key < 2 ^ 64 - 1) :
    Storage (step s label).1 := by
  obtain ⟨lives, records, knows⟩ := storage
  obtain ⟨number, move⟩ := label
  generalize moved : (s.contexts number).move s.slots s.clock number move = outcome
  have stepped : (LocalStorage.step s (number, move)).1 = s.takes number outcome := by
    unfold LocalStorage.step
    dsimp only
    rw [moved]
    rfl
  rw [stepped] at few ⊢
  have few' (key : Key) : reservations s.history key < 2 ^ 64 - 1 :=
    Nat.lt_of_le_of_lt (reservations_le outcome.deed) (few key)
  have effect : Effect s.slots s.clock number (s.contexts number) outcome :=
    moved ▸ move_effect s.slots s.clock number (s.contexts number) move
  have lives' := lives.takes move moved few'
  have after := lives.later effect few'
  refine ⟨lives', records.takes lives knows move moved after, fun other => ?_⟩
  by_cases here : other = number
  · subst here
    exact (knows other).moves lives records move moved lives' after
  · refine (knows other).others lives lives' records after (takes_context_other here)
      (fun event member mine => ?_) fun key held =>
        (held_unchanged lives.exclusive effect here held).1
    rcases List.mem_append.mp member with old | new
    · exact old
    · exact absurd (new_private moved (Option.mem_toList.mp new) mine) here

theorem storage_run (labels : List (Nat × Move))
    (few : ∀ key, reservations (run step {} labels).state.history key < 2 ^ 64 - 1) :
    Storage (run step {} labels).state :=
  run_invariant step (fun _ s => (∀ key, reservations s.history key < 2 ^ 64 - 1) → Storage s)
    (fun _ => storage_start)
    (fun _ _ label storage few => (storage fun key => Nat.lt_of_le_of_lt
      (reservations_le _) (few key)).step label few) labels few

end SadLayer.LocalStorage
