import SadLayer.EnvironmentList

/-! Each statement of a thread on the environment list keeps the list whole, uses memory that is
allocated, and changes what is outstanding as it commits. -/
namespace SadLayer.EnvironmentList
open SadLayer.Library SadLayer.Environment

variable {state after : State} {listed left : List Nat} {thread other : Nat} {move : Move}
  {stage next : Stage} {answer : Option Answer} {address : Nat}

namespace State

def links (state : State) : Links Nat where
  head := state.head
  next address := (state.headers address).bind Header.next

@[simp] theorem stage_goes : (state.goes thread stage).stage =
    Function.update state.stage thread stage := rfl

theorem links_put_next (new : Header) :
    (state.put address (some new)).links = state.links.write new.next (some address) := by
  refine congrArg (Links.mk state.head) (funext fun asked => ?_)
  by_cases here : asked = address
  · simp [put, here]
  · simp [put, here, links]

theorem put_live {new : Header} (live : (state.headers address).isSome = true) (asked : Nat) :
    ((state.put address (some new)).headers asked).isSome = (state.headers asked).isSome := by
  by_cases here : asked = address
  · simp [put, here, live]
  · simp [put, here]

end State

/-- What a thread relies on where it is. -/
def AtPlace (links : Links Nat) (listed : List Nat) : Stage → Prop
  | .linked header => links.next header = links.head
  | .walking environment link => ∃ before behind, listed = before ++ behind ∧
      link = before.getLast? ∧ ∀ header ∈ before, header + headerSize ≠ environment
  | .found environment link => ∃ before header behind, listed = before ++ header :: behind ∧
      link = before.getLast? ∧ header + headerSize = environment
  | _ => True

/-- The list has these headers; each header in memory is one of them or of one thread alone; and
the holder of the lock is the thread that is where it is held. -/
structure Consistent (state : State) (listed : List Nat) : Prop where
  lists : state.links.Lists listed
  live : ∀ address, (state.headers address).isSome = true ↔
    address ∈ listed ∨ ∃ thread, (state.stage thread).own = some address
  apart : ∀ address ∈ listed, ∀ thread, (state.stage thread).own ≠ some address
  single : ∀ thread other address, (state.stage thread).own = some address →
    (state.stage other).own = some address → thread = other
  held : ∀ thread, (state.stage thread).locked = true ↔ state.holder = some thread
  place : ∀ thread, AtPlace state.links listed (state.stage thread)

theorem at_place_unlocked {links : Links Nat} (outside : stage.locked = false) :
    AtPlace links listed stage := by
  cases stage <;> trivial

theorem AtPlace.congr {links more : Links Nat} (there : AtPlace links listed stage)
    (head : more.head = links.head)
    (owned : ∀ header, stage.own = some header → more.next header = links.next header) :
    AtPlace more listed stage := by
  cases stage with
  | linked header => exact (owned header rfl).trans (Eq.trans there head.symm)
  | _ => exact there

/-- Some thread has the header: this one, or another. -/
theorem owned_iff {address : Nat} (thread : Nat) :
    (∃ other, (state.stage other).own = some address) ↔
      (state.stage thread).own = some address ∨
        ∃ other ≠ thread, (state.stage other).own = some address := by
  constructor
  · rintro ⟨other, own⟩
    by_cases same : other = thread
    · exact .inl (same ▸ own)
    · exact .inr ⟨other, same, own⟩
  · rintro (own | ⟨other, -, own⟩)
    · exact ⟨thread, own⟩
    · exact ⟨other, own⟩

/-- The lock passes on as the thread goes on. -/
def Hands (state after : State) (thread : Nat) (next : Stage) : Prop :=
  (next.locked = true ↔ after.holder = some thread) ∧
    ∀ other ≠ thread, ((state.stage other).locked = true ↔ after.holder = some other)

namespace Consistent
variable (consistent : Consistent state listed)
include consistent

theorem hands_same (there : state.stage thread = stage) (same : after.holder = state.holder)
    (locked : next.locked = stage.locked) : Hands state after thread next := by
  unfold Hands
  rw [same, locked, ← there]
  exact ⟨consistent.held thread, fun other _ => consistent.held other⟩

theorem hands_lock (free : state.holder = none) (locks : after.holder = some thread)
    (locked : next.locked = true) : Hands state after thread next := by
  refine ⟨iff_of_true locked locks, fun other apart => ?_⟩
  rw [consistent.held, free, locks]
  exact iff_of_false (by simp) fun same => apart (Option.some.inj same).symm

theorem alone (locked : (state.stage thread).locked = true) (apart : other ≠ thread) :
    (state.stage other).locked = false := by
  rw [Bool.eq_false_iff]
  intro also
  have same := ((consistent.held other).mp also).symm.trans ((consistent.held thread).mp locked)
  exact apart (Option.some.inj same)

theorem hands_unlock (there : state.stage thread = stage) (locked : stage.locked = true)
    (unlocks : after.holder = none) (outside : next.locked = false) :
    Hands state after thread next := by
  subst there
  unfold Hands
  rw [unlocks, outside]
  refine ⟨iff_of_false Bool.noConfusion (by simp), fun other apart => ?_⟩
  rw [consistent.alone locked apart]
  exact iff_of_false Bool.noConfusion (by simp)

/-- What is to be shown when a thread goes on. -/
theorem moves (stages : after.stage = Function.update state.stage thread next)
    (lists : after.links.Lists left)
    (live : ∀ address, (after.headers address).isSome = true ↔ address ∈ left ∨
      next.own = some address ∨ ∃ other ≠ thread, (state.stage other).own = some address)
    (apart : ∀ address ∈ left, next.own ≠ some address ∧
      ∀ other ≠ thread, (state.stage other).own ≠ some address)
    (single : ∀ address, next.own = some address →
      ∀ other ≠ thread, (state.stage other).own ≠ some address)
    (hands : Hands state after thread next) (place : AtPlace after.links left next)
    (others : ∀ other ≠ thread, AtPlace after.links left (state.stage other)) :
    Consistent after left := by
  have here : after.stage thread = next := by rw [stages, Function.update_self]
  have there {other : Nat} (apart : other ≠ thread) : after.stage other = state.stage other := by
    rw [stages, Function.update_of_ne apart]
  refine ⟨lists, fun address => ?_, fun address inside asked => ?_, fun first second address => ?_,
    fun asked => ?_, fun asked => ?_⟩
  · rw [live address, owned_iff thread, here]
    refine or_congr_right (or_congr_right ?_)
    refine exists_congr fun other => and_congr_right fun apart => ?_
    rw [there apart]
  · by_cases same : asked = thread
    · rw [same, here]
      exact (apart address inside).1
    · rw [there same]
      exact (apart address inside).2 asked same
  · intro mine yours
    by_cases same : first = thread
    · by_cases also : second = thread
      · rw [same, also]
      · rw [same, here] at mine
        rw [there also] at yours
        exact absurd yours (single address mine second also)
    · rw [there same] at mine
      by_cases also : second = thread
      · rw [also, here] at yours
        exact absurd mine (single address yours first same)
      · rw [there also] at yours
        exact consistent.single first second address mine yours
  · by_cases same : asked = thread
    · rw [same, here]
      exact hands.1
    · rw [there same]
      exact hands.2 asked same
  · by_cases same : asked = thread
    · rw [same, here]
      exact place
    · rw [there same]
      exact others asked same

/-- The others have what they have, and the list is as it was, when the thread changes nothing or
a header of its own. -/
theorem keeps (stages : after.stage = Function.update state.stage thread next)
    (head : after.head = state.head) (own : next.own = (state.stage thread).own)
    (live : ∀ address, (after.headers address).isSome = (state.headers address).isSome)
    (written : ∀ address, (state.stage thread).own ≠ some address →
      after.links.next address = state.links.next address)
    (hands : Hands state after thread next) (place : AtPlace after.links listed next) :
    Consistent after listed := by
  have others {address other : Nat} (apart : other ≠ thread)
      (own : (state.stage other).own = some address) : (state.stage thread).own ≠ some address :=
    fun mine => apart (consistent.single other thread address own mine)
  refine consistent.moves stages ?_ (fun address => ?_) (fun address inside => ?_)
    (fun address mine other apart theirs => ?_) hands place fun other apart => ?_
  · exact Links.lists_congr consistent.lists head fun address inside =>
      written address (consistent.apart address inside thread)
  · rw [live, consistent.live, own]
    exact or_congr_right (owned_iff thread)
  · rw [own]
    exact ⟨consistent.apart address inside thread, fun other _ =>
      consistent.apart address inside other⟩
  · rw [own] at mine
    exact others apart theirs mine
  · exact (consistent.place other).congr head fun header own => written header (others apart own)

end Consistent

/-! ### Steps -/

/-- The environments of the headers, as guests have them. -/
def pointers (listed : List Nat) : List Nat := listed.map (· + headerSize)

/-- The list changes as the commit says, if there is one. -/
def Committed (listed left : List Nat) : Option Commit → Prop
  | none => left = listed
  | some commit => commit.Allowed (pointers listed) ∧ pointers left = commit.apply (pointers listed)

/-- A step keeps the invariant, changes the list by what it commits, and answers what was committed
before. -/
def Kept (state : State) (listed : List Nat) (thread : Nat) (commit : Option Commit)
    (after : State) (answer : Option Answer) : Prop :=
  ∃ left, Consistent after left ∧ Committed listed left commit ∧
    (state.stage thread).pending.toList ++ commit.toList =
      (answer.bind Answer.commit).toList ++ (after.stage thread).pending.toList ∧
    ∀ other ≠ thread, after.stage other = state.stage other

def Outcome.Meets (post : State → Option Answer → Prop) : Outcome → Prop
  | .blocked => True
  | .fault => False
  | .moved state answer => post state answer

theorem pointers_mem {header : Nat} : header + headerSize ∈ pointers listed ↔ header ∈ listed := by
  simp [pointers]

namespace Consistent
variable (consistent : Consistent state listed)
include consistent

theorem owned {header : Nat} (there : state.stage thread = stage)
    (own : stage.own = some header) : ∃ found, state.headers header = some found :=
  Option.isSome_iff_exists.mp ((consistent.live header).mpr (.inr ⟨thread, there ▸ own⟩))

/-- A step that only goes on to another place commits nothing. -/
theorem keeps_quietly {commit : Option Commit} (there : state.stage thread = stage)
    (stages : after.stage = Function.update state.stage thread next)
    (headers : after.headers = state.headers) (head : after.head = state.head)
    (own : next.own = stage.own) (hands : Hands state after thread next)
    (place : AtPlace state.links listed next) (silent : Committed listed listed commit)
    (told : stage.pending.toList ++ commit.toList =
      (answer.bind Answer.commit).toList ++ next.pending.toList) :
    Kept state listed thread commit after answer := by
  subst there
  have links : after.links = state.links := by
    unfold State.links
    rw [headers, head]
  refine ⟨listed, consistent.keeps stages head own (fun _ => by rw [headers])
    (fun _ _ => by rw [links]) hands (links ▸ place), silent, ?_, ?_⟩
  · rw [stages, Function.update_self]
    exact told
  · intro other apart
    rw [stages, Function.update_of_ne apart]

theorem others_apart {header : Nat} (own : (state.stage thread).own = some header) :
    ∀ other ≠ thread, (state.stage other).own ≠ some header :=
  fun other apart theirs => apart (consistent.single other thread header theirs own)

/-- Writing to the thread's own header. -/
theorem writes_own {header : Nat} {new : Header} (there : state.stage thread = stage)
    (own : stage.own = some header) (kept : next.own = some header)
    (locked : next.locked = stage.locked)
    (place : AtPlace (state.put header (some new)).links listed next)
    (told : stage.pending = next.pending) :
    Kept state listed thread none ((state.put header (some new)).goes thread next) none := by
  subst there
  obtain ⟨found, live⟩ := consistent.owned rfl own
  refine ⟨listed, consistent.keeps rfl rfl (kept.trans own.symm)
    (fun address => State.put_live (by rw [live, Option.isSome_some]) address)
    (fun address other => ?_) (consistent.hands_same rfl rfl locked) place, rfl, ?_, ?_⟩
  · have apart : address ≠ header := by
      rintro rfl
      exact other own
    rw [show ((state.put header (some new)).goes thread next).links =
      (state.put header (some new)).links from rfl, State.links_put_next]
    exact Function.update_of_ne apart _ _
  · rw [State.stage_goes, Function.update_self, told]
    simp
  · intro other apart
    exact Function.update_of_ne apart _ _

/-- Freeing it, and returning. -/
theorem frees_own {header : Nat} (there : state.stage thread = stage)
    (own : stage.own = some header) (outside : stage.locked = false)
    (stages : after.stage = Function.update state.stage thread .idle)
    (headers : after.headers = Function.update state.headers header none)
    (head : after.head = state.head) (holder : after.holder = state.holder)
    (told : stage.pending = answer.bind Answer.commit) :
    Kept state listed thread none after answer := by
  subst there
  have others := consistent.others_apart own
  have links : ∀ address ≠ header, after.links.next address = state.links.next address := by
    intro address apart
    simp [State.links, headers, apart]
  refine ⟨listed, consistent.moves stages ?_ (fun address => ?_) (fun address inside => ?_) ?_
    (consistent.hands_same rfl holder outside.symm) trivial fun other apart => ?_, rfl, ?_, ?_⟩
  · refine Links.lists_congr consistent.lists head fun address inside => links address ?_
    rintro rfl
    exact consistent.apart address inside thread own
  · by_cases here : address = header
    · subst here
      rw [headers, Function.update_self]
      refine iff_of_false Bool.noConfusion ?_
      rintro (inside | mine | ⟨other, apart, theirs⟩)
      · exact consistent.apart address inside thread own
      · cases mine
      · exact others other apart theirs
    · rw [headers, Function.update_of_ne here, consistent.live, owned_iff thread, own]
      refine or_congr_right (or_congr_left (iff_of_false ?_ ?_))
      · exact fun same => here (Option.some.inj same).symm
      · exact nofun
  · exact ⟨by simp [Stage.own], fun other _ => consistent.apart address inside other⟩
  · intro address mine
    cases mine
  · refine (consistent.place other).congr head fun asked theirs => links asked ?_
    rintro rfl
    exact others other apart theirs
  · rw [stages, Function.update_self, told]
    simp [Stage.pending]
  · intro other apart
    rw [stages, Function.update_of_ne apart]

/-- A block that was allocated belongs to the thread. -/
theorem allocates {header : Nat} {new : Header} (free : state.headers header = none)
    (idle : state.stage thread = .idle) :
    Kept state listed thread none ((state.put header (some new)).goes thread (.filled header))
      none := by
  have nowhere := mt (consistent.live header).mpr (by rw [free]; exact Bool.noConfusion)
  have unlisted : header ∉ listed := fun inside => nowhere (.inl inside)
  have unowned (other : Nat) : (state.stage other).own ≠ some header :=
    fun own => nowhere (.inr ⟨other, own⟩)
  have links : ∀ address ≠ header, (state.put header (some new)).links.next address =
      state.links.next address := by
    intro address apart
    simp [State.links, State.put, apart]
  refine ⟨listed, consistent.moves rfl ?_ (fun address => ?_) (fun address inside => ?_) ?_
    (consistent.hands_same idle rfl rfl) trivial fun other apart => ?_, rfl, ?_, ?_⟩
  · refine Links.lists_congr consistent.lists rfl fun address inside => links address ?_
    rintro rfl
    exact unlisted inside
  · by_cases here : address = header
    · subst here
      exact iff_of_true (by simp [State.goes, State.put]) (.inr (.inl rfl))
    · rw [show ((state.put header (some new)).goes thread (.filled header)).headers address =
        state.headers address from Function.update_of_ne here _ _, consistent.live,
        owned_iff thread, idle]
      refine or_congr_right (or_congr_left (iff_of_false ?_ ?_))
      · exact nofun
      · exact fun same => here (Option.some.inj same).symm
  · refine ⟨fun mine => ?_, fun other _ => consistent.apart address inside other⟩
    exact unlisted (Option.some.inj mine ▸ inside)
  · intro address mine other _
    rw [← Option.some.inj mine]
    exact unowned other
  · refine (consistent.place other).congr rfl fun asked theirs => links asked ?_
    rintro rfl
    exact unowned other theirs
  · rw [State.stage_goes, Function.update_self, idle]
    rfl
  · intro other apart
    exact Function.update_of_ne apart _ _

/-- Putting the thread's header in front. -/
theorem pushes {header : Nat} (there : state.stage thread = .linked header) :
    Kept state listed thread (some (.added (header + headerSize)))
      ({ state with head := some header }.goes thread (.added header)) none := by
  have own : (state.stage thread).own = some header := by rw [there]; rfl
  have locked : (state.stage thread).locked = true := by rw [there]; rfl
  have others := consistent.others_apart own
  have unlisted : header ∉ listed := fun inside => consistent.apart header inside thread own
  have linked := consistent.place thread
  rw [there] at linked
  refine ⟨header :: listed, consistent.moves rfl (Links.lists_push consistent.lists linked)
    (fun address => ?_) (fun address inside => ⟨by simp [Stage.own], ?_⟩) (by simp [Stage.own])
    (consistent.hands_same there rfl rfl) trivial
    fun other apart => at_place_unlocked (consistent.alone locked apart), ?_, ?_, ?_⟩
  · refine (consistent.live address).trans ?_
    rw [List.mem_cons]
    constructor
    · rintro (inside | ⟨other, theirs⟩)
      · exact .inl (.inr inside)
      · by_cases same : other = thread
        · rw [same, own] at theirs
          exact .inl (.inl (Option.some.inj theirs).symm)
        · exact .inr (.inr ⟨other, same, theirs⟩)
    · rintro ((rfl | inside) | mine | ⟨other, -, theirs⟩)
      · exact .inr ⟨thread, own⟩
      · exact .inl inside
      · cases mine
      · exact .inr ⟨other, theirs⟩
  · rcases List.mem_cons.mp inside with rfl | inside
    · exact others
    · exact fun other _ => consistent.apart address inside other
  · exact ⟨mt pointers_mem.mp unlisted, rfl⟩
  · rw [State.stage_goes, Function.update_self, there]
    rfl
  · intro other apart
    exact Function.update_of_ne apart _ _

/-- The last of these headers is in memory. -/
theorem last_live {before behind : List Nat} (split : listed = before ++ behind)
    (last : before.getLast? = some address) : ∃ found, state.headers address = some found := by
  have inside : address ∈ listed := by
    rw [split]
    exact List.mem_append_left _ (List.mem_of_getLast? last)
  exact Option.isSome_iff_exists.mp ((consistent.live address).mpr (.inl inside))

/-- The link of the last of these headers leads to the rest. -/
theorem at_link {before behind : List Nat} (split : listed = before ++ behind) :
    state.atLink before.getLast? = some behind.head? := by
  have leads := Links.lists_read (split ▸ consistent.lists)
  cases last : before.getLast? with
  | none =>
    rw [last] at leads
    exact congrArg some leads
  | some address =>
    obtain ⟨found, live⟩ := consistent.last_live split last
    rw [last] at leads
    simpa [State.atLink, Links.read, State.links, live] using leads

/-- Writing it changes that link and nothing else. -/
theorem writes_link {before behind : List Nat} (split : listed = before ++ behind)
    (value : Option Nat) :
    ∃ changed : State, (∀ next, state.writingLink before.getLast? value next = next changed) ∧
      changed.links = state.links.write value before.getLast? ∧
      (∀ address, (changed.headers address).isSome = (state.headers address).isSome) ∧
      changed.stage = state.stage ∧ changed.holder = state.holder := by
  cases last : before.getLast? with
  | none => exact ⟨_, fun _ => rfl, rfl, fun _ => rfl, rfl, rfl⟩
  | some address =>
    obtain ⟨found, live⟩ := consistent.last_live split last
    refine ⟨_, fun next => ?_, State.links_put_next { found with next := value },
      State.put_live (by rw [live, Option.isSome_some]), rfl, rfl⟩
    simp only [State.writingLink, State.reading, live]

/-- A header that was found is taken out: the link that led to it passes it by. -/
theorem found_step {before behind : List Nat} {environment header : Nat}
    (there : state.stage thread = .found environment before.getLast?)
    (split : listed = before ++ header :: behind) :
    ∃ changed : State, step state thread .goOn =
        .moved (changed.goes thread (.removed environment header)) none ∧
      changed.links.Lists (before ++ behind) ∧
      (∀ address, (changed.headers address).isSome = (state.headers address).isSome) ∧
      changed.stage = state.stage ∧ changed.holder = state.holder := by
  have member : header ∈ listed := by simp [split]
  obtain ⟨found, live⟩ := Option.isSome_iff_exists.mp ((consistent.live header).mpr (.inl member))
  obtain ⟨changed, written, links, lives, stages, holder⟩ :=
    consistent.writes_link split found.next
  refine ⟨changed, ?_, ?_, lives, stages, holder⟩
  · unfold step
    rw [there]
    dsimp only
    rw [State.readingLink, consistent.at_link split]
    dsimp only [List.head?_cons]
    rw [State.reading, live]
    exact written _
  · have own : state.links.next header = found.next := by simp [State.links, live]
    rw [links, ← own]
    exact Links.lists_unlink (split ▸ consistent.lists)

theorem unlinks {before behind : List Nat} {environment header : Nat}
    (there : state.stage thread = .found environment before.getLast?)
    (split : listed = before ++ header :: behind) (asked : header + headerSize = environment) :
    (step state thread .goOn).Meets (Kept state listed thread (commitOf state thread .goOn)) := by
  have commits : commitOf state thread .goOn = some (.removed environment) := by
    unfold commitOf
    rw [there]
  obtain ⟨changed, moved, left, lives, stages, holder⟩ := consistent.found_step there split
  have locked : (state.stage thread).locked = true := by rw [there]; rfl
  have still {address : Nat} :
      address ∈ listed ↔ address = header ∨ address ∈ before ++ behind := by
    rw [split, List.mem_append, List.mem_cons, List.mem_append]
    exact or_left_comm
  have gone : header ∉ before ++ behind :=
    (List.nodup_middle.mp (split ▸ consistent.lists.nodup)).notMem
  have after : (changed.goes thread (.removed environment header)).stage =
      Function.update state.stage thread (.removed environment header) := by
    rw [State.stage_goes, stages]
  rw [commits, moved]
  refine ⟨before ++ behind, consistent.moves after left
    (fun address => ?_) (fun address inside => ⟨fun mine => ?_, fun other _ => ?_⟩)
    (fun address mine other _ => ?_) (consistent.hands_same there holder rfl) trivial
    fun other apart => at_place_unlocked (consistent.alone locked apart), ⟨?_, ?_⟩, ?_, ?_⟩
  · rw [show ((changed.goes thread (.removed environment header)).headers address).isSome =
      (state.headers address).isSome from lives address, consistent.live, still, or_assoc,
      or_left_comm, owned_iff thread, there]
    refine or_congr_right (or_congr ?_ (or_iff_right nofun))
    exact ⟨fun same => congrArg some same.symm, fun same => (Option.some.inj same).symm⟩
  · exact gone (Option.some.inj mine ▸ inside)
  · exact consistent.apart address (still.mpr (.inr inside)) other
  · exact consistent.apart address (still.mpr (.inl (Option.some.inj mine).symm)) other
  · exact asked ▸ pointers_mem.mpr (still.mpr (.inl rfl))
  · have before' : header + headerSize ∉ pointers before :=
      mt pointers_mem.mp fun inside => gone (List.mem_append_left _ inside)
    rw [split, ← asked]
    simp only [pointers, List.map_append, List.map_cons] at before' ⊢
    exact ((List.erase_append_right _ before').trans (by rw [List.erase_cons_head])).symm
  · rw [State.stage_goes, Function.update_self, there]
    rfl
  · intro other apart
    rw [State.stage_goes, Function.update_of_ne apart, stages]

theorem walks {environment : Nat} {link : Option Nat}
    (there : state.stage thread = .walking environment link) :
    (step state thread .goOn).Meets
      (Kept state listed thread (commitOf state thread .goOn)) := by
  have place := consistent.place thread
  rw [there] at place
  obtain ⟨before, behind, split, rfl, other⟩ := place
  have hands {next : Stage} (locked : next.locked = true) :
      Hands state (state.goes thread next) thread next :=
    consistent.hands_same there rfl locked
  unfold step commitOf
  rw [there]
  dsimp only
  rw [State.readingLink, consistent.at_link split]
  cases behind with
  | nil =>
    rw [List.append_nil] at split
    refine consistent.keeps_quietly there rfl rfl rfl rfl (hands rfl) trivial ?_ rfl
    refine ⟨fun outstanding => ?_, rfl⟩
    obtain ⟨header, inside, same⟩ := List.mem_map.mp outstanding
    exact other header (split ▸ inside) same
  | cons header behind =>
    simp only [List.head?_cons, Option.some.injEq, reduceCtorEq, ↓reduceIte]
    split
    · refine consistent.keeps_quietly there rfl rfl rfl rfl (hands rfl)
        ⟨before ++ [header], behind, by simp [split], by simp, ?_⟩ rfl rfl
      intro asked inside
      rcases List.mem_append.mp inside with inside | inside
      · exact other asked inside
      · rwa [List.mem_singleton.mp inside]
    · rename_i found
      exact consistent.keeps_quietly there rfl rfl rfl rfl (hands rfl)
        ⟨before, header, behind, split, rfl, not_not.mp found⟩ rfl rfl

end Consistent

theorem locks_kept (consistent : Consistent state listed) (there : state.stage thread = stage)
    (own : next.own = stage.own) (locked : next.locked = true)
    (place : AtPlace state.links listed next) (told : stage.pending = next.pending) :
    (state.locks thread next).Meets (Kept state listed thread none) := by
  unfold State.locks
  split
  · rename_i free
    exact consistent.keeps_quietly there rfl rfl rfl own (consistent.hands_lock free rfl locked)
      place rfl (by rw [told]; simp)
  · trivial

theorem reading_live {found : Header} (live : state.headers address = some found)
    (next : Header → Outcome) : state.reading address next = next found := by
  unfold State.reading
  rw [live]

/-- Each step goes well, and does what it commits. -/
theorem step_kept (consistent : Consistent state listed) (thread : Nat) (move : Move) :
    (step state thread move).Meets (Kept state listed thread (commitOf state thread move)) := by
  have place := consistent.place thread
  cases there : state.stage thread with
  | idle =>
    cases move with
    | getEnvironmentStringsW answers environ address =>
      simp only [step, commitOf, there, State.getStrings]
      split
      · exact consistent.keeps_quietly there rfl rfl rfl rfl (consistent.hands_same there rfl rfl)
          trivial rfl rfl
      · split
        · trivial
        · rename_i free
          exact consistent.allocates (Option.not_isSome_iff_eq_none.mp free) there
    | freeEnvironmentStringsW environment =>
      cases environment <;> simp only [step, commitOf, there] <;>
        exact consistent.keeps_quietly there rfl rfl rfl rfl (consistent.hands_same there rfl rfl)
          trivial rfl rfl
    | _ => simp only [step, there, Outcome.Meets]
  | filled header =>
    obtain ⟨found, live⟩ := consistent.owned there rfl
    cases move with
    | lockFails =>
      simp only [step, commitOf, there, reading_live live]
      exact consistent.writes_own there rfl rfl rfl trivial rfl
    | goOn =>
      simp only [step, commitOf, there]
      exact locks_kept consistent there rfl rfl trivial rfl
    | _ => simp only [step, there, Outcome.Meets]
  | dropping header =>
    obtain ⟨found, live⟩ := consistent.owned there rfl
    cases move with
    | goOn =>
      simp only [step, commitOf, there, State.freeing, reading_live live]
      exact consistent.frees_own there rfl rfl rfl rfl rfl rfl rfl
    | _ => simp only [step, there, Outcome.Meets]
  | adding header =>
    obtain ⟨found, live⟩ := consistent.owned there rfl
    cases move with
    | goOn =>
      simp only [step, commitOf, there, reading_live live]
      refine consistent.writes_own there rfl rfl rfl ?_ rfl
      rw [State.links_put_next]
      exact Function.update_self ..
    | _ => simp only [step, there, Outcome.Meets]
  | linked header =>
    cases move with
    | goOn =>
      simp only [step, commitOf, there]
      exact consistent.pushes there
    | _ => simp only [step, there, Outcome.Meets]
  | added header =>
    cases move with
    | goOn =>
      simp only [step, commitOf, there]
      exact consistent.keeps_quietly there rfl rfl rfl rfl
        (consistent.hands_unlock there rfl rfl rfl) trivial rfl rfl
    | _ => simp only [step, there, Outcome.Meets]
  | asking environment =>
    cases move with
    | lockFails =>
      simp only [step, commitOf, there]
      exact consistent.keeps_quietly there rfl rfl rfl rfl (consistent.hands_same there rfl rfl)
        trivial rfl rfl
    | goOn =>
      simp only [step, commitOf, there]
      exact locks_kept consistent there rfl rfl ⟨[], listed, rfl, rfl, by simp⟩ rfl
    | _ => simp only [step, there, Outcome.Meets]
  | walking environment link =>
    cases move with
    | goOn => exact consistent.walks there
    | _ => simp only [step, there, Outcome.Meets]
  | found environment link =>
    cases move with
    | goOn =>
      rw [there] at place
      obtain ⟨before, header, behind, split, rfl, asked⟩ := place
      exact consistent.unlinks there split asked
    | _ => simp only [step, there, Outcome.Meets]
  | missed environment =>
    cases move with
    | goOn =>
      simp only [step, commitOf, there]
      exact consistent.keeps_quietly there rfl rfl rfl rfl
        (consistent.hands_unlock there rfl rfl rfl) trivial rfl rfl
    | _ => simp only [step, there, Outcome.Meets]
  | removed environment header =>
    obtain ⟨found, live⟩ := consistent.owned there rfl
    cases move with
    | goOn =>
      simp only [step, commitOf, there, reading_live live]
      exact consistent.writes_own there rfl rfl rfl trivial rfl
    | _ => simp only [step, there, Outcome.Meets]
  | cleared environment header =>
    cases move with
    | goOn =>
      simp only [step, commitOf, there]
      exact consistent.keeps_quietly there rfl rfl rfl rfl
        (consistent.hands_unlock there rfl rfl rfl) trivial rfl rfl
    | _ => simp only [step, there, Outcome.Meets]
  | releasing environment header =>
    obtain ⟨found, live⟩ := consistent.owned there rfl
    cases move with
    | goOn =>
      simp only [step, commitOf, there, State.freeing, reading_live live]
      exact consistent.frees_own there rfl rfl rfl rfl rfl rfl rfl
    | _ => simp only [step, there, Outcome.Meets]

end SadLayer.EnvironmentList
