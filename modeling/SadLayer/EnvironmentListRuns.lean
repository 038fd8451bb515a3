import Mathlib.Data.List.Induction
import SadLayer.EnvironmentListSteps
import SadLayer.Library.Commits

/-! Runs of threads that get environments and give them back. The calls take place one after the
other, each block is given back once, and the lock is given up. -/
namespace SadLayer.EnvironmentList
open SadLayer.Library SadLayer.Environment

variable {state after : State} {listed left : List Nat} {thread other : Nat} {move : Move}
  {stage : Stage} {answer : Option Answer}

/-- What was committed and answered so far, and by which thread. -/
structure History where
  state : State := {}
  commits : List (Nat × Commit) := []
  answers : List (Nat × Answer) := []

def History.record (history : History) (thread : Nat) (move : Move) (state : State)
    (answer : Option Answer) : History where
  state := state
  commits := history.commits ++ (commitOf history.state thread move).toList.map (thread, ·)
  answers := history.answers ++ answer.toList.map (thread, ·)

def History.extend (history : History) (thread : Nat) (move : Move) : Option History :=
  match step history.state thread move with
  | .blocked => some history
  | .fault => none
  | .moved state answer => some (history.record thread move state answer)

/-- The threads move in this order. There is no history with a fault in it. -/
def play (moves : List (Nat × Move)) : Option History :=
  moves.foldlM (fun history move => history.extend move.1 move.2) {}

/-- The calls take place one after the other: those committed do what the list is for, and a thread
has answered what it committed, up to what it is about to answer. -/
structure Linearized (history : History) (listed : List Nat) : Prop where
  consistent : Consistent history.state listed
  follows : Follows Commit.Allowed Commit.apply [] (history.commits.map Prod.snd) (pointers listed)
  order : InOrder Answer.commit (fun thread => (history.state.stage thread).pending)
    history.commits history.answers

theorem start_linearized : Linearized {} [] where
  consistent := {
    lists := .nil
    live := by simp [Stage.own]
    apart := by simp
    single := by simp [Stage.own]
    held := by simp [Stage.locked]
    place := fun _ => trivial }
  follows := .start
  order := fun _ => rfl

/-- One more step. -/
theorem Linearized.moved {history : History} (linearized : Linearized history listed)
    (consistent : Consistent after left)
    (committed : Committed listed left (commitOf history.state thread move))
    (told : (history.state.stage thread).pending.toList ++
      (commitOf history.state thread move).toList =
        (answer.bind Answer.commit).toList ++ (after.stage thread).pending.toList)
    (others : ∀ other ≠ thread, after.stage other = history.state.stage other) :
    Linearized (history.record thread move after answer) left := by
  refine ⟨consistent, ?_, linearized.order.extend told fun other apart => ?_⟩
  · cases commit : commitOf history.state thread move with
    | none =>
      rw [commit] at committed
      cases committed
      simpa [History.record, commit] using linearized.follows
    | some commit' =>
      rw [commit] at committed
      rw [committed.2]
      simpa [History.record, commit] using linearized.follows.commit committed.1
  · exact congrArg Stage.pending (others other apart)

theorem Linearized.extend {history : History} (linearized : Linearized history listed)
    (thread : Nat) (move : Move) :
    ∃ longer left, history.extend thread move = some longer ∧ Linearized longer left := by
  have kept := step_kept linearized.consistent thread move
  unfold History.extend
  split
  · exact ⟨history, listed, rfl, linearized⟩
  · rename_i fault
    rw [fault] at kept
    exact kept.elim
  · rename_i state answer moved
    rw [moved] at kept
    obtain ⟨left, consistent, committed, told, others⟩ := kept
    exact ⟨_, left, rfl, linearized.moved consistent committed told others⟩

theorem plays_on (moves : List (Nat × Move)) :
    ∃ history listed, play moves = some history ∧ Linearized history listed := by
  induction moves using List.reverseRecOn with
  | nil => exact ⟨{}, [], rfl, start_linearized⟩
  | append_singleton moves move ih =>
    obtain ⟨history, listed, played, linearized⟩ := ih
    obtain ⟨longer, left, extended, kept⟩ := linearized.extend move.1 move.2
    refine ⟨longer, left, ?_, kept⟩
    unfold play at played ⊢
    rw [List.foldlM_append, played]
    simpa using extended

/-- Whatever the threads do, and in whatever order, no memory is used or freed that is not
allocated, and the calls on the list take place one after the other: each finds what earlier ones
added and did not remove, and answers so. What is outstanding is in memory, and no thread has it. -/
theorem environment_list_linearizes (moves : List (Nat × Move)) :
    ∃ history outstanding, play moves = some history ∧
      Follows Commit.Allowed Commit.apply [] (history.commits.map Prod.snd) outstanding ∧
      InOrder Answer.commit (fun thread => (history.state.stage thread).pending)
        history.commits history.answers ∧
      ∀ header, header + headerSize ∈ outstanding →
        (history.state.headers header).isSome = true ∧
          ∀ thread, (history.state.stage thread).own ≠ some header := by
  obtain ⟨history, listed, played, consistent, follows, order⟩ := plays_on moves
  refine ⟨history, pointers listed, played, follows, order, fun header inside => ?_⟩
  have member := pointers_mem.mp inside
  exact ⟨(consistent.live header).mpr (.inl member), consistent.apart header member⟩

/-! ### At rest -/

theorem follows_count {commits : List Commit} {outstanding : List Nat}
    (follows : Follows Commit.Allowed Commit.apply [] commits outstanding) :
    outstanding.Nodup ∧ ∀ environment, commits.count (.added environment) =
      commits.count (.removed environment) + if environment ∈ outstanding then 1 else 0 := by
  induction follows with
  | start => exact ⟨List.nodup_nil, fun _ => rfl⟩
  | @commit commits outstanding commit _ allowed ih =>
    obtain ⟨once, counted⟩ := ih
    cases commit with
    | added made =>
      refine ⟨List.nodup_cons.mpr ⟨allowed, once⟩, fun environment => ?_⟩
      have before := counted environment
      by_cases same : made = environment
      · subst same
        simp_all [Commit.Allowed, Commit.apply]
      · simp [Commit.apply, before, same, Ne.symm same]
    | removed made =>
      refine ⟨once.erase made, fun environment => ?_⟩
      have before := counted environment
      by_cases same : made = environment
      · subst same
        simp_all [Commit.Allowed, Commit.apply, once.not_mem_erase]
      · simp [Commit.apply, before, same, List.mem_erase_of_ne (Ne.symm same)]
    | missed asked =>
      refine ⟨once, fun environment => ?_⟩
      rw [List.count_append, List.count_append, counted environment]
      rfl

theorem count_committed (answers : List (Nat × Answer)) (environment : Nat) :
    let commits := (committedOf Answer.commit answers).map Prod.snd
    let told := answers.map Prod.snd
    commits.count (.added environment) = told.count (.block environment) ∧
      commits.count (.removed environment) = told.count (.freed environment) := by
  induction answers with
  | nil => exact ⟨rfl, rfl⟩
  | cons first rest ih =>
    obtain ⟨thread, answer⟩ := first
    obtain ⟨added, removed⟩ := ih
    dsimp only
    rw [committed_cons]
    cases answer <;> simp [Answer.commit, List.count_cons, added, removed, Nat.add_comm]

/-- Whenever no thread is in a call, the headers in memory are those of the environments that were
given out more often than they were freed, which is once more. -/
theorem environments_given_back (moves : List (Nat × Move)) :
    ∃ history, play moves = some history ∧ ((∀ thread, history.state.stage thread = .idle) →
      ∀ header, let environment := header + headerSize
        (history.answers.map Prod.snd).count (.block environment) =
          (history.answers.map Prod.snd).count (.freed environment) +
            if (history.state.headers header).isSome then 1 else 0) := by
  obtain ⟨history, listed, played, linearized⟩ := plays_on moves
  refine ⟨history, played, fun idle header => ?_⟩
  have same := linearized.order.at_rest fun thread => by rw [idle]; rfl
  have counts := same.map Prod.snd
  have balance := (follows_count linearized.follows).2 (header + headerSize)
  have told := count_committed history.answers (header + headerSize)
  rw [counts.count_eq, counts.count_eq, told.1, told.2] at balance
  have live : (history.state.headers header).isSome = true ↔ header ∈ listed := by
    rw [linearized.consistent.live]
    simp [idle, Stage.own]
  simpa [live, pointers_mem] using balance

/-! ### The lock -/

/-- How often a thread goes on in these moves. -/
def turns (thread : Nat) (moves : List (Nat × Move)) : Nat :=
  moves.countP fun move => move.1 == thread && move.2.goesOn

theorem turns_cons {mover : Nat} (moves : List (Nat × Move)) :
    turns thread ((mover, move) :: moves) =
      turns thread moves + if mover == thread && move.goesOn then 1 else 0 :=
  List.countP_cons

/-- How many statements a thread at most takes before it gives the lock up. -/
def remaining (listed : List Nat) : Stage → Nat
  | .adding _ | .found _ _ => 3
  | .linked _ | .removed _ _ => 2
  | .added _ | .missed _ | .cleared _ _ => 1
  | .walking _ link => listed.length - link.elim 0 (listed.idxOf · + 1) + 3
  | _ => 0

theorem remaining_walking {before behind : List Nat} (environment : Nat)
    (split : listed = before ++ behind) (once : listed.Nodup) :
    remaining listed (.walking environment before.getLast?) = behind.length + 3 := by
  subst split
  have passed : before.getLast?.elim 0 ((before ++ behind).idxOf · + 1) = before.length := by
    rcases List.eq_nil_or_concat before with rfl | ⟨first, last, rfl⟩
    · rfl
    · have absent : last ∉ first := by
        rw [List.concat_eq_append, List.append_assoc] at once
        exact fun inside => (List.nodup_append.mp once).2.2 last inside last (by simp) rfl
      simp [List.idxOf_append, absent]
  rw [remaining, passed]
  simp

/-- The holder of the lock can always go on, and comes closer to giving it up. -/
theorem holder_turn (consistent : Consistent state listed) (holds : state.holder = some thread) :
    ∃ after answer, step state thread .goOn = .moved after answer ∧
      ∀ left, Committed listed left (commitOf state thread .goOn) →
        after.holder = none ∨
          remaining left (after.stage thread) < remaining listed (state.stage thread) := by
  have locked := (consistent.held thread).mpr holds
  have place := consistent.place thread
  cases there : state.stage thread with
  | adding header =>
    obtain ⟨found, live⟩ := consistent.owned there rfl
    simp only [step, there, reading_live live]
    exact ⟨_, _, rfl, fun left _ => .inr (by simp [remaining])⟩
  | linked header =>
    simp only [step, there]
    exact ⟨_, _, rfl, fun left _ => .inr (by simp [remaining])⟩
  | added header =>
    simp only [step, there]
    exact ⟨_, _, rfl, fun left _ => .inl rfl⟩
  | walking environment link =>
    rw [there] at place
    obtain ⟨before, behind, split, rfl, -⟩ := place
    have once := consistent.lists.nodup
    rw [remaining_walking environment split once]
    simp only [step, commitOf, there, State.readingLink, consistent.at_link split]
    cases behind with
    | nil => exact ⟨_, _, rfl, fun left _ => .inr (by simp [remaining])⟩
    | cons header behind =>
      simp only [List.head?_cons, Option.some.injEq, reduceCtorEq, ↓reduceIte]
      split
      · refine ⟨_, _, rfl, fun left same => .inr ?_⟩
        have further : listed = (before ++ [header]) ++ behind := by simp [split]
        have next := remaining_walking environment further once
        rw [List.getLast?_concat] at next
        cases same
        rw [State.stage_goes, Function.update_self, next]
        simp
      · exact ⟨_, _, rfl, fun left _ => .inr (by simp [remaining])⟩
  | found environment link =>
    rw [there] at place
    obtain ⟨before, header, behind, split, rfl, -⟩ := place
    obtain ⟨changed, moved, -⟩ := consistent.found_step there split
    exact ⟨_, _, moved, fun left _ => .inr (by simp [remaining])⟩
  | missed environment =>
    simp only [step, there]
    exact ⟨_, _, rfl, fun left _ => .inl rfl⟩
  | removed environment header =>
    obtain ⟨found, live⟩ := consistent.owned there rfl
    simp only [step, there, reading_live live]
    exact ⟨_, _, rfl, fun left _ => .inr (by simp [remaining])⟩
  | cleared environment header =>
    simp only [step, there]
    exact ⟨_, _, rfl, fun left _ => .inl rfl⟩
  | idle | filled | dropping | asking | releasing =>
    rw [there] at locked
    cases locked

theorem remaining_pos (locked : stage.locked = true) : 1 ≤ remaining listed stage := by
  cases stage <;> simp_all [remaining, Stage.locked]

theorem remaining_le (listed : List Nat) (stage : Stage) :
    remaining listed stage ≤ listed.length + 3 := by
  cases stage <;> simp [remaining]

theorem commit_unlocked (move : Move) (outside : (state.stage thread).locked = false) :
    commitOf state thread move = none := by
  unfold commitOf
  split <;> simp_all [Stage.locked]

/-- A thread in a call on the list does nothing but go on. -/
theorem locked_blocked (locked : (state.stage thread).locked = true) (other : move.goesOn = false) :
    step state thread move = .blocked := by
  cases there : state.stage thread <;> cases move <;>
    simp_all [Stage.locked, Move.goesOn, step]

/-- Whoever holds the lock after a step of its holder is that holder. -/
theorem still_holder (consistent : Consistent state listed) (holds : state.holder = some thread)
    (later : Consistent after left)
    (others : ∀ other ≠ thread, after.stage other = state.stage other)
    (taken : after.holder ≠ none) : after.holder = some thread := by
  obtain ⟨holder, held⟩ := Option.ne_none_iff_exists'.mp taken
  rw [held]
  by_contra different
  have apart : holder ≠ thread := fun same => different (congrArg some same)
  have locked := (later.held holder).mpr held
  rw [others holder apart, consistent.alone ((consistent.held thread).mpr holds) apart] at locked
  cases locked

theorem given_up_from (more : List (Nat × Move)) (history : History)
    (linearized : Linearized history listed) (holds : history.state.holder = some thread)
    (enough : remaining listed (history.state.stage thread) ≤ turns thread more) :
    ∃ first later, first <+: more ∧
      first.foldlM (fun history move => history.extend move.1 move.2) history = some later ∧
      later.state.holder = none := by
  have locked := (linearized.consistent.held thread).mpr holds
  induction more generalizing history listed with
  | nil => exact absurd (le_trans (remaining_pos locked) enough) (by simp [turns])
  | cons move rest ih =>
    obtain ⟨mover, move⟩ := move
    have kept := step_kept linearized.consistent mover move
    have further {longer : History} {left : List Nat}
        (extended : history.extend mover move = some longer) (linearized : Linearized longer left)
        (holds : longer.state.holder = some thread)
        (enough : remaining left (longer.state.stage thread) ≤ turns thread rest) :
        ∃ first later, first <+: (mover, move) :: rest ∧
          first.foldlM (fun history move => history.extend move.1 move.2) history = some later ∧
          later.state.holder = none := by
      obtain ⟨first, later, inside, played, free⟩ := ih longer linearized holds enough
        ((linearized.consistent.held thread).mpr holds)
      refine ⟨(mover, move) :: first, later, (List.prefix_cons_inj _).mpr inside, ?_, free⟩
      rw [List.foldlM_cons, extended]
      exact played
    by_cases mine : mover = thread
    · subst mine
      cases goes : move.goesOn with
      | false =>
        have same : history.extend mover move = some history := by
          rw [History.extend, locked_blocked locked goes]
        refine further same linearized holds ?_
        simpa [turns_cons, goes] using enough
      | true =>
        cases move with
        | goOn =>
          obtain ⟨after, answer, moved, closer⟩ := holder_turn linearized.consistent holds
          rw [moved] at kept
          obtain ⟨left, consistent, committed, told, others⟩ := kept
          have longer := linearized.moved consistent committed told others
          have extended : history.extend mover .goOn =
              some (history.record mover .goOn after answer) := by rw [History.extend, moved]
          by_cases free : after.holder = none
          · refine ⟨[(mover, .goOn)], history.record mover .goOn after answer, by simp, ?_, free⟩
            rw [List.foldlM_cons, extended]
            rfl
          · refine further extended longer
              (still_holder linearized.consistent holds consistent others free) ?_
            have less := (closer left committed).resolve_left free
            rw [turns_cons, if_pos (by simp [Move.goesOn])] at enough
            exact Nat.le_of_lt_succ (less.trans_le enough)
        | _ => cases goes
    · rw [turns_cons, if_neg (by simp [mine]), Nat.add_zero] at enough
      cases moved : step history.state mover move with
      | blocked => exact further (by rw [History.extend, moved]) linearized holds enough
      | fault =>
        rw [moved] at kept
        exact kept.elim
      | moved after answer =>
        rw [moved] at kept
        obtain ⟨left, consistent, committed, told, others⟩ := kept
        have silent := commit_unlocked move (linearized.consistent.alone locked mine)
        have longer := linearized.moved consistent committed told others
        have stays := others thread (Ne.symm mine)
        rw [silent] at committed
        cases committed
        refine further (by rw [History.extend, moved]) longer ?_ (stays ▸ enough)
        exact (consistent.held thread).mp (stays ▸ locked)

theorem play_append (moves more : List (Nat × Move)) : play (moves ++ more) =
    (play moves).bind fun history =>
      more.foldlM (fun history move => history.extend move.1 move.2) history :=
  List.foldlM_append

/-- A thread that has the lock gives it up while it goes on, whatever the others do meanwhile. -/
theorem lock_given_up (moves more : List (Nat × Move)) : ∃ history listed,
    play moves = some history ∧ Linearized history listed ∧
      ∀ thread, history.state.holder = some thread →
        listed.length + 3 ≤ turns thread more →
        ∃ first later, first <+: more ∧ play (moves ++ first) = some later ∧
          later.state.holder = none := by
  obtain ⟨history, listed, played, linearized⟩ := plays_on moves
  refine ⟨history, listed, played, linearized, fun thread holds enough => ?_⟩
  obtain ⟨first, later, inside, went, free⟩ := given_up_from more history linearized holds
    ((remaining_le listed _).trans enough)
  refine ⟨first, later, inside, ?_, free⟩
  rw [play_append, played]
  exact went

/-- A thread that has taken the lock to add its block, and one that waits to free it. -/
def addingRun : List (Nat × Move) := [
  (0, .getEnvironmentStringsW ⟨true, true, true⟩ none 64), (0, .goOn),
  (1, .freeEnvironmentStringsW (some 96))]

/-- The one that waits tries again and again. -/
def contendedTurns : List (Nat × Move) := [
  (1, .goOn), (0, .goOn), (1, .goOn), (0, .goOn), (0, .goOn)]

theorem adding_thread_unlocks : ∃ history first later, play addingRun = some history ∧
    history.state.holder = some 0 ∧ first <+: contendedTurns ∧
    play (addingRun ++ first) = some later ∧ later.state.holder = none := by
  obtain ⟨history, listed, played, linearized, gives⟩ := lock_given_up addingRun contendedTurns
  have facts : (play addingRun).map (fun history => (history.state.holder, history.state.head)) =
      some (some 0, none) := by decide +kernel
  rw [played] at facts
  obtain ⟨holds, nothing⟩ := Prod.mk.inj (Option.some.inj facts)
  have first := @Links.lists_read _ _ [] listed linearized.consistent.lists
  obtain rfl : listed = [] := List.head?_eq_none_iff.mp (first.symm.trans nothing)
  obtain ⟨first, later, inside, went, free⟩ := gives 0 holds (by decide)
  exact ⟨history, first, later, played, holds, inside, went, free⟩

end SadLayer.EnvironmentList
