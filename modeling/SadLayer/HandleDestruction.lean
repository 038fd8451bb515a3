import SadLayer.HandleLedger
import SadLayer.Library.Run

/-! Destroy callbacks over whole runs: which insert each callback belongs to,
how often it runs, and when. -/
namespace SadLayer.HandleTable
open SadLayer.Library

variable {s t : System} {table : Table} {calls : List Call} {call : Call}
  {trace : List (Step × Outcome)} {event : Step × Outcome} {action : Action}
  {name object callback : Nat}

/-- The insert that made this allocation succeeded. -/
def Accepted (trace : List (Step × Outcome)) (name object callback : Nat) : Prop :=
  ∃ kind allocated handle,
    (.insert kind object callback allocated, .insert .ok name handle) ∈ trace

/-- The insert that made this allocation failed. -/
def Rejected (trace : List (Step × Outcome)) (name : Nat) : Prop :=
  ∃ label status handle, status ≠ .ok ∧ (label, .insert status name handle) ∈ trace

/-- The allocation an insert made. -/
def attempt : Step × Outcome → Option Nat
  | (_, .insert _ name _) => some name
  | _ => none

def acceptedAs (name : Nat) : Step × Outcome → Nat
  | (_, .insert .ok inserted _) => if inserted = name then 1 else 0
  | _ => 0

/-- How often the destroy callback of a record's object has run. -/
def destroyedTimes (s : System) (name : Nat) : Nat :=
  total (fun entry : Destruction => if entry.record = name then 1 else 0) s.destructions

def destroyOf (name : Nat) (_ : CallKind) : Action → Nat
  | .runDestroy record _ _ => if record = name then 1 else 0
  | _ => 0

/-- Destroy callbacks a started call is about to run. -/
def pendingDestroys (s : System) (name : Nat) : Nat :=
  pending (destroyOf name) s.calls

def Action.destroys : Action → Bool
  | .runDestroy _ _ _ => true
  | _ => false

/-- A destroy callback is never behind another action: it is what its call does next. -/
def DestroysFirst (todo : List Action) : Prop :=
  ∀ action ∈ todo.tail, action.destroys = false

/-- A callback about to run belongs to an accepted insert. -/
def Owed (trace : List (Step × Outcome)) (action : Action) : Prop :=
  ∀ name callback object, action = .runDestroy name callback object →
    Accepted trace name object callback

/-- The object and the callback a record was inserted with. -/
def identity (record : Option Record) : Option (Nat × Nat) :=
  record.map fun record => (record.object, record.destroy)

/-- Each callback, run, owed or still to be owed, is traced to one accepted insert. -/
structure Provenance (trace : List (Step × Outcome)) (s : System) : Prop where
  live : ∀ name object callback, identity (s.records name) = some (object, callback) →
    Accepted trace name object callback
  owed : ∀ call ∈ s.calls, ∀ action ∈ call.todo, Owed trace action
  first : ∀ call ∈ s.calls, DestroysFirst call.todo
  destroyed : ∀ entry ∈ s.destructions, Accepted trace entry.record entry.object entry.destroy
  balance : ∀ name, destroyedTimes s name + pendingDestroys s name + recordLive (s.records name) =
    total (acceptedAs name) trace
  distinct : (trace.filterMap attempt).Nodup
  allocated : ∀ name ∈ trace.filterMap attempt, name < s.nextRecord

theorem record_live_identity (record : Option Record) :
    recordLive record = if (identity record).isSome then 1 else 0 := by
  cases record <;> rfl

theorem accepted_as_silent (silent : attempt event = none) : acceptedAs name event = 0 := by
  obtain ⟨label, outcome⟩ := event
  cases outcome with
  | insert status inserted handle => simp [attempt] at silent
  | _ => rfl

theorem Accepted.later (accepted : Accepted trace name object callback) :
    Accepted (trace ++ [event]) name object callback := by
  obtain ⟨kind, allocated, handle, member⟩ := accepted
  exact ⟨kind, allocated, handle, List.mem_append_left _ member⟩

theorem Owed.later (owed : Owed trace action) : Owed (trace ++ [event]) action :=
  fun name callback object same => (owed name callback object same).later

theorem owed_of_keeps (keeps : action.destroys = false) : Owed trace action := by
  intro name callback object same
  rw [same] at keeps
  contradiction

theorem destroy_of_keeps {kind : CallKind} (keeps : action.destroys = false) :
    destroyOf name kind action = 0 := by
  cases action with
  | runDestroy record destroy object => contradiction
  | _ => rfl

/-- Calls without a destroy callback owe none. -/
theorem pending_destroys_of_keeps
    (keeps : ∀ call ∈ calls, ∀ action ∈ call.todo, action.destroys = false) :
    pending (destroyOf name) calls = 0 :=
  total_eq_zero.mpr fun call started =>
    total_eq_zero.mpr fun action member => destroy_of_keeps (keeps call started action member)

theorem provenance_create : Provenance [] create where
  live := fun name object callback found => by simp [create, identity] at found
  owed := fun call started => by simp [create] at started
  first := fun call started => by simp [create] at started
  destroyed := fun entry member => by simp [create] at member
  balance := fun name => rfl
  distinct := List.nodup_nil
  allocated := fun name member => by simp at member

/-- A step that neither inserts nor performs a started action. -/
theorem Provenance.kept (provenance : Provenance trace s) (silent : attempt event = none)
    (nextRecord : t.nextRecord = s.nextRecord)
    (records : ∀ name, identity (t.records name) = identity (s.records name))
    (destructions : t.destructions = s.destructions) (added : List Call)
    (calls : t.calls = s.calls ++ added)
    (keeps : ∀ call ∈ added, ∀ action ∈ call.todo, action.destroys = false) :
    Provenance (trace ++ [event]) t where
  live := fun name object callback found => by
    rw [records] at found
    exact (provenance.live name object callback found).later
  owed := fun call started action member => by
    rw [calls, List.mem_append] at started
    rcases started with old | new
    · exact (provenance.owed call old action member).later
    · exact owed_of_keeps (keeps call new action member)
  first := fun call started => by
    rw [calls, List.mem_append] at started
    rcases started with old | new
    · exact provenance.first call old
    · exact fun action member => keeps call new action (List.mem_of_mem_tail member)
  destroyed := fun entry member => by
    rw [destructions] at member
    exact (provenance.destroyed entry member).later
  balance := fun name => by
    have balance := provenance.balance name
    simp only [record_live_identity, destroyedTimes, pendingDestroys] at balance
    simp only [record_live_identity, destroyedTimes, pendingDestroys, records, destructions, calls,
      pending_append, pending_destroys_of_keeps keeps, total_append, total_cons, total_nil,
      accepted_as_silent silent]
    omega
  distinct := by
    rw [List.filterMap_append, List.filterMap_cons, silent, List.filterMap_nil, List.append_nil]
    exact provenance.distinct
  allocated := fun name member => by
    rw [List.filterMap_append, List.filterMap_cons, silent, List.filterMap_nil,
      List.append_nil] at member
    rw [nextRecord]
    exact provenance.allocated name member

/-- An insert adds its allocation, and its record when it is accepted. -/
theorem Provenance.attempted (provenance : Provenance trace s) (ledger : RecordLedger s)
    (made : attempt event = some s.nextRecord)
    (nextRecord : t.nextRecord = s.nextRecord + 1) (value : Option Record)
    (records : t.records = Function.update s.records s.nextRecord value)
    (accepted : ∀ object callback, identity value = some (object, callback) →
      Accepted [event] s.nextRecord object callback)
    (counted : ∀ name, acceptedAs name event =
      if s.nextRecord = name then recordLive value else 0)
    (destructions : t.destructions = s.destructions) (calls : t.calls = s.calls) :
    Provenance (trace ++ [event]) t where
  live := fun name object callback found => by
    rw [records] at found
    by_cases same : name = s.nextRecord
    · subst same
      rw [Function.update_self] at found
      obtain ⟨kind, allocated, handle, member⟩ := accepted object callback found
      exact ⟨kind, allocated, handle, List.mem_append_right _ member⟩
    · rw [Function.update_of_ne same] at found
      exact (provenance.live name object callback found).later
  owed := fun call started action member => by
    rw [calls] at started
    exact (provenance.owed call started action member).later
  first := fun call started => by
    rw [calls] at started
    exact provenance.first call started
  destroyed := fun entry member => by
    rw [destructions] at member
    exact (provenance.destroyed entry member).later
  balance := fun name => by
    have balance := provenance.balance name
    have unused := ledger.fresh s.nextRecord (Nat.le_refl _)
    simp only [destroyedTimes, pendingDestroys] at balance
    simp only [destroyedTimes, pendingDestroys, destructions, calls, records, total_append,
      total_cons, total_nil, counted]
    by_cases same : s.nextRecord = name
    · subst same
      rw [unused] at balance
      simp only [Function.update_self, ↓reduceIte, recordLive, Option.isSome_none,
        Bool.false_eq_true] at balance ⊢
      omega
    · rw [Function.update_of_ne (Ne.symm same)]
      simp only [same, ↓reduceIte]
      omega
  distinct := by
    rw [List.filterMap_append, List.filterMap_cons, made, List.filterMap_nil]
    apply provenance.distinct.append (List.nodup_singleton _)
    intro other member new
    rw [List.mem_singleton] at new
    have earlier := provenance.allocated other member
    omega
  allocated := fun name member => by
    rw [List.filterMap_append, List.filterMap_cons, made, List.filterMap_nil, List.mem_append,
      List.mem_singleton] at member
    rw [nextRecord]
    rcases member with old | new
    · have earlier := provenance.allocated name old
      omega
    · omega

/-- Performing the next action of a call moves at most one callback: from the record to the call
that dropped it, or from the call to those that have run. -/
theorem Provenance.performed {position : Nat} (provenance : Provenance trace s)
    (silent : attempt event = none) (started : s.calls[position]? = some call)
    (next : call.todo = action :: rest) (nextRecord : t.nextRecord = s.nextRecord)
    (records : ∀ name object callback, identity (t.records name) = some (object, callback) →
      identity (s.records name) = some (object, callback))
    (destructions : ∀ entry ∈ t.destructions, entry ∈ s.destructions ∨
      action = .runDestroy entry.record entry.destroy entry.object)
    (added : List Action) (calls : t.calls = s.calls.set position { call with todo := added ++ rest })
    (first : DestroysFirst added) (owed : ∀ action ∈ added, Owed trace action)
    (balance : ∀ name, destroyedTimes t name + total (destroyOf name call.kind) added +
        recordLive (t.records name) =
      destroyedTimes s name + destroyOf name call.kind action + recordLive (s.records name)) :
    Provenance (trace ++ [event]) t := by
  have member := List.mem_of_getElem? started
  have restKeeps : ∀ later ∈ rest, later.destroys = false := by
    have order := provenance.first call member
    rwa [DestroysFirst, next] at order
  exact {
    live := fun name object callback found =>
      (provenance.live name object callback (records name object callback found)).later
    owed := fun other begun later owes => by
      rw [calls] at begun
      rcases List.mem_or_eq_of_mem_set begun with old | rfl
      · exact (provenance.owed other old later owes).later
      · rcases List.mem_append.mp owes with new | kept
        · exact (owed later new).later
        · exact owed_of_keeps (restKeeps later kept)
    first := fun other begun => by
      rw [calls] at begun
      rcases List.mem_or_eq_of_mem_set begun with old | rfl
      · exact provenance.first other old
      · cases added with
        | nil => exact fun later kept => restKeeps later (List.mem_of_mem_tail kept)
        | cons head added =>
          intro later kept
          rcases List.mem_append.mp kept with new | kept
          · exact first later new
          · exact restKeeps later kept
    destroyed := fun entry run => by
      rcases destructions entry run with old | performed
      · exact (provenance.destroyed entry old).later
      · have owes := provenance.owed call member action (by rw [next]; exact List.mem_cons_self)
        exact (owes _ _ _ performed).later
    balance := fun name => by
      have before := provenance.balance name
      have traded := pending_advance (destroyOf name) started next added
      have moved := balance name
      rw [← calls] at traded
      simp only [pendingDestroys] at before
      simp only [pendingDestroys, total_append, total_cons, total_nil, accepted_as_silent silent]
      omega
    distinct := by
      rw [List.filterMap_append, List.filterMap_cons, silent, List.filterMap_nil, List.append_nil]
      exact provenance.distinct
    allocated := fun name made => by
      rw [List.filterMap_append, List.filterMap_cons, silent, List.filterMap_nil,
        List.append_nil] at made
      rw [nextRecord]
      exact provenance.allocated name made }

@[simp] theorem drop_tracker_records (s : System) (decrement ended : Nat) :
    (dropTracker s decrement ended).records = s.records := by
  unfold dropTracker
  split
  · rfl
  · split <;> rfl

@[simp] theorem drop_tracker_destructions (s : System) (decrement ended : Nat) :
    (dropTracker s decrement ended).destructions = s.destructions := by
  unfold dropTracker
  split
  · rfl
  · split <;> rfl

@[simp] theorem drop_tracker_table (s : System) (decrement ended : Nat) :
    (dropTracker s decrement ended).table = s.table := by
  unfold dropTracker
  split
  · rfl
  · split <;> rfl

@[simp] theorem drop_tracker_next_record (s : System) (decrement ended : Nat) :
    (dropTracker s decrement ended).nextRecord = s.nextRecord := by
  unfold dropTracker
  split
  · rfl
  · split <;> rfl

@[simp] theorem drop_tracker_calls (s : System) (decrement ended : Nat) :
    (dropTracker s decrement ended).calls = s.calls := by
  unfold dropTracker
  split
  · rfl
  · split <;> rfl

/-- The five actions, as the traced callbacks see them. -/
theorem provenance_advanced {position : Nat} (ledger : Ledger s)
    (provenance : Provenance trace s) (silent : attempt event = none)
    (started : s.calls[position]? = some call) (next : call.todo = action :: rest) :
    Provenance (trace ++ [event]) { (perform s action).1 with
      calls := (perform s action).1.calls.set position
        { call with todo := (perform s action).2 ++ rest } } := by
  -- an action that only touches the tracker or the table
  have quiet {t : System} (keeps : action.destroys = false)
      (nextRecord : t.nextRecord = s.nextRecord) (records : t.records = s.records)
      (destructions : t.destructions = s.destructions)
      (calls : t.calls = s.calls.set position { call with todo := rest }) :
      Provenance (trace ++ [event]) t :=
    provenance.performed silent started next nextRecord
      (fun name object callback found => by rwa [records] at found)
      (fun entry member => by
        rw [destructions] at member
        exact .inl member)
      [] calls (fun later member => by simp at member) (fun later member => by simp at member)
      (fun name => by simp [destroyedTimes, destructions, records, destroy_of_keeps keeps])
  cases action with
  | dropRecord name =>
    obtain ⟨record, live, -, positive, -⟩ := drop_record_live ledger.records started next
    by_cases last : record.references = 1
    · simp only [perform, live, last, Nat.succ_ne_self, ↓reduceIte]
      refine provenance.performed silent started next rfl ?_ (fun entry member => .inl member)
        _ rfl ?_ ?_ ?_
      · intro other object callback found
        by_cases same : other = name
        · subst same
          simp [identity] at found
        · simpa [Function.update_of_ne same] using found
      · intro later member
        simp only [List.tail_cons, List.mem_singleton] at member
        rw [member]
        rfl
      · intro later member
        simp only [List.mem_cons, List.not_mem_nil, or_false] at member
        rcases member with rfl | rfl
        · intro other callback object same
          cases same
          exact provenance.live name _ _ (by rw [live]; rfl)
        · exact owed_of_keeps rfl
      · intro other
        by_cases same : other = name
        · subst same
          simp [destroyedTimes, destroyOf, recordLive, live]
        · simp [destroyedTimes, destroyOf, Function.update_of_ne same, Ne.symm same]
    · simp only [perform, live, last, Nat.ne_of_gt positive, ↓reduceIte]
      have same (other : Nat) : identity (Function.update s.records name
          (some { record with references := record.references - 1 }) other) =
          identity (s.records other) := by
        by_cases here : other = name
        · subst here
          rw [Function.update_self, live]
          rfl
        · rw [Function.update_of_ne here]
      refine provenance.performed silent started next rfl
        (fun other object callback found => by rwa [same] at found)
        (fun entry member => .inl member) [] rfl (fun later member => by simp at member)
        (fun later member => by simp at member) ?_
      intro other
      simp [record_live_identity, same, destroyedTimes, destroyOf]
  | runDestroy name callback object =>
    refine provenance.performed silent started next rfl (fun other object callback found => found)
      ?_ [] rfl (fun later member => by simp at member) (fun later member => by simp at member) ?_
    · intro entry member
      simp only [perform, List.mem_append, List.mem_singleton] at member
      rcases member with old | rfl
      · exact .inl old
      · exact .inr rfl
    · intro other
      simp [perform, destroyedTimes, destroyOf]
  | dropTracker record =>
    exact quiet rfl (by simp [perform]) (by simp [perform]) (by simp [perform]) (by simp [perform])
  | endActivity =>
    exact quiet rfl (by simp [perform]) (by simp [perform]) (by simp [perform]) (by simp [perform])
  | freeTable =>
    obtain ⟨table, live, -⟩ := ledger_free_table ledger started next
    exact quiet rfl (by simp [perform, live]) (by simp [perform, live]) (by simp [perform, live])
      (by simp [perform, live])

/-- Every atomic step keeps each callback traced to its insert. -/
theorem provenance_step (ledger : Ledger s) (provenance : Provenance trace s) (label : Step) :
    Provenance (trace ++ [(label, (step s label).2)]) (step s label).1 := by
  have effect := step_effect s label
  generalize (step s label).1 = after at effect ⊢
  generalize (step s label).2 = outcome at effect ⊢
  have none' : ∀ call ∈ ([] : List Call), ∀ action ∈ call.todo, action.destroys = false := by simp
  cases effect with
  | unchanged refused =>
    have silent : attempt (label, outcome) = none := by
      cases outcome with
      | insert status inserted handle => exact absurd refused id
      | _ => rfl
    exact provenance.kept silent rfl (fun _ => rfl) rfl [] (by simp) none'
  | @refusedInsert status kind object callback allocated failed =>
    have unused := ledger.records.fresh s.nextRecord (Nat.le_refl _)
    refine provenance.attempted ledger.records rfl rfl none ?_ (fun _ _ found => by
      simp [identity] at found) (fun name => ?_) rfl rfl
    · rw [← unused, Function.update_eq_self]
    · have notOk : acceptedAs name (.insert kind object callback allocated,
          .insert status s.nextRecord 0) = 0 := by
        cases status with
        | ok => exact absurd rfl failed
        | _ => rfl
      rw [notOk]
      simp [recordLive]
  | @inserted table index word next kind object callback allocated live open_ free held retained =>
    refine provenance.attempted ledger.records rfl rfl _ rfl ?_ (fun name => rfl) rfl rfl
    intro seen destroy found
    simp only [identity, Option.map_some, Option.some.injEq, Prod.mk.injEq] at found
    obtain ⟨rfl, rfl⟩ := found
    exact ⟨kind, allocated, _, List.mem_singleton.mpr rfl⟩
  | @acquired table handle kind index name record word next live resolved room held begun =>
    refine provenance.kept rfl rfl (fun other => ?_) rfl [] (by simp) none'
    by_cases same : other = name
    · subst same
      simp [identity, resolved.live]
    · simp [Function.update_of_ne same]
  | released held live =>
    refine provenance.kept rfl rfl (fun _ => rfl) rfl _ rfl ?_
    intro call member action owes
    simp only [List.mem_singleton] at member
    subst member
    simp only [List.mem_cons, List.not_mem_nil, or_false] at owes
    rcases owes with rfl | rfl <;> rfl
  | closed live resolved held begun =>
    refine provenance.kept rfl rfl (fun _ => rfl) rfl _ rfl ?_
    intro call member action owes
    simp only [List.mem_singleton] at member
    subst member
    simp only [List.mem_cons, List.not_mem_nil, or_false] at owes
    rcases owes with rfl | rfl <;> rfl
  | destroyed live open_ =>
    refine provenance.kept rfl rfl (fun _ => rfl) rfl _ rfl ?_
    intro call member action owes
    simp only [List.mem_singleton] at member
    subst member
    simp only [List.mem_append, List.mem_map, List.mem_cons, List.not_mem_nil, or_false] at owes
    rcases owes with ⟨name, -, rfl⟩ | rfl | rfl <;> rfl
  | cloning live => exact provenance.kept rfl rfl (fun _ => rfl) rfl [] (by simp) none'
  | cloned live => exact provenance.kept rfl rfl (fun _ => rfl) rfl [] (by simp) none'
  | advanced started next => exact provenance_advanced ledger provenance rfl started next
  | dangling freed => exact absurd freed ledger.not_dangling

/-! ### Started calls finish -/

@[simp] theorem perform_calls (s : System) (action : Action) :
    (perform s action).1.calls = s.calls := by
  cases action with
  | dropRecord name =>
    simp only [perform]
    split
    · rfl
    · split
      · rfl
      · split <;> rfl
  | freeTable =>
    simp only [perform]
    split <;> rfl
  | runDestroy name callback object => rfl
  | dropTracker record => exact drop_tracker_calls s _ _
  | endActivity => exact drop_tracker_calls s _ _

/-- An action and what performing it may add. -/
def Action.work : Action → Nat
  | .dropRecord _ => 3
  | _ => 1

/-- A bound on the actions the started calls will still perform. -/
def work (s : System) : Nat :=
  pending (fun _ => Action.work) s.calls

theorem perform_work (s : System) (action : Action) :
    total Action.work (perform s action).2 < action.work := by
  cases action with
  | dropRecord name =>
    simp only [perform]
    split
    · exact Nat.succ_pos 2
    · split
      · exact Nat.succ_pos 2
      · split
        · simp [Action.work]
        · exact Nat.succ_pos 2
  | freeTable =>
    simp only [perform]
    split <;> exact Nat.one_pos
  | _ => exact Nat.one_pos

/-- A started call is never blocked, and each of its steps leaves less to do. -/
theorem work_advance {position : Nat} (started : s.calls[position]? = some call)
    (next : call.todo = action :: rest) :
    (step s (.advance position)).2 = .done ∧ work (step s (.advance position)).1 < work s := by
  have traded := pending_advance (fun _ => Action.work) started next (perform s action).2
  have less := perform_work s action
  have answer : step s (.advance position) = ({ (perform s action).1 with
      calls := s.calls.set position { call with todo := (perform s action).2 ++ rest } },
      .done) := by
    simp only [step, advance, started, next, perform_calls]
  rw [answer]
  refine ⟨rfl, ?_⟩
  simp only [work]
  omega

/-- From every reached state the started calls alone run to their ends. -/
theorem calls_finish (labels : List Step) :
    ∃ more, (∀ label ∈ more, ∃ position, label = Step.advance position) ∧
      ∀ call ∈ (run step create (labels ++ more)).state.calls, call.todo = [] := by
  induction left : work (run step create labels).state using Nat.strong_induction_on
    generalizing labels with
  | _ left' ih =>
    subst left
    by_cases idle : ∀ call ∈ (run step create labels).state.calls, call.todo = []
    · exact ⟨[], by simp, by simpa using idle⟩
    · push Not at idle
      obtain ⟨call, member, busy⟩ := idle
      obtain ⟨position, started⟩ := List.mem_iff_getElem?.mp member
      obtain ⟨action, rest, next⟩ := List.exists_cons_of_ne_nil busy
      have shorter := (work_advance started next).2
      obtain ⟨more, advances, finished⟩ :=
        ih _ shorter (labels ++ [.advance position]) (by rw [run_concat]; rfl)
      refine ⟨.advance position :: more, ?_, ?_⟩
      · intro label chosen
        rcases List.mem_cons.mp chosen with rfl | later
        · exact ⟨position, rfl⟩
        · exact advances label later
      · simpa using finished

/-! ### Exactly once -/

theorem perform_table_open (s : System) (action : Action) :
    tableOpen (perform s action).1.table ≤ tableOpen s.table := by
  cases action with
  | dropRecord name =>
    simp only [perform]
    split
    · exact Nat.le_refl _
    · split
      · exact Nat.le_refl _
      · split <;> exact Nat.le_refl _
  | freeTable =>
    simp only [perform]
    split
    · exact Nat.le_refl _
    · exact Nat.zero_le _
  | runDestroy name callback object => exact Nat.le_refl _
  | dropTracker record => exact Nat.le_of_eq (by simp [perform])
  | endActivity => exact Nat.le_of_eq (by simp [perform])

theorem perform_releases_no_table (s : System) (action : Action) (kind : CallKind) :
    total (tableRelease kind) (perform s action).2 = 0 := by
  cases action with
  | dropRecord name =>
    simp only [perform]
    split
    · rfl
    · split
      · rfl
      · split <;> rfl
  | freeTable =>
    simp only [perform]
    split <;> rfl
  | _ => rfl

/-- The table's own tracker reference is released at most once. -/
theorem live_table_step (ledger : Ledger s) (label : Step) :
    liveTable (step s label).1 ≤ liveTable s := by
  have effect := step_effect s label
  generalize (step s label).1 = after at effect ⊢
  generalize (step s label).2 = outcome at effect
  cases effect with
  | unchanged refused => exact Nat.le_refl _
  | refusedInsert failed => exact Nat.le_refl _
  | inserted live open_ free held retained => simp [liveTable, live, tableOpen, setSlot, open_]
  | acquired live resolved room held begun => exact Nat.le_refl _
  | released held live => simp [liveTable, tableRelease]
  | closed live resolved held begun =>
    simp [liveTable, live, tableOpen, setSlot, resolved.open_, tableRelease]
  | @destroyed table live open_ =>
    have collected := drops_weigh_nothing tableRelease (occupied table) fun _ => rfl
    simp [destroy, liveTable, live, tableOpen, open_, collected, tableRelease, Nat.add_comm]
  | cloning live => simp [liveTable, live, tableOpen]
  | cloned live => simp [liveTable, live, tableOpen]
  | @advanced position call action rest started next =>
    have traded := pending_advance tableRelease started next (perform s action).2
    have opened := perform_table_open s action
    rw [perform_releases_no_table] at traded
    simp only [liveTable, perform_calls]
    omega
  | dangling freed => exact absurd freed ledger.not_dangling

/-- A table that is being destroyed is never open again. -/
theorem table_open_step (ledger : Ledger s) (label : Step) :
    tableOpen (step s label).1.table ≤ tableOpen s.table := by
  have effect := step_effect s label
  generalize (step s label).1 = after at effect ⊢
  generalize (step s label).2 = outcome at effect
  cases effect with
  | unchanged refused => exact Nat.le_refl _
  | refusedInsert failed => exact Nat.le_refl _
  | inserted live open_ free held retained => simp [live, tableOpen, setSlot, open_]
  | acquired live resolved room held begun => exact Nat.le_refl _
  | released held live => exact Nat.le_refl _
  | closed live resolved held begun => simp [live, tableOpen, setSlot, resolved.open_]
  | destroyed live open_ => simp [destroy, tableOpen]
  | cloning live => simp [live, tableOpen]
  | cloned live => simp [live, tableOpen]
  | advanced started next => exact perform_table_open s _
  | dangling freed => exact absurd freed ledger.not_dangling

theorem destroy_closes (s : System) (accepted : (step s .destroy).2 = .done) :
    tableOpen (step s .destroy).1.table = 0 := by
  simp only [step] at accepted ⊢
  split
  · rename_i gone
    rw [gone]
    rfl
  · rename_i table live
    rw [live] at accepted
    dsimp only at accepted
    split
    · rename_i refused
      rw [if_pos refused] at accepted
      contradiction
    · simp [destroy, tableOpen]

/-- The ledger, the traced callbacks, the single table and that it is closed for good. -/
structure Accounts (trace : List (Step × Outcome)) (s : System) : Prop where
  ledger : Ledger s
  provenance : Provenance trace s
  single : liveTable s ≤ 1
  closed : (Step.destroy, Outcome.done) ∈ trace → tableOpen s.table = 0

theorem accounts_run (labels : List Step) :
    Accounts (run step create labels).trace (run step create labels).state := by
  apply run_invariant step Accounts
  · exact ⟨ledger_create, provenance_create, Nat.le_refl 1, nofun⟩
  · intro trace s label accounts
    refine ⟨ledger_step accounts.ledger label,
      provenance_step accounts.ledger accounts.provenance label,
      Nat.le_trans (live_table_step accounts.ledger label) accounts.single, fun begun => ?_⟩
    rcases List.mem_append.mp begun with earlier | now
    · have kept := table_open_step accounts.ledger label
      rw [accounts.closed earlier] at kept
      exact Nat.le_zero.mp kept
    · have same := List.mem_singleton.mp now
      obtain ⟨rfl, accepted⟩ := Prod.mk.inj same
      exact destroy_closes s accepted.symm

/-- What every run keeps of the objects, the records and the tracker. -/
structure DestroyedOnce (trace : List (Step × Outcome)) (s : System) : Prop where
  /-- Each insert has its own allocation, so an allocation names an insert. -/
  distinct : (trace.filterMap attempt).Nodup
  /-- The callback of an accepted object runs once: by the call that gave up the last of the
  slot's reference and the leases, as the next thing that call does, and not before. -/
  accepted : ∀ name object callback, Accepted trace name object callback →
    destroyedTimes s name + pendingDestroys s name =
      if owners s name + liveLeases s name = 0 then 1 else 0
  next : ∀ call ∈ s.calls, DestroysFirst call.todo
  rejected : ∀ name, Rejected trace name → destroyedTimes s name + pendingDestroys s name = 0
  /-- Callbacks get the object they were inserted with. -/
  arguments : ∀ entry ∈ s.destructions, Accepted trace entry.record entry.object entry.destroy
  references : ∀ name record, s.records name = some record →
    record.references = owners s name + liveLeases s name ∧ owners s name ≤ 1
  tracker : ∀ word, s.tracker = some word →
    trackerReferenceCount word = liveTable s + liveRecords s + activities s ∧
      trackerActivityCount word = activities s
  single : liveTable s ≤ 1
  freed : s.trackerFrees = if liveTable s + liveRecords s + activities s = 0 then 1 else 0
  /-- A destruction that was accepted has emptied every slot, and the table is gone when the calls
  that were started have ended. -/
  closed : (Step.destroy, Outcome.done) ∈ trace →
    (∀ table, s.table = some table → ∀ index < capacity, (table.slots index).record = none) ∧
      ((∀ call ∈ s.calls, call.todo = []) → s.table = none)
  /-- With the table and the leases gone and no call in progress, nothing is left over. -/
  ended : s.table = none → s.leases = [] → (∀ call ∈ s.calls, call.todo = []) →
    s.trackerFrees = 1 ∧ ∀ name object callback, Accepted trace name object callback →
      destroyedTimes s name = 1
  no_abort : s.crash = none

theorem attempt_of_accepted_as (counted : acceptedAs name event ≠ 0) :
    attempt event = some name := by
  obtain ⟨label, outcome⟩ := event
  cases outcome with
  | insert status inserted handle =>
    cases status with
    | ok =>
      simp only [acceptedAs, ne_eq, ite_eq_right_iff, Nat.succ_ne_self, imp_false,
        Decidable.not_not] at counted
      rw [attempt, counted]
    | _ => exact absurd rfl counted
  | _ => exact absurd rfl counted

/-- An allocation is accepted by the one insert that made it, or not at all. -/
theorem Provenance.accepted_times (provenance : Provenance trace s) (member : event ∈ trace)
    (made : attempt event = some name) :
    total (acceptedAs name) trace = acceptedAs name event := by
  obtain ⟨before, after, rfl⟩ := List.append_of_mem member
  have distinct := provenance.distinct
  rw [List.filterMap_append, List.filterMap_cons, made, List.nodup_append, List.nodup_cons]
    at distinct
  obtain ⟨-, ⟨notAfter, -⟩, apart⟩ := distinct
  have elsewhere (events : List (Step × Outcome)) (missing : name ∉ events.filterMap attempt) :
      total (acceptedAs name) events = 0 := by
    apply total_eq_zero.mpr
    intro other occurs
    by_contra counted
    exact missing (List.mem_filterMap.mpr ⟨other, occurs, attempt_of_accepted_as counted⟩)
  have notBefore : name ∉ before.filterMap attempt := fun earlier =>
    apart name earlier name List.mem_cons_self rfl
  rw [total_append, total_cons, elsewhere before notBefore, elsewhere after notAfter]
  omega

/-- A record is freed exactly when neither an owner nor a lease is left. -/
theorem RecordLedger.record_live_iff (ledger : RecordLedger s) (name : Nat) :
    recordLive (s.records name) = if owners s name + liveLeases s name = 0 then 0 else 1 := by
  cases live : s.records name with
  | none =>
    obtain ⟨notOwned, notLeased⟩ := ledger.freed name live
    simp [notOwned, notLeased, recordLive]
  | some record =>
    obtain ⟨counted, positive, -⟩ := ledger.references name record live
    rw [if_neg (by omega)]
    rfl

/-- An accepted object's callback has run, or is owed, exactly when its record is gone. -/
theorem Accounts.accepted_balance (accounts : Accounts trace s)
    (accepted : Accepted trace name object callback) :
    destroyedTimes s name + pendingDestroys s name =
      if owners s name + liveLeases s name = 0 then 1 else 0 := by
  obtain ⟨kind, allocated, handle, member⟩ := accepted
  have balance := accounts.provenance.balance name
  rw [accounts.provenance.accepted_times member rfl,
    accounts.ledger.records.record_live_iff] at balance
  simp only [acceptedAs, ↓reduceIte] at balance
  by_cases gone : owners s name + liveLeases s name = 0
  · rw [if_pos gone] at balance ⊢
    omega
  · rw [if_neg gone] at balance ⊢
    omega

theorem Accounts.rejected_balance (accounts : Accounts trace s) (rejected : Rejected trace name) :
    destroyedTimes s name + pendingDestroys s name = 0 := by
  obtain ⟨label, status, handle, failed, member⟩ := rejected
  have balance := accounts.provenance.balance name
  rw [accounts.provenance.accepted_times member rfl] at balance
  have refused : acceptedAs name (label, .insert status name handle) = 0 := by
    cases status with
    | ok => exact absurd rfl failed
    | _ => rfl
  omega

theorem Accounts.tracker_freed (accounts : Accounts trace s) :
    s.trackerFrees = if liveTable s + liveRecords s + activities s = 0 then 1 else 0 := by
  rw [accounts.ledger.tracker.frees]
  cases held : s.tracker with
  | none =>
    have gone := accounts.ledger.tracker.freed held
    exact (if_pos gone).symm
  | some word =>
    obtain ⟨-, positive, -⟩ := accounts.ledger.tracker.held word held
    exact (if_neg (Nat.ne_of_gt positive)).symm

theorem pending_of_idle (weight : CallKind → Action → Nat)
    (idle : ∀ call ∈ calls, call.todo = []) : pending weight calls = 0 :=
  total_eq_zero.mpr fun call started => by rw [idle call started, total_nil]

/-- Without a table, a lease or a call in progress there is no owner of anything. -/
theorem Accounts.nothing_left (accounts : Accounts trace s) (gone : s.table = none)
    (released : s.leases = []) (idle : ∀ call ∈ s.calls, call.todo = []) :
    liveTable s + liveRecords s + activities s = 0 ∧
      ∀ name, owners s name + liveLeases s name = 0 := by
  have unowned (name : Nat) : owners s name + liveLeases s name = 0 := by
    simp [owners, liveLeases, gone, released, slotOwners, pending_of_idle _ idle]
  have records : tally recordLive s.records s.nextRecord = 0 :=
    tally_eq_zero.mpr fun name _ => by
      rw [accounts.ledger.records.record_live_iff, if_pos (unowned name)]
  refine ⟨?_, unowned⟩
  simp [liveTable, liveRecords, activities, gone, released, tableOpen, records,
    pending_of_idle _ idle]

/-- A table that is open no more is being destroyed: its slots are empty, and a call is to free
it. -/
theorem Accounts.closed_table (accounts : Accounts trace s) (closed : tableOpen s.table = 0) :
    (∀ table, s.table = some table → ∀ index < capacity, (table.slots index).record = none) ∧
      ((∀ call ∈ s.calls, call.todo = []) → s.table = none) := by
  have destroying {table : Table} (live : s.table = some table) : table.destroying = true := by
    rw [live] at closed
    by_contra open_
    simp [tableOpen, open_] at closed
  constructor
  · intro table live index inside
    cases held : (table.slots index).record with
    | none => rfl
    | some name =>
      have empty := accounts.ledger.tables.emptied table live (destroying live) name
      rw [live] at empty
      have none' := tally_eq_zero.mp empty index inside
      simp [slotHolds, held] at none'
  · intro idle
    cases live : s.table with
    | none => rfl
    | some table =>
      have owed := accounts.ledger.tables.closing
      rw [pending_of_idle _ idle, live] at owed
      simp [tableClosing, destroying live] at owed

theorem Accounts.destroyed_once (accounts : Accounts trace s) : DestroyedOnce trace s where
  distinct := accounts.provenance.distinct
  accepted := fun _ _ _ => accounts.accepted_balance
  next := accounts.provenance.first
  rejected := fun _ => accounts.rejected_balance
  arguments := accounts.provenance.destroyed
  references := fun name record live =>
    ⟨(accounts.ledger.records.references name record live).1,
      accounts.ledger.records.owned_once name⟩
  tracker := fun word held => by
    obtain ⟨-, -, references, active⟩ := accounts.ledger.tracker.held word held
    exact ⟨references, active⟩
  single := accounts.single
  freed := accounts.tracker_freed
  closed := fun begun => accounts.closed_table (accounts.closed begun)
  ended := fun gone released idle => by
    obtain ⟨unheld, unowned⟩ := accounts.nothing_left gone released idle
    refine ⟨by rw [accounts.tracker_freed, if_pos unheld], fun name object callback accepted => ?_⟩
    have balance := accounts.accepted_balance accepted
    rw [if_pos (unowned name), pendingDestroys, pending_of_idle _ idle] at balance
    exact balance
  no_abort := accounts.ledger.no_crash

/-- In every interleaving each accepted object is destroyed exactly once, when its slot, the calls
that emptied it and its leases have all let go; and no schedule can keep a started call from
getting there. -/
theorem exactly_once_destruction (labels : List Step) :
    DestroyedOnce (run step create labels).trace (run step create labels).state ∧
      ∃ more, (∀ label ∈ more, ∃ position, label = Step.advance position) ∧
        ∀ call ∈ (run step create (labels ++ more)).state.calls, call.todo = [] :=
  ⟨(accounts_run labels).destroyed_once, calls_finish labels⟩

/-- An object is leased when the table is destroyed. -/
def leasedRun : List Step := [
  .insert .file 64 65 true, .acquire (encodeHandle 0 1) .file, .destroy,
  .advance 0, .advance 0, .advance 0]

/-- The lease is given back afterwards. -/
def releasedRun : List Step :=
  leasedRun ++ [.release 0, .advance 1, .advance 1, .advance 1, .advance 1]

/-- The table goes first and the object with its lease, which frees the tracker. -/
theorem leased_object_outlives_table :
    (run step create leasedRun).state.table = none ∧
      destroyedTimes (run step create leasedRun).state 0 = 0 ∧
      (run step create releasedRun).state.table = none ∧
      (run step create releasedRun).state.trackerFrees = 1 ∧
      destroyedTimes (run step create releasedRun).state 0 = 1 := by
  have leased := (exactly_once_destruction leasedRun).1
  have released := (exactly_once_destruction releasedRun).1
  have gone := (leased.closed (by decide +kernel)).2 (by decide +kernel)
  have still := (released.closed (by decide +kernel)).2 (by decide +kernel)
  obtain ⟨freed, destroyed⟩ := released.ended still (by decide +kernel) (by decide +kernel)
  exact ⟨gone, by decide +kernel, still, freed,
    destroyed 0 64 65 ⟨.file, true, encodeHandle 0 1, by decide +kernel⟩⟩

end SadLayer.HandleTable
