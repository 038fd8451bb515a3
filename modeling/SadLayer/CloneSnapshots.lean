import SadLayer.HandleDestruction

/-! A worker is cloned while the handle table is locked and quiet: no lease and no
close is in progress, and nothing moves until the lock is given back, so that parent
and child start from the same table. -/
namespace SadLayer.HandleTable
open SadLayer.Library

/-- The action a call ends with. -/
def CallKind.last : CallKind → Action
  | .leaseRelease => .endActivity
  | .close => .endActivity
  | .destroy => .dropTracker none

/-- A call that is not over still has its last action before it. -/
def Finishes (call : Call) : Prop :=
  call.todo = [] ∨ ∃ before, call.todo = before ++ [call.kind.last]

/-- What a lease release or a close leaves open: its destructor, or the end of its activity. -/
def Call.Active (call : Call) : Prop :=
  call.kind ≠ .destroy ∧ ∃ action ∈ call.todo, action.destroys = true ∨ action = .endActivity

/-- No lease is outstanding, and no release and no close is in progress. -/
def Quiet (s : System) : Prop :=
  s.leases = [] ∧ ∀ call ∈ s.calls, ¬ call.Active

/-- What `clone` makes of a process: its memory, without the calls of other threads. -/
def cloneChild (s : System) : System := { s with calls := [] }

/-- The live records are those of the slots, one each, with no other reference to them. -/
structure Snapshot (s : System) (table : Table) : Prop where
  held : ∀ index < capacity, ∀ name, (table.slots index).record = some name →
    ∃ record, s.records name = some record ∧ record.references = 1
  slotted : ∀ name record, s.records name = some record →
    record.references = 1 ∧ ∃ index < capacity, (table.slots index).record = some name
  once : ∀ index < capacity, ∀ other < capacity, ∀ name,
    (table.slots index).record = some name → (table.slots other).record = some name →
    index = other
  tracker : ∃ word, s.tracker = some word ∧ trackerActivityCount word = 0

variable {s : System} {table : Table} {call : Call}

/-! ### How calls end -/

theorem last_ends_activity (kind : call.kind ≠ .destroy) : call.kind.last = .endActivity := by
  cases known : call.kind with
  | leaseRelease => rfl
  | close => rfl
  | destroy => exact absurd known kind

theorem Finishes.last_mem (finishes : Finishes call) (running : call.todo ≠ []) :
    call.kind.last ∈ call.todo := by
  obtain ⟨before, shape⟩ := finishes.resolve_left running
  rw [shape]
  exact List.mem_concat_self

theorem perform_last (s : System) (kind : CallKind) : (perform s kind.last).2 = [] := by
  cases kind <;> rfl

theorem finishes_next {action : Action} {rest : List Action} (finishes : Finishes call)
    (next : call.todo = action :: rest) (s : System) :
    Finishes { call with todo := (perform s action).2 ++ rest } := by
  rcases finishes with idle | ⟨before, shape⟩
  · rw [idle] at next
    cases next
  · rw [next] at shape
    cases before with
    | nil =>
      obtain ⟨rfl, rfl⟩ := List.cons.inj shape
      exact .inl (by dsimp only; rw [perform_last, List.append_nil])
    | cons first before =>
      obtain ⟨rfl, rfl⟩ := List.cons.inj shape
      exact .inr ⟨(perform s action).2 ++ before, (List.append_assoc ..).symm⟩

theorem finishes_step (ledger : Ledger s) (finishes : ∀ call ∈ s.calls, Finishes call)
    (label : Step) : ∀ call ∈ (step s label).1.calls, Finishes call := by
  have started {added : Call} (fresh : Finishes added) :
      ∀ call ∈ s.calls ++ [added], Finishes call := by
    intro call member
    rcases List.mem_append.mp member with before | new
    · exact finishes call before
    · rw [List.mem_singleton.mp new]
      exact fresh
  have effect := step_effect s label
  generalize (step s label).1 = after, (step s label).2 = outcome at effect
  cases effect with
  | unchanged refused => exact finishes
  | refusedInsert failed => exact finishes
  | inserted live open_ free held retained => exact finishes
  | acquired live resolved room held begun => exact finishes
  | cloning live => exact finishes
  | cloned live => exact finishes
  | released held live => exact started (.inr ⟨[_], rfl⟩)
  | closed live resolved held begun => exact started (.inr ⟨[_], rfl⟩)
  | @destroyed table live open_ =>
    refine started (.inr ⟨(occupied table).map .dropRecord ++ [.freeTable], ?_⟩)
    exact (List.append_assoc _ [Action.freeTable] [Action.dropTracker none]).symm
  | advanced running next =>
    rw [perform_calls]
    intro call member
    rcases List.mem_or_eq_of_mem_set member with before | rfl
    · exact finishes call before
    · exact finishes_next (finishes _ (List.mem_of_getElem? running)) next s
  | dangling freed => exact absurd freed ledger.not_dangling

/-- What every run keeps for a clone. -/
theorem finishes_run (labels : List Step) :
    ∀ call ∈ (run step create labels).state.calls, Finishes call := by
  have kept : Ledger (run step create labels).state ∧
      ∀ call ∈ (run step create labels).state.calls, Finishes call := by
    apply run_invariant step (fun _ s => Ledger s ∧ ∀ call ∈ s.calls, Finishes call)
    · exact ⟨ledger_create, fun call member => absurd member List.not_mem_nil⟩
    · intro trace s label kept
      exact ⟨ledger_step kept.1 label, finishes_step kept.1 kept.2 label⟩
  exact kept.2

/-! ### Quiet tables -/

/-- While the table is open, no destruction is in progress. -/
theorem Accounts.destroy_over (accounts : Accounts trace s) (live : s.table = some table)
    (open_ : table.destroying = false) (started : call ∈ s.calls) (finishes : Finishes call)
    (destroys : call.kind = .destroy) : call.todo = [] := by
  by_contra running
  have last := finishes.last_mem running
  rw [destroys] at last
  have released : 0 < pending tableRelease s.calls :=
    pending_pos tableRelease started last Nat.one_pos
  have single := accounts.single
  rw [liveTable, live, tableOpen, if_neg (by simp [open_])] at single
  omega

theorem Accounts.quiet_idle (accounts : Accounts trace s) (live : s.table = some table)
    (open_ : table.destroying = false) (finishes : ∀ call ∈ s.calls, Finishes call)
    (quiet : Quiet s) : ∀ call ∈ s.calls, call.todo = [] := by
  intro call started
  by_cases kind : call.kind = .destroy
  · exact accounts.destroy_over live open_ started (finishes call started) kind
  · by_contra running
    have last := (finishes call started).last_mem running
    rw [last_ends_activity kind] at last
    exact quiet.2 call started ⟨kind, .endActivity, last, .inr rfl⟩

/-- The activity count is exact: it is zero when the table is quiet, and only then. -/
theorem Accounts.activities_zero_iff (accounts : Accounts trace s) (live : s.table = some table)
    (open_ : table.destroying = false) (finishes : ∀ call ∈ s.calls, Finishes call) :
    activities s = 0 ↔ Quiet s := by
  constructor
  · intro none'
    obtain ⟨released, ended⟩ : s.leases.length = 0 ∧ pending activityEnd s.calls = 0 := by
      unfold activities at none'
      omega
    refine ⟨List.length_eq_zero_iff.mp released, ?_⟩
    rintro call started ⟨kind, action, member, -⟩
    have last := (finishes call started).last_mem (List.ne_nil_of_mem member)
    rw [last_ends_activity kind] at last
    have owed : 0 < pending activityEnd s.calls :=
      pending_pos activityEnd started last Nat.one_pos
    omega
  · intro quiet
    rw [activities, quiet.1, pending_of_idle _ (accounts.quiet_idle live open_ finishes quiet)]
    rfl

/-- `sl_handle_table_prepare_clone` succeeds on open and quiet tables, and changes nothing but
the lock. -/
theorem Accounts.prepare_clone_cases (accounts : Accounts trace s) (live : s.table = some table)
    (idle : table.locked = false) (finishes : ∀ call ∈ s.calls, Finishes call) :
    (table.destroying = false ∧ Quiet s ∧ step s .prepareClone =
      ({ s with table := some { table with locked := true } }, .prepareClone .ok)) ∨
    ¬ (table.destroying = false ∧ Quiet s) ∧
      step s .prepareClone = (s, .prepareClone .invalidState) := by
  have stepped : step s .prepareClone = prepareClone s table := by
    unfold step
    rw [live]
    dsimp only
    rw [if_neg (by simp [idle])]
  rw [stepped]
  unfold prepareClone
  split
  · rename_i destroying
    exact .inr ⟨fun quiet => by simp [destroying] at quiet, rfl⟩
  rename_i open_
  rw [Bool.not_eq_true] at open_
  have counted := accounts.activities_zero_iff live open_ finishes
  split
  · rename_i freed
    exact absurd (.tracker live freed) accounts.ledger.not_dangling
  rename_i word held
  obtain ⟨-, -, -, active⟩ := accounts.ledger.tracker.held word held
  rw [active]
  split
  · rename_i busy
    exact .inr ⟨fun quiet => busy (counted.mpr quiet.2), rfl⟩
  · rename_i none'
    exact .inl ⟨open_, counted.mp (not_not.mp none'), rfl⟩

/-! ### While the table is locked -/

/-- A locked table without a lease or a running call keeps every step waiting but one. -/
theorem locked_step (live : s.table = some table) (locked : table.locked = true)
    (released : s.leases = []) (idle : ∀ call ∈ s.calls, call.todo = []) (label : Step)
    (waits : label ≠ .completeClone) : step s label = (s, .blocked) := by
  cases label with
  | completeClone => exact absurd rfl waits
  | release position =>
    unfold step leaseRelease
    rw [released]
    rfl
  | advance position =>
    unfold step advance
    dsimp only
    split
    · rfl
    rename_i call started
    rw [idle call (List.mem_of_getElem? started)]
  | insert kind object callback allocated =>
    unfold step
    rw [live]
    exact if_pos locked
  | acquire handle kind =>
    unfold step
    rw [live]
    exact if_pos locked
  | close handle kind =>
    unfold step
    rw [live]
    exact if_pos locked
  | destroy =>
    unfold step
    rw [live]
    exact if_pos (by rw [locked, Bool.true_or])
  | prepareClone =>
    unfold step
    rw [live]
    exact if_pos locked

theorem locked_run (live : s.table = some table) (locked : table.locked = true)
    (released : s.leases = []) (idle : ∀ call ∈ s.calls, call.todo = []) (labels : List Step)
    (waits : .completeClone ∉ labels) :
    (run step s labels).state = s ∧ ∀ event ∈ (run step s labels).trace, event.2 = .blocked := by
  induction labels using List.reverseRecOn with
  | nil => exact ⟨rfl, fun event member => absurd member List.not_mem_nil⟩
  | append_singleton labels label ih =>
    rw [List.mem_append, not_or, List.mem_singleton] at waits
    obtain ⟨same, blocked⟩ := ih waits.1
    have stepped := locked_step live locked released idle label (Ne.symm waits.2)
    rw [run_concat, Run.extend, same, stepped]
    refine ⟨rfl, fun event member => ?_⟩
    rcases List.mem_append.mp member with before | new
    · exact blocked event before
    · rw [List.mem_singleton.mp new]

/-- A quiet table is a snapshot. -/
theorem Accounts.snapshot (accounts : Accounts trace s) (live : s.table = some table)
    (open_ : table.destroying = false) (finishes : ∀ call ∈ s.calls, Finishes call)
    (quiet : Quiet s) : Snapshot s table := by
  have ledger := accounts.ledger.records
  have idle := accounts.quiet_idle live open_ finishes quiet
  have counted (name : Nat) : owners s name = tally (slotHolds name) table.slots capacity ∧
      liveLeases s name = 0 := by
    simp [owners, liveLeases, live, quiet.1, slotOwners, pending_of_idle _ idle]
  have owned (index : Nat) (inside : index < capacity) (name : Nat)
      (held : (table.slots index).record = some name) : 1 ≤ owners s name := by
    rw [(counted name).1]
    refine Nat.le_trans ?_ (weight_le_tally (slotHolds name) table.slots inside)
    rw [slotHolds, if_pos held]
  have single (name : Nat) (record : Record) (stored : s.records name = some record) :
      record.references = 1 := by
    obtain ⟨sum, positive, -⟩ := ledger.references name record stored
    have once := ledger.owned_once name
    rw [(counted name).2] at sum
    omega
  refine ⟨fun index inside name held => ?_,
    fun name record stored => ⟨single name record stored, ?_⟩,
    fun index inside other otherInside name held also => ?_, ?_⟩
  · cases stored : s.records name with
    | none =>
      have unowned := (ledger.freed name stored).1
      have one := owned index inside name held
      omega
    | some record => exact ⟨record, rfl, single name record stored⟩
  · by_contra nowhere
    have unheld : tally (slotHolds name) table.slots capacity = 0 :=
      tally_eq_zero.mpr fun index inside => if_neg fun held => nowhere ⟨index, inside, held⟩
    obtain ⟨sum, positive, -⟩ := ledger.references name record stored
    rw [(counted name).1, (counted name).2, unheld] at sum
    omega
  · by_contra apart
    have emptied := tally_update (slotHolds name) table.slots {} inside
    have rest := weight_le_tally (slotHolds name) (Function.update table.slots index {}) otherInside
    rw [Function.update_of_ne (Ne.symm apart), slotHolds, if_pos also] at rest
    have weighs : slotHolds name (table.slots index) = 1 := if_pos held
    have empty : slotHolds name {} = 0 := if_neg fun same => by cases same
    have once := ledger.owned_once name
    rw [(counted name).1] at once
    omega
  · cases held : s.tracker with
    | none => exact absurd (.tracker live held) accounts.ledger.not_dangling
    | some word =>
      obtain ⟨-, -, -, active⟩ := accounts.ledger.tracker.held word held
      exact ⟨word, rfl, active.trans
        ((accounts.activities_zero_iff live open_ finishes).mpr quiet)⟩

/-! ### Clones -/

/-- What a clone of a process that holds the lock starts from, on both sides. -/
structure Cloned (before locked : System) (table : Table) : Prop where
  /-- No step has an effect before the lock is given back. -/
  still : ∀ labels : List Step, .completeClone ∉ labels → (run step locked labels).state = locked ∧
    ∀ event ∈ (run step locked labels).trace, event.2 = .blocked
  /-- Parent and child unlock the same table over the same records. -/
  parent : step locked .completeClone = (before, .done)
  child : step (cloneChild locked) .completeClone = (cloneChild before, .done)
  snapshot : Snapshot before table
  copied : Snapshot (cloneChild before) table

theorem Accounts.cloned (accounts : Accounts trace s) (live : s.table = some table)
    (idle : table.locked = false) (open_ : table.destroying = false)
    (finishes : ∀ call ∈ s.calls, Finishes call) (quiet : Quiet s) :
    Cloned s { s with table := some { table with locked := true } } table := by
  have ended := accounts.quiet_idle live open_ finishes quiet
  have snapshot := accounts.snapshot live open_ finishes quiet
  have unlocked : ({ s with table := some { table with locked := false } } : System) = s := by
    rw [show ({ table with locked := false } : Table) = table by rw [← idle], ← live]
  have locked : ({ s with table := some { table with locked := true } } : System).table =
      some { table with locked := true } := rfl
  refine ⟨locked_run locked rfl quiet.1 ended, ?_, ?_, snapshot, snapshot.held, snapshot.slotted,
    snapshot.once, snapshot.tracker⟩
  · unfold step
    dsimp only
    rw [if_pos rfl, unlocked]
  · unfold step cloneChild
    dsimp only
    rw [if_pos rfl]
    exact congrArg (fun s => (cloneChild s, Outcome.done)) unlocked

/-- In every interleaving, preparing a clone succeeds exactly on an open and quiet table; from then
on nothing moves until the clone is completed, and both processes go on with the slots,
the generations and the records of that moment, each record counting one reference. -/
theorem clone_snapshots_quiescent (labels : List Step) (table : Table)
    (live : (run step create labels).state.table = some table) (idle : table.locked = false) :
    let s := (run step create labels).state
    ((step s .prepareClone).2 = .prepareClone .ok ↔ table.destroying = false ∧ Quiet s) ∧
    ((step s .prepareClone).2 ≠ .prepareClone .ok → (step s .prepareClone).1 = s) ∧
    ((step s .prepareClone).2 = .prepareClone .ok → Cloned s (step s .prepareClone).1 table) := by
  intro s
  have accounts := accounts_run labels
  have finishes := finishes_run labels
  rcases accounts.prepare_clone_cases live idle finishes with
    ⟨open_, quiet, prepared⟩ | ⟨busy, refused⟩
  · rw [show step s .prepareClone = _ from prepared]
    exact ⟨iff_of_true rfl ⟨open_, quiet⟩, fun failed => absurd rfl failed,
      fun _ => accounts.cloned live idle open_ finishes quiet⟩
  · rw [show step s .prepareClone = _ from refused]
    exact ⟨iff_of_false nofun busy, fun _ => rfl, nofun⟩

theorem table_of_one_file_cloned :
    let labels := [Step.insert .file 1 1 true]
    let s := (run step create labels).state
    (step s .prepareClone).2 = .prepareClone .ok ∧
      Cloned s (step s .prepareClone).1 (setSlot {} 0 { record := some 0 }) := by
  intro labels s
  have live : s.table = some (setSlot {} 0 { record := some 0 }) := rfl
  have known := clone_snapshots_quiescent labels _ live rfl
  have prepared := known.1.mpr ⟨rfl, rfl, fun call member => absurd member List.not_mem_nil⟩
  exact ⟨prepared, known.2.2 prepared⟩

end SadLayer.HandleTable
