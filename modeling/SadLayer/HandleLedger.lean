import SadLayer.HandleEffects
import SadLayer.Library.Tally

/-! The three counters of the handle table, balanced against what they count:
a record's references against its slot, the calls that own it and its leases,
and the two halves of the tracker word against the live table, the live
records and the external activities. -/
namespace SadLayer.HandleTable
open SadLayer.Library

variable {s t : System} {table : Table} {calls : List Call} {call : Call}

/-! ### What the counters count -/

/-- The weight of the actions the started calls still have to perform. -/
def pending (weight : CallKind → Action → Nat) (calls : List Call) : Nat :=
  total (fun call => total (weight call.kind) call.todo) calls

/-- A drop owed by a close or a destruction, which took over the slot's reference. -/
def ownedDrop (record : Nat) : CallKind → Action → Nat
  | .leaseRelease, _ => 0
  | _, .dropRecord name => if name = record then 1 else 0
  | _, _ => 0

/-- A drop owed by a lease release: the lease has not been given back yet. -/
def leasedDrop (record : Nat) : CallKind → Action → Nat
  | .leaseRelease, .dropRecord name => if name = record then 1 else 0
  | _, _ => 0

def activityEnd (_ : CallKind) : Action → Nat
  | .endActivity => 1
  | _ => 0

def recordRelease (_ : CallKind) : Action → Nat
  | .dropTracker (some _) => 1
  | _ => 0

def tableRelease (_ : CallKind) : Action → Nat
  | .dropTracker none => 1
  | _ => 0

def tableFree (_ : CallKind) : Action → Nat
  | .freeTable => 1
  | _ => 0

def slotHolds (record : Nat) (slot : Slot) : Nat :=
  if slot.record = some record then 1 else 0

/-- The slots of the live table that hold a record. -/
def slotOwners (record : Nat) : Option Table → Nat
  | none => 0
  | some table => tally (slotHolds record) table.slots capacity

def leaseOf (record : Nat) (lease : Lease) : Nat :=
  if lease.internal = record then 1 else 0

def recordLive (record : Option Record) : Nat :=
  if record.isSome then 1 else 0

/-- One until a destruction begins. -/
def tableOpen : Option Table → Nat
  | none => 0
  | some table => if table.destroying then 0 else 1

/-- One between the beginning of a destruction and `free(table)`. -/
def tableClosing : Option Table → Nat
  | none => 0
  | some table => if table.destroying then 1 else 0

/-- One when the slot or an in-progress close or destruction owns the record. -/
def owners (s : System) (record : Nat) : Nat :=
  slotOwners record s.table + pending (ownedDrop record) s.calls

/-- Leases of a record whose reference has not been dropped. -/
def liveLeases (s : System) (record : Nat) : Nat :=
  total (leaseOf record) s.leases + pending (leasedDrop record) s.calls

/-- Leases held or being released, and closes in progress. -/
def activities (s : System) : Nat :=
  s.leases.length + pending activityEnd s.calls

/-- Records that still hold their tracker reference. -/
def liveRecords (s : System) : Nat :=
  tally recordLive s.records s.nextRecord + pending recordRelease s.calls

/-- One until the destruction has released the table's own tracker reference. -/
def liveTable (s : System) : Nat :=
  tableOpen s.table + pending tableRelease s.calls

/-- The reference half of the tracker word. -/
def trackerReferences (s : System) : Nat :=
  liveTable s + liveRecords s + activities s

/-- The table's tracker reference outlives the table. -/
def Closes : List Action → Prop
  | [] => True
  | .freeTable :: rest => .dropTracker none ∈ rest ∧ Closes rest
  | _ :: rest => Closes rest

/-- A table being destroyed holds no record any more. -/
def Emptied (live : Option Table) : Prop :=
  ∀ table, live = some table → table.destroying = true → ∀ record, slotOwners record live = 0

/-- Every live record counts its owner and its leases; a freed one has neither. -/
structure RecordLedger (s : System) : Prop where
  references : ∀ name record, s.records name = some record →
    record.references = owners s name + liveLeases s name ∧
      0 < record.references ∧ record.references ≤ uint32Max
  freed : ∀ name, s.records name = none → owners s name = 0 ∧ liveLeases s name = 0
  owned_once : ∀ name, owners s name ≤ 1
  fresh : ∀ name, s.nextRecord ≤ name → s.records name = none

/-- The tracker word counts its holders, and is freed once when there are none. -/
structure TrackerLedger (s : System) : Prop where
  held : ∀ word, s.tracker = some word → word < 2 ^ 64 ∧ 0 < trackerReferences s ∧
    trackerReferenceCount word = trackerReferences s ∧ trackerActivityCount word = activities s
  freed : s.tracker = none → trackerReferences s = 0
  frees : s.trackerFrees = if s.tracker.isNone then 1 else 0

/-- A destruction in progress frees the table once, before its tracker reference. -/
structure TableLedger (s : System) : Prop where
  closing : pending tableFree s.calls = tableClosing s.table
  closes : ∀ call ∈ s.calls, Closes call.todo
  emptied : Emptied s.table

/-- What the counters say, in every state a run reaches. -/
structure Ledger (s : System) : Prop where
  no_crash : s.crash = none
  records : RecordLedger s
  tracker : TrackerLedger s
  tables : TableLedger s

@[simp] theorem pending_append (weight : CallKind → Action → Nat) (first second : List Call) :
    pending weight (first ++ second) = pending weight first + pending weight second :=
  total_append _ _ _

@[simp] theorem pending_single (weight : CallKind → Action → Nat) (call : Call) :
    pending weight [call] = total (weight call.kind) call.todo := by
  simp [pending]

/-- Performing the next action of a call trades its weight for that of the actions it adds. -/
theorem pending_advance {position : Nat} (weight : CallKind → Action → Nat)
    (started : calls[position]? = some call) (next : call.todo = action :: rest)
    (added : List Action) :
    pending weight (calls.set position { call with todo := added ++ rest }) +
        weight call.kind action =
      pending weight calls + total (weight call.kind) added := by
  have traded := total_set (fun call : Call => total (weight call.kind) call.todo)
    { call with todo := added ++ rest } started
  simp only [next, total_cons, total_append] at traded
  unfold pending
  omega

/-- The next action of a started call is among those pending. -/
theorem pending_next_le {position : Nat} (weight : CallKind → Action → Nat)
    (started : calls[position]? = some call) (next : call.todo = action :: rest) :
    weight call.kind action ≤ pending weight calls := by
  have advanced := pending_advance weight started next []
  simp only [total_nil] at advanced
  omega

theorem pending_pos (weight : CallKind → Action → Nat) (started : call ∈ calls)
    (member : action ∈ call.todo) (weighs : 0 < weight call.kind action) :
    0 < pending weight calls := by
  by_contra none'
  have allZero := total_eq_zero.mp (Nat.eq_zero_of_not_pos none') call started
  have zero := total_eq_zero.mp allZero action member
  omega

/-- A pending weight is carried by some action of some started call. -/
theorem pending_witness (weight : CallKind → Action → Nat) (owed : 0 < pending weight calls) :
    ∃ call ∈ calls, ∃ action ∈ call.todo, 0 < weight call.kind action := by
  by_contra nowhere
  push Not at nowhere
  have zero : pending weight calls = 0 :=
    total_eq_zero.mpr fun call started =>
      total_eq_zero.mpr fun action member => Nat.le_zero.mp (nowhere call started action member)
  omega

theorem Closes.release (closes : Closes todo) (frees : .freeTable ∈ todo) :
    .dropTracker none ∈ todo := by
  induction todo with
  | nil => contradiction
  | cons action rest ih =>
    cases action with
    | freeTable => exact List.mem_cons_of_mem _ closes.1
    | _ =>
      simp only [List.mem_cons, reduceCtorEq, false_or] at frees
      exact List.mem_cons_of_mem _ (ih closes frees)

theorem Closes.tail (closes : Closes (action :: rest)) : Closes rest := by
  cases action with
  | freeTable => exact closes.2
  | _ => exact closes

theorem Closes.prepend (closes : Closes rest) (keeps : .freeTable ∉ added) :
    Closes (added ++ rest) := by
  induction added with
  | nil => exact closes
  | cons action added ih =>
    simp only [List.mem_cons, not_or] at keeps
    cases action with
    | freeTable => exact absurd rfl keeps.1
    | _ => exact ih keeps.2

/-- Writing one slot of the live table. -/
theorem slot_owners_set (record : Nat) (table : Table) (inside : index < capacity) (slot : Slot) :
    slotOwners record (some (setSlot table index slot)) + slotHolds record (table.slots index) =
      slotOwners record (some table) + slotHolds record slot :=
  tally_update _ _ _ inside

theorem free_slot_spec (free : freeSlot table = some index) :
    index < capacity ∧ (table.slots index).record = none ∧ (table.slots index).retired = false := by
  obtain ⟨inside, found, -⟩ := first_index_eq_some.mp free
  simp only [Bool.and_eq_true, Option.isNone_iff_eq_none, Bool.not_eq_true'] at found
  exact ⟨inside, found⟩

/-! ### The tracker word -/

theorem tracker_retain_counts (bound : word < 2 ^ 64) (retained : trackerRetain word = some next) :
    next < 2 ^ 64 ∧ trackerReferenceCount next = trackerReferenceCount word + 1 ∧
      trackerActivityCount next = trackerActivityCount word := by
  unfold trackerRetain trackerReferenceCount uint32Max at *
  split at retained
  · contradiction
  · simp only [Option.some.injEq] at retained
    simp only [trackerActivityCount]
    omega

theorem tracker_activity_begin_counts (bound : word < 2 ^ 64)
    (begun : trackerActivityBegin word = some next) :
    next < 2 ^ 64 ∧ trackerReferenceCount next = trackerReferenceCount word + 1 ∧
      trackerActivityCount next = trackerActivityCount word + 1 := by
  unfold trackerActivityBegin trackerReferenceCount trackerActivityCount uint32Max at *
  split at begun
  · contradiction
  · simp only [Option.some.injEq, trackerActivityOne] at begun
    omega

/-- Dropping a counted reference, and the activities that go with it, never aborts. It frees
the tracker exactly when that reference was the last one. -/
theorem tracker_drop_counts (bound : word < 2 ^ 64) (flag : ended ≤ 1)
    (referenced : 0 < trackerReferenceCount word) (active : ended ≤ trackerActivityCount word)
    (covered : trackerActivityCount word - ended < trackerReferenceCount word) :
    trackerDrop word (1 + ended * trackerActivityOne) ended = .freed ∧
        trackerReferenceCount word = 1 ∧ trackerActivityCount word = ended ∨
      ∃ next, trackerDrop word (1 + ended * trackerActivityOne) ended = .kept next ∧
        next < 2 ^ 64 ∧ trackerReferenceCount next + 1 = trackerReferenceCount word ∧
        0 < trackerReferenceCount next ∧
        trackerActivityCount next + ended = trackerActivityCount word := by
  have notAborted : ¬ (trackerReferenceCount word = 0 ∨ trackerActivityCount word < ended) := by
    omega
  unfold trackerDrop
  simp only [notAborted, ↓reduceIte]
  by_cases last : trackerReferenceCount word - 1 = 0
  · have one : trackerReferenceCount word = 1 := by omega
    have none' : trackerActivityCount word = ended := by omega
    simp [one, none']
  · right
    simp only [last, ↓reduceIte]
    refine ⟨_, rfl, ?_⟩
    unfold trackerReferenceCount trackerActivityCount trackerActivityOne at *
    rcases Nat.le_one_iff_eq_zero_or_eq_one.mp flag with rfl | rfl <;> omega

/-! ### How the parts of the ledger move -/

theorem RecordLedger.allocated (ledger : RecordLedger s) (live : s.records name = some record) :
    name < s.nextRecord := by
  by_contra beyond
  rw [ledger.fresh name (by omega)] at live
  contradiction

theorem RecordLedger.congr (ledger : RecordLedger s) (records : t.records = s.records)
    (next : s.nextRecord ≤ t.nextRecord) (owned : ∀ name, owners t name = owners s name)
    (leased : ∀ name, liveLeases t name = liveLeases s name) : RecordLedger t where
  references := fun name record found => by
    rw [owned, leased]
    exact ledger.references name record (records ▸ found)
  freed := fun name gone => by
    rw [owned, leased]
    exact ledger.freed name (records ▸ gone)
  owned_once := fun name => by
    rw [owned]
    exact ledger.owned_once name
  fresh := fun name later => by
    rw [records]
    exact ledger.fresh name (Nat.le_trans next later)

/-- What a record must count once it has been written. -/
def Counted (s : System) (name : Nat) : Option Record → Prop
  | none => owners s name = 0 ∧ liveLeases s name = 0
  | some record => record.references = owners s name + liveLeases s name ∧
      0 < record.references ∧ record.references ≤ uint32Max

/-- Only the record that is written has to be counted again. -/
theorem RecordLedger.write (ledger : RecordLedger s)
    (records : t.records = Function.update s.records name value)
    (next : s.nextRecord ≤ t.nextRecord) (inside : name < t.nextRecord)
    (owned : ∀ other, other ≠ name → owners t other = owners s other)
    (leased : ∀ other, other ≠ name → liveLeases t other = liveLeases s other)
    (once : owners t name ≤ 1) (counted : Counted t name value) : RecordLedger t where
  references := fun other record found => by
    rw [records] at found
    by_cases same : other = name
    · subst same
      rw [Function.update_self] at found
      rwa [found] at counted
    · rw [Function.update_of_ne same] at found
      rw [owned other same, leased other same]
      exact ledger.references other record found
  freed := fun other gone => by
    rw [records] at gone
    by_cases same : other = name
    · subst same
      rw [Function.update_self] at gone
      rwa [gone] at counted
    · rw [Function.update_of_ne same] at gone
      rw [owned other same, leased other same]
      exact ledger.freed other gone
  owned_once := fun other => by
    by_cases same : other = name
    · rwa [same]
    · rw [owned other same]
      exact ledger.owned_once other
  fresh := fun other later => by
    rw [records, Function.update_of_ne (by omega)]
    exact ledger.fresh other (by omega)

theorem TrackerLedger.congr (ledger : TrackerLedger s) (tracker : t.tracker = s.tracker)
    (frees : t.trackerFrees = s.trackerFrees)
    (references : trackerReferences t = trackerReferences s)
    (acts : activities t = activities s) : TrackerLedger t where
  held := by
    rw [tracker, references, acts]
    exact ledger.held
  freed := by
    rw [tracker, references]
    exact ledger.freed
  frees := by
    rw [tracker, frees]
    exact ledger.frees

/-- A retained reference is one more holder, and an activity when one began with it. -/
theorem TrackerLedger.raise (ledger : TrackerLedger s) (begun : Nat) (held : s.tracker = some word)
    (tracker : t.tracker = some next) (frees : t.trackerFrees = s.trackerFrees)
    (bound : next < 2 ^ 64)
    (referenced : trackerReferenceCount next = trackerReferenceCount word + 1)
    (active : trackerActivityCount next = trackerActivityCount word + begun)
    (references : trackerReferences t = trackerReferences s + 1)
    (acts : activities t = activities s + begun) : TrackerLedger t where
  held := fun other found => by
    obtain ⟨-, -, was, acted⟩ := ledger.held word held
    rw [tracker, Option.some.injEq] at found
    subst found
    exact ⟨bound, by omega, by omega, by omega⟩
  freed := fun gone => by simp [tracker] at gone
  frees := by
    have once := ledger.frees
    simpa [frees, tracker, held] using once

theorem TableLedger.congr (ledger : TableLedger s)
    (frees : pending tableFree t.calls = pending tableFree s.calls)
    (closing : tableClosing t.table = tableClosing s.table)
    (closes : ∀ call ∈ t.calls, Closes call.todo) (emptied : Emptied t.table) :
    TableLedger t where
  closing := by
    rw [frees, closing]
    exact ledger.closing
  closes := closes
  emptied := emptied

theorem TableLedger.closes_append (ledger : TableLedger s) (shape : Closes call.todo) :
    ∀ other ∈ s.calls ++ [call], Closes other.todo := by
  intro other member
  rw [List.mem_append, List.mem_singleton] at member
  obtain old | rfl := member
  · exact ledger.closes other old
  · exact shape

theorem TableLedger.closes_set {position : Nat} (ledger : TableLedger s) (added : List Action)
    (started : s.calls[position]? = some call) (next : call.todo = action :: rest)
    (keeps : .freeTable ∉ added) :
    ∀ other ∈ s.calls.set position { call with todo := added ++ rest }, Closes other.todo := by
  intro other member
  obtain old | rfl := List.mem_or_eq_of_mem_set member
  · exact ledger.closes other old
  · have closes := ledger.closes call (List.mem_of_getElem? started)
    rw [next] at closes
    exact closes.tail.prepend keeps

/-- A table that is not being destroyed need not be empty. -/
theorem emptied_of_open (open_ : table.destroying = false) : Emptied (some table) := by
  intro live found ending
  cases found
  rw [open_] at ending
  contradiction

@[simp] theorem invalidate_slot_record (slot : Slot) : (invalidateSlot slot).record = none := by
  unfold invalidateSlot
  split <;> rfl

/-! ### Every step keeps the ledger -/

theorem ledger_create : Ledger create := by
  have empty (name : Nat) : slotOwners name create.table = 0 :=
    tally_eq_zero.mpr fun _ _ => rfl
  exact {
    no_crash := rfl
    records := {
      references := fun name record held => by simp [create] at held
      freed := fun name _ => by
        rw [owners, empty]
        exact ⟨rfl, rfl⟩
      owned_once := fun name => by
        rw [owners, empty]
        exact Nat.zero_le 1
      fresh := fun _ _ => rfl }
    tracker := {
      held := fun word held => by
        cases held
        simp [trackerReferences, liveTable, liveRecords, activities, create, tableOpen, pending,
          trackerReferenceCount, trackerActivityCount]
      freed := fun freed => by simp [create] at freed
      frees := rfl }
    tables := {
      closing := rfl
      closes := fun call started => by simp [create] at started
      emptied := emptied_of_open rfl } }

/-- No step of a balanced system touches freed memory. -/
theorem Ledger.not_dangling (ledger : Ledger s) : ¬ Dangling s := by
  intro dangling
  cases dangling with
  | @tracker live table freed =>
    have gone := ledger.tracker.freed freed
    have closing := ledger.tables.closing
    simp only [trackerReferences, liveTable, table, tableOpen, tableClosing,
      Nat.add_eq_zero_iff] at gone closing
    by_cases ending : live.destroying = true
    · -- the destruction that will free this table still holds its tracker reference
      simp only [ending, ↓reduceIte] at closing
      have owed : 0 < pending tableFree s.calls := by omega
      obtain ⟨call, started, action, member, weighs⟩ := pending_witness tableFree owed
      cases action with
      | freeTable =>
        have released := pending_pos tableRelease started
          ((ledger.tables.closes call started).release member) Nat.one_pos
        omega
      | _ => simp [tableFree] at weighs
    · simp [ending] at gone
  | @slot live index name table inside held freed =>
    have notOwned := (ledger.records.freed name freed).1
    have counted := weight_le_tally (slotHolds name) live.slots inside
    simp only [owners, table, slotOwners] at notOwned
    simp only [slotHolds, held, ↓reduceIte] at counted
    omega
  | @lease lease held freed =>
    have notLeased := (ledger.records.freed _ freed).2
    simp only [liveLeases, Nat.add_eq_zero_iff, total_eq_zero] at notLeased
    have counted := notLeased.1 lease held
    simp [leaseOf] at counted

theorem ledger_refused_insert (ledger : Ledger s) :
    Ledger { s with nextRecord := s.nextRecord + 1 } := by
  have unallocated := ledger.records.fresh s.nextRecord (Nat.le_refl _)
  have references : trackerReferences { s with nextRecord := s.nextRecord + 1 } =
      trackerReferences s := by
    simp [trackerReferences, liveTable, liveRecords, tally_succ, unallocated, recordLive,
      activities]
  exact {
    no_crash := ledger.no_crash
    records := ledger.records.congr rfl (Nat.le_succ _) (fun _ => rfl) (fun _ => rfl)
    tracker := ledger.tracker.congr rfl rfl references rfl
    tables := ledger.tables.congr rfl rfl ledger.tables.closes ledger.tables.emptied }

theorem ledger_inserted (ledger : Ledger s) (live : s.table = some table)
    (open_ : table.destroying = false) (free : freeSlot table = some index)
    (held : s.tracker = some word) (retained : trackerRetain word = some next) :
    Ledger { s with
      nextRecord := s.nextRecord + 1
      table := some (setSlot table index { table.slots index with record := some s.nextRecord })
      records := Function.update s.records s.nextRecord
        (some { references := 1, kind := kind, object := object, destroy := callback })
      tracker := some next } := by
  obtain ⟨inside, empty, -⟩ := free_slot_spec free
  obtain ⟨notOwned, notLeased⟩ := ledger.records.freed _ (ledger.records.fresh _ (Nat.le_refl _))
  obtain ⟨bound, referenced, active⟩ :=
    tracker_retain_counts (ledger.tracker.held word held).1 retained
  generalize after : ({ s with
      nextRecord := s.nextRecord + 1
      table := some (setSlot table index { table.slots index with record := some s.nextRecord })
      records := Function.update s.records s.nextRecord
        (some { references := 1, kind := kind, object := object, destroy := callback })
      tracker := some next } : System) = t
  have owned (name : Nat) :
      owners t name = owners s name + if s.nextRecord = name then 1 else 0 := by
    have written := slot_owners_set name table inside
      { table.slots index with record := some s.nextRecord }
    simp only [slotHolds, empty, reduceCtorEq, ↓reduceIte, Option.some.injEq] at written
    simp only [← after, owners, live]
    omega
  have leased (name : Nat) : liveLeases t name = liveLeases s name := by rw [← after]; rfl
  have references : trackerReferences t = trackerReferences s + 1 := by
    simp only [← after, trackerReferences, liveTable, live, tableOpen, setSlot, liveRecords,
      tally_succ, tally_update_outside (Nat.le_refl _), Function.update_self, recordLive,
      Option.isSome_some, ↓reduceIte, activities]
    omega
  exact {
    no_crash := by rw [← after]; exact ledger.no_crash
    records := ledger.records.write (by rw [← after]) (by simp [← after]) (by simp [← after])
      (fun other different => by simp [owned, Ne.symm different]) (fun other _ => leased other)
      (by simp [owned, notOwned])
      (by simp [Counted, owned, leased, notOwned, notLeased, uint32Max])
    tracker := ledger.tracker.raise 0 held (by rw [← after]) (by rw [← after]) bound referenced
      active references (by rw [← after]; rfl)
    tables := by
      rw [← after]
      exact ledger.tables.congr rfl (by simp [live, tableClosing, setSlot, open_]) ledger.tables.closes
        (emptied_of_open open_) }

theorem ledger_acquired (ledger : Ledger s) (live : s.records name = some record)
    (room : record.references ≠ uint32Max) (held : s.tracker = some word)
    (begun : trackerActivityBegin word = some next) :
    Ledger { s with
      records := Function.update s.records name
        (some { record with references := (record.references + 1) % 2 ^ 32 })
      tracker := some next
      leases := s.leases ++ [{ object := record.object, internal := name }] } := by
  obtain ⟨counted, positive, width⟩ := ledger.records.references name record live
  obtain ⟨bound, referenced, active⟩ :=
    tracker_activity_begin_counts (ledger.tracker.held word held).1 begun
  have noWrap : (record.references + 1) % 2 ^ 32 = record.references + 1 := by
    unfold uint32Max at *
    omega
  rw [noWrap]
  generalize after : ({ s with
      records := Function.update s.records name
        (some { record with references := record.references + 1 })
      tracker := some next
      leases := s.leases ++ [{ object := record.object, internal := name }] } : System) = t
  have owned (other : Nat) : owners t other = owners s other := by rw [← after]; rfl
  have leased (other : Nat) :
      liveLeases t other = liveLeases s other + if name = other then 1 else 0 := by
    simp only [← after, liveLeases, total_append, total_cons, total_nil, leaseOf]
    omega
  have acts : activities t = activities s + 1 := by
    simp only [← after, activities, List.length_append, List.length_singleton]
    omega
  have references : trackerReferences t = trackerReferences s + 1 := by
    have written := tally_update recordLive s.records
      (some { record with references := record.references + 1 }) (ledger.records.allocated live)
    have one : recordLive (s.records name) = 1 := by rw [live]; rfl
    rw [one, show recordLive (some _) = 1 from rfl] at written
    simp only [trackerReferences, acts]
    simp only [← after, liveTable, liveRecords]
    omega
  exact {
    no_crash := by rw [← after]; exact ledger.no_crash
    records := ledger.records.write (by rw [← after]) (by simp [← after])
      (by rw [← after]; exact ledger.records.allocated live) (fun other _ => owned other)
      (fun other different => by simp [leased, Ne.symm different])
      (by rw [owned]; exact ledger.records.owned_once name)
      (by
        simp only [Counted, owned, leased, ↓reduceIte]
        unfold uint32Max at *
        omega)
    tracker := ledger.tracker.raise 1 held (by rw [← after]) (by rw [← after]) bound referenced
      active references acts
    tables := by
      rw [← after]
      exact ledger.tables.congr rfl rfl ledger.tables.closes ledger.tables.emptied }

/-- A started release moves its lease into the call that gives it back. -/
theorem ledger_released (ledger : Ledger s) (held : s.leases[position]? = some lease) :
    Ledger { s with
      leases := s.leases.eraseIdx position
      calls := s.calls ++
        [{ kind := .leaseRelease, todo := [.dropRecord lease.internal, .endActivity] }] } := by
  generalize after : ({ s with
      leases := s.leases.eraseIdx position
      calls := s.calls ++
        [{ kind := .leaseRelease,
           todo := [.dropRecord lease.internal, .endActivity] }] } : System) = t
  have owned (name : Nat) : owners t name = owners s name := by
    simp [← after, owners, ownedDrop]
  have leased (name : Nat) : liveLeases t name = liveLeases s name := by
    have erased := total_eraseIdx (leaseOf name) held
    have moved : leasedDrop name .leaseRelease (.dropRecord lease.internal) = leaseOf name lease :=
      rfl
    have kept : leasedDrop name .leaseRelease .endActivity = 0 := rfl
    simp only [← after, liveLeases, pending_append, pending_single, total_cons, total_nil, moved,
      kept]
    omega
  have acts : activities t = activities s := by
    have inside : position < s.leases.length := (List.getElem?_eq_some_iff.mp held).1
    simp only [← after, activities, List.length_eraseIdx_of_lt inside, pending_append,
      pending_single, activityEnd, total_cons, total_nil]
    omega
  have references : trackerReferences t = trackerReferences s := by
    simp only [trackerReferences, acts]
    simp [← after, liveTable, tableRelease, liveRecords, recordRelease]
  exact {
    no_crash := by rw [← after]; exact ledger.no_crash
    records := ledger.records.congr (by rw [← after]) (by rw [← after]) owned leased
    tracker := ledger.tracker.congr (by rw [← after]) (by rw [← after]) references acts
    tables := by
      rw [← after]
      exact ledger.tables.congr (by simp [tableFree]) rfl (ledger.tables.closes_append trivial)
        ledger.tables.emptied }

/-- A started close takes over the reference of the slot it emptied. -/
theorem ledger_closed (ledger : Ledger s) (live : s.table = some table)
    (open_ : table.destroying = false) (inside : index < capacity)
    (occupies : (table.slots index).record = some name) (held : s.tracker = some word)
    (begun : trackerActivityBegin word = some next) :
    Ledger { s with
      table := some (setSlot table index (invalidateSlot (table.slots index)))
      tracker := some next
      calls := s.calls ++ [{ kind := .close, todo := [.dropRecord name, .endActivity] }] } := by
  obtain ⟨bound, referenced, active⟩ :=
    tracker_activity_begin_counts (ledger.tracker.held word held).1 begun
  generalize after : ({ s with
      table := some (setSlot table index (invalidateSlot (table.slots index)))
      tracker := some next
      calls := s.calls ++
        [{ kind := .close, todo := [.dropRecord name, .endActivity] }] } : System) = t
  have owned (other : Nat) : owners t other = owners s other := by
    have written := slot_owners_set other table inside (invalidateSlot (table.slots index))
    simp only [slotHolds, occupies, invalidate_slot_record, reduceCtorEq, ↓reduceIte,
      Option.some.injEq] at written
    simp only [← after, owners, live, pending_append, pending_single, ownedDrop, total_cons,
      total_nil]
    omega
  have leased (other : Nat) : liveLeases t other = liveLeases s other := by
    simp [← after, liveLeases, leasedDrop]
  have acts : activities t = activities s + 1 := by
    simp only [← after, activities, pending_append, pending_single, activityEnd, total_cons,
      total_nil]
    omega
  have references : trackerReferences t = trackerReferences s + 1 := by
    simp only [trackerReferences, acts]
    simp [← after, liveTable, tableRelease, live, tableOpen, setSlot, liveRecords, recordRelease]
    omega
  exact {
    no_crash := by rw [← after]; exact ledger.no_crash
    records := ledger.records.congr (by rw [← after]) (by rw [← after]) owned leased
    tracker := ledger.tracker.raise 1 held (by rw [← after]) (by rw [← after]) bound referenced
      active references acts
    tables := by
      rw [← after]
      exact ledger.tables.congr (by simp [tableFree])
        (by simp [live, tableClosing, setSlot, open_])
        (ledger.tables.closes_append trivial) (emptied_of_open open_) }

/-- The records a destruction collects are exactly those the slots hold. -/
theorem occupied_owners (record : Nat) (slots : Nat → Slot) (n : Nat) :
    total (ownedDrop record .destroy)
        (((List.range n).filterMap fun index => (slots index).record).map .dropRecord) =
      tally (slotHolds record) slots n := by
  induction n with
  | zero => rfl
  | succ n ih =>
    rw [List.range_succ, List.filterMap_append, List.map_append, total_append, ih, tally_succ]
    cases held : (slots n).record with
    | none => simp [held, slotHolds]
    | some name => simp [held, slotHolds, ownedDrop]

theorem drops_weigh_nothing (weight : CallKind → Action → Nat) (records : List Nat)
    (zero : ∀ name, weight .destroy (.dropRecord name) = 0) :
    total (weight .destroy) (records.map .dropRecord) = 0 := by
  apply total_eq_zero.mpr
  intro action member
  obtain ⟨name, -, rfl⟩ := List.mem_map.mp member
  exact zero name

private theorem closes_destroy (records : List Nat) :
    Closes (records.map .dropRecord ++ [.freeTable, .dropTracker none]) := by
  apply Closes.prepend
  · simp [Closes]
  · simp

/-- A destruction takes over every reference the slots held. -/
theorem ledger_destroyed (ledger : Ledger s) (live : s.table = some table)
    (open_ : table.destroying = false) : Ledger (destroy s table).1 := by
  generalize after : (destroy s table).1 = t
  unfold destroy at after
  dsimp only at after
  have emptied (name : Nat) : slotOwners name t.table = 0 := by
    rw [← after]
    apply tally_eq_zero.mpr
    intro index inside
    dsimp only
    split
    · simp [slotHolds]
    · rename_i kept
      have empty : (table.slots index).record = none := by simpa [inside] using kept
      simp [slotHolds, empty]
  have owned (name : Nat) : owners t name = owners s name := by
    have collected := occupied_owners name table.slots capacity
    simp only [owners, emptied]
    simp only [← after, live, slotOwners, pending_append, pending_single, total_append,
      ownedDrop, total_cons, total_nil, occupied]
    omega
  have leased (name : Nat) : liveLeases t name = liveLeases s name := by
    simp [← after, liveLeases, drops_weigh_nothing (leasedDrop name) _ fun _ => rfl, leasedDrop]
  have acts : activities t = activities s := by
    simp [← after, activities, drops_weigh_nothing activityEnd _ fun _ => rfl, activityEnd]
  have references : trackerReferences t = trackerReferences s := by
    simp only [trackerReferences, acts]
    simp [← after, liveTable, live, tableOpen, open_, liveRecords,
      drops_weigh_nothing tableRelease _ fun _ => rfl, tableRelease,
      drops_weigh_nothing recordRelease _ fun _ => rfl, recordRelease]
    omega
  exact {
    no_crash := by rw [← after]; exact ledger.no_crash
    records := ledger.records.congr (by rw [← after]) (by rw [← after]) owned leased
    tracker := ledger.tracker.congr (by rw [← after]) (by rw [← after]) references acts
    tables := {
      closing := by
        have closing := ledger.tables.closing
        simp only [live, tableClosing, open_, Bool.false_eq_true, ↓reduceIte] at closing
        simp [← after, tableFree, tableClosing, drops_weigh_nothing tableFree _ fun _ => rfl]
        omega
      closes := by
        rw [← after]
        exact ledger.tables.closes_append (closes_destroy _)
      emptied := fun _ _ _ => emptied } }

theorem ledger_relocked (ledger : Ledger s) (live : s.table = some table) (locked : Bool) :
    Ledger { s with table := some { table with locked := locked } } where
  no_crash := ledger.no_crash
  records := ledger.records.congr rfl (Nat.le_refl _) (fun _ => by simp [owners, live, slotOwners])
    (fun _ => rfl)
  tracker := ledger.tracker.congr rfl rfl
    (by simp [trackerReferences, liveTable, live, tableOpen, liveRecords, activities]) rfl
  tables := ledger.tables.congr rfl (by simp [live, tableClosing]) ledger.tables.closes (by
    intro changed found ending name
    cases found
    have emptied := ledger.tables.emptied table live ending name
    rwa [live] at emptied)

/-! ### The actions of started calls -/

theorem owned_or_leased (record : Nat) (kind : CallKind) (name : Nat) :
    ownedDrop record kind (.dropRecord name) + leasedDrop record kind (.dropRecord name) =
      if name = record then 1 else 0 := by
  cases kind <;> simp [ownedDrop, leasedDrop]

/-- A pending drop still has its reference, so the record is live and counted. -/
theorem drop_record_live {position : Nat} (ledger : RecordLedger s)
    (started : s.calls[position]? = some call) (next : call.todo = .dropRecord name :: rest) :
    ∃ record, s.records name = some record ∧
      record.references = owners s name + liveLeases s name ∧
      0 < record.references ∧ record.references ≤ uint32Max := by
  have owned := pending_next_le (ownedDrop name) started next
  have leased := pending_next_le (leasedDrop name) started next
  have once := owned_or_leased name call.kind name
  simp only [↓reduceIte] at once
  cases live : s.records name with
  | none =>
    obtain ⟨notOwned, notLeased⟩ := ledger.freed name live
    simp only [owners, liveLeases] at notOwned notLeased
    omega
  | some record => exact ⟨record, rfl, ledger.references name record live⟩

/-- A drop takes one reference from its record. The last one frees the record, and leaves its
destructor and its tracker reference to the call that dropped it. -/
theorem ledger_drop_record {position : Nat} (ledger : Ledger s)
    (started : s.calls[position]? = some call) (next : call.todo = .dropRecord name :: rest)
    (live : s.records name = some record) (value : Option Record) (added : List Action)
    (written : value = some { record with references := record.references - 1 } ∧
        record.references ≠ 1 ∧ added = [] ∨
      value = none ∧ record.references = 1 ∧
        added = [.runDestroy name record.destroy record.object, .dropTracker (some name)]) :
    Ledger { s with
      records := Function.update s.records name value
      calls := s.calls.set position { call with todo := added ++ rest } } := by
  obtain ⟨counted, positive, width⟩ := ledger.records.references name record live
  have inside := ledger.records.allocated live
  have advanced (weight : CallKind → Action → Nat) := pending_advance weight started next added
  generalize after : ({ s with
      records := Function.update s.records name value
      calls := s.calls.set position { call with todo := added ++ rest } } : System) = t
  -- what does not weigh the actions that are left to the call only loses the drop
  have kept (weight : CallKind → Action → Nat)
      (destroyed : weight call.kind (.runDestroy name record.destroy record.object) = 0)
      (released : weight call.kind (.dropTracker (some name)) = 0) :
      pending weight t.calls + weight call.kind (.dropRecord name) = pending weight s.calls := by
    have traded := advanced weight
    have unweighed : total (weight call.kind) added = 0 := by
      obtain ⟨-, -, rfl⟩ | ⟨-, -, rfl⟩ := written
      · rfl
      · simp [destroyed, released]
    rw [unweighed] at traded
    rw [← after]
    dsimp only
    omega
  have owned (other : Nat) :
      owners t other + ownedDrop other call.kind (.dropRecord name) = owners s other := by
    have traded := kept (ownedDrop other) (by cases call.kind <;> rfl) (by cases call.kind <;> rfl)
    simp only [← after, owners] at traded ⊢
    omega
  have leased (other : Nat) :
      liveLeases t other + leasedDrop other call.kind (.dropRecord name) = liveLeases s other := by
    have traded := kept (leasedDrop other) (by cases call.kind <;> rfl) (by cases call.kind <;> rfl)
    simp only [← after, liveLeases] at traded ⊢
    omega
  have acts : activities t = activities s := by
    have traded := kept activityEnd rfl rfl
    simp only [← after, activities, activityEnd] at traded ⊢
    omega
  have tables : liveTable t = liveTable s := by
    have traded := kept tableRelease rfl rfl
    simp only [← after, liveTable, tableRelease] at traded ⊢
    omega
  have records : liveRecords t = liveRecords s := by
    have tallied := tally_update recordLive s.records value inside
    have one : recordLive (s.records name) = 1 := by rw [live]; rfl
    have traded := advanced recordRelease
    have moved : recordLive value + total (recordRelease call.kind) added = 1 := by
      obtain ⟨rfl, -, rfl⟩ | ⟨rfl, -, rfl⟩ := written <;> rfl
    simp only [recordRelease] at traded
    simp only [← after, liveRecords]
    omega
  have frees : pending tableFree t.calls = pending tableFree s.calls := kept tableFree rfl rfl
  have once := owned_or_leased name call.kind name
  simp only [↓reduceIte] at once
  have ownedHere := owned name
  have leasedHere := leased name
  have different (other : Nat) (ne : other ≠ name) := owned_or_leased other call.kind name
  exact {
    no_crash := by rw [← after]; exact ledger.no_crash
    records := ledger.records.write (by rw [← after]) (by rw [← after])
      (by rw [← after]; exact inside)
      (fun other ne => by
        have kept := different other ne
        have traded := owned other
        simp only [Ne.symm ne, ↓reduceIte, Nat.add_eq_zero_iff] at kept
        omega)
      (fun other ne => by
        have kept := different other ne
        have traded := leased other
        simp only [Ne.symm ne, ↓reduceIte, Nat.add_eq_zero_iff] at kept
        omega)
      (by have once := ledger.records.owned_once name; omega)
      (by
        obtain ⟨rfl, more, -⟩ | ⟨rfl, last, -⟩ := written <;> simp only [Counted]
        · exact ⟨by omega, by omega, by omega⟩
        · exact ⟨by omega, by omega⟩)
    tracker := ledger.tracker.congr (by rw [← after]) (by rw [← after])
      (by simp only [trackerReferences, acts, tables, records]) acts
    tables := ledger.tables.congr frees (by rw [← after])
      (by
        rw [← after]
        exact ledger.tables.closes_set added started next (by
          obtain ⟨-, -, rfl⟩ | ⟨-, -, rfl⟩ := written <;> simp))
      (by rw [← after]; exact ledger.tables.emptied) }

/-- A destructor changes none of the counters. -/
theorem ledger_run_destroy {position : Nat} (ledger : Ledger s)
    (started : s.calls[position]? = some call)
    (next : call.todo = .runDestroy name callback object :: rest)
    (destructions : List Destruction) :
    Ledger { s with
      destructions := destructions
      calls := s.calls.set position { call with todo := rest } } := by
  have advanced (weight : CallKind → Action → Nat)
      (free : weight call.kind (.runDestroy name callback object) = 0) :
      pending weight (s.calls.set position { call with todo := rest }) =
        pending weight s.calls := by
    have traded := pending_advance weight started next []
    simpa [free] using traded
  exact {
    no_crash := ledger.no_crash
    records := ledger.records.congr rfl (Nat.le_refl _)
      (fun other => by
        simp only [owners]
        rw [advanced _ (by cases call.kind <;> rfl)])
      (fun other => by
        simp only [liveLeases]
        rw [advanced _ (by cases call.kind <;> rfl)])
    tracker := ledger.tracker.congr rfl rfl
      (by
        simp only [trackerReferences, liveTable, liveRecords, activities]
        rw [advanced _ rfl, advanced _ rfl, advanced _ rfl])
      (by
        simp only [activities]
        rw [advanced _ rfl])
    tables := ledger.tables.congr (advanced _ rfl) rfl
      (ledger.tables.closes_set [] started next (by simp)) ledger.tables.emptied }

/-- Giving back a counted tracker reference, with the activity it may carry, frees the tracker
exactly when nothing else is counted. -/
theorem ledger_drop_tracker {position : Nat} (ledger : Ledger s) (ended : Nat)
    (started : s.calls[position]? = some call) (next : call.todo = action :: rest)
    (flag : ended ≤ 1) (ends : activityEnd call.kind action = ended)
    (counted : tableRelease call.kind action + recordRelease call.kind action +
      activityEnd call.kind action = 1)
    (unowned : ∀ name, ownedDrop name call.kind action = 0)
    (unleased : ∀ name, leasedDrop name call.kind action = 0)
    (keeps : tableFree call.kind action = 0) :
    Ledger { dropTracker s (1 + ended * trackerActivityOne) ended with
      calls := (dropTracker s (1 + ended * trackerActivityOne) ended).calls.set position
        { call with todo := rest } } := by
  have advanced (weight : CallKind → Action → Nat) := pending_advance weight started next []
  simp only [List.nil_append, total_nil] at advanced
  have tables := advanced tableRelease
  have records := advanced recordRelease
  have active := advanced activityEnd
  have frees := advanced tableFree
  -- whatever becomes of the word, one holder less is counted
  have rebuild (tracker : Option Nat) (trackerFrees : Nat)
      (balance : ∀ t : System, t.tracker = tracker → t.trackerFrees = trackerFrees →
        trackerReferences t + 1 = trackerReferences s → activities t + ended = activities s →
        TrackerLedger t) :
      Ledger { s with
        tracker := tracker
        trackerFrees := trackerFrees
        calls := s.calls.set position { call with todo := rest } } := {
    no_crash := ledger.no_crash
    records := ledger.records.congr rfl (Nat.le_refl _)
      (fun name => by
        have traded := advanced (ownedDrop name)
        rw [unowned] at traded
        simp only [owners]
        omega)
      (fun name => by
        have traded := advanced (leasedDrop name)
        rw [unleased] at traded
        simp only [liveLeases]
        omega)
    tracker := balance _ rfl rfl
      (by
        simp only [trackerReferences, liveTable, liveRecords, activities]
        omega)
      (by
        simp only [activities]
        omega)
    tables := ledger.tables.congr (by dsimp only; omega) rfl
      (ledger.tables.closes_set [] started next (by simp)) ledger.tables.emptied }
  have positive : 0 < trackerReferences s := by
    simp only [trackerReferences, liveTable, liveRecords, activities]
    omega
  have begun : ended ≤ activities s := by
    simp only [activities]
    omega
  have covered : activities s - ended < trackerReferences s := by
    simp only [trackerReferences, liveTable, liveRecords, activities]
    omega
  cases held : s.tracker with
  | none =>
    have gone := ledger.tracker.freed held
    omega
  | some word =>
    obtain ⟨bound, -, references, acts⟩ := ledger.tracker.held word held
    have once := ledger.tracker.frees
    simp only [held, Option.isNone_some, Bool.false_eq_true, ↓reduceIte] at once
    obtain ⟨freed, last, -⟩ | ⟨less, kept, bound', lower, positive', lowerActs⟩ :=
      tracker_drop_counts bound flag (references ▸ positive) (acts ▸ begun)
        (by rw [references, acts]; exact covered)
    · simp only [dropTracker, held, freed]
      apply rebuild
      intro t trackerEq freesEq referencesEq actsEq
      exact {
        held := fun other found => by simp [trackerEq] at found
        freed := fun _ => by omega
        frees := by simp [trackerEq, freesEq, once] }
    · simp only [dropTracker, held, kept]
      apply rebuild
      intro t trackerEq freesEq referencesEq actsEq
      exact {
        held := fun other found => by
          rw [trackerEq, Option.some.injEq] at found
          subst found
          exact ⟨bound', by omega, by omega, by omega⟩
        freed := fun gone => by simp [trackerEq] at gone
        frees := by simp [trackerEq, freesEq, once] }

/-- A destruction frees a table whose slots it has emptied. -/
theorem ledger_free_table {position : Nat} (ledger : Ledger s)
    (started : s.calls[position]? = some call) (next : call.todo = .freeTable :: rest) :
    ∃ table, s.table = some table ∧
      Ledger { s with
        table := none
        calls := s.calls.set position { call with todo := rest } } := by
  have advanced (weight : CallKind → Action → Nat) := pending_advance weight started next []
  simp only [List.nil_append, total_nil] at advanced
  have frees := advanced tableFree
  have closing := ledger.tables.closing
  simp only [tableFree] at frees
  cases live : s.table with
  | none =>
    simp only [live, tableClosing] at closing
    omega
  | some table =>
    have ending : table.destroying = true := by
      by_contra open_
      simp only [live, tableClosing, open_, ↓reduceIte] at closing
      omega
    simp only [live, tableClosing, ending, ↓reduceIte] at closing
    refine ⟨table, rfl, ?_⟩
    have unweighed (weight : CallKind → Action → Nat)
        (free : weight call.kind .freeTable = 0) :
        pending weight (s.calls.set position { call with todo := rest }) =
          pending weight s.calls := by
      have traded := advanced weight
      omega
    exact {
      no_crash := ledger.no_crash
      records := ledger.records.congr rfl (Nat.le_refl _)
        (fun name => by
          have emptied := ledger.tables.emptied table live ending name
          simp only [owners, emptied]
          rw [unweighed _ (by cases call.kind <;> rfl)]
          rfl)
        (fun name => by
          simp only [liveLeases]
          rw [unweighed _ (by cases call.kind <;> rfl)])
      tracker := ledger.tracker.congr rfl rfl
        (by
          simp only [trackerReferences, liveTable, liveRecords, activities, live, tableOpen, ending,
            ↓reduceIte]
          rw [unweighed _ rfl, unweighed _ rfl, unweighed _ rfl])
        (by
          simp only [activities]
          rw [unweighed _ rfl])
      tables := {
        closing := by
          simp only [tableClosing]
          omega
        closes := ledger.tables.closes_set [] started next (by simp)
        emptied := fun _ found => by contradiction } }

/-- Performing the next action of a started call keeps the ledger. -/
theorem ledger_advanced {position : Nat} (ledger : Ledger s)
    (started : s.calls[position]? = some call) (next : call.todo = action :: rest) :
    Ledger { (perform s action).1 with
      calls := (perform s action).1.calls.set position
        { call with todo := (perform s action).2 ++ rest } } := by
  cases action with
  | dropRecord name =>
    obtain ⟨record, live, -, positive, -⟩ := drop_record_live ledger.records started next
    by_cases last : record.references = 1
    · have dropped := ledger_drop_record ledger started next live none _ (.inr ⟨rfl, last, rfl⟩)
      simpa [perform, live, last] using dropped
    · have dropped := ledger_drop_record ledger started next live _ [] (.inl ⟨rfl, last, rfl⟩)
      simpa [perform, live, last, Nat.ne_of_gt positive] using dropped
  | runDestroy name callback object => exact ledger_run_destroy ledger started next _
  | dropTracker record =>
    have dropped := ledger_drop_tracker ledger 0 started next (by omega) rfl
      (by cases record <;> rfl) (fun _ => by cases call.kind <;> rfl)
      (fun _ => by cases call.kind <;> rfl) rfl
    simpa [perform] using dropped
  | endActivity =>
    have dropped := ledger_drop_tracker ledger 1 started next (by omega) rfl rfl
      (fun _ => by cases call.kind <;> rfl) (fun _ => by cases call.kind <;> rfl) rfl
    simpa [perform] using dropped
  | freeTable =>
    obtain ⟨table, live, freed⟩ := ledger_free_table ledger started next
    simpa [perform, live] using freed

/-- Every atomic step keeps the ledger. -/
theorem ledger_step (ledger : Ledger s) (label : Step) : Ledger (step s label).1 := by
  have effect := step_effect s label
  generalize (step s label).1 = after at effect ⊢
  generalize (step s label).2 = outcome at effect
  cases effect with
  | unchanged refused => exact ledger
  | refusedInsert failed => exact ledger_refused_insert ledger
  | inserted live open_ free held retained =>
    exact ledger_inserted ledger live open_ free held retained
  | acquired live resolved room held begun =>
    exact ledger_acquired ledger resolved.live room held begun
  | released held live => exact ledger_released ledger held
  | closed live resolved held begun =>
    exact ledger_closed ledger live resolved.open_ (decode_index_lt resolved.decoded) resolved.held
      held begun
  | destroyed live open_ => exact ledger_destroyed ledger live open_
  | cloning live => exact ledger_relocked ledger live true
  | cloned live => exact ledger_relocked ledger live false
  | advanced started next => exact ledger_advanced ledger started next
  | dangling freed => exact absurd freed ledger.not_dangling

end SadLayer.HandleTable
