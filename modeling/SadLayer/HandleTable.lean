import Mathlib.Algebra.Order.Ring.Nat
import SadLayer.Library.FirstIndex
import SadLayer.Status

/-! The per-process handle table. Every lock-protected section and every atomic
update is one step of a shared system, so that host threads interleave between
them: a started close, lease release or table destruction is a call with the
actions it still has to perform. -/
namespace SadLayer.HandleTable

/-- `SL_HANDLE_TABLE_CAPACITY`. -/
def capacity : Nat := 256

/-- `sl_handle_kind`; a caller can pass a value that is none of the enumeration's. -/
inductive HandleKind where
  | file
  | search
  | other (value : Nat)
  deriving DecidableEq, Repr

def handleKindIsValid : HandleKind → Bool
  | .file => true
  | .search => true
  | .other _ => false

def handleTag : UInt64 := 0x534c000000000000
def handleTagMask : UInt64 := 0xffff000000000000
def handleGenerationMask : UInt64 := 0x0000ffffffff0000
def handleSlotMask : UInt64 := 0x000000000000ffff

def encodeHandle (slotIndex generation : Nat) : UInt64 :=
  handleTag ||| (UInt64.ofNat generation <<< 16) ||| UInt64.ofNat (slotIndex + 1)

/-- The slot index and the generation of a token, when it has the right shape. -/
def decodeHandle (handle : UInt64) : Option (Nat × Nat) :=
  if handle &&& handleTagMask ≠ handleTag ∨ handle &&& handleSlotMask = 0 then none
  else
    let ordinal := (handle &&& handleSlotMask).toNat
    let encodedGeneration := ((handle &&& handleGenerationMask) >>> 16).toNat
    if ordinal > capacity ∨ encodedGeneration = 0 then none
    else some (ordinal - 1, encodedGeneration)

/-! ### The tracker word -/

/-- `SL_TRACKER_ACTIVITY_ONE`; a reference counts 1. -/
def trackerActivityOne : Nat := 4294967296

/-- Low 32 bits of the state word. -/
def trackerReferenceCount (state : Nat) : Nat := state % 4294967296

/-- High 32 bits of the state word. -/
def trackerActivityCount (state : Nat) : Nat := state / 4294967296

/-- What `tracker_drop` does with the state word it found. -/
inductive Dropped where
  | aborted
  | freed
  | kept (state : Nat)
  deriving DecidableEq, Repr

def trackerDrop (state decrement activityDecrement : Nat) : Dropped :=
  let references := trackerReferenceCount state
  let activities := trackerActivityCount state
  if references = 0 ∨ activities < activityDecrement then .aborted
  else if references - 1 = 0 then
    if activities - activityDecrement ≠ 0 then .aborted else .freed
  else .kept ((state + 2 ^ 64 - decrement) % 2 ^ 64)

/-- `tracker_retain`: the new state word, or `none` when the count is saturated. -/
def trackerRetain (state : Nat) : Option Nat :=
  if trackerReferenceCount state = uint32Max then none
  else some ((state + 1) % 2 ^ 64)

def trackerActivityBegin (state : Nat) : Option Nat :=
  if trackerReferenceCount state = uint32Max ∨ trackerActivityCount state = uint32Max then none
  else some ((state + (1 + trackerActivityOne)) % 2 ^ 64)

/-! ### The shared system -/

/-- `sl_handle_record`; all records share the table's tracker. -/
structure Record where
  references : Nat
  kind : HandleKind
  object : Nat
  destroy : Nat
  deriving DecidableEq, Repr

/-- `sl_handle_slot`; the record is named by its allocation. -/
structure Slot where
  record : Option Nat := none
  generation : Nat := 1
  retired : Bool := false
  deriving DecidableEq, Repr

/-- `sl_handle_table`. -/
structure Table where
  locked : Bool := false
  destroying : Bool := false
  slots : Nat → Slot := fun _ => {}

/-- What a started call still has to do, in the order of its statements. -/
inductive Action where
  /-- The decrement in `record_release`, and freeing the record when it was the last. -/
  | dropRecord (record : Nat)
  /-- `destroy(object)`. -/
  | runDestroy (record destroy object : Nat)
  /-- `tracker_release` of a record's reference, or of the table's own. -/
  | dropTracker (record : Option Nat)
  /-- `tracker_activity_end`. -/
  | endActivity
  /-- `free(table)`. -/
  | freeTable
  deriving DecidableEq, Repr

inductive CallKind where
  | leaseRelease
  | close
  | destroy
  deriving DecidableEq, Repr

/-- A call that has left its lock-protected section. -/
structure Call where
  kind : CallKind
  todo : List Action
  deriving DecidableEq, Repr

/-- `sl_handle_lease`. -/
structure Lease where
  object : Nat
  internal : Nat
  deriving DecidableEq, Repr

/-- One run of a destroy callback. -/
structure Destruction where
  record : Nat
  destroy : Nat
  object : Nat
  deriving DecidableEq, Repr

inductive Crash where
  | abort
  | useAfterFree
  deriving DecidableEq, Repr

/-- The table, the heap it owns and the calls in progress. -/
structure System where
  /-- `none` once freed. -/
  table : Option Table := some {}
  /-- Live records by allocation. -/
  records : Nat → Option Record := fun _ => none
  /-- The tracker's state word, `none` once freed. -/
  tracker : Option Nat := some 1
  trackerFrees : Nat := 0
  /-- Leases that have not been passed to `sl_handle_lease_release`. -/
  leases : List Lease := []
  calls : List Call := []
  /-- The allocation the next insert will make. -/
  nextRecord : Nat := 0
  /-- Destroy callbacks run so far, in order. -/
  destructions : List Destruction := []
  crash : Option Crash := none

/-- `sl_handle_table_create`, its allocations succeeding. -/
def create : System := {}

def invalidateSlot (slot : Slot) : Slot :=
  if slot.generation = uint32Max then { record := none, generation := 0, retired := true }
  else { slot with record := none, generation := slot.generation + 1 }

/-- The first slot the insertion loop can use. -/
def freeSlot (table : Table) : Option Nat :=
  Library.firstIndex (fun index => (table.slots index).record.isNone && !(table.slots index).retired)
    capacity

def setSlot (table : Table) (index : Nat) (slot : Slot) : Table :=
  { table with slots := Function.update table.slots index slot }

/-- The atomic steps host threads take. An insert says whether its allocation succeeds. -/
inductive Step where
  | insert (kind : HandleKind) (object destroy : Nat) (allocated : Bool)
  | acquire (handle : UInt64) (expectedKind : HandleKind)
  /-- Passes the lease at this position to `sl_handle_lease_release`. -/
  | release (lease : Nat)
  | close (handle : UInt64) (expectedKind : HandleKind)
  | destroy
  | prepareClone
  | completeClone
  /-- The next action of a started call. -/
  | advance (call : Nat)
  deriving DecidableEq, Repr

/-- What a step reports to its caller. `blocked` steps have no effect: the lock is held, or
the object they need is gone. -/
inductive Outcome where
  /-- `record` is the allocation this insert made, published only by a success. -/
  | insert (status : Status) (record : Nat) (handle : UInt64)
  | acquire (status : Status) (lease : Lease)
  | close (status : Status)
  | prepareClone (status : Status)
  | done
  | blocked
  deriving DecidableEq, Repr

def System.crashed (s : System) (crash : Crash) : System :=
  { s with crash := some crash }

/-- `sl_handle_table_insert`. -/
def insert (s : System) (table : Table) (kind : HandleKind) (object destroy : Nat)
    (allocated : Bool) : System × Outcome :=
  let attempted := { s with nextRecord := s.nextRecord + 1 }
  let failed (status : Status) := (attempted, Outcome.insert status s.nextRecord 0)
  if !handleKindIsValid kind || object == 0 || destroy == 0 then failed .invalidArgument
  else if !allocated then failed .outOfMemory
  else if table.destroying then failed .invalidState
  else match freeSlot table with
    | none => failed .handleTableFull
    | some index =>
      match s.tracker with
      | none => (attempted.crashed .useAfterFree, .insert .invalidState s.nextRecord 0)
      | some word =>
        match trackerRetain word with
        | none => failed .invalidState
        | some word =>
          let slot := table.slots index
          ({ attempted with
              table := some (setSlot table index { slot with record := some s.nextRecord })
              records := Function.update s.records s.nextRecord
                (some { references := 1, kind := kind, object := object, destroy := destroy })
              tracker := some word },
            .insert .ok s.nextRecord (encodeHandle index slot.generation))

/-- The record a token resolves to, or the status that rejects it. -/
def resolve (s : System) (table : Table) (handle : UInt64) (expectedKind : HandleKind) :
    Except (System × Status) (Nat × Nat × Record) :=
  match decodeHandle handle with
  | none => .error (s, .handleNotFound)
  | some (index, generation) =>
    let slot := table.slots index
    match slot.record with
    | none => .error (s, .handleNotFound)
    | some name =>
      if table.destroying || slot.retired || slot.generation != generation then
        .error (s, .handleNotFound)
      else match s.records name with
        | none => .error (s.crashed .useAfterFree, .handleNotFound)
        | some record =>
          if record.kind ≠ expectedKind then .error (s, .handleTypeMismatch)
          else .ok (index, name, record)

/-- `sl_handle_table_acquire`. -/
def acquire (s : System) (table : Table) (handle : UInt64) (expectedKind : HandleKind) :
    System × Outcome :=
  let none' : Lease := { object := 0, internal := 0 }
  if !handleKindIsValid expectedKind then (s, .acquire .invalidArgument none')
  else match resolve s table handle expectedKind with
    | .error (s, status) => (s, .acquire status none')
    | .ok (_, name, record) =>
      if record.references = uint32Max then (s, .acquire .invalidState none')
      else match s.tracker with
        | none => (s.crashed .useAfterFree, .acquire .invalidState none')
        | some word =>
          match trackerActivityBegin word with
          | none => (s, .acquire .invalidState none')
          | some word =>
            let lease : Lease := { object := record.object, internal := name }
            ({ s with
                records := Function.update s.records name
                  (some { record with references := (record.references + 1) % 2 ^ 32 })
                tracker := some word
                leases := s.leases ++ [lease] },
              .acquire .ok lease)

/-- `sl_handle_lease_release`, up to the first atomic update. -/
def leaseRelease (s : System) (position : Nat) : System × Outcome :=
  match s.leases[position]? with
  | none => (s, .blocked)
  | some lease =>
    match s.records lease.internal with
    | none => (s.crashed .useAfterFree, .done)
    | some _ =>
      ({ s with
          leases := s.leases.eraseIdx position
          calls := s.calls ++
            [{ kind := .leaseRelease, todo := [.dropRecord lease.internal, .endActivity] }] },
        .done)

/-- The lock-protected section of `sl_handle_table_close`. -/
def close (s : System) (table : Table) (handle : UInt64) (expectedKind : HandleKind) :
    System × Outcome :=
  if !handleKindIsValid expectedKind then (s, .close .invalidArgument)
  else match resolve s table handle expectedKind with
    | .error (s, status) => (s, .close status)
    | .ok (index, name, _) =>
      match s.tracker with
      | none => (s.crashed .useAfterFree, .close .invalidState)
      | some word =>
        match trackerActivityBegin word with
        | none => (s, .close .invalidState)
        | some word =>
          ({ s with
              table := some (setSlot table index (invalidateSlot (table.slots index)))
              tracker := some word
              calls := s.calls ++ [{ kind := .close, todo := [.dropRecord name, .endActivity] }] },
            .close .ok)

/-- The records `sl_handle_table_destroy` collects, in slot order. -/
def occupied (table : Table) : List Nat :=
  (List.range capacity).filterMap fun index => (table.slots index).record

/-- The lock-protected section of `sl_handle_table_destroy`. -/
def destroy (s : System) (table : Table) : System × Outcome :=
  let slots := fun index =>
    if (table.slots index).record.isSome && index < capacity then invalidateSlot (table.slots index)
    else table.slots index
  ({ s with
      table := some { table with destroying := true, slots := slots }
      calls := s.calls ++
        [{ kind := .destroy
           todo := (occupied table).map .dropRecord ++ [.freeTable, .dropTracker none] }] },
    .done)

/-- `sl_handle_table_prepare_clone`; a success leaves the table locked. -/
def prepareClone (s : System) (table : Table) : System × Outcome :=
  if table.destroying then (s, .prepareClone .invalidState)
  else match s.tracker with
    | none => (s.crashed .useAfterFree, .prepareClone .invalidState)
    | some word =>
      if trackerActivityCount word ≠ 0 then (s, .prepareClone .invalidState)
      else ({ s with table := some { table with locked := true } }, .prepareClone .ok)

/-- `tracker_drop` on the shared tracker. -/
def dropTracker (s : System) (decrement activityDecrement : Nat) : System :=
  match s.tracker with
  | none => s.crashed .useAfterFree
  | some word =>
    match trackerDrop word decrement activityDecrement with
    | .aborted => s.crashed .abort
    | .freed => { s with tracker := none, trackerFrees := s.trackerFrees + 1 }
    | .kept word => { s with tracker := some word }

/-- Performs one action and returns the actions `record_release` adds when it dropped the
last reference. -/
def perform (s : System) : Action → System × List Action
  | .dropRecord name =>
    match s.records name with
    | none => (s.crashed .useAfterFree, [])
    | some record =>
      if record.references = 0 then (s.crashed .abort, [])
      else if record.references = 1 then
        ({ s with records := Function.update s.records name none },
          [.runDestroy name record.destroy record.object, .dropTracker (some name)])
      else
        ({ s with
            records := Function.update s.records name
              (some { record with references := record.references - 1 }) }, [])
  | .runDestroy name destroy object =>
    ({ s with destructions := s.destructions ++
        [{ record := name, destroy := destroy, object := object }] }, [])
  | .dropTracker _ => (dropTracker s 1 0, [])
  | .endActivity => (dropTracker s (1 + trackerActivityOne) 1, [])
  | .freeTable =>
    match s.table with
    | none => (s.crashed .useAfterFree, [])
    | some _ => ({ s with table := none }, [])

def advance (s : System) (index : Nat) : System × Outcome :=
  match s.calls[index]? with
  | none => (s, .blocked)
  | some call =>
    match call.todo with
    | [] => (s, .blocked)
    | action :: rest =>
      let (s, added) := perform s action
      ({ s with calls := s.calls.set index { call with todo := added ++ rest } }, .done)

/-- One atomic step. The table's operations need its lock; the table must not have been
freed, and destruction begins once, as `handle_table.h` asks of its callers. -/
def step (s : System) : Step → System × Outcome
  | .release position => leaseRelease s position
  | .advance index => advance s index
  | .completeClone =>
    match s.table with
    | none => (s, .blocked)
    | some table =>
      if table.locked then ({ s with table := some { table with locked := false } }, .done)
      else (s, .blocked)
  | .insert kind object destroy allocated =>
    match s.table with
    | none => (s, .blocked)
    | some table =>
      if table.locked then (s, .blocked) else insert s table kind object destroy allocated
  | .acquire handle kind =>
    match s.table with
    | none => (s, .blocked)
    | some table => if table.locked then (s, .blocked) else acquire s table handle kind
  | .close handle kind =>
    match s.table with
    | none => (s, .blocked)
    | some table => if table.locked then (s, .blocked) else close s table handle kind
  | .destroy =>
    match s.table with
    | none => (s, .blocked)
    | some table => if table.locked || table.destroying then (s, .blocked) else destroy s table
  | .prepareClone =>
    match s.table with
    | none => (s, .blocked)
    | some table => if table.locked then (s, .blocked) else prepareClone s table

end SadLayer.HandleTable
