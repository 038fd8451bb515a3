import SadLayer.FindFile
import SadLayer.Files
import SadLayer.ObjectHolders

/-! Files and searches behind the handles of a process. An object is memory of its own with
one descriptor of the host; threads create objects, use them under leases, and close their
handles, and the last holder of an object closes its descriptor. -/
namespace SadLayer.KernelObjects
open HandleTable (HandleKind Lease)
open Search (Allocations Directory FileSearch FindData SearchOptions SearchResult)
open Files (Win32File)

/-- What lies at an address that an object was created at. -/
inductive KernelObject where
  | file (file : Win32File)
  /-- A search, and the descriptor of the directory it reads. -/
  | search (directoryFd : Nat) (search : FileSearch)

def KernelObject.fd : KernelObject → Nat
  | .file opened => opened.fd
  | .search directoryFd _ => directoryFd

def KernelObject.kind : KernelObject → HandleKind
  | .file _ => .file
  | .search _ _ => .search

/-- The callbacks that are passed to `sl_handle_table_insert`: `sl_win32_file_destroy` and
`sl_win32_search_destroy`. -/
def fileDestroy : Nat := 1
def searchDestroy : Nat := 2

def KernelObject.destroyer : KernelObject → Nat
  | .file _ => fileDestroy
  | .search _ _ => searchDestroy

inductive Fault where
  /-- The object is gone. -/
  | useAfterFree
  /-- The object is not what its user takes it for. -/
  | wrongKind
  /-- The descriptor is not open. -/
  | badDescriptor
  deriving DecidableEq, Repr

/-- The objects of a process and what refers to them. -/
structure Machine where
  handles : HandleTable.System := HandleTable.create
  /-- What the holder of each lease took its object for. -/
  held : List HandleKind := []
  objects : Nat → Option KernelObject := fun _ => none
  /-- The descriptors of objects that are open. -/
  descriptors : List Nat := []
  /-- All descriptors that were ever opened for an object, and that were closed. -/
  opened : List Nat := []
  closed : List Nat := []
  /-- The descriptor each record was inserted with. -/
  origin : Nat → Option Nat := fun _ => none
  fault : Option Fault := none

/-- What the host answers while an object is created: its descriptor or an error, the memory for
it, and whether there is memory for its record. -/
structure CreateHost where
  descriptor : Except Nat Nat
  address : Option Nat
  record : Bool

/-- The host gives no descriptor twice and no memory in use. -/
def Machine.Fresh (m : Machine) (host : CreateHost) : Prop :=
  (∀ fd, host.descriptor = .ok fd → fd ∉ m.descriptors) ∧
    ∀ address, host.address = some address → address ≠ 0 ∧ (m.objects address).isNone

inductive Label where
  /-- `CreateFileW` of the console, from the duplication of the descriptor on. -/
  | createFile (host : CreateHost)
  /-- `FindFirstFileExW`, from `sl_win32_search_open` on. -/
  | findFirst (host : CreateHost) (allocations : Allocations)
      (directory : List UInt8 → Directory) (rootFd : Int) (filename : List UInt16)
      (options : SearchOptions) (output : FindData)
  /-- A step on the handle table other than an insert. -/
  | handles (step : HandleTable.Step)
  /-- A call of the host on the descriptor of the leased file: `write`, `lseek` or `fsync`. -/
  | useFile (position : Nat)
  /-- `sl_win32_search_next` on the leased search. -/
  | findNext (position : Nat) (output : FindData)

inductive Answer where
  | blocked
  | refused
  | created (handle : UInt64) (record fd : Nat)
  | handles (outcome : HandleTable.Outcome)
  | used (fd : Nat)
  | found (result : SearchResult) (hostError : Nat) (output : FindData)

def Machine.faulted (m : Machine) (fault : Fault) : Machine := { m with fault := some fault }

/-- A destroy callback: it closes the descriptor and frees the object. -/
def destroyObject (m : Machine) (callback address : Nat) : Machine :=
  match m.objects address with
  | none => m.faulted .useAfterFree
  | some object =>
    if callback ≠ object.destroyer then m.faulted .wrongKind
    else if object.fd ∉ m.descriptors then m.faulted .badDescriptor
    else { m with
      objects := Function.update m.objects address none
      descriptors := m.descriptors.erase object.fd
      closed := m.closed ++ [object.fd] }

/-- The object is in memory, its descriptor open. -/
def allocateObject (m : Machine) (address : Nat) (object : KernelObject) : Machine := { m with
  objects := Function.update m.objects address (some object)
  descriptors := m.descriptors ++ [object.fd]
  opened := m.opened ++ [object.fd] }

/-- Publishes an object under a handle, or destroys it again. The table's lock is free. -/
def publish (m : Machine) (address : Nat) (object : KernelObject) (record : Bool) :
    Machine × Answer :=
  let m := allocateObject m address object
  let inserted := HandleTable.step m.handles
    (.insert object.kind address object.destroyer record)
  let m := { m with handles := inserted.1 }
  match inserted.2 with
  | .insert .ok name handle =>
    ({ m with origin := Function.update m.origin name (some object.fd) },
      .created handle name object.fd)
  | _ => (destroyObject m object.destroyer address, .refused)

/-- An insert would wait for the lock, or has no table. -/
def insertBlocked (s : HandleTable.System) : Prop :=
  ∀ table, s.table = some table → table.locked = true

instance (s : HandleTable.System) : Decidable (insertBlocked s) :=
  match live : s.table with
  | none => isTrue fun table there => by rw [live] at there; contradiction
  | some table => decidable_of_iff (table.locked = true)
      ⟨fun locked other there => by rw [live] at there; rwa [← Option.some.inj there],
        fun all => all table live⟩

instance (m : Machine) (host : CreateHost) : Decidable (m.Fresh host) :=
  match descriptor : host.descriptor, address : host.address with
  | .error _, none => isTrue ⟨by simp [descriptor], by simp [address]⟩
  | .error _, some given => decidable_of_iff (given ≠ 0 ∧ (m.objects given).isNone)
      (by simp [Machine.Fresh, descriptor, address])
  | .ok fd, none => decidable_of_iff (fd ∉ m.descriptors)
      (by simp [Machine.Fresh, descriptor, address])
  | .ok fd, some given =>
    decidable_of_iff (fd ∉ m.descriptors ∧ given ≠ 0 ∧ (m.objects given).isNone)
      (by simp [Machine.Fresh, descriptor, address])

/-- A descriptor that was opened and closed again without an object. -/
def openedInVain (m : Machine) (fd : Nat) : Machine :=
  { m with opened := m.opened ++ [fd], closed := m.closed ++ [fd] }

/-- `sl_win32_file_open_console_output` and what `CreateFileW` does with the file. -/
def createFile (m : Machine) (host : CreateHost) : Machine × Answer :=
  match host.descriptor with
  | .error _ => (m, .refused)
  | .ok fd =>
    match host.address with
    | none => (openedInVain m fd, .refused)
    | some address =>
      match Files.createOwnedFd true fd Files.genericWrite .char with
      | .error _ => (openedInVain m fd, .refused)
      | .ok file => publish m address (.file file) host.record

/-- `sl_win32_search_open` comes to `open_search_directory`. -/
def opensDirectory (allocations : Allocations) (rootFd : Int) (filename : List UInt16) : Bool :=
  0 ≤ rootFd && filename ≠ [] && match Search.normalizePattern filename allocations with
    | some normalized => normalized.result == .ok
    | none => false

/-- `sl_win32_search_open` and what `FindFirstFileExW` does with the search. A search that finds
nothing is destroyed, its descriptor with it. -/
def findFirst (m : Machine) (host : CreateHost) (allocations : Allocations)
    (directory : List UInt8 → Directory) (rootFd : Int) (filename : List UInt16)
    (options : SearchOptions) (output : FindData) : Machine × Answer :=
  if opensDirectory allocations rootFd filename = false then (m, .refused)
  else match host.descriptor with
    | .error _ => (m, .refused)
    | .ok fd =>
      match host.address with
      | none => (openedInVain m fd, .refused)
      | some address =>
        match (Search.searchOpen
            { allocations := allocations, openDirectory := fun path => .ok (directory path) }
            rootFd filename options output).bind Search.Called.search with
        | none => (openedInVain m fd, .refused)
        | some search => publish m address (.search fd search) host.record

/-- What the holders of leases take their objects for, after a step on the table. -/
def heldAfter (held : List HandleKind) : HandleTable.Step → HandleTable.Outcome → List HandleKind
  | .acquire _ kind, .acquire .ok _ => held ++ [kind]
  | .release position, .done => held.eraseIdx position
  | _, _ => held

def isInsert : HandleTable.Step → Bool
  | .insert .. => true
  | _ => false

def handlesStep (m : Machine) (label : HandleTable.Step) : Machine × Answer :=
  if isInsert label then (m, .blocked)
  else
    let stepped := HandleTable.step m.handles label
    let after := { m with
      handles := stepped.1
      held := heldAfter m.held label stepped.2 }
    match HandleTable.runs m.handles label with
    | none => (after, .handles stepped.2)
    | some (callback, address) => (destroyObject after callback address, .handles stepped.2)

/-- The lease at a position, when its holder takes the object for one of this kind. -/
def leased (m : Machine) (position : Nat) (kind : HandleKind) : Option Lease :=
  if m.held[position]? = some kind then m.handles.leases[position]? else none

def useFile (m : Machine) (position : Nat) : Machine × Answer :=
  match leased m position .file with
  | none => (m, .blocked)
  | some lease =>
    match m.objects lease.object with
    | none => (m.faulted .useAfterFree, .refused)
    | some (.search _ _) => (m.faulted .wrongKind, .refused)
    | some (.file file) =>
      if file.fd ∈ m.descriptors then (m, .used file.fd)
      else (m.faulted .badDescriptor, .refused)

def findNext (m : Machine) (position : Nat) (output : FindData) : Machine × Answer :=
  match leased m position .search with
  | none => (m, .blocked)
  | some lease =>
    match m.objects lease.object with
    | none => (m.faulted .useAfterFree, .refused)
    | some (.file _) => (m.faulted .wrongKind, .refused)
    | some (.search directoryFd search) =>
      if directoryFd ∈ m.descriptors then
        let called := Search.searchNext (some search) output
        ({ m with
            objects := Function.update m.objects lease.object
              (some (.search directoryFd (called.search.getD search))) },
          .found called.result called.hostError called.output)
      else (m.faulted .badDescriptor, .refused)

def step (m : Machine) : Label → Machine × Answer
  | .createFile host =>
    if insertBlocked m.handles ∨ ¬ m.Fresh host then (m, .blocked) else createFile m host
  | .findFirst host allocations directory rootFd filename options output =>
    if insertBlocked m.handles ∨ ¬ m.Fresh host then (m, .blocked)
    else findFirst m host allocations directory rootFd filename options output
  | .handles label => handlesStep m label
  | .useFile position => useFile m position
  | .findNext position output => findNext m position output

end SadLayer.KernelObjects
