import SadLayer.KernelObjects

/-! Objects over whole runs: an object is there for as long as a handle, a lease or a call
holds it, and its descriptor is open for just as long. -/
namespace SadLayer.KernelObjects
open SadLayer.Library
open HandleTable (HandleKind Lease holders Claims HolderStep Ledger RecordLedger)

variable {m after : Machine} {object other : KernelObject} {address fd callback position : Nat}
  {kind : HandleKind} {s t : HandleTable.System} {label : HandleTable.Step}
  {outcome : HandleTable.Outcome}

/-! ### Descriptors -/

/-- Each object owns one open descriptor, and every descriptor that was opened is owned or was
closed. -/
structure Owned (m : Machine) : Prop where
  distinct : m.descriptors.Nodup
  owned : ∀ fd, fd ∈ m.descriptors ↔ ∃ address object, m.objects address = some object ∧
    object.fd = fd
  alone : ∀ first second object other, m.objects first = some object →
    m.objects second = some other → object.fd = other.fd → first = second
  balance : ∀ fd, m.opened.count fd = m.closed.count fd + m.descriptors.count fd

theorem Owned.congr (owned : Owned m) (objects : after.objects = m.objects)
    (descriptors : after.descriptors = m.descriptors) (opened : after.opened = m.opened)
    (closed : after.closed = m.closed) : Owned after where
  distinct := descriptors ▸ owned.distinct
  owned fd := by
    rw [objects, descriptors]
    exact owned.owned fd
  alone := by
    rw [objects]
    exact owned.alone
  balance fd := by
    rw [opened, closed, descriptors]
    exact owned.balance fd

theorem Owned.allocated (owned : Owned m) (free : m.objects address = none)
    (unused : object.fd ∉ m.descriptors) : Owned (allocateObject m address object) where
  distinct := by
    apply owned.distinct.append (List.nodup_singleton _)
    intro fd old new
    rw [List.mem_singleton] at new
    exact unused (new ▸ old)
  owned fd := by
    simp only [allocateObject, List.mem_append, List.mem_singleton, owned.owned]
    constructor
    · rintro (⟨place, there, live, same⟩ | rfl)
      · have elsewhere : place ≠ address := by
          rintro rfl
          rw [free] at live
          contradiction
        exact ⟨place, there, by rwa [Function.update_of_ne elsewhere], same⟩
      · exact ⟨address, object, Function.update_self .., rfl⟩
    · rintro ⟨place, there, live, same⟩
      by_cases here : place = address
      · rw [here, Function.update_self] at live
        rw [← Option.some.inj live] at same
        exact .inr same.symm
      · rw [Function.update_of_ne here] at live
        exact .inl ⟨place, there, live, same⟩
  alone first second one two live live' same := by
    have older : ∀ place there, m.objects place = some there → there.fd ≠ object.fd := by
      intro place there live equal
      exact unused (equal ▸ (owned.owned _).mpr ⟨place, there, live, rfl⟩)
    simp only [allocateObject] at live live'
    by_cases here : first = address
    · by_cases here' : second = address
      · rw [here, here']
      · rw [Function.update_of_ne here'] at live'
        rw [here, Function.update_self] at live
        rw [← Option.some.inj live] at same
        exact absurd same.symm (older second two live')
    · rw [Function.update_of_ne here] at live
      by_cases here' : second = address
      · rw [here', Function.update_self] at live'
        rw [← Option.some.inj live'] at same
        exact absurd same (older first one live)
      · rw [Function.update_of_ne here'] at live'
        exact owned.alone first second one two live live' same
  balance fd := by
    have before := owned.balance fd
    simp only [allocateObject, List.count_append]
    omega

/-- Destroying an object that is there, by its own callback, gives its descriptor back. -/
theorem Owned.destroyed (owned : Owned m) (live : m.objects address = some object) :
    Owned (destroyObject m object.destroyer address) ∧
      (destroyObject m object.destroyer address).objects =
        Function.update m.objects address none ∧
      (destroyObject m object.destroyer address).handles = m.handles ∧
      (destroyObject m object.destroyer address).held = m.held ∧
      (destroyObject m object.destroyer address).origin = m.origin ∧
      (destroyObject m object.destroyer address).fault = m.fault := by
  have opened : object.fd ∈ m.descriptors := (owned.owned _).mpr ⟨address, object, live, rfl⟩
  have runs : destroyObject m object.destroyer address = { m with
      objects := Function.update m.objects address none
      descriptors := m.descriptors.erase object.fd
      closed := m.closed ++ [object.fd] } := by
    simp only [destroyObject, live, ne_eq, not_true_eq_false, if_false]
    rw [if_neg (not_not.mpr opened)]
  rw [runs]
  refine ⟨?_, rfl, rfl, rfl, rfl, rfl⟩
  exact {
    distinct := owned.distinct.erase _
    owned := by
      intro fd
      simp only [owned.distinct.mem_erase_iff, owned.owned]
      constructor
      · rintro ⟨other, place, there, found, same⟩
        have elsewhere : place ≠ address := by
          rintro rfl
          rw [live] at found
          rw [← Option.some.inj found] at same
          exact other same.symm
        exact ⟨place, there, by rwa [Function.update_of_ne elsewhere], same⟩
      · rintro ⟨place, there, found, same⟩
        have elsewhere : place ≠ address := by
          rintro rfl
          rw [Function.update_self] at found
          contradiction
        rw [Function.update_of_ne elsewhere] at found
        refine ⟨?_, place, there, found, same⟩
        intro equal
        exact elsewhere (owned.alone _ _ _ _ found live (same.trans equal))
    alone := by
      intro first second one two found found' same
      dsimp only at found found'
      have elsewhere : first ≠ address := by
        rintro rfl
        rw [Function.update_self] at found
        contradiction
      have elsewhere' : second ≠ address := by
        rintro rfl
        rw [Function.update_self] at found'
        contradiction
      rw [Function.update_of_ne elsewhere] at found
      rw [Function.update_of_ne elsewhere'] at found'
      exact owned.alone first second one two found found' same
    balance := by
      intro fd
      have before := owned.balance fd
      simp only [List.count_append, List.count_erase, List.count_singleton]
      by_cases same : object.fd = fd
      · subst same
        have one := List.count_pos_iff.mpr opened
        simp
        omega
      · simp [same]
        omega }

theorem Owned.in_vain (owned : Owned m) (fd : Nat) : Owned (openedInVain m fd) where
  distinct := owned.distinct
  owned := owned.owned
  alone := owned.alone
  balance other := by
    have before := owned.balance other
    simp only [openedInVain, List.count_append]
    omega

/-! ### Leases -/

theorem perform_leases (s : HandleTable.System) (action : HandleTable.Action) :
    (HandleTable.perform s action).1.leases = s.leases := by
  have dropped : ∀ decrement ended,
      (HandleTable.dropTracker s decrement ended).leases = s.leases := by
    intro decrement ended
    unfold HandleTable.dropTracker
    split
    · rfl
    · split <;> rfl
  cases action with
  | dropRecord name =>
    simp only [HandleTable.perform]
    split
    · rfl
    · split
      · rfl
      · split <;> rfl
  | runDestroy => rfl
  | dropTracker => exact dropped _ _
  | endActivity => exact dropped _ _
  | freeTable =>
    simp only [HandleTable.perform]
    split <;> rfl

/-- What a step does to the leases, and what their holders then know. -/
theorem lease_step (ledger : Ledger s) (label : HandleTable.Step) (held : List HandleKind) :
    (∃ kind name record, s.records name = some record ∧ record.kind = kind ∧
      (HandleTable.step s label).1.leases = s.leases ++ [⟨record.object, name⟩] ∧
      heldAfter held label (HandleTable.step s label).2 = held ++ [kind]) ∨
    (∃ position, (HandleTable.step s label).1.leases = s.leases.eraseIdx position ∧
      heldAfter held label (HandleTable.step s label).2 = held.eraseIdx position) ∨
    ((HandleTable.step s label).1.leases = s.leases ∧
      heldAfter held label (HandleTable.step s label).2 = held) := by
  have effect := HandleTable.step_effect s label
  generalize (HandleTable.step s label).1 = after at effect ⊢
  generalize (HandleTable.step s label).2 = outcome at effect ⊢
  cases effect with
  | unchanged refused =>
    refine .inr (.inr ⟨rfl, ?_⟩)
    cases label with
    | acquire handle kind =>
      cases outcome with
      | acquire status lease =>
        cases status with
        | ok => exact absurd rfl refused
        | _ => rfl
      | _ => rfl
    | release position =>
      cases outcome with
      | done => exact absurd refused id
      | _ => rfl
    | _ => rfl
  | @acquired table handle kind index name record word next live resolved room held begun =>
    exact .inl ⟨kind, name, record, resolved.live, resolved.kind_eq, rfl, rfl⟩
  | @released position lease record taken live => exact .inr (.inl ⟨position, rfl, rfl⟩)
  | advanced started next => exact .inr (.inr ⟨perform_leases s _, rfl⟩)
  | dangling freed => exact absurd freed ledger.not_dangling
  | _ => exact .inr (.inr ⟨rfl, rfl⟩)

/-- A leased record is there. -/
theorem lease_live (ledger : RecordLedger s) {lease : Lease} (taken : lease ∈ s.leases) :
    ∃ record, s.records lease.internal = some record := by
  cases found : s.records lease.internal with
  | some record => exact ⟨record, rfl⟩
  | none =>
    have nothing := (ledger.freed _ found).2
    simp only [HandleTable.liveLeases, Nat.add_eq_zero_iff, total_eq_zero] at nothing
    have counted := nothing.1 lease taken
    simp [HandleTable.leaseOf] at counted

/-- Each lease is of a record of the kind its holder took it for. -/
structure Leased (s : HandleTable.System) (held : List HandleKind) : Prop where
  known : held.length = s.leases.length
  kinds : ∀ (position : Nat) (lease : Lease) (kind : HandleKind), s.leases[position]? = some lease → held[position]? = some kind →
    ∃ record, s.records lease.internal = some record ∧ record.object = lease.object ∧
      record.kind = kind

theorem leased_create : Leased HandleTable.create [] where
  known := rfl
  kinds _ _ _ taken _ := by simp [HandleTable.create] at taken

/-- Leases stay leases of their records while the records keep what they are of. -/
theorem Leased.of_records (ledger : RecordLedger t)
    (records : ∀ name record, t.records name = some record → name < s.nextRecord →
      ∃ old, s.records name = some old ∧ old.kind = record.kind ∧ old.object = record.object)
    (older : RecordLedger s) {leases : List Lease} {held' : List HandleKind}
    (known : held'.length = leases.length)
    (before : ∀ (position : Nat) (lease : Lease) (kind : HandleKind), leases[position]? = some lease →
      held'[position]? = some kind → ∃ record, s.records lease.internal = some record ∧
        record.object = lease.object ∧ record.kind = kind)
    (leases_are : t.leases = leases) : Leased t held' where
  known := by rw [known, leases_are]
  kinds position lease kind taken knows := by
    have among : lease ∈ t.leases := List.mem_of_getElem? taken
    rw [leases_are] at taken
    obtain ⟨old, was, object, kind_is⟩ := before position lease kind taken knows
    obtain ⟨record, live⟩ := lease_live ledger among
    obtain ⟨old', was', sameKind, sameObject⟩ :=
      records lease.internal record live (older.allocated was)
    rw [was] at was'
    have same := Option.some.inj was'
    subst same
    exact ⟨record, live, sameObject.symm.trans object, sameKind.symm.trans kind_is⟩

theorem Leased.stepped {held : List HandleKind} (leased : Leased s held) (ledger : Ledger s)
    (label : HandleTable.Step)
    (records : ∀ name record, (HandleTable.step s label).1.records name = some record →
      name < s.nextRecord →
      ∃ old, s.records name = some old ∧ old.kind = record.kind ∧ old.object = record.object) :
    Leased (HandleTable.step s label).1
      (heldAfter held label (HandleTable.step s label).2) := by
  have ledger' := (HandleTable.ledger_step ledger label).records
  rcases lease_step ledger label held with
    ⟨kind, name, record, live, kind_is, taken, knows⟩ | ⟨position, taken, knows⟩ | ⟨taken, knows⟩
  · rw [knows]
    refine .of_records ledger' records ledger.records ?_ ?_ taken
    · simp [leased.known]
    · intro place lease kind' there there'
      by_cases old : place < s.leases.length
      · rw [List.getElem?_append_left old] at there
        rw [List.getElem?_append_left (by rw [leased.known]; exact old)] at there'
        exact leased.kinds place lease kind' there there'
      · rw [List.getElem?_append_right (by omega)] at there
        rw [List.getElem?_append_right (by rw [leased.known]; omega), leased.known] at there'
        have first : place - s.leases.length = 0 := by
          have inside := (List.getElem?_eq_some_iff.mp there).1
          simpa using inside
        rw [first] at there there'
        simp only [List.getElem?_cons_zero, Option.some.injEq] at there there'
        subst there there'
        exact ⟨record, live, rfl, kind_is⟩
  · rw [knows]
    refine .of_records ledger' records ledger.records ?_ ?_ taken
    · simp only [List.length_eraseIdx, leased.known]
    · intro place lease kind there there'
      rw [List.getElem?_eraseIdx] at there there'
      split at there
      · rename_i before
        rw [if_pos before] at there'
        exact leased.kinds _ _ _ there there'
      · rename_i behind
        rw [if_neg behind] at there'
        exact leased.kinds _ _ _ there there'
  · rw [knows]
    exact .of_records ledger' records ledger.records leased.known leased.kinds taken

/-! ### Objects and their holders -/

/-- Every object is held, by one record or by the callback that is about to destroy it, and what
holds it knows what it is. -/
structure Tied (s : HandleTable.System) (held : List HandleKind)
    (objects : Nat → Option KernelObject) (origin : Nat → Option Nat) : Prop where
  ledger : Ledger s
  leased : Leased s held
  counted : ∀ address, holders s address = if (objects address).isSome then 1 else 0
  claimed : ∀ callback address, Claims s callback address →
    ∃ object, objects address = some object ∧ object.destroyer = callback
  recorded : ∀ name record, s.records name = some record →
    ∃ object, objects record.object = some object ∧ object.kind = record.kind ∧
      origin name = some object.fd

structure Consistent (m : Machine) : Prop where
  tied : Tied m.handles m.held m.objects m.origin
  owned : Owned m
  no_fault : m.fault = none

variable {held : List HandleKind} {objects : Nat → Option KernelObject}
  {origin : Nat → Option Nat}

/-- A step that neither adds a holder nor takes one away. -/
theorem Tied.quiet (tied : Tied s held objects origin) (label : HandleTable.Step)
    (holders_same : ∀ address, holders (HandleTable.step s label).1 address = holders s address)
    (records : ∀ name record, (HandleTable.step s label).1.records name = some record →
      ∃ old, s.records name = some old ∧ old.kind = record.kind ∧ old.object = record.object ∧
        old.destroy = record.destroy)
    (claims : ∀ callback address, Claims (HandleTable.step s label).1 callback address →
      Claims s callback address) :
    Tied (HandleTable.step s label).1
      (heldAfter held label (HandleTable.step s label).2) objects origin where
  ledger := HandleTable.ledger_step tied.ledger label
  leased := tied.leased.stepped tied.ledger label fun name record live _ => by
    obtain ⟨old, was, kind, object, -⟩ := records name record live
    exact ⟨old, was, kind, object⟩
  counted address := by
    rw [holders_same]
    exact tied.counted address
  claimed callback address claim := tied.claimed callback address (claims callback address claim)
  recorded name record live := by
    obtain ⟨old, was, kind, object, -⟩ := records name record live
    obtain ⟨there, found, is_kind, from_fd⟩ := tied.recorded name old was
    exact ⟨there, by rwa [← object], is_kind.trans kind, from_fd⟩

/-- A callback that is about to run finds its object, and nothing else holds it. -/
theorem Tied.ran (tied : Tied s held objects origin) (label : HandleTable.Step)
    (owed : Claims s callback address)
    (holders_less : ∀ place, holders (HandleTable.step s label).1 place +
      (if address = place then 1 else 0) = holders s place)
    (records : (HandleTable.step s label).1.records = s.records)
    (claims : ∀ callback place, Claims (HandleTable.step s label).1 callback place →
      Claims s callback place) :
    Tied (HandleTable.step s label).1
      (heldAfter held label (HandleTable.step s label).2)
      (Function.update objects address none) origin := by
  obtain ⟨object, live, -⟩ := tied.claimed callback address owed
  have unheld : holders (HandleTable.step s label).1 address = 0 := by
    have less := holders_less address
    have one := tied.counted address
    rw [live] at one
    simp only [if_true, Option.isSome_some] at less one
    omega
  have ledger := HandleTable.ledger_step tied.ledger label
  have elsewhere : ∀ callback place, Claims (HandleTable.step s label).1 callback place →
      place ≠ address := by
    rintro callback place claim rfl
    have positive := claim.counted ledger.records
    omega
  refine ⟨ledger, ?_, ?_, ?_, ?_⟩
  · apply tied.leased.stepped tied.ledger label
    intro name record live _
    rw [records] at live
    exact ⟨record, live, rfl, rfl⟩
  · intro place
    by_cases here : place = address
    · rw [here, unheld, Function.update_self]
      rfl
    · have less := holders_less place
      rw [if_neg (Ne.symm here), tied.counted] at less
      rw [Function.update_of_ne here]
      exact less
  · intro callback place claim
    rw [Function.update_of_ne (elsewhere callback place claim)]
    exact tied.claimed callback place (claims callback place claim)
  · intro name record found
    have claim : Claims (HandleTable.step s label).1 record.destroy record.object :=
      .record found rfl rfl
    rw [Function.update_of_ne (elsewhere _ _ claim)]
    rw [records] at found
    exact tied.recorded name record found

/-- An accepted insert is the one holder of its object. -/
theorem Tied.inserted (tied : Tied s held objects origin) (object : KernelObject)
    (free : objects address = none) (record : Bool)
    (holders_more : ∀ place,
      holders (HandleTable.step s (.insert object.kind address object.destroyer record)).1 place =
        holders s place + if address = place then 1 else 0)
    (records : (HandleTable.step s (.insert object.kind address object.destroyer record)).1.records =
      Function.update s.records s.nextRecord (some
        { references := 1, kind := object.kind, object := address, destroy := object.destroyer }))
    (claims : ∀ callback place,
      Claims (HandleTable.step s (.insert object.kind address object.destroyer record)).1
        callback place → Claims s callback place ∨ callback = object.destroyer ∧ place = address) :
    Tied (HandleTable.step s (.insert object.kind address object.destroyer record)).1 held
      (Function.update objects address (some object))
      (Function.update origin s.nextRecord (some object.fd)) := by
  have others : ∀ name record, s.records name = some record → record.object ≠ address := by
    rintro name record live rfl
    obtain ⟨there, found, -⟩ := tied.recorded name record live
    rw [free] at found
    contradiction
  refine ⟨HandleTable.ledger_step tied.ledger _, ?_, ?_, ?_, ?_⟩
  · apply tied.leased.stepped tied.ledger
      (.insert object.kind address object.destroyer record)
    intro name found live older
    rw [records, Function.update_of_ne (Nat.ne_of_lt older)] at live
    exact ⟨found, live, rfl, rfl⟩
  · intro place
    rw [holders_more, tied.counted]
    by_cases here : place = address
    · rw [here, Function.update_self, free, if_pos rfl]
      rfl
    · rw [Function.update_of_ne here, if_neg (Ne.symm here), Nat.add_zero]
  · intro callback place claim
    rcases claims callback place claim with old | ⟨rfl, rfl⟩
    · obtain ⟨there, found, same⟩ := tied.claimed callback place old
      have elsewhere : place ≠ address := by
        rintro rfl
        rw [free] at found
        contradiction
      exact ⟨there, by rwa [Function.update_of_ne elsewhere], same⟩
    · exact ⟨object, Function.update_self .., rfl⟩
  · intro name found live
    rw [records] at live
    by_cases here : name = s.nextRecord
    · rw [here, Function.update_self] at live
      rw [← Option.some.inj live, here]
      exact ⟨object, Function.update_self .., rfl, Function.update_self ..⟩
    · rw [Function.update_of_ne here] at live
      rw [Function.update_of_ne here, Function.update_of_ne (others name found live)]
      exact tied.recorded name found live

/-! ### The steps of the machine -/

/-- A search that went on is the same object, with the same descriptor. -/
theorem Consistent.searched (consistent : Consistent m) {directoryFd : Nat}
    {before later : Search.FileSearch} (live : m.objects address = some (.search directoryFd before)) :
    Consistent { m with
      objects := Function.update m.objects address (some (.search directoryFd later)) } := by
  have same : ∀ place object, m.objects place = some object → ∃ there,
      Function.update m.objects address (some (.search directoryFd later)) place = some there ∧
        there.fd = object.fd ∧ there.kind = object.kind ∧ there.destroyer = object.destroyer := by
    intro place object found
    by_cases here : place = address
    · rw [here, live] at found
      rw [here, ← Option.some.inj found]
      exact ⟨_, Function.update_self .., rfl, rfl, rfl⟩
    · exact ⟨object, by rwa [Function.update_of_ne here], rfl, rfl, rfl⟩
  have back : ∀ place object,
      Function.update m.objects address (some (.search directoryFd later)) place = some object →
        ∃ there, m.objects place = some there ∧ there.fd = object.fd := by
    intro place object found
    by_cases here : place = address
    · rw [here, Function.update_self] at found
      rw [here, ← Option.some.inj found]
      exact ⟨_, live, rfl⟩
    · rw [Function.update_of_ne here] at found
      exact ⟨object, found, rfl⟩
  have present : ∀ place,
      (Function.update m.objects address (some (.search directoryFd later)) place).isSome =
        (m.objects place).isSome := by
    intro place
    by_cases here : place = address
    · rw [here, live, Function.update_self]
      rfl
    · rw [Function.update_of_ne here]
  obtain ⟨tied, owned, no_fault⟩ := consistent
  refine ⟨⟨tied.ledger, tied.leased, ?_, ?_, ?_⟩, ⟨owned.distinct, ?_, ?_, owned.balance⟩,
    no_fault⟩
  · intro place
    rw [tied.counted]
    exact congrArg (fun there : Bool => if there then 1 else 0) (present place).symm
  · intro callback place claim
    obtain ⟨object, found, destroys⟩ := tied.claimed callback place claim
    obtain ⟨there, found', -, -, same_destroyer⟩ := same place object found
    exact ⟨there, found', same_destroyer.trans destroys⟩
  · intro name record found
    obtain ⟨object, there, kind, from_fd⟩ := tied.recorded name record found
    obtain ⟨other, found', fd, same_kind, -⟩ := same _ object there
    exact ⟨other, found', same_kind.trans kind, by rw [fd]; exact from_fd⟩
  · intro fd
    rw [owned.owned]
    constructor
    · rintro ⟨place, object, found, is_fd⟩
      obtain ⟨there, found', same_fd, -⟩ := same place object found
      exact ⟨place, there, found', same_fd.trans is_fd⟩
    · rintro ⟨place, object, found, is_fd⟩
      obtain ⟨there, found', same_fd⟩ := back place object found
      exact ⟨place, there, found', same_fd.trans is_fd⟩
  · intro first second object other found found' equal
    obtain ⟨one, was, fd⟩ := back first object found
    obtain ⟨two, was', fd'⟩ := back second other found'
    exact owned.alone _ _ _ _ was was' (by rw [fd, fd', equal])

/-- Publishing a new object leaves it held by its record, or destroyed again. -/
theorem Consistent.published (consistent : Consistent m) (object : KernelObject) (record : Bool)
    (free : m.objects address = none) (unused : object.fd ∉ m.descriptors) :
    Consistent (publish m address object record).1 := by
  obtain ⟨tied, owned, no_fault⟩ := consistent
  have allocated := owned.allocated free unused
  have transition := HandleTable.holder_step tied.ledger
    (.insert object.kind address object.destroyer record)
  unfold publish
  dsimp only
  cases transition with
  | @inserted kind inserted callback allocated' handle issued holders_more records claims =>
    obtain ⟨same, answered⟩ := issued
    cases same
    have answered' : (HandleTable.step (allocateObject m address object).handles
        (.insert object.kind address object.destroyer record)).2 =
          .insert .ok m.handles.nextRecord handle := answered
    rw [answered']
    exact ⟨tied.inserted object free record holders_more records claims,
      allocated.congr rfl rfl rfl rfl, no_fault⟩
  | ran running => exact nomatch running
  | other quiet refused holders_same records claims =>
    have tied' := tied.quiet (.insert object.kind address object.destroyer record) holders_same
      records claims
    generalize stepped : HandleTable.step (allocateObject m address object).handles
      (.insert object.kind address object.destroyer record) = result
    have tied'' : Tied result.1 m.held m.objects m.origin := by
      rw [← stepped]
      exact tied'
    have moved : Owned { allocateObject m address object with handles := result.1 } :=
      allocated.congr rfl rfl rfl rfl
    have live : ({ allocateObject m address object with handles := result.1 } : Machine).objects
        address = some object :=
      Function.update_self ..
    obtain ⟨owned', objects, handles, held, origin, fault⟩ := moved.destroyed live
    have restored : Function.update (Function.update m.objects address (some object)) address none =
        m.objects := by
      rw [Function.update_idem, ← free, Function.update_eq_self]
    split
    · rename_i name handle accepted
      exact absurd (stepped ▸ accepted) (refused name handle)
    · refine ⟨?_, owned', fault.trans no_fault⟩
      rw [objects, handles, held, origin]
      simp only [allocateObject, restored]
      exact tied''

/-- Any other step on the handle table, and the callback that it may run. -/
theorem Consistent.handled (consistent : Consistent m) (label : HandleTable.Step) :
    Consistent (handlesStep m label).1 := by
  obtain ⟨tied, owned, no_fault⟩ := consistent
  unfold handlesStep
  split
  · exact ⟨tied, owned, no_fault⟩
  · rename_i other
    have transition := HandleTable.holder_step tied.ledger label
    cases transition with
    | inserted issued =>
      rw [issued.1] at other
      exact absurd rfl other
    | @ran callback address running owed holders_less records claims =>
      obtain ⟨object, live, rfl⟩ := tied.claimed callback address owed
      have moved : Owned { m with
          handles := (HandleTable.step m.handles label).1
          held := heldAfter m.held label (HandleTable.step m.handles label).2 } :=
        owned.congr rfl rfl rfl rfl
      obtain ⟨owned', objects, handles, held, origin, fault⟩ := moved.destroyed live
      simp only [running]
      refine ⟨?_, owned', fault.trans no_fault⟩
      rw [objects, handles, held, origin]
      exact tied.ran label owed holders_less records claims
    | other quiet refused holders_same records claims =>
      simp only [quiet]
      exact ⟨tied.quiet label holders_same records claims, owned.congr rfl rfl rfl rfl, no_fault⟩

/-- A lease leads to an object of the kind its holder took it for, with an open descriptor. -/
theorem Consistent.leased_object (consistent : Consistent m) {lease : Lease}
    (taken : leased m position kind = some lease) :
    ∃ object, m.objects lease.object = some object ∧ object.kind = kind ∧
      object.fd ∈ m.descriptors := by
  obtain ⟨tied, owned, -⟩ := consistent
  unfold leased at taken
  split at taken
  · rename_i knows
    obtain ⟨record, live, object, is_kind⟩ := tied.leased.kinds position lease kind taken knows
    obtain ⟨there, found, kind_is, -⟩ := tied.recorded _ record live
    rw [object] at found
    exact ⟨there, found, kind_is.trans is_kind, (owned.owned _).mpr ⟨_, there, found, rfl⟩⟩
  · contradiction

theorem Consistent.used (consistent : Consistent m) (position : Nat) :
    (useFile m position).1 = m ∧
      ((useFile m position).2 = .blocked ∨ ∃ fd ∈ m.descriptors,
        (useFile m position).2 = .used fd) := by
  unfold useFile
  split
  · exact ⟨rfl, .inl rfl⟩
  · rename_i lease taken
    obtain ⟨object, found, kind, opened⟩ := consistent.leased_object taken
    cases object with
    | search => contradiction
    | file file =>
      have opened' : file.fd ∈ m.descriptors := opened
      simp only [found]
      rw [if_pos opened']
      exact ⟨rfl, .inr ⟨_, opened', rfl⟩⟩

theorem Consistent.went_on (consistent : Consistent m) (position : Nat)
    (output : Search.FindData) : Consistent (findNext m position output).1 := by
  unfold findNext
  split
  · exact consistent
  · rename_i lease taken
    obtain ⟨object, found, kind, opened⟩ := consistent.leased_object taken
    cases object with
    | file => contradiction
    | search directoryFd search =>
      have opened' : directoryFd ∈ m.descriptors := opened
      simp only [found, if_pos opened']
      exact consistent.searched found

theorem Consistent.in_vain (consistent : Consistent m) (fd : Nat) :
    Consistent (openedInVain m fd) :=
  ⟨consistent.tied, consistent.owned.in_vain fd, consistent.no_fault⟩

theorem created_fd {file : Files.Win32File} {desiredAccess : UInt32} {type : Files.FileType}
    (created : Files.createOwnedFd true fd desiredAccess type = .ok file) : file.fd = fd := by
  unfold Files.createOwnedFd at created
  split at created
  · contradiction
  · rw [if_neg (by simp)] at created
    rw [← Except.ok.inj created]
    rfl

/-- What a function that creates an object comes to. -/
inductive Creation (m : Machine) : Machine × Answer → Prop where
  | nothing : Creation m (m, .refused)
  | inVain (fd : Nat) : Creation m (openedInVain m fd, .refused)
  | published (address : Nat) (object : KernelObject) (record : Bool)
      (free : m.objects address = none) (unused : object.fd ∉ m.descriptors) :
      Creation m (publish m address object record)

theorem create_file_creation {host : CreateHost} (fresh : m.Fresh host) :
    Creation m (createFile m host) := by
  unfold createFile
  split
  · exact .nothing
  · rename_i fd descriptor
    split
    · exact .inVain fd
    · rename_i address given
      split
      · exact .inVain fd
      · rename_i file made
        have free := Option.isNone_iff_eq_none.mp (fresh.2 address given).2
        apply Creation.published _ _ _ free
        show file.fd ∉ m.descriptors
        rw [created_fd made]
        exact fresh.1 fd descriptor

theorem find_first_creation {host : CreateHost} (fresh : m.Fresh host)
    (allocations : Search.Allocations) (directory : List UInt8 → Search.Directory) (rootFd : Int)
    (filename : List UInt16) (options : Search.SearchOptions) (output : Search.FindData) :
    Creation m (findFirst m host allocations directory rootFd filename options output) := by
  unfold findFirst
  split
  · exact .nothing
  · split
    · exact .nothing
    · rename_i fd descriptor
      split
      · exact .inVain fd
      · rename_i address given
        split
        · exact .inVain fd
        · have free := Option.isNone_iff_eq_none.mp (fresh.2 address given).2
          exact .published _ _ _ free (fresh.1 fd descriptor)

theorem Consistent.creation {result : Machine × Answer} (consistent : Consistent m)
    (creation : Creation m result) : Consistent result.1 := by
  cases creation with
  | nothing => exact consistent
  | inVain fd => exact consistent.in_vain fd
  | published address object record free unused =>
    exact consistent.published object record free unused

theorem Consistent.step (consistent : Consistent m) (label : Label) :
    Consistent (step m label).1 := by
  cases label with
  | createFile host =>
    simp only [KernelObjects.step]
    split
    · exact consistent
    · rename_i possible
      exact consistent.creation (create_file_creation (not_not.mp (not_or.mp possible).2))
  | findFirst host allocations directory rootFd filename options output =>
    simp only [KernelObjects.step]
    split
    · exact consistent
    · rename_i possible
      exact consistent.creation (find_first_creation (not_not.mp (not_or.mp possible).2) ..)
  | handles label => exact consistent.handled label
  | useFile position =>
    have same := (consistent.used position).1
    simp only [KernelObjects.step, same]
    exact consistent
  | findNext position output => exact consistent.went_on position output

theorem consistent_start : Consistent {} where
  tied := {
    ledger := HandleTable.ledger_create
    leased := leased_create
    counted := fun address => by
      simp [holders, HandleTable.create, HandleTable.pending, HandleTable.objectLive, tally]
    claimed := fun callback address claim => by
      have positive := claim.counted HandleTable.ledger_create.records
      simp [holders, HandleTable.create, HandleTable.pending, tally] at positive
    recorded := fun name record live => by simp [HandleTable.create] at live }
  owned := ⟨List.nodup_nil, by simp, by simp, by simp⟩
  no_fault := rfl

theorem consistent_run (labels : List Label) : Consistent (run step {} labels).state :=
  run_invariant step (fun _ m => Consistent m) consistent_start
    (fun _ _ label consistent => consistent.step label) labels

/-- With no table, lease or call left there is no object. -/
theorem Consistent.nothing_left (consistent : Consistent m) (gone : m.handles.table = none)
    (released : m.handles.leases = []) (idle : ∀ call ∈ m.handles.calls, call.todo = []) :
    (∀ address, m.objects address = none) ∧ m.descriptors = [] := by
  obtain ⟨tied, owned, -⟩ := consistent
  have records : ∀ name, m.handles.records name = none := by
    intro name
    cases found : m.handles.records name with
    | none => rfl
    | some record =>
      obtain ⟨counted, positive, -⟩ := tied.ledger.records.references name record found
      simp [HandleTable.owners, HandleTable.liveLeases, gone, released, HandleTable.slotOwners,
        HandleTable.pending_of_idle _ idle] at counted
      omega
  have objects : ∀ address, m.objects address = none := by
    intro address
    have counted := tied.counted address
    have unheld : holders m.handles address = 0 := by
      rw [holders, HandleTable.pending_of_idle _ idle, Nat.add_zero]
      apply tally_eq_zero.mpr
      intro name _
      rw [records]
      rfl
    rw [unheld] at counted
    cases there : m.objects address with
    | none => rfl
    | some object => simp [there] at counted
  refine ⟨objects, List.eq_nil_iff_forall_not_mem.mpr ?_⟩
  intro fd opened
  obtain ⟨address, object, live, -⟩ := (owned.owned fd).mp opened
  rw [objects] at live
  contradiction

/-- What every interleaving keeps of the objects and their descriptors. -/
structure KeptWhileHeld (m : Machine) : Prop where
  /-- Nothing that is gone was ever used, nothing was taken for what it is not, and nothing was
  destroyed or closed twice. -/
  no_fault : m.fault = none
  /-- An object is there exactly while its record or its destroy callback holds it. -/
  held : ∀ address, holders m.handles address = if (m.objects address).isSome then 1 else 0
  /-- A lease leads to an object of the kind it was acquired for, its descriptor open. -/
  leased : ∀ position kind lease, leased m position kind = some lease →
    ∃ object, m.objects lease.object = some object ∧ object.kind = kind ∧
      object.fd ∈ m.descriptors
  /-- The open descriptors are those of the objects, each of one object. -/
  owned : ∀ fd, fd ∈ m.descriptors ↔ ∃ address object, m.objects address = some object ∧
    object.fd = fd
  distinct : m.descriptors.Nodup
  /-- A descriptor is closed as often as it was opened, but for the time while it is open. -/
  balance : ∀ fd, m.opened.count fd = m.closed.count fd + m.descriptors.count fd
  /-- In the end every descriptor has been closed. -/
  ended : m.handles.table = none → m.handles.leases = [] →
    (∀ call ∈ m.handles.calls, call.todo = []) → ∀ fd, m.opened.count fd = m.closed.count fd

/-- However threads create, use and close objects, these are kept while they are held. -/
theorem objects_kept_while_held (labels : List Label) :
    KeptWhileHeld (run step {} labels).state := by
  have consistent := consistent_run labels
  exact {
    no_fault := consistent.no_fault
    held := consistent.tied.counted
    leased := fun _ _ _ => consistent.leased_object
    owned := consistent.owned.owned
    distinct := consistent.owned.distinct
    balance := consistent.owned.balance
    ended := by
      intro gone released idle fd
      have balance := consistent.owned.balance fd
      rw [(consistent.nothing_left gone released idle).2] at balance
      exact balance }

end SadLayer.KernelObjects
