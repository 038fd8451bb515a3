import SadLayer.ScopeEffects
import SadLayer.ThreadEnvironment

/-! What each operation on a TEB or a process comes to: refused, it leaves the
machine as it was, whichever exit it took; accepted, it has one effect. -/
namespace SadLayer.ThreadEnvironment
open Contexts

variable {ledger : Ledger} {m : Machine} {host : HostThread} {thread address process : UInt64}
  {context : ThreadContext}

/-! ### Machines that differ in one context -/

@[simp] theorem set_thread_threads (m : Machine) (thread : UInt64) (context : ThreadContext) :
    (m.setThread thread context).contexts.threads thread = context :=
  Function.update_self ..

@[simp] theorem set_thread_set_thread (m : Machine) (thread : UInt64)
    (context last : ThreadContext) :
    (m.setThread thread context).setThread thread last = m.setThread thread last := by
  simp only [Machine.setThread, State.setThread, Function.update_idem]

@[simp] theorem set_thread_store_owner (m : Machine) (thread : UInt64) (context : ThreadContext)
    (token : UInt64) : (m.setThread thread context).storeOwner thread token =
      m.setThread thread (tokenOf context token) := by
  simp only [Machine.storeOwner, set_thread_threads, set_thread_set_thread]

@[simp] theorem set_thread_references (m : Machine) (thread : UInt64) (context : ThreadContext) :
    (m.setThread thread context).contexts.activeReferences = m.contexts.activeReferences := rfl

@[simp] theorem set_thread_set_references (m : Machine) (thread : UInt64)
    (context : ThreadContext) (process : UInt64) (references : Nat) :
    (m.setThread thread context).setReferences process references =
      (m.setReferences process references).setThread thread context := rfl

theorem set_thread_same (m : Machine) (thread : UInt64) :
    m.setThread thread (m.contexts.threads thread) = m := by
  simp only [Machine.setThread, State.setThread, Function.update_eq_self]

theorem set_teb_twice (m : Machine) (address : UInt64) (teb last : Option Teb) :
    (m.setTeb address teb).setTeb address last = m.setTeb address last := by
  simp only [Machine.setTeb, Function.update_idem]

/-! ### The claim around an operation -/

/-- The claim on an inactive context is refused, or marks it as the host thread's. -/
theorem claim_inactive_effect (tracks : Tracks ledger m.contexts) (host : HostThread)
    (thread : UInt64) :
    m.claimInactive host thread = .ok (.invalidState, m) ∨
    ((m.contexts.threads thread).hostThreadToken = 0 ∧
      (m.contexts.threads thread).activeScopeCount = 0 ∧
      m.claimInactive host thread =
        .ok (.ok, m.setThread thread ((m.contexts.threads thread).ownedBy host.token))) := by
  by_cases free : (m.contexts.threads thread).hostThreadToken = 0
  · have idle : (m.contexts.threads thread).activeScopeCount = 0 := by
      rw [tracks.counted, tracks.unclaimed free]
    refine .inr ⟨free, idle, ?_⟩
    rw [Machine.claimInactive, contextClaimInactive, if_neg (not_not.mpr free),
      if_neg (not_not.mpr idle)]
    rfl
  · refine .inl ?_
    rw [Machine.claimInactive, contextClaimInactive, if_pos free]
    rfl

/-- The end of an operation releases the claim. -/
theorem leave_with (own : context.hostThreadToken = host.token)
    (idle : context.activeScopeCount = 0) (status : Status) :
    (m.setThread thread context).leaveWith host thread status =
      .ok (status, m.setThread thread (context.ownedBy 0)) := by
  have released : contextReleaseInactive (m.setThread thread context).contexts host (some thread) =
      .ok ((m.setThread thread context).contexts.setThread thread (context.ownedBy 0)) := by
    rw [contextReleaseInactive, set_thread_threads,
      if_neg (not_or.mpr ⟨not_not.mpr own, not_not.mpr idle⟩)]
    rfl
  rw [Machine.leaveWith, released]
  exact congrArg (fun last => Except.ok (status, last)) (set_thread_set_thread m thread context _)

/-- An operation that ends with the context as it was before the claim did nothing. -/
theorem leave_unchanged {claimed : ThreadContext} (own : claimed.hostThreadToken = host.token)
    (idle : claimed.activeScopeCount = 0)
    (same : claimed.ownedBy 0 = m.contexts.threads thread) (status : Status) :
    (m.setThread thread claimed).leaveWith host thread status = .ok (status, m) := by
  rw [leave_with own idle, same, set_thread_same]

theorem release_process_effect {references : Nat} (alive : m.destroyed process = false)
    (held : m.contexts.activeReferences process = references + 1) :
    m.releaseProcess process = .ok (m.setReferences process references) := by
  rw [Machine.releaseProcess, if_neg (by rw [alive]; exact Bool.false_ne_true), held,
    processRelease, if_neg (Nat.succ_ne_zero _), Nat.add_sub_cancel]
  rfl

/-! ### Creating a TEB -/

/-- The machine with a new TEB of a context. -/
def Machine.created (m : Machine) (address : UInt64) (teb : Teb) (processId : UInt32) : Machine :=
  let context := m.contexts.threads teb.thread
  (({ m with
      memory := writeTeb m.memory teb processId context.threadId context.lastError
        (m.peb teb.process) }.setReferences teb.process
    (m.contexts.activeReferences teb.process + 1)).setTeb address (some teb)).setThread teb.thread
    (tokenOf context address)

/-- What the host must have answered for a creation to succeed, and what it led to. -/
structure Creates (m : Machine) (answers : Answers) (address : UInt64) (teb : Teb) : Prop where
  allocation : answers.allocation = some address
  mapping : answers.mapping = some teb.mapping
  size : teb.mappingSize = answers.pageSize.toNat * totalPageCount
  bytes : teb.bytes = teb.mapping + answers.pageSize.toNat
  room : tlsSlotsOffset + tlsSlotCount * 8 ≤ answers.pageSize.toNat * writablePageCount
  process : (m.contexts.threads teb.thread).process = some teb.process
  detached : (m.contexts.threads teb.thread).teb = none ∧
    (m.contexts.threads teb.thread).lastErrorAddress = none ∧ teb.attached = false
  unowned : (m.contexts.threads teb.thread).tebOwnerToken = 0

/-- The context while its TEB is created: claimed by the host thread, with the token reserved. -/
def reserving (context : ThreadContext) (host : HostThread) : ThreadContext :=
  tokenOf (context.ownedBy host.token) ownershipReserved

/-- The machine from the retained process on. -/
def Machine.reserved (m : Machine) (host : HostThread) (thread process : UInt64) : Machine :=
  (m.setReferences process (m.contexts.activeReferences process + 1)).setThread thread
    (reserving (m.contexts.threads thread) host)

/-- A context that nobody runs and that has no TEB. -/
structure Vacant (context : ThreadContext) : Prop where
  free : context.hostThreadToken = 0
  idle : context.activeScopeCount = 0
  unowned : context.tebOwnerToken = 0

theorem Vacant.restored (vacant : Vacant context) :
    (tokenOf (reserving context host) 0).ownedBy 0 = context := by
  obtain ⟨free, _, unowned⟩ := vacant
  cases context
  simp only at free unowned
  subst free unowned
  rfl

theorem set_references_back (m : Machine) (process : UInt64) (references : Nat) :
    (m.setReferences process references).setReferences process
      (m.contexts.activeReferences process) = m := by
  simp only [Machine.setReferences, State.setReferences, Function.update_idem,
    Function.update_eq_self]

/-- A creation that gives up gives back all it took. -/
theorem cancel_unchanged (alive : m.destroyed process = false)
    (vacant : Vacant (m.contexts.threads thread)) (status : Status) :
    (m.reserved host thread process).cancel host thread process status = .ok (status, m) := by
  have kept : (m.reserved host thread process).destroyed process = false := alive
  have held : (m.reserved host thread process).contexts.activeReferences process =
      m.contexts.activeReferences process + 1 := Function.update_self ..
  have back : (m.reserved host thread process).setReferences process
      (m.contexts.activeReferences process) =
        m.setThread thread (reserving (m.contexts.threads thread) host) :=
    congrArg (Machine.setThread · thread (reserving (m.contexts.threads thread) host))
      (set_references_back m process _)
  rw [Machine.cancel, release_process_effect kept held, back]
  change ((m.setThread thread (reserving (m.contexts.threads thread) host)).storeOwner
    thread 0).leaveWith host thread status = _
  rw [set_thread_store_owner]
  have own : (tokenOf (reserving (m.contexts.threads thread) host) 0).hostThreadToken =
      host.token := rfl
  have idle : (tokenOf (reserving (m.contexts.threads thread) host) 0).activeScopeCount = 0 :=
    vacant.idle
  exact leave_unchanged own idle vacant.restored status

theorem set_teb_absent (absent : m.tebs address = none) : m.setTeb address none = m := by
  simp only [Machine.setTeb, ← absent, Function.update_eq_self]

theorem Vacant.owned (vacant : Vacant context) (token : UInt64) :
    (tokenOf (reserving context host) token).ownedBy 0 = tokenOf context token := by
  obtain ⟨free, _, _⟩ := vacant
  cases context
  simp only at free
  subst free
  rfl

/-- The stores of a creation that nothing failed. -/
theorem created_in {teb : Teb} (vacant : Vacant (m.contexts.threads thread))
    (ofThread : teb.thread = thread) (ofProcess : teb.process = process) (processId : UInt32) :
    let placed := (m.reserved host thread process).setTeb address (some teb)
    ({ placed with
        memory := writeTeb placed.memory teb processId
          ((m.reserved host thread process).contexts.threads thread).threadId
          ((m.reserved host thread process).contexts.threads thread).lastError
          (placed.peb process) }.storeOwner thread address).leaveWith host thread .ok =
      .ok (.ok, m.created address teb processId) := by
  intro placed
  have claimed : (m.reserved host thread process).contexts.threads thread =
      reserving (m.contexts.threads thread) host := set_thread_threads ..
  subst ofThread ofProcess
  let base : Machine := ({ m with
    memory := writeTeb m.memory teb processId (m.contexts.threads teb.thread).threadId
      (m.contexts.threads teb.thread).lastError (m.peb teb.process) }.setReferences teb.process
    (m.contexts.activeReferences teb.process + 1)).setTeb address (some teb)
  have idle : (tokenOf (reserving (m.contexts.threads teb.thread) host) address).activeScopeCount =
      0 := vacant.idle
  rw [claimed]
  change ((base.setThread teb.thread (reserving (m.contexts.threads teb.thread) host)).storeOwner
    teb.thread address).leaveWith host teb.thread .ok = _
  rw [set_thread_store_owner, leave_with rfl idle, vacant.owned]
  rfl

/-- Every exit that fails behind the retained process leaves the machine as it was. -/
theorem teb_allocate_effect (alive : m.destroyed process = false)
    (vacant : Vacant (m.contexts.threads thread))
    (named : (m.contexts.threads thread).process = some process)
    (detached : (m.contexts.threads thread).teb = none ∧
      (m.contexts.threads thread).lastErrorAddress = none)
    (stackLimit stackBase : UInt64) (answers : Answers)
    (fresh : ∀ address, answers.allocation = some address → m.tebs address = none) :
    (∃ status, status ≠ .ok ∧ tebAllocate (m.reserved host thread process) host thread process
      stackLimit stackBase answers = .ok (status, m)) ∨
    ∃ address teb, teb.thread = thread ∧ Creates m answers address teb ∧
      tebAllocate (m.reserved host thread process) host thread process stackLimit stackBase
        answers = .ok (.ok, m.created address teb answers.processId) := by
  have cancels (status : Status) :
      (m.reserved host thread process).cancel host thread process status = .ok (status, m) :=
    cancel_unchanged alive vacant status
  unfold tebAllocate
  by_cases noPages : answers.pageSize ≤ 0 ∨ (uint64Max : Int) < answers.pageSize
  · rw [if_pos noPages]
    exact .inl ⟨.memoryMapping, nofun, cancels _⟩
  rw [if_neg noPages]
  dsimp only
  by_cases few : uint64Max / totalPageCount < answers.pageSize.toNat ∨
      answers.pageSize.toNat * writablePageCount < tlsSlotsOffset + tlsSlotCount * 8
  · rw [if_pos few]
    exact .inl ⟨.memoryMapping, nofun, cancels _⟩
  rw [if_neg few]
  cases allocation : answers.allocation with
  | none => exact .inl ⟨.outOfMemory, nofun, cancels _⟩
  | some address =>
    have freed : ((m.reserved host thread process).setTeb address (some {})).setTeb address none =
        m.reserved host thread process := by
      rw [set_teb_twice]
      exact set_teb_absent (fresh address allocation)
    cases mapping : answers.mapping with
    | none =>
      simp only [freed]
      exact .inl ⟨.memoryMapping, nofun, cancels _⟩
    | some mapped =>
      cases answers.protects with
      | false =>
        simp only [freed, Bool.not_false, if_true]
        exact .inl ⟨.memoryProtection, nofun, cancels _⟩
      | true =>
        let teb : Teb :=
          { process := process
            thread := thread
            stackLimit := stackLimit
            stackBase := stackBase
            mapping := mapped
            mappingSize := answers.pageSize.toNat * totalPageCount
            bytes := mapped + answers.pageSize.toNat }
        refine .inr ⟨address, teb, rfl, ⟨allocation, mapping, rfl, rfl, ?room, named,
          ⟨detached.1, detached.2, rfl⟩, vacant.unowned⟩, ?_⟩
        case room => omega
        simp only [Bool.not_true, Bool.false_eq_true, if_false, set_teb_twice]
        exact @created_in m host thread address process teb vacant rfl rfl answers.processId

/-- What a claim leaves of a context. -/
theorem owned_by_frame (context : ThreadContext) (token : UInt64) :
    (context.ownedBy token).process = context.process ∧
    (context.ownedBy token).threadId = context.threadId ∧
    (context.ownedBy token).teb = context.teb ∧
    (context.ownedBy token).lastErrorAddress = context.lastErrorAddress ∧
    (context.ownedBy token).tebOwnerToken = context.tebOwnerToken :=
  ⟨rfl, rfl, rfl, rfl, rfl⟩

theorem owned_by_back (free : context.hostThreadToken = 0) (token : UInt64) :
    (context.ownedBy token).ownedBy 0 = context := by
  cases context
  simp only at free
  subst free
  rfl

/-- A creation is refused with no effect, or makes a TEB for a context that had none. -/
theorem teb_create_effect (tracks : Tracks ledger m.contexts) (host : HostThread)
    (thread : Option UInt64) (stackLimit stackBase : UInt64) (answers : Answers)
    (alive : ∀ named process, thread = some named →
      (m.contexts.threads named).process = some process → m.destroyed process = false)
    (fresh : ∀ address, answers.allocation = some address → m.tebs address = none) :
    (∃ status, status ≠ .ok ∧
      tebCreate m host thread stackLimit stackBase answers = .ok (status, m)) ∨
    ∃ address teb, thread = some teb.thread ∧ Vacant (m.contexts.threads teb.thread) ∧
      Creates m answers address teb ∧
      tebCreate m host thread stackLimit stackBase answers =
        .ok (.ok, m.created address teb answers.processId) := by
  cases thread with
  | none => exact .inl ⟨.invalidArgument, nofun, rfl⟩
  | some thread =>
  by_cases inverted : stackBase ≤ stackLimit
  · exact .inl ⟨.invalidArgument, nofun, by rw [tebCreate, if_pos inverted]⟩
  rcases claim_inactive_effect tracks host thread with refused | ⟨free, idle, claimed⟩
  · refine .inl ⟨.invalidState, nofun, ?_⟩
    rw [tebCreate, if_neg inverted, refused]
    rfl
  obtain ⟨sameProcess, sameId, sameTeb, sameAddress, sameOwner⟩ :=
    owned_by_frame (m.contexts.threads thread) host.token
  have leaves := @leave_unchanged m host thread ((m.contexts.threads thread).ownedBy host.token)
    rfl idle (owned_by_back free host.token)
  simp only [tebCreate, if_neg inverted, claimed, bind, Except.bind, ne_eq, not_true_eq_false,
    if_false, set_thread_threads, sameProcess, sameId, sameTeb, sameAddress, sameOwner]
  cases named : (m.contexts.threads thread).process with
  | none => exact .inl ⟨.invalidArgument, Status.noConfusion, leaves _⟩
  | some process =>
    dsimp only
    have lives := alive thread process rfl named
    split_ifs with incomplete unowned dead
    · exact .inl ⟨.invalidArgument, Status.noConfusion, leaves _⟩
    · exact absurd dead (Bool.not_eq_true _ ▸ lives)
    · obtain ⟨_, noTeb⟩ := not_or.mp incomplete
      have vacant : Vacant (m.contexts.threads thread) := ⟨free, idle, unowned⟩
      have detached : (m.contexts.threads thread).teb = none ∧
          (m.contexts.threads thread).lastErrorAddress = none := by
        simpa using noTeb
      simp only [set_thread_store_owner, set_thread_references, set_thread_set_references,
        processRetain]
      by_cases full : m.contexts.activeReferences process = uint32Max
      · refine .inl ⟨.invalidState, Status.noConfusion, ?_⟩
        rw [if_pos full]
        exact @leave_unchanged m host thread
          (tokenOf (reserving (m.contexts.threads thread) host) 0) rfl idle vacant.restored _
      · rw [if_neg full]
        rcases @teb_allocate_effect m host thread process lives vacant named detached stackLimit
          stackBase answers fresh with refused | ⟨address, teb, rfl, creates, created⟩
        · exact .inl refused
        · exact .inr ⟨address, teb, rfl, vacant, creates, created⟩
    · exact .inl ⟨.invalidState, Status.noConfusion, leaves _⟩

/-! ### Destroying a TEB -/

/-- The machine without a TEB of a context. -/
def Machine.tebDestroyed (m : Machine) (address : UInt64) (teb : Teb) : Machine :=
  ((m.setReferences teb.process (m.contexts.activeReferences teb.process - 1)).setThread teb.thread
    (tokenOf (m.contexts.threads teb.thread) 0)).setTeb address none

/-- A TEB that is not attached to the context that owns it. -/
structure Detachable (m : Machine) (address : UInt64) (teb : Teb) : Prop where
  allocated : m.tebs address = some teb
  free : (m.contexts.threads teb.thread).hostThreadToken = 0
  detached : teb.attached = false
  owner : (m.contexts.threads teb.thread).tebOwnerToken = address

/-- A destruction is refused with no effect, or takes away a TEB that is not attached. -/
theorem teb_destroy_effect (tracks : Tracks ledger m.contexts) (host : HostThread)
    (teb : Option UInt64) (unmaps : Bool)
    (live : ∀ address, teb = some address → ∃ teb, m.tebs address = some teb ∧
      m.destroyed teb.process = false ∧ m.contexts.activeReferences teb.process ≠ 0) :
    (∃ status, status ≠ .ok ∧ tebDestroy m host teb unmaps = .ok (status, m)) ∨
    ∃ address teb', teb = some address ∧ Detachable m address teb' ∧
      tebDestroy m host teb unmaps = .ok (.ok, m.tebDestroyed address teb') := by
  cases teb with
  | none => exact .inl ⟨.invalidArgument, nofun, rfl⟩
  | some address =>
  obtain ⟨teb, allocated, alive, held⟩ := live address rfl
  rcases claim_inactive_effect tracks host teb.thread with refused | ⟨free, idle, claimed⟩
  · refine .inl ⟨.invalidState, nofun, ?_⟩
    simp only [tebDestroy, allocated, refused]
    rfl
  have leaves := @leave_unchanged m host teb.thread
    ((m.contexts.threads teb.thread).ownedBy host.token) rfl idle (owned_by_back free host.token)
  obtain ⟨_, _, _, _, sameOwner⟩ := owned_by_frame (m.contexts.threads teb.thread) host.token
  simp only [tebDestroy, allocated, claimed, bind, Except.bind, ne_eq, not_true_eq_false,
    if_false, set_thread_threads, sameOwner]
  split_ifs with attached owner kept
  · exact .inl ⟨.invalidState, Status.noConfusion, leaves _⟩
  · refine .inl ⟨.memoryMapping, Status.noConfusion, ?_⟩
    simp only [set_thread_store_owner]
    have restored : (tokenOf (reserving (m.contexts.threads teb.thread) host) address).ownedBy 0 =
        m.contexts.threads teb.thread := by
      rw [← owner]
      exact owned_by_back free host.token
    exact @leave_unchanged m host teb.thread
      (tokenOf (reserving (m.contexts.threads teb.thread) host) address) rfl idle restored _
  · refine .inr ⟨address, teb, rfl, ⟨allocated, free, Bool.eq_false_iff.mpr attached, owner⟩, ?_⟩
    obtain ⟨references, count⟩ := Nat.exists_eq_succ_of_ne_zero held
    have kept : (m.setThread teb.thread
        (tokenOf (reserving (m.contexts.threads teb.thread) host) 0)).destroyed teb.process =
          false := alive
    have left := @leave_with (m.setReferences teb.process references) host teb.thread
      (tokenOf (reserving (m.contexts.threads teb.thread) host) 0) rfl idle .ok
    have result : (tokenOf (reserving (m.contexts.threads teb.thread) host) 0).ownedBy 0 =
        tokenOf (m.contexts.threads teb.thread) 0 :=
      congrArg (tokenOf · 0) (owned_by_back free host.token)
    rw [result] at left
    have released := release_process_effect kept count
    rw [set_thread_set_references] at released
    simp only [set_thread_store_owner]
    rw [← reserving, released]
    simp only [left]
    rw [Machine.tebDestroyed, count, Nat.succ_sub_one]
    rfl
  · exact .inl ⟨.invalidState, Status.noConfusion, leaves _⟩

/-! ### Attaching and detaching a TEB -/

/-- The context with a TEB attached. -/
def attachedTo (context : ThreadContext) (teb : Teb) : ThreadContext :=
  { context with
    teb := some teb.bytes
    lastErrorAddress := some teb.lastError }

/-- The machine with a TEB attached to its context. -/
def Machine.attachedTeb (m : Machine) (address : UInt64) (teb : Teb) : Machine :=
  let context := m.contexts.threads teb.thread
  ({ m with memory := storeU32 m.memory teb.lastError context.lastError }.setTeb address
    (some { teb with attached := true })).setThread teb.thread (attachedTo context teb)

/-- The context with no TEB attached, and the last error read back from the TEB. -/
def detachedFrom (context : ThreadContext) (lastError : UInt32) : ThreadContext :=
  { context with
    lastError := lastError
    lastErrorAddress := none
    teb := none }

/-- The machine with a TEB detached from its context. -/
def Machine.detachedTeb (m : Machine) (address : UInt64) (teb : Teb) : Machine :=
  (m.setTeb address (some { teb with attached := false })).setThread teb.thread
    (detachedFrom (m.contexts.threads teb.thread) (loadU32 m.memory teb.lastError))

/-- Attaching is refused with no effect, or attaches a TEB to its own context. -/
theorem attach_teb_effect (tracks : Tracks ledger m.contexts) (host : HostThread)
    (thread teb : Option UInt64)
    (live : ∀ address, teb = some address → ∃ teb, m.tebs address = some teb) :
    (∃ status, status ≠ .ok ∧ threadAttachTeb m host thread teb = .ok (status, m)) ∨
    ∃ address teb', thread = some teb'.thread ∧ teb = some address ∧
      m.tebs address = some teb' ∧ (m.contexts.threads teb'.thread).hostThreadToken = 0 ∧
      (m.contexts.threads teb'.thread).lastErrorAddress = none ∧
      threadAttachTeb m host thread teb = .ok (.ok, m.attachedTeb address teb') := by
  cases thread with
  | none => exact .inl ⟨.invalidArgument, nofun, rfl⟩
  | some thread =>
  cases teb with
  | none => exact .inl ⟨.invalidArgument, nofun, rfl⟩
  | some address =>
  obtain ⟨teb, allocated⟩ := live address rfl
  rcases claim_inactive_effect tracks host thread with refused | ⟨free, idle, claimed⟩
  · refine .inl ⟨.invalidState, nofun, ?_⟩
    simp only [threadAttachTeb, refused]
    rfl
  have leaves := @leave_unchanged m host thread ((m.contexts.threads thread).ownedBy host.token)
    rfl idle (owned_by_back free host.token)
  have there : (m.setThread thread ((m.contexts.threads thread).ownedBy host.token)).tebs address =
      some teb := allocated
  simp only [threadAttachTeb, claimed, bind, Except.bind, ne_eq, not_true_eq_false, if_false, there,
    set_thread_threads]
  split_ifs with wrong
  · exact .inl ⟨.invalidArgument, Status.noConfusion, leaves _⟩
  · obtain ⟨_, own⟩ := not_or.mp wrong
    obtain ⟨sameThread, noTeb⟩ := not_or.mp own
    obtain rfl := not_not.mp sameThread
    obtain ⟨noAddress, _⟩ := not_or.mp (not_or.mp noTeb).2
    have detached : (m.contexts.threads teb.thread).lastErrorAddress = none :=
      Option.not_isSome_iff_eq_none.mp noAddress
    refine .inr ⟨address, teb, rfl, rfl, allocated, free, detached, ?_⟩
    have left := @leave_with ({ m with
      memory := storeU32 m.memory teb.lastError (m.contexts.threads teb.thread).lastError }.setTeb
        address (some { teb with attached := true })) host teb.thread
      (attachedTo ((m.contexts.threads teb.thread).ownedBy host.token) teb) rfl idle .ok
    have result : (attachedTo ((m.contexts.threads teb.thread).ownedBy host.token) teb).ownedBy 0 =
        attachedTo (m.contexts.threads teb.thread) teb :=
      congrArg (attachedTo · teb) (owned_by_back free host.token)
    rw [result] at left
    rw [Machine.attachedTeb, ← left]
    exact congrArg (fun last : Machine =>
      (last.setTeb address (some { teb with attached := true })).leaveWith host teb.thread .ok)
      (set_thread_set_thread { m with
        memory := storeU32 m.memory teb.lastError (m.contexts.threads teb.thread).lastError }
        teb.thread ((m.contexts.threads teb.thread).ownedBy host.token) _)

/-- Detaching is refused with no effect, or detaches a TEB from its own context. -/
theorem detach_teb_effect (tracks : Tracks ledger m.contexts) (host : HostThread)
    (thread teb : Option UInt64)
    (live : ∀ address, teb = some address → ∃ teb, m.tebs address = some teb) :
    (∃ status, status ≠ .ok ∧ threadDetachTeb m host thread teb = .ok (status, m)) ∨
    ∃ address teb', thread = some teb'.thread ∧ teb = some address ∧
      m.tebs address = some teb' ∧ (m.contexts.threads teb'.thread).hostThreadToken = 0 ∧
      (m.contexts.threads teb'.thread).lastErrorAddress = some teb'.lastError ∧
      threadDetachTeb m host thread teb = .ok (.ok, m.detachedTeb address teb') := by
  cases thread with
  | none => exact .inl ⟨.invalidArgument, nofun, rfl⟩
  | some thread =>
  cases teb with
  | none => exact .inl ⟨.invalidArgument, nofun, rfl⟩
  | some address =>
  obtain ⟨teb, allocated⟩ := live address rfl
  rcases claim_inactive_effect tracks host thread with refused | ⟨free, idle, claimed⟩
  · refine .inl ⟨.invalidState, nofun, ?_⟩
    simp only [threadDetachTeb, refused]
    rfl
  have leaves := @leave_unchanged m host thread ((m.contexts.threads thread).ownedBy host.token)
    rfl idle (owned_by_back free host.token)
  have there : (m.setThread thread ((m.contexts.threads thread).ownedBy host.token)).tebs address =
      some teb := allocated
  simp only [threadDetachTeb, claimed, bind, Except.bind, ne_eq, not_true_eq_false, if_false, there,
    set_thread_threads, set_thread_set_thread]
  split_ifs with wrong
  · exact .inl ⟨.invalidState, Status.noConfusion, leaves _⟩
  · obtain ⟨_, own⟩ := not_or.mp wrong
    obtain ⟨sameAddress, own⟩ := not_or.mp own
    obtain rfl := not_not.mp (not_or.mp own).1
    refine .inr ⟨address, teb, rfl, rfl, allocated, free, not_not.mp sameAddress, ?_⟩
    have left := @leave_with (m.setTeb address (some { teb with attached := false })) host
      teb.thread (detachedFrom ((m.contexts.threads teb.thread).ownedBy host.token)
        (loadU32 m.memory teb.lastError)) rfl idle .ok
    have result : (detachedFrom ((m.contexts.threads teb.thread).ownedBy host.token)
        (loadU32 m.memory teb.lastError)).ownedBy 0 =
          detachedFrom (m.contexts.threads teb.thread) (loadU32 m.memory teb.lastError) :=
      congrArg (detachedFrom · (loadU32 m.memory teb.lastError)) (owned_by_back free host.token)
    rw [result] at left
    exact left

end SadLayer.ThreadEnvironment
