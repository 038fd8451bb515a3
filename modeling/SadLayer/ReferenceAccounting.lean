import SadLayer.ScopeDiscipline
import SadLayer.TebPlacement

/-! The references to a process are those of the scopes, TEBs and callers that hold
one, over every run of the operations on contexts, TEBs and processes. The same runs
never lose the last-error value that was set last. -/
namespace SadLayer.ThreadEnvironment
open Contexts

/-- A TEB that was created and not destroyed yet. -/
structure LiveTeb where
  address : UInt64
  process : UInt64
  thread : UInt64
  deriving DecidableEq, Repr

/-- What the calls so far amount to. -/
structure Accounts where
  scopes : Ledger := {}
  tebs : List LiveTeb := []
  /-- The references callers took themselves and did not give back yet. -/
  retains : UInt64 → Nat := fun _ => 0
  /-- The last error that was set for a context. -/
  lastSet : UInt64 → UInt32
  /-- The last error that a host thread set outside any context. -/
  fallbackSet : HostThread → UInt32

/-- How many live TEBs a process has. -/
def Accounts.tebsOf (accounts : Accounts) (process : UInt64) : Nat :=
  accounts.tebs.countP fun live => live.process = process

/-- All that refers to a process. -/
def Accounts.referencesTo (accounts : Accounts) (process : UInt64) : Nat :=
  accounts.scopes.retainedBy process + accounts.tebsOf process + accounts.retains process

/-- Notes a call that succeeded. -/
def Accounts.note (accounts : Accounts) (m : Machine) (host : HostThread) : Op → Accounts
  | .scopes op => { accounts with scopes := accounts.scopes.note m.contexts host op }
  | .tebCreate (some thread) _ _ answers =>
    match answers.allocation, (m.contexts.threads thread).process with
    | some address, some process =>
      { accounts with
        tebs := { address := address, process := process, thread := thread } :: accounts.tebs }
    | _, _ => accounts
  | .tebDestroy (some address) _ =>
    { accounts with tebs := accounts.tebs.filter fun live => live.address ≠ address }
  | .processRetain (some process) =>
    { accounts with
      retains := Function.update accounts.retains process (accounts.retains process + 1) }
  | .processRelease process =>
    { accounts with
      retains := Function.update accounts.retains process (accounts.retains process - 1) }
  | .setLastError error =>
    match contextCurrent m.contexts host with
    | none =>
      { accounts with fallbackSet := Function.update accounts.fallbackSet host error }
    | some thread => { accounts with lastSet := Function.update accounts.lastSet thread error }
  | .storeLastError address error =>
    match m.tebs address with
    | none => accounts
    | some teb =>
      { accounts with lastSet := Function.update accounts.lastSet teb.thread error }
  | _ => accounts

/-- What the accounts say after a call made in a state was answered. -/
def Accounts.record (accounts : Accounts) (m : Machine) (host : HostThread) (op : Op)
    (status : Status) : Accounts :=
  if status = .ok then accounts.note m host op else accounts

/-- What callers owe: they pass no object that was freed, give back only references they took,
and store to the field of a TEB only while it is attached. -/
def Accounts.Allows (accounts : Accounts) (m : Machine) (host : HostThread) : Op → Prop
  | .scopes op => accounts.scopes.Allows host op ∧ ∀ thread scope process,
      op = .enter (some thread) scope →
      (m.contexts.threads thread).process = some process → m.destroyed process = false
  | .tebCreate thread _ _ answers => FreshAnswers m answers ∧ ∀ named process,
      thread = some named →
      (m.contexts.threads named).process = some process → m.destroyed process = false
  | .tebDestroy teb _ | .attachTeb _ teb | .detachTeb _ teb =>
    ∀ address, teb = some address → ∃ live ∈ accounts.tebs, live.address = address
  | .processRetain process | .processDestroy process =>
    ∀ named, process = some named → m.destroyed named = false
  | .processRelease process => 0 < accounts.retains process
  | .setLastError _ => True
  | .storeLastError address _ => ∃ teb, m.tebs address = some teb ∧ teb.attached = true

/-- The machine is what the accounts say it is. -/
structure Accounted (accounts : Accounts) (m : Machine) : Prop where
  tracks : Tracks accounts.scopes m.contexts
  sited : Sited m
  heap : ∀ live, live ∈ accounts.tebs ↔ ∃ teb, m.tebs live.address = some teb ∧
    teb.process = live.process ∧ teb.thread = live.thread
  distinct : (accounts.tebs.map (·.address)).Nodup
  balanced : ∀ process,
    m.contexts.activeReferences process = accounts.referencesTo process
  dead : ∀ process, m.destroyed process = true → accounts.referencesTo process = 0
  visible : ∀ thread, m.visibleLastError thread = accounts.lastSet thread
  fallback : ∀ host, m.fallbackLastError host = accounts.fallbackSet host

variable {accounts : Accounts} {m after : Machine} {host : HostThread} {status : Status}
  {address process : UInt64} {teb : Teb}

theorem Accounted.backed (accounted : Accounted accounts m) :
    Backed accounts.scopes m.contexts := by
  intro process
  rw [accounted.balanced, Accounts.referencesTo, Nat.add_assoc]
  exact Nat.le_add_right ..

/-- A process that something refers to is alive. -/
theorem Accounted.alive (accounted : Accounted accounts m)
    (refers : m.contexts.activeReferences process ≠ 0) : m.destroyed process = false := by
  rw [← Bool.not_eq_true]
  intro dead
  exact refers ((accounted.balanced process).trans (accounted.dead process dead))

/-- The process of a live TEB is alive and referred to. -/
theorem Accounted.live_process (accounted : Accounted accounts m)
    (held : m.tebs address = some teb) : m.destroyed teb.process = false ∧
      m.contexts.activeReferences teb.process ≠ 0 := by
  have live := (accounted.heap ⟨address, teb.process, teb.thread⟩).mpr ⟨teb, held, rfl, rfl⟩
  have counted : 0 < accounts.tebsOf teb.process :=
    List.countP_pos_iff.mpr ⟨_, live, decide_eq_true rfl⟩
  have refers : m.contexts.activeReferences teb.process ≠ 0 := by
    rw [accounted.balanced]
    unfold Accounts.referencesTo
    omega
  exact ⟨accounted.alive refers, refers⟩

theorem Accounted.allocated (accounted : Accounted accounts m) {live : LiveTeb}
    (member : live ∈ accounts.tebs) : ∃ teb, m.tebs live.address = some teb := by
  obtain ⟨teb, held, _⟩ := (accounted.heap live).mp member
  exact ⟨teb, held⟩

theorem Accounted.allocated_if (accounted : Accounted accounts m) {teb : Option UInt64}
    (live : ∀ address, teb = some address → ∃ live ∈ accounts.tebs, live.address = address)
    (address : UInt64) (passed : teb = some address) : ∃ teb, m.tebs address = some teb := by
  obtain ⟨live, member, rfl⟩ := live address passed
  exact accounted.allocated member

/-! ### Scopes -/

theorem same_of_unowned {context last : ThreadContext}
    (same : last.unowned = context.unowned) :
    SameTeb context last ∧ last.lastError = context.lastError :=
  ⟨⟨(congrArg ThreadContext.tebOwnerToken same :), (congrArg ThreadContext.teb same :),
    (congrArg ThreadContext.lastErrorAddress same :)⟩, (congrArg ThreadContext.lastError same :)⟩

/-- A process that no call entered a context of is kept by no scope more than before. -/
theorem effect_retained {ledger noted : Ledger} {s last : State} {op : Contexts.Op}
    (tracks : Tracks ledger s) (effect : Effect ledger s host op last noted)
    (others : ∀ thread scope, op = .enter (some thread) scope →
      (s.threads thread).process ≠ some process) :
    noted.retainedBy process ≤ ledger.retainedBy process := by
  cases effect with
  | @entered _ thread scope fresh claimable =>
    rw [Ledger.retained_by_push, new_scope_retained, if_neg (others thread _ rfl)]
    exact Nat.le_refl _
  | @left active outer stacked =>
    have uppermost : active ∈ ledger.stack active.host := stacked ▸ List.mem_cons_self
    rw [tracks.retained_by_drop (Ledger.mem_stack.mp uppermost).1]
    exact Nat.le_add_right ..
  | claimed => exact Nat.le_refl _
  | released => exact Nat.le_refl _

theorem Accounted.scopes (accounted : Accounted accounts m) {op : Contexts.Op} {last : State}
    {noted : Ledger} (effect : Effect accounts.scopes m.contexts host op last noted)
    (alive : ∀ thread scope process, op = .enter (some thread) scope →
      (m.contexts.threads thread).process = some process → m.destroyed process = false) :
    Accounted { accounts with scopes := noted } { m with contexts := last } where
  tracks := effect_tracks accounted.tracks effect
  sited := accounted.sited.congr rfl fun thread =>
    (same_of_unowned (effect_unowned effect thread)).1
  heap := accounted.heap
  distinct := accounted.distinct
  balanced process := by
    have references := effect_references accounted.tracks accounted.backed effect process
    have before := accounted.balanced process
    unfold Accounts.referencesTo Accounts.tebsOf at before ⊢
    dsimp only
    omega
  dead process gone := by
    have before := accounted.dead process gone
    have fewer : noted.retainedBy process ≤ accounts.scopes.retainedBy process :=
      effect_retained accounted.tracks effect fun thread scope entering named => by
        have lives := alive thread scope process entering named
        rw [show m.destroyed process = true from gone] at lives
        cases lives
    unfold Accounts.referencesTo Accounts.tebsOf at before ⊢
    dsimp only
    omega
  visible thread := by
    obtain ⟨⟨_, _, sameAddress⟩, sameValue⟩ := same_of_unowned (effect_unowned effect thread)
    rw [← accounted.visible thread]
    exact visible_congr sameAddress sameValue fun _ _ => rfl
  fallback := accounted.fallback

/-! ### TEBs -/

theorem tracks_congr {ledger : Ledger} {s last : State} (tracks : Tracks ledger s)
    (sameHosts : last.hosts = s.hosts) (sameScopes : last.scopes = s.scopes)
    (sameOwners : ∀ thread,
      (last.threads thread).hostThreadToken = (s.threads thread).hostThreadToken ∧
      (last.threads thread).activeScopeCount = (s.threads thread).activeScopeCount) :
    Tracks ledger last where
  current host := by rw [sameHosts, tracks.current]
  linked host := by
    rw [sameScopes]
    exact tracks.linked host
  distinct := tracks.distinct
  owned active member := by rw [(sameOwners active.context).1, tracks.owned active member]
  counted context := by rw [(sameOwners context).2, tracks.counted]
  bracketed context host bracket := by
    rw [(sameOwners context).1]
    exact tracks.bracketed context host bracket
  claimed context own := by
    rw [(sameOwners context).1] at own
    exact tracks.claimed context own

/-- Where one context changed, but not its owner and its count. -/
theorem tracks_update {ledger : Ledger} {s last : State} (tracks : Tracks ledger s)
    {thread : UInt64} {context : ThreadContext} (sameHosts : last.hosts = s.hosts)
    (sameScopes : last.scopes = s.scopes)
    (update : last.threads = Function.update s.threads thread context)
    (sameOwner : context.hostThreadToken = (s.threads thread).hostThreadToken)
    (sameCount : context.activeScopeCount = (s.threads thread).activeScopeCount) :
    Tracks ledger last := by
  apply tracks_congr tracks sameHosts sameScopes
  intro other
  rw [update]
  by_cases same : other = thread
  · subst same
    rw [Function.update_self]
    exact ⟨sameOwner, sameCount⟩
  · rw [Function.update_of_ne same]
    exact ⟨rfl, rfl⟩

theorem Accounted.created (accounted : Accounted accounts m) {answers : Answers}
    (creates : Creates m answers address teb) (fresh : FreshAnswers m answers)
    (alive : m.destroyed teb.process = false) (processId : UInt32) :
    Accounted { accounts with
      tebs := { address := address, process := teb.process, thread := teb.thread } ::
        accounts.tebs } (m.created address teb processId) := by
  obtain ⟨_, _, absent⟩ := fresh.object address creates.allocation
  have elsewhere (live : LiveTeb) (member : live ∈ accounts.tebs) : live.address ≠ address := by
    intro same
    obtain ⟨old, held⟩ := accounted.allocated member
    rw [same, absent] at held
    cases held
  have counts (process : UInt64) :
      Accounts.tebsOf { accounts with
        tebs := { address := address, process := teb.process, thread := teb.thread } ::
          accounts.tebs } process =
        accounts.tebsOf process + if teb.process = process then 1 else 0 := by
    simp only [Accounts.tebsOf, List.countP_cons, decide_eq_true_eq]
  have references (process : UInt64) :
      (m.created address teb processId).contexts.activeReferences process =
        m.contexts.activeReferences process + if teb.process = process then 1 else 0 :=
    retained_references m.contexts (some teb.process) process |>.trans (by simp)
  constructor
  case tracks => exact tracks_update accounted.tracks rfl rfl (created_threads ..) rfl rfl
  case sited => exact accounted.sited.created creates fresh
  case heap =>
    intro live
    rw [List.mem_cons, created_tebs]
    by_cases same : live.address = address
    · rw [same, Function.update_self]
      constructor
      · rintro (rfl | member)
        · exact ⟨teb, rfl, rfl, rfl⟩
        · exact absurd same (elsewhere live member)
      · rintro ⟨other, held, ofProcess, ofThread⟩
        cases held
        left
        cases live
        cases same
        cases ofProcess
        cases ofThread
        rfl
    · rw [Function.update_of_ne same, ← accounted.heap live]
      refine ⟨fun listed => listed.resolve_left ?_, .inr⟩
      rintro rfl
      exact same rfl
  case distinct =>
    refine List.nodup_cons.mpr ⟨?_, accounted.distinct⟩
    intro listed
    obtain ⟨live, member, same⟩ := List.mem_map.mp listed
    exact elsewhere live member same
  case balanced =>
    intro process
    have before := accounted.balanced process
    unfold Accounts.referencesTo at before ⊢
    rw [counts, references, before]
    dsimp only
    omega
  case dead =>
    intro process gone
    have before := accounted.dead process gone
    have different : teb.process ≠ process := by
      rintro rfl
      cases alive.symm.trans gone
    rw [Accounts.referencesTo, counts, if_neg different]
    exact before
  case visible =>
    intro thread
    rw [accounted.sited.visible_created creates fresh, accounted.visible]
  case fallback => exact accounted.fallback

theorem Accounted.destroyed (accounted : Accounted accounts m)
    (detachable : Detachable m address teb) :
    Accounted { accounts with tebs := accounts.tebs.filter fun live => live.address ≠ address }
      (m.tebDestroyed address teb) := by
  have member := (accounted.heap ⟨address, teb.process, teb.thread⟩).mpr
    ⟨teb, detachable.allocated, rfl, rfl⟩
  have perm := Library.perm_cons_filter_ne accounted.distinct member
  have counts (process : UInt64) : accounts.tebsOf process =
      Accounts.tebsOf { accounts with
        tebs := accounts.tebs.filter fun live => live.address ≠ address } process +
          if teb.process = process then 1 else 0 := by
    unfold Accounts.tebsOf
    rw [perm.countP_eq, List.countP_cons]
    simp only [decide_eq_true_eq]
  have references (process : UInt64) :
      (m.tebDestroyed address teb).contexts.activeReferences process =
        m.contexts.activeReferences process - if teb.process = process then 1 else 0 :=
    unretained_references m.contexts (some teb.process) process |>.trans (by simp)
  constructor
  case tracks =>
    refine @tracks_update accounts.scopes m.contexts (m.tebDestroyed address teb).contexts
      accounted.tracks teb.thread (tokenOf (m.contexts.threads teb.thread) 0) rfl rfl rfl rfl rfl
  case sited => exact accounted.sited.destroyed detachable
  case heap =>
    intro live
    rw [List.mem_filter, decide_eq_true_iff, accounted.heap live]
    by_cases same : live.address = address
    · rw [same]
      refine ⟨fun listed => absurd rfl listed.2, ?_⟩
      rintro ⟨other, held, _⟩
      cases (Function.update_self ..).symm.trans held
    · have kept : (m.tebDestroyed address teb).tebs live.address = m.tebs live.address :=
        Function.update_of_ne same ..
      rw [kept]
      exact and_iff_left same
  case distinct => exact accounted.distinct.sublist (List.filter_sublist.map _)
  case balanced =>
    intro process
    have before := accounted.balanced process
    have count := counts process
    unfold Accounts.referencesTo at before ⊢
    rw [references, before]
    dsimp only
    omega
  case dead =>
    intro process gone
    have before := accounted.dead process gone
    have count := counts process
    unfold Accounts.referencesTo at before ⊢
    dsimp only
    omega
  case visible =>
    intro thread
    rw [visible_destroyed, accounted.visible]
  case fallback => exact accounted.fallback

/-- Attaching or detaching a TEB moves no references. -/
theorem Accounted.reattached (accounted : Accounted accounts m) {last : Machine} {attached : Bool}
    {context : ThreadContext} (held : m.tebs address = some teb) (sited : Sited last)
    (sameTebs : last.tebs = Function.update m.tebs address (some (teb.attaching attached)))
    (sameContexts : last.contexts = m.contexts.setThread teb.thread context)
    (sameOwner : context.hostThreadToken = (m.contexts.threads teb.thread).hostThreadToken)
    (sameCount : context.activeScopeCount = (m.contexts.threads teb.thread).activeScopeCount)
    (sameDead : last.destroyed = m.destroyed)
    (sameFallback : last.fallbackLastError = m.fallbackLastError)
    (visible : ∀ thread, last.visibleLastError thread = m.visibleLastError thread) :
    Accounted accounts last where
  tracks := by
    rw [sameContexts]
    exact @tracks_update _ m.contexts (m.contexts.setThread teb.thread context) accounted.tracks
      teb.thread context rfl rfl rfl sameOwner sameCount
  sited := sited
  heap live := by
    rw [accounted.heap live, sameTebs]
    by_cases same : live.address = address
    · rw [same, Function.update_self]
      constructor
      · rintro ⟨other, found, rest⟩
        cases held.symm.trans found
        exact ⟨_, rfl, rest⟩
      · rintro ⟨other, found, rest⟩
        cases found
        exact ⟨teb, held, rest⟩
    · rw [Function.update_of_ne same]
  distinct := accounted.distinct
  balanced process := by
    rw [sameContexts]
    exact accounted.balanced process
  dead process gone := accounted.dead process (sameDead ▸ gone)
  visible thread := by rw [visible, accounted.visible]
  fallback thread := by rw [sameFallback, accounted.fallback]

/-! ### Processes -/

/-- The counter of a process follows the references that callers take and give back. -/
theorem Accounted.recounted (accounted : Accounted accounts m)
    (alive : m.destroyed process = false) {references taken : Nat}
    (balance : references + accounts.retains process =
      m.contexts.activeReferences process + taken) :
    Accounted { accounts with retains := Function.update accounts.retains process taken }
      (m.setReferences process references) where
  tracks := tracks_congr accounted.tracks rfl rfl fun _ => ⟨rfl, rfl⟩
  sited := accounted.sited.congr rfl fun _ => ⟨rfl, rfl, rfl⟩
  heap := accounted.heap
  distinct := accounted.distinct
  balanced other := by
    have before := accounted.balanced other
    unfold Accounts.referencesTo Accounts.tebsOf at before ⊢
    by_cases same : other = process
    · subst same
      simp only [Machine.setReferences, State.setReferences, Function.update_self]
      omega
    · simpa only [Machine.setReferences, State.setReferences, Function.update_of_ne same] using before
  dead other gone := by
    have different : other ≠ process := by
      rintro rfl
      cases alive.symm.trans gone
    have before := accounted.dead other gone
    unfold Accounts.referencesTo Accounts.tebsOf at before ⊢
    simpa only [Function.update_of_ne different] using before
  visible := accounted.visible
  fallback := accounted.fallback

theorem Accounted.processDestroyed (accounted : Accounted accounts m)
    (unreferenced : m.contexts.activeReferences process = 0) :
    Accounted accounts { m with destroyed := Function.update m.destroyed process true } where
  tracks := accounted.tracks
  sited := accounted.sited.congr rfl fun _ => ⟨rfl, rfl, rfl⟩
  heap := accounted.heap
  distinct := accounted.distinct
  balanced := accounted.balanced
  dead other gone := by
    by_cases same : other = process
    · subst same
      rw [← accounted.balanced, unreferenced]
    · exact accounted.dead other ((Function.update_of_ne same ..).symm.trans gone)
  visible := accounted.visible
  fallback := accounted.fallback

/-! ### Last errors -/

/-- Setting a last error changes nothing else. -/
theorem set_last_error_frame (m : Machine) (host : HostThread) (error : UInt32) :
    let last := setLastError m host error
    last.tebs = m.tebs ∧ last.destroyed = m.destroyed ∧
    last.contexts.hosts = m.contexts.hosts ∧ last.contexts.scopes = m.contexts.scopes ∧
    last.contexts.activeReferences = m.contexts.activeReferences ∧
    ∀ thread, ∃ lastError, last.contexts.threads thread =
      { m.contexts.threads thread with lastError := lastError } := by
  intro last
  have same (thread : UInt64) : m.contexts.threads thread =
      { m.contexts.threads thread with lastError := (m.contexts.threads thread).lastError } := rfl
  cases current : contextCurrent m.contexts host with
  | none =>
    have set : last = { m with
        fallbackLastError := Function.update m.fallbackLastError host error } := by
      simp only [last, setLastError, current]
    rw [set]
    exact ⟨rfl, rfl, rfl, rfl, rfl, fun thread => ⟨_, same thread⟩⟩
  | some running =>
    cases holds : (m.contexts.threads running).lastErrorAddress with
    | none =>
      have set : last = m.setThread running
          { m.contexts.threads running with lastError := error } := by
        simp only [last, setLastError, current, holds]
      rw [set]
      refine ⟨rfl, rfl, rfl, rfl, rfl, ?_⟩
      intro thread
      by_cases here : thread = running
      · subst here
        exact ⟨error, set_thread_threads ..⟩
      · exact ⟨(m.contexts.threads thread).lastError, Function.update_of_ne here ..⟩
    | some place =>
      have set : last = { m with memory := storeU32 m.memory place error } := by
        simp only [last, setLastError, current, holds]
      rw [set]
      exact ⟨rfl, rfl, rfl, rfl, rfl, fun thread => ⟨_, same thread⟩⟩

theorem Accounted.lastErrorSet (accounted : Accounted accounts m) {last : Machine}
    {lastSet : UInt64 → UInt32} {fallbackSet : HostThread → UInt32} (sameTebs : last.tebs = m.tebs)
    (sameDead : last.destroyed = m.destroyed)
    (sameHosts : last.contexts.hosts = m.contexts.hosts)
    (sameScopes : last.contexts.scopes = m.contexts.scopes)
    (sameReferences : last.contexts.activeReferences = m.contexts.activeReferences)
    (sameContexts : ∀ thread, ∃ lastError, last.contexts.threads thread =
      { m.contexts.threads thread with lastError := lastError })
    (visible : ∀ thread, last.visibleLastError thread = lastSet thread)
    (fallback : ∀ host, last.fallbackLastError host = fallbackSet host) :
    Accounted { accounts with lastSet := lastSet, fallbackSet := fallbackSet } last where
  tracks := by
    apply tracks_congr accounted.tracks sameHosts sameScopes
    intro thread
    obtain ⟨lastError, same⟩ := sameContexts thread
    rw [same]
    exact ⟨rfl, rfl⟩
  sited := by
    apply accounted.sited.congr sameTebs
    intro thread
    obtain ⟨lastError, same⟩ := sameContexts thread
    rw [same]
    exact ⟨rfl, rfl, rfl⟩
  heap live := by
    rw [sameTebs]
    exact accounted.heap live
  distinct := accounted.distinct
  balanced process := by
    rw [sameReferences]
    exact accounted.balanced process
  dead process gone := accounted.dead process (sameDead ▸ gone)
  visible := visible
  fallback := fallback

theorem Accounted.setLastError (accounted : Accounted accounts m) (host : HostThread)
    (error : UInt32) :
    Accounted (accounts.note m host (.setLastError error)) (setLastError m host error) := by
  obtain ⟨tebs, dead, hosts, scopes, references, contexts⟩ := set_last_error_frame m host error
  have visible := accounted.sited.visible_set host error
  unfold Accounts.note
  cases current : contextCurrent m.contexts host with
  | none =>
    refine accounted.lastErrorSet tebs dead hosts scopes references contexts ?_ ?_
    · intro thread
      rw [visible, current, if_neg nofun, accounted.visible]
    · intro other
      simp only [ThreadEnvironment.setLastError, current]
      rw [funext accounted.fallback]
  | some running =>
    refine accounted.lastErrorSet tebs dead hosts scopes references contexts ?_ ?_
    · intro thread
      rw [visible, current]
      by_cases same : running = thread
      · subst same
        rw [if_pos rfl, Function.update_self]
      · rw [if_neg fun equal => same (Option.some.inj equal), Function.update_of_ne (Ne.symm same),
          accounted.visible]
    · intro other
      rw [← accounted.fallback]
      simp only [ThreadEnvironment.setLastError, current]
      split <;> rfl

theorem Accounted.storeLastError (accounted : Accounted accounts m)
    (held : m.tebs address = some teb) (isAttached : teb.attached = true) (error : UInt32) :
    Accounted { accounts with lastSet := Function.update accounts.lastSet teb.thread error }
      { m with memory := storeU32 m.memory teb.lastError error } := by
  refine accounted.lastErrorSet rfl rfl rfl rfl rfl (fun _ => ⟨_, rfl⟩) ?_ accounted.fallback
  intro thread
  rw [accounted.sited.visible_stored held isAttached]
  by_cases same : thread = teb.thread
  · rw [if_pos same, same, Function.update_self]
  · rw [if_neg same, Function.update_of_ne same, accounted.visible]

/-! ### Runs of calls -/

/-- A call returns: refused with no effect, or successful and accounted for. -/
def Accounts.Returns (accounts : Accounts) (m : Machine) (host : HostThread) (op : Op) : Prop :=
  (∃ status, status ≠ .ok ∧ perform m host op = .ok (status, m)) ∨
  ∃ after, perform m host op = .ok (.ok, after) ∧ Accounted (accounts.note m host op) after

theorem Accounted.process_retain (accounted : Accounted accounts m) {process : Option UInt64}
    (alive : ∀ named, process = some named → m.destroyed named = false) :
    accounts.Returns m host (.processRetain process) := by
  cases process with
  | none => exact .inl ⟨.invalidArgument, nofun, rfl⟩
  | some process =>
    have lives := alive process rfl
    by_cases full : m.contexts.activeReferences process = uint32Max
    · refine .inl ⟨.invalidState, nofun, ?_⟩
      simp only [perform, processRetainBy, lives, Contexts.processRetain, if_pos full,
        Bool.false_eq_true, if_false]
    · have balance : m.contexts.activeReferences process + 1 + accounts.retains process =
          m.contexts.activeReferences process + (accounts.retains process + 1) := by omega
      refine .inr ⟨_, ?_, accounted.recounted lives balance⟩
      simp only [perform, processRetainBy, lives, Contexts.processRetain, if_neg full,
        Bool.false_eq_true, if_false]

theorem Accounted.process_release (accounted : Accounted accounts m) {process : UInt64}
    (taken : 0 < accounts.retains process) :
    accounts.Returns m host (.processRelease process) := by
  have refers : m.contexts.activeReferences process ≠ 0 := by
    have before := accounted.balanced process
    unfold Accounts.referencesTo at before
    omega
  obtain ⟨references, count⟩ := Nat.exists_eq_succ_of_ne_zero refers
  have balance : references + accounts.retains process =
      m.contexts.activeReferences process + (accounts.retains process - 1) := by omega
  refine .inr ⟨_, ?_, accounted.recounted (accounted.alive refers) balance⟩
  simp only [perform, release_process_effect (accounted.alive refers) count]
  rfl

theorem Accounted.process_destroy (accounted : Accounted accounts m) {process : Option UInt64}
    (alive : ∀ named, process = some named → m.destroyed named = false) :
    accounts.Returns m host (.processDestroy process) := by
  cases process with
  | none => exact .inl ⟨.invalidArgument, nofun, rfl⟩
  | some process =>
    have lives := alive process rfl
    by_cases refers : m.contexts.activeReferences process = 0
    · refine .inr ⟨_, ?_, accounted.processDestroyed refers⟩
      simp only [perform, ThreadEnvironment.processDestroy, lives, Bool.false_eq_true, if_false,
        refers, ne_eq, not_true_eq_false]
    · refine .inl ⟨.invalidState, nofun, ?_⟩
      simp only [perform, ThreadEnvironment.processDestroy, lives, Bool.false_eq_true, if_false,
        refers, ne_eq, not_false_eq_true, if_true]

/-- Every allowed call returns. -/
theorem perform_accounted (accounted : Accounted accounts m) {op : Op}
    (allowed : accounts.Allows m host op) : accounts.Returns m host op := by
  cases op with
  | scopes op =>
    obtain ⟨allows, alive⟩ := allowed
    rcases perform_effect accounted.tracks accounted.backed allows with
      ⟨status, refused, unchanged⟩ | ⟨last, performed, effect⟩
    · refine .inl ⟨status, refused, ?_⟩
      simp only [perform, unchanged]
      rfl
    · refine .inr ⟨{ m with contexts := last }, ?_, accounted.scopes effect
        fun thread scope process entering => alive thread scope process entering⟩
      simp only [perform, performed]
      rfl
  | tebCreate thread stackLimit stackBase answers =>
    obtain ⟨fresh, alive⟩ := allowed
    rcases teb_create_effect accounted.tracks host thread stackLimit stackBase answers alive
      (fun address allocated => (fresh.object address allocated).2.2) with
      refused | ⟨address, teb, rfl, _, creates, created⟩
    · exact .inl refused
    · refine .inr ⟨_, created, ?_⟩
      simp only [Accounts.note, creates.allocation, creates.process]
      exact accounted.created creates fresh (alive _ _ rfl creates.process) answers.processId
  | tebDestroy teb unmaps =>
    have live (address : UInt64) (passed : teb = some address) : ∃ old, m.tebs address = some old ∧
        m.destroyed old.process = false ∧ m.contexts.activeReferences old.process ≠ 0 := by
      obtain ⟨old, held⟩ := accounted.allocated_if allowed address passed
      exact ⟨old, held, accounted.live_process held⟩
    rcases teb_destroy_effect accounted.tracks host teb unmaps live with
      refused | ⟨address, old, rfl, detachable, destroyed⟩
    · exact .inl refused
    · exact .inr ⟨_, destroyed, accounted.destroyed detachable⟩
  | attachTeb thread teb =>
    rcases attach_teb_effect accounted.tracks host thread teb
      (accounted.allocated_if allowed) with
      refused | ⟨address, old, rfl, rfl, held, _, detached, attached⟩
    · exact .inl refused
    · have sited : Sited (m.attachedTeb address old) :=
        @Sited.reattached m address old accounted.sited _ true _ held rfl rfl rfl ⟨rfl, rfl⟩
      exact .inr ⟨_, attached, @Accounted.reattached accounts m address old accounted _ true _ held
        sited rfl rfl rfl rfl rfl rfl (accounted.sited.visible_attached held detached)⟩
  | detachTeb thread teb =>
    rcases detach_teb_effect accounted.tracks host thread teb
      (accounted.allocated_if allowed) with
      refused | ⟨address, old, rfl, rfl, held, _, holds, detached⟩
    · exact .inl refused
    · have sited : Sited (m.detachedTeb address old) :=
        @Sited.reattached m address old accounted.sited _ false _ held rfl rfl rfl rfl
      exact .inr ⟨_, detached, @Accounted.reattached accounts m address old accounted _ false _
        held sited rfl rfl rfl rfl rfl rfl (visible_detached holds address)⟩
  | processRetain process => exact accounted.process_retain allowed
  | processRelease process => exact accounted.process_release allowed
  | processDestroy process => exact accounted.process_destroy allowed
  | setLastError error => exact .inr ⟨_, rfl, accounted.setLastError host error⟩
  | storeLastError address error =>
    obtain ⟨teb, held, isAttached⟩ := allowed
    refine .inr ⟨{ m with memory := storeU32 m.memory teb.lastError error }, ?_, ?_⟩
    · simp only [perform, held]
    · simp only [Accounts.note, held]
      exact accounted.storeLastError held isAttached error

/-- One call of a host thread. -/
inductive Step : Machine × Accounts → Machine × Accounts → Prop
  | call {accounts : Accounts} {m after : Machine} {host : HostThread} {op : Op} {status : Status}
      (allowed : accounts.Allows m host op) (returned : perform m host op = .ok (status, after)) :
      Step (m, accounts) (after, accounts.record m host op status)

/-- The accounts before the first call. -/
def Machine.opening (m : Machine) : Accounts :=
  { lastSet := fun thread => (m.contexts.threads thread).lastError
    fallbackSet := m.fallbackLastError }

/-- What calls of any host threads lead to. -/
def Reached (start m : Machine) (accounts : Accounts) : Prop :=
  Relation.ReflTransGen Step (start, start.opening) (m, accounts)

/-- Processes and contexts that nothing refers to yet. -/
structure Machine.Fresh (m : Machine) : Prop where
  idle : m.contexts.Idle
  unreferenced : ∀ process, m.contexts.activeReferences process = 0
  noTebs : ∀ address, m.tebs address = none
  unowned : ∀ thread, (m.contexts.threads thread).tebOwnerToken = 0
  detached : ∀ thread, (m.contexts.threads thread).lastErrorAddress = none

theorem Machine.Fresh.accounted (fresh : m.Fresh) : Accounted m.opening m where
  tracks := fresh.idle.tracks
  sited :=
    { owner := fun address _ held => by rw [fresh.noTebs] at held; cases held
      owned := fun thread owns => absurd (fresh.unowned thread) owns
      attached := fun address _ held => by rw [fresh.noTebs] at held; cases held
      holder := fun thread _ holds => by rw [fresh.detached] at holds; cases holds
      placed := fun address _ held => by rw [fresh.noTebs] at held; cases held
      apart := fun first _ _ _ _ held => by rw [fresh.noTebs] at held; cases held }
  heap live := by
    refine ⟨fun listed => absurd listed List.not_mem_nil, ?_⟩
    rintro ⟨teb, held, _⟩
    rw [fresh.noTebs] at held
    cases held
  distinct := List.nodup_nil
  balanced := fresh.unreferenced
  dead _ _ := rfl
  visible thread := visible_in_context (fresh.detached thread)
  fallback _ := rfl

theorem reached_accounted {start : Machine} (fresh : start.Fresh)
    (reached : Reached start m accounts) : Accounted accounts m := by
  unfold Reached at reached
  generalize last : (m, accounts) = final at reached
  induction reached generalizing m accounts with
  | refl =>
    cases last
    exact fresh.accounted
  | tail _ step ih =>
    cases step with
    | call allowed returned =>
      cases last
      rcases perform_accounted (ih rfl) allowed with
        ⟨refusal, refused, unchanged⟩ | ⟨result, performed, accounted⟩
      · cases unchanged.symm.trans returned
        rw [Accounts.record, if_neg refused]
        exact ih rfl
      · cases performed.symm.trans returned
        rw [Accounts.record, if_pos rfl]
        exact accounted

theorem process_destroy_iff (accounted : Accounted accounts m)
    (alive : m.destroyed process = false) (host : HostThread) :
    (∃ after, perform m host (.processDestroy (some process)) = .ok (.ok, after)) ↔
      accounts.scopes.retainedBy process = 0 ∧ accounts.tebsOf process = 0 ∧
        accounts.retains process = 0 := by
  have balanced := accounted.balanced process
  unfold Accounts.referencesTo at balanced
  simp only [perform, processDestroy, alive, Bool.false_eq_true, if_false]
  by_cases refers : m.contexts.activeReferences process = 0
  · rw [if_neg (not_not.mpr refers)]
    exact ⟨fun _ => by omega, fun _ => ⟨_, rfl⟩⟩
  · rw [if_pos refers]
    refine ⟨?_, fun nothing => by omega⟩
    rintro ⟨after, refused⟩
    cases refused

/-- Over every run the references to a process are those of its active scopes, its live TEBs and
the callers that retained it, so that it can be destroyed when none of them is left. A context has
one TEB at most, which its token names; a call that fails changes nothing; and the last error of
a context is the one set last, wherever it is kept, as is that of a host thread outside any. -/
theorem process_and_teb_accounting {start : Machine} (fresh : start.Fresh)
    (reached : Reached start m accounts) :
    Disciplined accounts.scopes m.contexts ∧
    (∀ process, m.contexts.activeReferences process = accounts.scopes.retainedBy process +
      accounts.tebsOf process + accounts.retains process) ∧
    (∀ host process, m.destroyed process = false →
      ((∃ after, perform m host (.processDestroy (some process)) = .ok (.ok, after)) ↔
        accounts.scopes.retainedBy process = 0 ∧ accounts.tebsOf process = 0 ∧
          accounts.retains process = 0)) ∧
    (∀ process, m.destroyed process = true → accounts.referencesTo process = 0) ∧
    (∀ first ∈ accounts.tebs, ∀ second ∈ accounts.tebs, first.thread = second.thread →
      first = second) ∧
    (∀ thread, ((m.contexts.threads thread).tebOwnerToken = 0 ∧
        ∀ live ∈ accounts.tebs, live.thread ≠ thread) ∨
      ∃ live ∈ accounts.tebs, live.thread = thread ∧
        (m.contexts.threads thread).tebOwnerToken = live.address) ∧
    (∀ host op, accounts.Allows m host op → ∃ status after,
      perform m host op = .ok (status, after) ∧ (status ≠ .ok → after = m)) ∧
    (∀ thread, m.visibleLastError thread = accounts.lastSet thread) ∧
    ∀ host, getLastError m host =
      match contextCurrent m.contexts host with
      | none => accounts.fallbackSet host
      | some thread => accounts.lastSet thread := by
  have accounted := reached_accounted fresh reached
  refine ⟨accounted.tracks.disciplined, accounted.balanced,
    fun host process alive => process_destroy_iff accounted alive host, accounted.dead, ?oneTeb,
    ?token, ?returns, accounted.visible, ?current⟩
  case oneTeb =>
    intro first listed second listed' same
    obtain ⟨teb, held, ofProcess, ofThread⟩ := (accounted.heap first).mp listed
    obtain ⟨other, held', ofProcess', ofThread'⟩ := (accounted.heap second).mp listed'
    have address := accounted.sited.one_teb held held' (by rw [ofThread, ofThread', same])
    rw [address] at held
    cases held.symm.trans held'
    cases first
    cases second
    cases address
    cases same
    cases ofProcess
    cases ofProcess'
    rfl
  case token =>
    intro thread
    by_cases owned : (m.contexts.threads thread).tebOwnerToken = 0
    · refine .inl ⟨owned, ?_⟩
      rintro live listed rfl
      obtain ⟨teb, held, _, ofThread⟩ := (accounted.heap live).mp listed
      obtain ⟨token, nonzero⟩ := accounted.sited.owner live.address teb held
      rw [ofThread, owned] at token
      exact nonzero token.symm
    · obtain ⟨teb, held, ofThread⟩ := accounted.sited.owned thread owned
      exact .inr ⟨⟨_, teb.process, teb.thread⟩,
        (accounted.heap _).mpr ⟨teb, held, rfl, rfl⟩, ofThread, rfl⟩
  case returns =>
    intro host op allowed
    rcases perform_accounted accounted allowed with
      ⟨status, refused, unchanged⟩ | ⟨after, performed, _⟩
    · exact ⟨status, m, unchanged, fun _ => rfl⟩
    · exact ⟨.ok, after, performed, fun refused => absurd rfl refused⟩
  case current =>
    intro host
    unfold getLastError
    cases contextCurrent m.contexts host with
    | none => exact accounted.fallback host
    | some thread => exact accounted.visible thread

/-! ### One TEB and one scope -/

/-- A thread of one process that nothing refers to yet; its last error is thirty. -/
def configured : Machine :=
  { contexts :=
      { zeroed with threads := fun _ => { process := some 64, threadId := 20, lastError := 30 } }
    tebs := fun _ => none
    memory := fun _ => 0
    destroyed := fun _ => false
    peb := fun _ => 0x9000
    fallbackLastError := fun _ => 0 }

theorem configured_fresh : configured.Fresh :=
  ⟨⟨fun _ => rfl, fun _ => rfl, fun _ => rfl⟩, fun _ => rfl, fun _ => rfl, fun _ => rfl,
    fun _ => rfl⟩

def granted : Answers :=
  { pageSize := 4096
    allocation := some 0x7000
    mapping := some 0x100000
    protects := true
    processId := 77 }

/-- What a call of the first host thread leads to, when it succeeds. -/
def succeeded (before : Machine × Accounts) (op : Op) : Machine × Accounts :=
  match perform before.1 firstHost op with
  | .ok (_, last) => (last, before.2.note before.1 firstHost op)
  | .error _ => before

theorem step_succeeded {before : Machine × Accounts} {op : Op}
    (allowed : before.2.Allows before.1 firstHost op)
    (returned : perform before.1 firstHost op = .ok (.ok, (succeeded before op).1))
    (noted : (succeeded before op).2 = before.2.note before.1 firstHost op) :
    Step before (succeeded before op) := by
  have step := @Step.call before.2 before.1 _ firstHost op .ok allowed returned
  rwa [Accounts.record, if_pos rfl, ← noted] at step

def withTeb : Machine × Accounts :=
  succeeded (configured, configured.opening) (.tebCreate (some 7) 0x10 0x20 granted)

def withAttached : Machine × Accounts := succeeded withTeb (.attachTeb (some 7) (some 0x7000))

def withScope : Machine × Accounts := succeeded withAttached (.scopes (.enter (some 7) (some 20)))

def withError : Machine × Accounts := succeeded withScope (.setLastError 99)

theorem error_reached : Reached configured withError.1 withError.2 := by
  have created : Step (configured, configured.opening) withTeb :=
    step_succeeded ⟨⟨by rintro _ ⟨⟩; decide, fun _ _ _ _ held => by cases held⟩, fun _ _ _ _ => rfl⟩
      rfl rfl
  have attached : Step withTeb withAttached :=
    step_succeeded (by rintro _ ⟨⟩; exact ⟨_, List.mem_cons_self, rfl⟩) rfl rfl
  have entered : Step withAttached withScope :=
    step_succeeded ⟨⟨fun _ member => absurd member List.not_mem_nil, fun _ _ _ held => by cases held⟩,
      fun _ _ _ _ _ => rfl⟩ rfl rfl
  have set : Step withScope withError := step_succeeded trivial rfl rfl
  exact (((Relation.ReflTransGen.single created).tail attached).tail entered).tail set

/-- Its TEB and its scope keep the process alive, and the attached TEB has the new last error. -/
theorem process_and_teb_accounting_of_calls :
    withError.1.contexts.activeReferences 64 = 2 ∧ withError.2.retains 64 = 0 ∧
      withError.1.visibleLastError 7 = 99 ∧ getLastError withError.1 firstHost = 99 := by
  obtain ⟨_, references, _, _, _, _, _, visible, current⟩ :=
    process_and_teb_accounting configured_fresh error_reached
  exact ⟨(references 64).trans rfl, rfl, (visible 7).trans rfl, (current firstHost).trans rfl⟩

end SadLayer.ThreadEnvironment
