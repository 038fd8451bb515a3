import SadLayer.ScopeLedger

/-! What each call on scopes and contexts does to a state that its ledger describes,
and that the ledger, once it has noted the call, describes the state it leads to. -/
namespace SadLayer.Contexts

variable {ledger : Ledger} {s after : State} {host : HostThread} {context scope : UInt64}

/-! ### What each call does -/

/-- A context with one more scope of a host thread. -/
def ThreadContext.claimedBy (thread : ThreadContext) (host : HostThread) : ThreadContext :=
  { thread with
    hostThreadToken := host.token
    activeScopeCount := thread.activeScopeCount + 1 }

/-- Takes a reference to the process, if there is one. -/
def State.retained (s : State) : Option UInt64 → State
  | none => s
  | some process => s.setReferences process (s.activeReferences process + 1)

/-- What entering a scope comes to when nothing speaks against it. -/
def State.entered (s : State) (host : HostThread) (context scope : UInt64) : State :=
  ((s.setThread context ((s.threads context).claimedBy host)).retained
    (s.threads context).process).install host context scope (s.threads context).process

/-- Where an active context counts a scope, and an inactive one none. -/
def ThreadContext.Claimable (thread : ThreadContext) (host : HostThread) : Prop :=
  (thread.hostThreadToken = 0 ∧ thread.activeScopeCount = 0) ∨
    (thread.hostThreadToken = host.token ∧ thread.activeScopeCount ≠ 0)

theorem claim_thread_context_cases {thread : ThreadContext}
    (idle : thread.hostThreadToken = 0 → thread.activeScopeCount = 0)
    (held : thread.hostThreadToken = host.token → thread.activeScopeCount ≠ 0) :
    claimThreadContext thread host = .error .invalidState ∨
    (claimThreadContext thread host = .ok (thread.claimedBy host) ∧ thread.Claimable host) := by
  unfold claimThreadContext
  split_ifs with free foreign full
  · right
    refine ⟨?_, .inl ⟨free, idle free⟩⟩
    rw [ThreadContext.claimedBy, idle free]
  · exact .inl rfl
  · exact .inl rfl
  · have own := not_not.mp foreign
    right
    refine ⟨?_, .inr ⟨own, held own⟩⟩
    rw [ThreadContext.claimedBy, ← own]

/-- Releasing a claim gives the context back as it was. -/
theorem release_claimed {thread : ThreadContext} (claimable : thread.Claimable host) :
    releaseThreadContext (thread.claimedBy host) host = .ok thread := by
  unfold releaseThreadContext ThreadContext.claimedBy
  rw [if_neg (by simp)]
  rcases claimable with ⟨token, count⟩ | ⟨token, count⟩
  · simp only [count, Nat.zero_add, Nat.sub_self, if_true, ← token]
    rw [← count]
  · simp only [Nat.add_sub_cancel, if_neg count, ← token]

theorem set_thread_back (s : State) (context : UInt64) (thread : ThreadContext) :
    (s.setThread context thread).setThread context (s.threads context) = s := by
  unfold State.setThread
  rw [Function.update_idem, Function.update_eq_self]

/-- Entering a scope is refused with no effect, or enters it. -/
theorem context_enter_effect (tracks : Tracks ledger s) (thread scope : Option UInt64)
    (outside : ∀ context, thread = some context → ledger.brackets context ≠ some host) :
    (∃ status, status ≠ .ok ∧ contextEnter s host thread scope = .ok (status, s)) ∨
    ∃ context address, thread = some context ∧ scope = some address ∧
      address ∉ (ledger.stack host).map (·.scope) ∧ (s.threads context).Claimable host ∧
      contextEnter s host thread scope = .ok (.ok, s.entered host context address) := by
  cases thread with
  | none => exact .inl ⟨.invalidArgument, nofun, rfl⟩
  | some context =>
  cases scope with
  | none => exact .inl ⟨.invalidArgument, nofun, rfl⟩
  | some address =>
  have search := tracks.scope_is_active host address
  by_cases active : address ∈ (ledger.stack host).map (·.scope)
  · rw [decide_eq_true active] at search
    exact .inl ⟨.invalidState, nofun, by simp only [contextEnter, search]⟩
  · rw [decide_eq_false active] at search
    have idle : (s.threads context).hostThreadToken = 0 →
        (s.threads context).activeScopeCount = 0 := by
      intro free
      rw [tracks.counted, tracks.unclaimed free]
    have held : (s.threads context).hostThreadToken = host.token →
        (s.threads context).activeScopeCount ≠ 0 := by
      intro own
      rw [tracks.counted]
      exact tracks.active_of_owned (outside context rfl) own
    rcases claim_thread_context_cases idle held with refused | ⟨claimed, claimable⟩
    · exact .inl ⟨.invalidState, nofun, by simp only [contextEnter, search, refused]⟩
    · cases process : (s.threads context).process with
      | none =>
        refine .inr ⟨context, address, rfl, rfl, active, claimable, ?_⟩
        simp only [contextEnter, search, claimed, ThreadContext.claimedBy, process, State.entered,
          State.retained]
      | some retained =>
        by_cases full : s.activeReferences retained = uint32Max
        · refine .inl ⟨.invalidState, nofun, ?_⟩
          have kept : ((s.threads context).claimedBy host).process = some retained := process
          simp only [contextEnter, search, claimed, kept, processRetain, if_pos full,
            release_claimed claimable]
          exact congrArg (fun restored => Except.ok (Status.invalidState, restored))
            (set_thread_back s context _)
        · refine .inr ⟨context, address, rfl, rfl, active, claimable, ?_⟩
          simp only [contextEnter, search, claimed, ThreadContext.claimedBy, process,
            processRetain, if_neg full, State.entered, State.retained]
          rfl

/-- A context with one scope less. -/
def ThreadContext.released (thread : ThreadContext) : ThreadContext :=
  { thread with
    activeScopeCount := thread.activeScopeCount - 1
    hostThreadToken :=
      if thread.activeScopeCount - 1 = 0 then 0 else thread.hostThreadToken }

/-- Gives back a reference to the process, if there is one. -/
def State.unretained (s : State) : Option UInt64 → State
  | none => s
  | some process => s.setReferences process (s.activeReferences process - 1)

/-- What leaving the scope of an active scope comes to. -/
def State.exited (s : State) (active : ActiveScope) : State :=
  (({ s with
      hosts := Function.update s.hosts active.host active.before
      scopes := Function.update s.scopes active.scope {} } : State).unretained
    active.retained).setThread active.context (s.threads active.context).released

theorem release_thread_context_ok {thread : ThreadContext} (own : thread.hostThreadToken = host.token)
    (counts : thread.activeScopeCount ≠ 0) :
    releaseThreadContext thread host = .ok thread.released := by
  unfold releaseThreadContext
  rw [if_neg fun refused => refused.elim counts fun foreign => foreign own]
  rfl

theorem release_process_ok {retained : Option UInt64}
    (backed : ∀ process, retained = some process → s.activeReferences process ≠ 0) :
    s.releaseProcess retained = .ok (s.unretained retained) := by
  cases retained with
  | none => rfl
  | some process =>
    simp only [State.releaseProcess, processRelease, if_neg (backed process rfl)]
    rfl

/-- Giving back a reference to a process leaves contexts, scopes and host threads. -/
theorem unretained_frame (s : State) (process : Option UInt64) :
    (s.unretained process).threads = s.threads ∧ (s.unretained process).scopes = s.scopes ∧
      (s.unretained process).hosts = s.hosts := by
  cases process <;> exact ⟨rfl, rfl, rfl⟩

/-- Leaving the innermost scope of a host thread. -/
theorem context_leave_ok {active : ActiveScope}
    (current : s.hosts active.host = top (active :: outer))
    (contents : s.scopes active.scope = active.contents)
    (owned : (s.threads active.context).hostThreadToken = active.host.token)
    (counts : (s.threads active.context).activeScopeCount ≠ 0)
    (backed : ∀ process, active.retained = some process → s.activeReferences process ≠ 0) :
    contextLeave s active.host (some active.scope) = .ok (.ok, s.exited active) := by
  have uninstalled : s.uninstall active.host active.scope =
      { s with
        hosts := Function.update s.hosts active.host active.before
        scopes := Function.update s.scopes active.scope {} } := by
    rw [State.uninstall, contents]
    rfl
  have left : (s.uninstall active.host active.scope).releaseProcess active.retained =
      .ok ((s.uninstall active.host active.scope).unretained active.retained) :=
    release_process_ok backed
  have same : ((s.uninstall active.host active.scope).unretained active.retained).threads =
      s.threads := (unretained_frame _ _).1
  have released := release_thread_context_ok owned counts
  rw [← same] at released
  rw [contextLeave, current, top, if_neg (not_not.mpr rfl)]
  simp only [contents, ActiveScope.contents]
  rw [if_neg (not_or.mpr ⟨not_not.mpr rfl, not_not.mpr owned⟩), left, State.exited, ← uninstalled,
    ← same]
  simp only [bind, Except.bind, released]
  rfl

/-- Leaving a scope is refused with no effect, or leaves the innermost scope. -/
theorem context_leave_effect (tracks : Tracks ledger s) (backed : Backed ledger s)
    (host : HostThread) (scope : Option UInt64) :
    (contextLeave s host scope = .ok (.invalidArgument, s) ∧
      ∀ active outer, ledger.stack host = active :: outer → scope ≠ some active.scope) ∨
    ∃ active outer, ledger.stack host = active :: outer ∧ scope = some active.scope ∧
      contextLeave s host scope = .ok (.ok, s.exited active) := by
  have current := tracks.current host
  cases scope with
  | none => exact .inl ⟨rfl, nofun⟩
  | some address =>
    cases stacked : ledger.stack host with
    | nil =>
      rw [stacked] at current
      refine .inl ⟨?_, nofun⟩
      rw [contextLeave, current, if_pos nofun]
    | cons active outer =>
      rw [stacked] at current
      by_cases innermost : address = active.scope
      · subst innermost
        have linked := tracks.linked host
        rw [stacked] at linked
        have uppermost : active ∈ ledger.stack host := stacked ▸ List.mem_cons_self
        obtain ⟨member, rfl⟩ := Ledger.mem_stack.mp uppermost
        have counts : (s.threads active.context).activeScopeCount ≠ 0 := by
          rw [tracks.counted]
          exact Ledger.scopes_of_ne_zero.mpr ⟨active, member, rfl⟩
        exact .inr ⟨active, outer, rfl, rfl, context_leave_ok current linked.2.1
          (tracks.owned active member) counts fun _ => backed.retained_pos member⟩
      · refine .inl ⟨?_, ?_⟩
        · rw [contextLeave, current, if_pos]
          exact fun same => innermost (Option.some.inj same).symm
        · intro other rest same
          cases same
          exact fun same => innermost (Option.some.inj same)

/-- Claiming an inactive context is refused with no effect, or opens a bracket. -/
theorem context_claim_inactive_effect (tracks : Tracks ledger s) (host : HostThread)
    (thread : Option UInt64) :
    (∃ status, status ≠ .ok ∧ contextClaimInactive s host thread = .ok (status, s)) ∨
    ∃ context, thread = some context ∧ (s.threads context).hostThreadToken = 0 ∧
      contextClaimInactive s host thread = .ok (.ok,
        s.setThread context { s.threads context with hostThreadToken := host.token }) := by
  cases thread with
  | none => exact .inl ⟨.invalidArgument, nofun, rfl⟩
  | some context =>
    by_cases free : (s.threads context).hostThreadToken = 0
    · have idle : (s.threads context).activeScopeCount = 0 := by
        rw [tracks.counted, tracks.unclaimed free]
      refine .inr ⟨context, rfl, free, ?_⟩
      rw [contextClaimInactive, if_neg (not_not.mpr free), if_neg (not_not.mpr idle)]
    · exact .inl ⟨.invalidState, nofun, by rw [contextClaimInactive, if_pos free]⟩

/-- The claimant of an inactive context can release it. -/
theorem context_release_inactive_effect (tracks : Tracks ledger s)
    (bracket : ledger.brackets context = some host) :
    contextReleaseInactive s host (some context) =
      .ok (s.setThread context { s.threads context with hostThreadToken := 0 }) := by
  obtain ⟨token, inactive⟩ := tracks.bracketed context host bracket
  have idle : (s.threads context).activeScopeCount = 0 := by rw [tracks.counted, inactive]
  rw [contextReleaseInactive, if_neg (not_or.mpr ⟨not_not.mpr token, not_not.mpr idle⟩)]

/-! ### What each call keeps -/

/-- The active scope that entering a scope adds. -/
def State.newScope (s : State) (host : HostThread) (context scope : UInt64) : ActiveScope :=
  { host := host
    scope := scope
    context := context
    retained := (s.threads context).process
    before := s.hosts host }

@[simp] theorem new_scope_host : (s.newScope host context scope).host = host := rfl

@[simp] theorem new_scope_retained :
    (s.newScope host context scope).retained = (s.threads context).process := rfl

@[simp] theorem new_scope_context : (s.newScope host context scope).context = context := rfl

theorem retained_frame (s : State) (process : Option UInt64) :
    (s.retained process).threads = s.threads ∧ (s.retained process).scopes = s.scopes ∧
      (s.retained process).hosts = s.hosts := by
  cases process <;> exact ⟨rfl, rfl, rfl⟩

theorem entered_threads : (s.entered host context scope).threads =
    Function.update s.threads context ((s.threads context).claimedBy host) := by
  obtain ⟨threads, _, _⟩ := retained_frame (s.setThread context
    ((s.threads context).claimedBy host)) (s.threads context).process
  exact threads

theorem entered_scopes : (s.entered host context scope).scopes =
    Function.update s.scopes scope (s.newScope host context scope).contents := by
  obtain ⟨_, scopes, hosts⟩ := retained_frame (s.setThread context
    ((s.threads context).claimedBy host)) (s.threads context).process
  rw [State.entered, State.install, scopes, hosts]
  rfl

theorem entered_hosts : (s.entered host context scope).hosts = Function.update s.hosts host
    { currentThread := some context, currentScope := some scope } := by
  obtain ⟨_, _, hosts⟩ := retained_frame (s.setThread context
    ((s.threads context).claimedBy host)) (s.threads context).process
  rw [State.entered, State.install, hosts]
  rfl

theorem exited_threads (s : State) (active : ActiveScope) : (s.exited active).threads =
    Function.update s.threads active.context (s.threads active.context).released := by
  rw [State.exited, State.setThread, (unretained_frame _ _).1]

theorem exited_scopes (s : State) (active : ActiveScope) :
    (s.exited active).scopes = Function.update s.scopes active.scope {} := by
  rw [State.exited, State.setThread, (unretained_frame _ _).2.1]

theorem exited_hosts (s : State) (active : ActiveScope) :
    (s.exited active).hosts = Function.update s.hosts active.host active.before := by
  rw [State.exited, State.setThread, (unretained_frame _ _).2.2]

theorem tracks_entered (tracks : Tracks ledger s)
    (fresh : ∀ active ∈ ledger.active, active.scope ≠ scope)
    (claimable : (s.threads context).Claimable host) :
    Tracks (ledger.push (s.newScope host context scope)) (s.entered host context scope) := by
  have kept (stacked : HostThread) : ∀ active ∈ ledger.stack stacked,
      (s.entered host context scope).scopes active.scope = s.scopes active.scope := by
    intro active member
    rw [entered_scopes, Function.update_of_ne (fresh active (Ledger.mem_stack.mp member).1)]
  have token (other : UInt64) (own : (s.threads other).hostThreadToken ≠ 0) :
      ((s.entered host context scope).threads other).hostThreadToken =
        (s.threads other).hostThreadToken := by
    rw [entered_threads]
    by_cases same : other = context
    · subst same
      rw [Function.update_self]
      exact (claimable.resolve_left fun free => own free.1).1.symm
    · rw [Function.update_of_ne same]
  constructor
  case current =>
    intro other
    rw [entered_hosts]
    by_cases same : host = other
    · subst same
      rw [Function.update_self]
      exact congrArg top (ledger.stack_push_self (s.newScope host context scope)).symm
    · rw [Function.update_of_ne (Ne.symm same), Ledger.stack_push_other same, tracks.current]
  case linked =>
    intro other
    have linked := (tracks.linked other).congr (kept other)
    by_cases same : host = other
    · subst same
      have pushed := ledger.stack_push_self (s.newScope host context scope)
      rw [new_scope_host] at pushed
      rw [pushed]
      refine ⟨tracks.current host, ?_, linked⟩
      rw [entered_scopes]
      exact Function.update_self ..
    · rw [Ledger.stack_push_other same]
      exact linked
  case distinct =>
    refine List.nodup_cons.mpr ⟨?_, tracks.distinct⟩
    intro member
    obtain ⟨active, listed, same⟩ := List.mem_map.mp member
    exact fresh active listed same
  case owned =>
    intro active member
    rcases List.mem_cons.mp member with rfl | member
    · rw [entered_threads, new_scope_context, Function.update_self]
      rfl
    · have owned := tracks.owned active member
      rw [token active.context (by rw [owned]; exact active.host.nonzero), owned]
  case counted =>
    intro other
    rw [Ledger.scopes_of_push, entered_threads, ← tracks.counted, new_scope_context]
    by_cases same : context = other
    · subst same
      rw [Function.update_self, if_pos rfl]
      rfl
    · rw [Function.update_of_ne (Ne.symm same), if_neg same, Nat.add_zero]
  case bracketed =>
    intro other claimant bracket
    obtain ⟨own, inactive⟩ := tracks.bracketed other claimant bracket
    have different : context ≠ other := by
      rintro rfl
      rcases claimable with ⟨free, _⟩ | ⟨_, counts⟩
      · exact claimant.nonzero (own.symm.trans free)
      · exact counts ((tracks.counted context).trans inactive)
    rw [Ledger.scopes_of_push, entered_threads, Function.update_of_ne (Ne.symm different), inactive,
      new_scope_context, if_neg different]
    exact ⟨own, rfl⟩
  case claimed =>
    intro other own
    rw [Ledger.scopes_of_push, new_scope_context]
    by_cases same : context = other
    · rw [if_pos same]
      exact .inl (Nat.succ_ne_zero _)
    · rw [entered_threads, Function.update_of_ne (Ne.symm same)] at own
      exact (tracks.claimed other own).imp_left fun counts => by omega

theorem tracks_exited {active : ActiveScope} {outer : List ActiveScope} (tracks : Tracks ledger s)
    (stacked : ledger.stack active.host = active :: outer) :
    Tracks (ledger.drop active.scope) (s.exited active) := by
  have uppermost : active ∈ ledger.stack active.host := stacked ▸ List.mem_cons_self
  obtain ⟨member, _⟩ := Ledger.mem_stack.mp uppermost
  obtain ⟨entered, _, linkedOuter⟩ := stacked ▸ tracks.linked active.host
  have kept {stack : List ActiveScope} (apart : ∀ other ∈ stack, other.scope ≠ active.scope) :
      ∀ other ∈ stack, (s.exited active).scopes other.scope = s.scopes other.scope := by
    intro other listed
    rw [exited_scopes, Function.update_of_ne (apart other listed)]
  have apart (host : HostThread) : ∀ other ∈ (ledger.drop active.scope).stack host,
      other.scope ≠ active.scope :=
    fun other listed => (Ledger.mem_drop.mp (Ledger.mem_stack.mp listed).1).2
  have counted (context : UInt64) : (s.threads context).activeScopeCount =
      (ledger.drop active.scope).scopesOf context + if active.context = context then 1 else 0 := by
    rw [tracks.counted, tracks.scopes_of_drop member]
  constructor
  case current =>
    intro host
    rw [exited_hosts]
    by_cases same : active.host = host
    · subst same
      rw [Function.update_self, tracks.stack_drop_top stacked, entered]
    · rw [Function.update_of_ne (Ne.symm same), tracks.stack_drop_other member same,
        tracks.current]
  case linked =>
    intro host
    by_cases same : active.host = host
    · subst same
      have outside := apart active.host
      rw [tracks.stack_drop_top stacked] at outside ⊢
      exact linkedOuter.congr (kept outside)
    · have outside := apart host
      rw [tracks.stack_drop_other member same] at outside ⊢
      exact (tracks.linked host).congr (kept outside)
  case distinct =>
    have distinct := ((tracks.drop_perm member).map (·.scope)).nodup_iff.mp tracks.distinct
    exact (List.nodup_cons.mp distinct).2
  case owned =>
    intro other listed
    obtain ⟨before, _⟩ := Ledger.mem_drop.mp listed
    have owned := tracks.owned other before
    rw [exited_threads]
    by_cases same : other.context = active.context
    · have rest : (ledger.drop active.scope).scopesOf active.context ≠ 0 :=
        Ledger.scopes_of_ne_zero.mpr ⟨other, listed, same⟩
      have count := counted active.context
      rw [if_pos rfl] at count
      rw [same] at owned ⊢
      rw [Function.update_self, ThreadContext.released, if_neg (by omega), owned]
    · rw [Function.update_of_ne same, owned]
  case counted =>
    intro context
    have count := counted context
    rw [exited_threads]
    by_cases same : active.context = context
    · subst same
      rw [if_pos rfl] at count
      rw [Function.update_self, ThreadContext.released, count, Nat.add_sub_cancel]
    · rw [if_neg same, Nat.add_zero] at count
      rw [Function.update_of_ne (Ne.symm same), count]
  case bracketed =>
    intro context claimant bracket
    obtain ⟨own, inactive⟩ := tracks.bracketed context claimant bracket
    have fewer := tracks.scopes_of_drop member context
    have different : active.context ≠ context := by
      rintro rfl
      rw [if_pos rfl] at fewer
      omega
    rw [exited_threads, Function.update_of_ne (Ne.symm different)]
    exact ⟨own, by omega⟩
  case claimed =>
    intro context own
    have count := counted context
    rw [exited_threads] at own
    by_cases same : active.context = context
    · subst same
      rw [Function.update_self, ThreadContext.released] at own
      rw [if_pos rfl] at count
      left
      intro none
      exact own (if_pos (by omega))
    · rw [Function.update_of_ne (Ne.symm same)] at own
      have fewer := tracks.scopes_of_drop member context
      rw [if_neg same, Nat.add_zero] at fewer
      rw [← fewer]
      exact tracks.claimed context own

/-- The same context under another owner. -/
def ThreadContext.ownedBy (thread : ThreadContext) (token : UInt64) : ThreadContext :=
  { thread with hostThreadToken := token }

/-- Opening or ending a claim on a context without active scopes. -/
theorem Tracks.rebracket (tracks : Tracks ledger s) (inactive : ledger.scopesOf context = 0)
    {token : UInt64} {bracket : Option HostThread}
    (claims : ∀ claimant, bracket = some claimant → token = claimant.token)
    (free : bracket = none → token = 0) :
    Tracks (ledger.claim context bracket)
      (s.setThread context ((s.threads context).ownedBy token)) := by
  have here : (s.setThread context ((s.threads context).ownedBy token)).threads context =
      (s.threads context).ownedBy token := Function.update_self ..
  have elsewhere {other : UInt64} (different : other ≠ context) :
      (s.setThread context ((s.threads context).ownedBy token)).threads other =
        s.threads other := Function.update_of_ne different ..
  have bracketHere : (ledger.claim context bracket).brackets context = bracket :=
    Function.update_self ..
  have bracketElsewhere {other : UInt64} (different : other ≠ context) :
      (ledger.claim context bracket).brackets other = ledger.brackets other :=
    Function.update_of_ne different ..
  refine ⟨tracks.current, tracks.linked, tracks.distinct, ?owned, ?counted, ?bracketed, ?claimed⟩
  case owned =>
    intro active member
    have different : active.context ≠ context := by
      intro same
      exact Ledger.scopes_of_ne_zero.mpr ⟨active, member, same⟩ inactive
    rw [elsewhere different, tracks.owned active member]
  case counted =>
    intro other
    by_cases same : other = context
    · subst same
      rw [here]
      exact tracks.counted other
    · rw [elsewhere same]
      exact tracks.counted other
  case bracketed =>
    intro other claimant claimed
    by_cases same : other = context
    · subst same
      rw [bracketHere] at claimed
      rw [here]
      exact ⟨claims claimant claimed, inactive⟩
    · rw [bracketElsewhere same] at claimed
      rw [elsewhere same]
      exact tracks.bracketed other claimant claimed
  case claimed =>
    intro other own
    by_cases same : other = context
    · subst same
      rw [here] at own
      rw [bracketHere]
      exact .inr fun none => own (free none)
    · rw [elsewhere same] at own
      rw [bracketElsewhere same]
      exact tracks.claimed other own

/-! ### Runs of calls -/

/-- What callers owe: a scope object is not entered on one host thread while it is active on
another, and who releases an inactive context has claimed it. -/
def Ledger.Keeps (ledger : Ledger) (host : HostThread) : Op → Prop
  | .enter _ scope => ∀ active ∈ ledger.active, scope = some active.scope → active.host = host
  | .releaseInactive thread =>
    ∃ context, thread = some context ∧ ledger.brackets context = some host
  | .leave _ | .claimInactive _ => True

/-- Besides, a host thread does not enter a context on which its own claim is open. -/
def Ledger.Allows (ledger : Ledger) (host : HostThread) (op : Op) : Prop :=
  ledger.Keeps host op ∧ ∀ context scope, op = .enter (some context) scope →
    ledger.brackets context ≠ some host

/-- What a successful call does to the state and the ledger. -/
inductive Effect (ledger : Ledger) (s : State) : HostThread → Op → State → Ledger → Prop where
  | entered {caller : HostThread} {thread address : UInt64}
      (fresh : ∀ active ∈ ledger.active, active.scope ≠ address)
      (claimable : (s.threads thread).Claimable caller) :
      Effect ledger s caller (.enter (some thread) (some address))
        (s.entered caller thread address) (ledger.push (s.newScope caller thread address))
  | left {active : ActiveScope} {outer : List ActiveScope}
      (stacked : ledger.stack active.host = active :: outer) :
      Effect ledger s active.host (.leave (some active.scope)) (s.exited active)
        (ledger.drop active.scope)
  | claimed {caller : HostThread} {thread : UInt64} (inactive : ledger.scopesOf thread = 0) :
      Effect ledger s caller (.claimInactive (some thread))
        (s.setThread thread ((s.threads thread).ownedBy caller.token))
        (ledger.claim thread (some caller))
  | released {caller : HostThread} {thread : UInt64} (inactive : ledger.scopesOf thread = 0) :
      Effect ledger s caller (.releaseInactive (some thread))
        (s.setThread thread ((s.threads thread).ownedBy 0)) (ledger.claim thread none)

/-- Every allowed call returns: refused with no effect, or successful with the effect it has. -/
theorem perform_effect (tracks : Tracks ledger s) (backed : Backed ledger s) {op : Op}
    (allowed : ledger.Allows host op) :
    (∃ status, status ≠ .ok ∧ perform s host op = .ok (status, s)) ∨
    ∃ after, perform s host op = .ok (.ok, after) ∧
      Effect ledger s host op after (ledger.note s host op) := by
  obtain ⟨keeps, outside⟩ := allowed
  cases op with
  | enter thread scope =>
    rcases context_enter_effect tracks thread scope
      (fun context same => outside context scope (congrArg (Op.enter · scope) same)) with
      refused | ⟨context, address, rfl, rfl, apart, claimable, entered⟩
    · exact .inl refused
    · refine .inr ⟨_, entered, .entered ?_ claimable⟩
      rintro active member rfl
      have own := keeps active member rfl
      exact apart (List.mem_map_of_mem (Ledger.mem_stack.mpr ⟨member, own⟩))
  | leave scope =>
    rcases context_leave_effect tracks backed host scope with
      ⟨refused, _⟩ | ⟨active, outer, stacked, rfl, left⟩
    · exact .inl ⟨.invalidArgument, nofun, refused⟩
    · have uppermost : active ∈ ledger.stack host := stacked ▸ List.mem_cons_self
      obtain ⟨_, rfl⟩ := Ledger.mem_stack.mp uppermost
      exact .inr ⟨_, left, .left stacked⟩
  | claimInactive thread =>
    rcases context_claim_inactive_effect tracks host thread with
      refused | ⟨context, rfl, free, claimed⟩
    · exact .inl refused
    · exact .inr ⟨_, claimed, .claimed (tracks.unclaimed free)⟩
  | releaseInactive thread =>
    obtain ⟨context, rfl, bracket⟩ := keeps
    refine .inr ⟨_, ?_, .released (tracks.bracketed context host bracket).2⟩
    rw [perform, context_release_inactive_effect tracks bracket]
    rfl

theorem effect_tracks (tracks : Tracks ledger s) {op : Op} {noted : Ledger}
    (effect : Effect ledger s host op after noted) : Tracks noted after := by
  cases effect with
  | entered fresh claimable => exact tracks_entered tracks fresh claimable
  | left stacked => exact tracks_exited tracks stacked
  | claimed inactive =>
    refine tracks.rebracket inactive ?_ nofun
    rintro claimant ⟨⟩
    rfl
  | released inactive => exact tracks.rebracket inactive nofun fun _ => rfl

theorem retained_references (s : State) (retained : Option UInt64) (process : UInt64) :
    (s.retained retained).activeReferences process =
      s.activeReferences process + if retained = some process then 1 else 0 := by
  cases retained with
  | none => rfl
  | some kept =>
    by_cases same : kept = process
    · subst same
      rw [if_pos rfl]
      exact Function.update_self ..
    · rw [if_neg fun equal => same (Option.some.inj equal)]
      exact Function.update_of_ne (Ne.symm same) ..

theorem unretained_references (s : State) (retained : Option UInt64) (process : UInt64) :
    (s.unretained retained).activeReferences process =
      s.activeReferences process - if retained = some process then 1 else 0 := by
  cases retained with
  | none => rfl
  | some kept =>
    by_cases same : kept = process
    · subst same
      rw [if_pos rfl]
      exact Function.update_self ..
    · rw [if_neg fun equal => same (Option.some.inj equal)]
      exact Function.update_of_ne (Ne.symm same) ..

/-- A call changes the references of a process by what its scopes keep more or less of them. -/
theorem effect_references (tracks : Tracks ledger s) (backed : Backed ledger s) {op : Op}
    {noted : Ledger} (effect : Effect ledger s host op after noted) (process : UInt64) :
    after.activeReferences process + ledger.retainedBy process =
      s.activeReferences process + noted.retainedBy process := by
  cases effect with
  | @entered _ thread address fresh claimable =>
    have references : (s.entered host thread address).activeReferences process =
        s.activeReferences process + if (s.threads thread).process = some process then 1 else 0 :=
      retained_references _ _ process
    have counted := ledger.retained_by_push (s.newScope host thread address) process
    rw [new_scope_retained] at counted
    omega
  | @left active outer stacked =>
    have uppermost : active ∈ ledger.stack active.host := stacked ▸ List.mem_cons_self
    have references : (s.exited active).activeReferences process =
        s.activeReferences process - if active.retained = some process then 1 else 0 :=
      unretained_references _ _ process
    have counted := tracks.retained_by_drop (Ledger.mem_stack.mp uppermost).1 process
    have covered := backed process
    omega
  | claimed => rfl
  | released => rfl

/-- What a context holds besides its owner and its count. -/
def ThreadContext.unowned (thread : ThreadContext) : ThreadContext :=
  { thread with hostThreadToken := 0, activeScopeCount := 0 }

/-- Calls change nothing of a context but its owner and its count. -/
theorem effect_unowned {op : Op} {noted : Ledger} (effect : Effect ledger s host op after noted)
    (thread : UInt64) : (after.threads thread).unowned = (s.threads thread).unowned := by
  have changed {named : UInt64} {context : ThreadContext} {threads : UInt64 → ThreadContext}
      (update : threads = Function.update s.threads named context)
      (same : context.unowned = (s.threads named).unowned) :
      (threads thread).unowned = (s.threads thread).unowned := by
    subst update
    by_cases here : thread = named
    · subst here
      rw [Function.update_self, same]
    · rw [Function.update_of_ne here]
  cases effect with
  | entered => exact changed entered_threads rfl
  | @left active => exact changed (exited_threads s active) rfl
  | claimed => exact changed rfl rfl
  | released => exact changed rfl rfl

end SadLayer.Contexts
