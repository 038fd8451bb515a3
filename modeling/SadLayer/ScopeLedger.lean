import Mathlib.Data.Fintype.Card
import SadLayer.ContextScopes
import SadLayer.Library.Tally

/-! A ledger of the scopes that were entered and not left yet, and of the
contexts that were claimed while inactive. The ledger is kept from the answers of
the calls alone; what the calls leave in memory tracks it. -/
namespace SadLayer.Contexts

/-- A scope that was entered and not left yet. -/
structure ActiveScope where
  host : HostThread
  scope : UInt64
  context : UInt64
  retained : Option UInt64
  /-- What was current on the host thread when it entered the scope. -/
  before : HostLocals

structure Ledger where
  /-- The active scopes of all host threads, the newest first. -/
  active : List ActiveScope := []
  /-- The host thread whose claim on an inactive context is open. -/
  brackets : UInt64 → Option HostThread := fun _ => none

/-- The active scopes of one host thread, the newest first. -/
def Ledger.stack (ledger : Ledger) (host : HostThread) : List ActiveScope :=
  ledger.active.filter fun active => active.host = host

/-- How many active scopes a context has. -/
def Ledger.scopesOf (ledger : Ledger) (context : UInt64) : Nat :=
  ledger.active.countP fun active => active.context = context

/-- How many active scopes keep a reference to a process. -/
def Ledger.retainedBy (ledger : Ledger) (process : UInt64) : Nat :=
  ledger.active.countP fun active => active.retained = some process

/-- Notes a call that succeeded. -/
def Ledger.note (ledger : Ledger) (s : State) (host : HostThread) : Op → Ledger
  | .enter (some thread) (some scope) =>
    { ledger with
      active :=
        { host := host
          scope := scope
          context := thread
          retained := (s.threads thread).process
          before := s.hosts host } :: ledger.active }
  | .leave (some scope) =>
    { ledger with active := ledger.active.filter fun active => active.scope ≠ scope }
  | .claimInactive (some thread) =>
    { ledger with brackets := Function.update ledger.brackets thread (some host) }
  | .releaseInactive (some thread) =>
    { ledger with brackets := Function.update ledger.brackets thread none }
  | _ => ledger

/-- What the ledger says after a call made in a state was answered. -/
def Ledger.record (ledger : Ledger) (s : State) (host : HostThread) (op : Op)
    (status : Status) : Ledger :=
  if status = .ok then ledger.note s host op else ledger

/-- What is current while these are the active scopes of a host thread. -/
def top : List ActiveScope → HostLocals
  | [] => {}
  | active :: _ => { currentThread := some active.context, currentScope := some active.scope }

/-- What the scope object of an active scope holds. -/
def ActiveScope.contents (active : ActiveScope) : ContextScope :=
  { previous := active.before.currentThread
    installed := some active.context
    retainedProcess := active.retained
    previousScope := active.before.currentScope }

/-- Each scope was entered over the one behind it, and its object says so. -/
def Linked (scopes : UInt64 → ContextScope) : List ActiveScope → Prop
  | [] => True
  | active :: outer =>
    active.before = top outer ∧ scopes active.scope = active.contents ∧ Linked scopes outer

/-- The state is what the ledger says it is. -/
structure Tracks (ledger : Ledger) (s : State) : Prop where
  current : ∀ host, s.hosts host = top (ledger.stack host)
  linked : ∀ host, Linked s.scopes (ledger.stack host)
  distinct : (ledger.active.map (·.scope)).Nodup
  owned : ∀ active ∈ ledger.active,
    (s.threads active.context).hostThreadToken = active.host.token
  counted : ∀ context, (s.threads context).activeScopeCount = ledger.scopesOf context
  bracketed : ∀ context host, ledger.brackets context = some host →
    (s.threads context).hostThreadToken = host.token ∧ ledger.scopesOf context = 0
  claimed : ∀ context, (s.threads context).hostThreadToken ≠ 0 →
    ledger.scopesOf context ≠ 0 ∨ ledger.brackets context ≠ none

variable {ledger : Ledger} {s : State} {host : HostThread} {context scope : UInt64}

theorem HostThread.eq_of_token {other : HostThread} (same : host.token = other.token) :
    host = other := by
  cases host
  cases other
  cases same
  rfl

theorem Linked.congr {scopes scopes' : UInt64 → ContextScope} {stack : List ActiveScope}
    (linked : Linked scopes stack)
    (same : ∀ active ∈ stack, scopes' active.scope = scopes active.scope) :
    Linked scopes' stack := by
  induction stack with
  | nil => trivial
  | cons active outer ih =>
    obtain ⟨entered, contents, rest⟩ := linked
    refine ⟨entered, ?_, ih rest fun other member => same other (List.mem_cons_of_mem active member)⟩
    rw [same active List.mem_cons_self, contents]

theorem Linked.chain {scopes : UInt64 → ContextScope} {stack : List ActiveScope}
    (linked : Linked scopes stack) :
    Library.Chain (fun scope => (scopes scope).previousScope) (top stack).currentScope
      (stack.map (·.scope)) := by
  induction stack with
  | nil => exact .nil
  | cons active outer ih =>
    obtain ⟨entered, contents, rest⟩ := linked
    refine .cons active.scope ?_
    have outwards : (scopes active.scope).previousScope = (top outer).currentScope := by
      rw [contents, ActiveScope.contents, entered]
    rw [outwards]
    exact ih rest

theorem Linked.contents {scopes : UInt64 → ContextScope} {stack : List ActiveScope}
    (linked : Linked scopes stack) : ∀ active ∈ stack, scopes active.scope = active.contents := by
  induction stack with
  | nil => exact fun _ member => absurd member List.not_mem_nil
  | cons active outer ih =>
    obtain ⟨_, contents, rest⟩ := linked
    intro other member
    rcases List.mem_cons.mp member with rfl | behind
    · exact contents
    · exact ih rest other behind

/-- There are no more addresses than the search along the scopes has fuel for. -/
theorem addresses_bounded {addresses : List UInt64} (distinct : addresses.Nodup) :
    addresses.length ≤ UInt64.size := by
  have bounded : (addresses.map UInt64.toFin).length ≤ Fintype.card (Fin UInt64.size) :=
    (distinct.map fun _ _ same => UInt64.toFin_inj.mp same).length_le_card
  rwa [List.length_map, Fintype.card_fin] at bounded

theorem Ledger.mem_stack {active : ActiveScope} :
    active ∈ ledger.stack host ↔ active ∈ ledger.active ∧ active.host = host := by
  unfold Ledger.stack
  rw [List.mem_filter, decide_eq_true_iff]

/-- The loop over the active scopes ends and finds the host thread's own. -/
theorem Tracks.scope_is_active (tracks : Tracks ledger s) (host : HostThread) (scope : UInt64) :
    scopeIsActive s host scope = some (decide (scope ∈ (ledger.stack host).map (·.scope))) := by
  have chain := (tracks.linked host).chain
  rw [← tracks.current host] at chain
  exact Library.search_chain chain scope (addresses_bounded chain.nodup)

theorem Ledger.scopes_of_ne_zero :
    ledger.scopesOf context ≠ 0 ↔ ∃ active ∈ ledger.active, active.context = context := by
  unfold Ledger.scopesOf
  rw [← Nat.pos_iff_ne_zero, List.countP_pos_iff]
  exact exists_congr fun active => and_congr_right fun _ => decide_eq_true_iff

theorem Tracks.unclaimed (tracks : Tracks ledger s)
    (free : (s.threads context).hostThreadToken = 0) : ledger.scopesOf context = 0 := by
  by_contra some_active
  obtain ⟨active, member, rfl⟩ := Ledger.scopes_of_ne_zero.mp some_active
  exact active.host.nonzero ((tracks.owned active member).symm.trans free)

/-- A host thread that owns a context outside of a bracket has active scopes of it. -/
theorem Tracks.active_of_owned (tracks : Tracks ledger s)
    (outside : ledger.brackets context ≠ some host)
    (own : (s.threads context).hostThreadToken = host.token) : ledger.scopesOf context ≠ 0 := by
  rcases tracks.claimed context (by rw [own]; exact host.nonzero) with active | claimed
  · exact active
  · obtain ⟨claimant, bracket⟩ := Option.ne_none_iff_exists'.mp claimed
    obtain ⟨token, _⟩ := tracks.bracketed context claimant bracket
    rw [HostThread.eq_of_token (own.symm.trans token), bracket] at outside
    exact absurd rfl outside

/-! ### One scope or claim more or less -/

/-- The ledger with one more active scope. -/
def Ledger.push (ledger : Ledger) (active : ActiveScope) : Ledger :=
  { ledger with active := active :: ledger.active }

/-- The ledger without the active scope of this scope object. -/
def Ledger.drop (ledger : Ledger) (scope : UInt64) : Ledger :=
  { ledger with active := ledger.active.filter fun active => active.scope ≠ scope }

/-- The ledger with a claim on an inactive context opened or ended. -/
def Ledger.claim (ledger : Ledger) (context : UInt64) (bracket : Option HostThread) : Ledger :=
  { ledger with brackets := Function.update ledger.brackets context bracket }

theorem Ledger.stack_push_self (ledger : Ledger) (active : ActiveScope) :
    (ledger.push active).stack active.host = active :: ledger.stack active.host :=
  List.filter_cons_of_pos (decide_eq_true rfl)

theorem Ledger.stack_push_other {active : ActiveScope} (other : active.host ≠ host) :
    (ledger.push active).stack host = ledger.stack host :=
  List.filter_cons_of_neg (by simpa using other)

theorem Ledger.scopes_of_push (ledger : Ledger) (active : ActiveScope) (context : UInt64) :
    (ledger.push active).scopesOf context =
      ledger.scopesOf context + if active.context = context then 1 else 0 := by
  simp only [Ledger.scopesOf, Ledger.push, List.countP_cons, decide_eq_true_eq]

theorem Ledger.retained_by_push (ledger : Ledger) (active : ActiveScope) (process : UInt64) :
    (ledger.push active).retainedBy process =
      ledger.retainedBy process + if active.retained = some process then 1 else 0 := by
  simp only [Ledger.retainedBy, Ledger.push, List.countP_cons, decide_eq_true_eq]

/-- The references of the processes cover those that active scopes keep. -/
def Backed (ledger : Ledger) (s : State) : Prop :=
  ∀ process, ledger.retainedBy process ≤ s.activeReferences process

theorem Backed.retained_pos (backed : Backed ledger s) {active : ActiveScope}
    (member : active ∈ ledger.active) {process : UInt64}
    (retained : active.retained = some process) : s.activeReferences process ≠ 0 := by
  have counted : 0 < ledger.retainedBy process :=
    List.countP_pos_iff.mpr ⟨active, member, decide_eq_true retained⟩
  have covered := backed process
  omega

section Drop
variable {active : ActiveScope} {outer : List ActiveScope}

theorem Tracks.drop_perm (tracks : Tracks ledger s) (member : active ∈ ledger.active) :
    ledger.active.Perm (active :: (ledger.drop active.scope).active) :=
  Library.perm_cons_filter_ne tracks.distinct member

theorem Tracks.scopes_of_drop (tracks : Tracks ledger s) (member : active ∈ ledger.active)
    (context : UInt64) : ledger.scopesOf context =
      (ledger.drop active.scope).scopesOf context + if active.context = context then 1 else 0 := by
  unfold Ledger.scopesOf
  rw [(tracks.drop_perm member).countP_eq, List.countP_cons]
  simp only [decide_eq_true_eq]

theorem Tracks.retained_by_drop (tracks : Tracks ledger s) (member : active ∈ ledger.active)
    (process : UInt64) : ledger.retainedBy process = (ledger.drop active.scope).retainedBy process +
      if active.retained = some process then 1 else 0 := by
  unfold Ledger.retainedBy
  rw [(tracks.drop_perm member).countP_eq, List.countP_cons]
  simp only [decide_eq_true_eq]

theorem Ledger.mem_drop {other : ActiveScope} :
    other ∈ (ledger.drop scope).active ↔ other ∈ ledger.active ∧ other.scope ≠ scope := by
  unfold Ledger.drop
  rw [List.mem_filter, decide_eq_true_iff]

theorem Ledger.stack_drop (ledger : Ledger) (host : HostThread) (scope : UInt64) :
    (ledger.drop scope).stack host =
      (ledger.stack host).filter fun active => active.scope ≠ scope :=
  List.filter_comm ..

/-- Without its innermost scope a host thread is left with the outer ones. -/
theorem Tracks.stack_drop_top (tracks : Tracks ledger s)
    (stacked : ledger.stack active.host = active :: outer) :
    (ledger.drop active.scope).stack active.host = outer := by
  have chain := (tracks.linked active.host).chain.nodup
  rw [stacked, List.map_cons, List.nodup_cons] at chain
  rw [Ledger.stack_drop, stacked, List.filter_cons_of_neg (by simp), List.filter_eq_self]
  intro other member
  rw [decide_eq_true_iff]
  exact fun same => chain.1 (same ▸ List.mem_map_of_mem member)

theorem Tracks.scope_host (tracks : Tracks ledger s) (member : active ∈ ledger.active)
    {other : ActiveScope} (listed : other ∈ ledger.active) (same : other.scope = active.scope) :
    other = active :=
  List.inj_on_of_nodup_map tracks.distinct listed member same

theorem Tracks.stack_drop_other (tracks : Tracks ledger s) (member : active ∈ ledger.active)
    (other : active.host ≠ host) :
    (ledger.drop active.scope).stack host = ledger.stack host := by
  rw [Ledger.stack_drop, List.filter_eq_self]
  intro kept listed
  obtain ⟨listed, own⟩ := Ledger.mem_stack.mp listed
  rw [decide_eq_true_iff]
  intro same
  rw [tracks.scope_host member listed same] at own
  exact other own

end Drop

end SadLayer.Contexts
