import Mathlib.Logic.Relation
import SadLayer.ScopeEffects

/-! Host threads that enter and leave scopes as they please keep every context's
owner and count true, as long as none enters a context between its own claim on the
inactive context and the release of that claim. -/
namespace SadLayer.Contexts

variable {ledger : Ledger} {s after : State} {host : HostThread} {context scope : UInt64}
  {status : Status}

/-- One call of a host thread. -/
inductive Step (allows : Ledger → HostThread → Op → Prop) : State × Ledger → State × Ledger → Prop
  | call {ledger : Ledger} {s after : State} {host : HostThread} {op : Op} {status : Status}
      (allowed : allows ledger host op) (returned : perform s host op = .ok (status, after)) :
      Step allows (s, ledger) (after, ledger.record s host op status)

/-- What calls of any host threads lead to, each of them allowed by the ledger so far. -/
def Reached (allows : Ledger → HostThread → Op → Prop) (start s : State) (ledger : Ledger) :
    Prop :=
  Relation.ReflTransGen (Step allows) (start, {}) (s, ledger)

/-- Nobody runs a context yet. -/
structure State.Idle (s : State) : Prop where
  hosts : ∀ host, s.hosts host = {}
  tokens : ∀ context, (s.threads context).hostThreadToken = 0
  counts : ∀ context, (s.threads context).activeScopeCount = 0

theorem State.Idle.tracks (idle : s.Idle) : Tracks {} s where
  current := idle.hosts
  linked _ := trivial
  distinct := List.nodup_nil
  owned _ member := absurd member List.not_mem_nil
  counted := idle.counts
  bracketed _ _ := nofun
  claimed context own := absurd (idle.tokens context) own

/-- The references to a process beside those at the start are those of the active scopes. -/
def Balanced (start s : State) (ledger : Ledger) : Prop :=
  ∀ process, s.activeReferences process =
    start.activeReferences process + ledger.retainedBy process

theorem Balanced.backed {start : State} (balanced : Balanced start s ledger) : Backed ledger s := by
  intro process
  rw [balanced process]
  exact Nat.le_add_left ..

theorem perform_tracks {start : State} (tracks : Tracks ledger s)
    (balanced : Balanced start s ledger) {op : Op} (allowed : ledger.Allows host op)
    (returned : perform s host op = .ok (status, after)) :
    Tracks (ledger.record s host op status) after ∧
      Balanced start after (ledger.record s host op status) := by
  rcases perform_effect tracks balanced.backed allowed with
    ⟨refusal, refused, unchanged⟩ | ⟨result, performed, effect⟩
  · cases unchanged.symm.trans returned
    rw [Ledger.record, if_neg refused]
    exact ⟨tracks, balanced⟩
  · cases performed.symm.trans returned
    rw [Ledger.record, if_pos rfl]
    refine ⟨effect_tracks tracks effect, ?_⟩
    intro process
    have references := effect_references tracks balanced.backed effect process
    have before := balanced process
    omega

theorem reached_tracks {start : State} (idle : start.Idle)
    (reached : Reached Ledger.Allows start s ledger) :
    Tracks ledger s ∧ Balanced start s ledger := by
  unfold Reached at reached
  generalize last : (s, ledger) = final at reached
  induction reached generalizing s ledger with
  | refl =>
    cases last
    exact ⟨idle.tracks, fun _ => rfl⟩
  | tail _ step ih =>
    cases step with
    | call allowed returned =>
      cases last
      obtain ⟨tracks, balanced⟩ := ih rfl
      exact perform_tracks tracks balanced allowed returned

/-! ### What holds between calls -/

/-- What memory says about the scopes and contexts agrees with the calls made so far. -/
structure Disciplined (ledger : Ledger) (s : State) : Prop where
  /-- From `sl_current_scope` on, a host thread's scopes are linked, the innermost first. -/
  chain : ∀ host, Library.Chain (fun scope => (s.scopes scope).previousScope)
    (s.hosts host).currentScope ((ledger.stack host).map (·.scope))
  installed : ∀ active ∈ ledger.active,
    (s.scopes active.scope).installed = some active.context
  /-- `sl_current_thread` is what the innermost scope installed. -/
  current : ∀ host,
    contextCurrent s host = (ledger.stack host).head?.map (·.context)
  /-- No scope is active twice. -/
  distinct : (ledger.active.map (·.scope)).Nodup
  counted : ∀ context, (s.threads context).activeScopeCount = ledger.scopesOf context
  oneHost : ∀ first ∈ ledger.active, ∀ second ∈ ledger.active,
    first.context = second.context → first.host = second.host
  owned : ∀ active ∈ ledger.active,
    (s.threads active.context).hostThreadToken = active.host.token
  claimed : ∀ context, (s.threads context).hostThreadToken ≠ 0 ↔
    (s.threads context).activeScopeCount ≠ 0 ∨ ∃ host, ledger.brackets context = some host

theorem Tracks.disciplined (tracks : Tracks ledger s) : Disciplined ledger s where
  chain host := by
    rw [tracks.current]
    exact (tracks.linked host).chain
  installed active member := by
    have uppermost : active ∈ ledger.stack active.host := Ledger.mem_stack.mpr ⟨member, rfl⟩
    rw [(tracks.linked active.host).contents active uppermost]
    rfl
  current host := by
    rw [contextCurrent, tracks.current]
    cases ledger.stack host <;> rfl
  distinct := tracks.distinct
  counted := tracks.counted
  oneHost first listed second member same := by
    have own := tracks.owned first listed
    rw [same, tracks.owned second member] at own
    exact (HostThread.eq_of_token own).symm
  owned := tracks.owned
  claimed context := by
    rw [tracks.counted, ← Option.ne_none_iff_exists']
    refine ⟨tracks.claimed context, ?_⟩
    rintro (counts | claimed)
    · obtain ⟨active, member, rfl⟩ := Ledger.scopes_of_ne_zero.mp counts
      rw [tracks.owned active member]
      exact active.host.nonzero
    · obtain ⟨host, bracket⟩ := Option.ne_none_iff_exists'.mp claimed
      rw [(tracks.bracketed context host bracket).1]
      exact host.nonzero

theorem claimed_released {thread : ThreadContext} (claimable : thread.Claimable host) :
    (thread.claimedBy host).released = thread := by
  have released := release_claimed claimable
  rw [release_thread_context_ok rfl (Nat.succ_ne_zero _)] at released
  exact Except.ok.inj released

/-- Entering a scope and leaving it undo each other, but for the scope object. -/
theorem entered_exited (claimable : (s.threads context).Claimable host) :
    (s.entered host context scope).exited (s.newScope host context scope) =
      { s with scopes := Function.update s.scopes scope {} } := by
  have threads : ((s.entered host context scope).exited (s.newScope host context scope)).threads =
      s.threads := by
    rw [exited_threads, entered_threads, new_scope_context, Function.update_self,
      Function.update_idem, claimed_released claimable, Function.update_eq_self]
  have scopes : ((s.entered host context scope).exited (s.newScope host context scope)).scopes =
      Function.update s.scopes scope {} := by
    rw [exited_scopes, entered_scopes]
    exact Function.update_idem ..
  have hosts : ((s.entered host context scope).exited (s.newScope host context scope)).hosts =
      s.hosts := by
    rw [exited_hosts, entered_hosts, new_scope_host, Function.update_idem]
    exact Function.update_eq_self ..
  have references : ((s.entered host context scope).exited
      (s.newScope host context scope)).activeReferences = s.activeReferences := by
    funext process
    have gone : ((s.entered host context scope).exited
        (s.newScope host context scope)).activeReferences process =
          (s.entered host context scope).activeReferences process -
            if (s.threads context).process = some process then 1 else 0 :=
      unretained_references _ _ process
    have kept : (s.entered host context scope).activeReferences process =
        s.activeReferences process + if (s.threads context).process = some process then 1 else 0 :=
      retained_references _ _ process
    omega
  cases exited : (s.entered host context scope).exited (s.newScope host context scope) with
  | mk threads' scopes' hosts' references' =>
    rw [exited] at threads scopes hosts references
    rw [← threads, ← scopes, ← hosts, ← references]

theorem entered_then_left (tracks : Tracks ledger s) (backed : Backed ledger s)
    (fresh : ∀ active ∈ ledger.active, active.scope ≠ scope)
    (claimable : (s.threads context).Claimable host) :
    contextLeave (s.entered host context scope) host (some scope) =
      .ok (.ok, { s with scopes := Function.update s.scopes scope {} }) := by
  have effect := Effect.entered fresh claimable
  have covered : Backed (ledger.push (s.newScope host context scope))
      (s.entered host context scope) := by
    intro process
    have references := effect_references tracks backed effect process
    have before := backed process
    omega
  have stacked := ledger.stack_push_self (s.newScope host context scope)
  rw [new_scope_host] at stacked
  rcases context_leave_effect (effect_tracks tracks effect) covered host (some scope) with
    ⟨_, refused⟩ | ⟨active, outer, innermost, _, performed⟩
  · exact absurd rfl (refused _ _ stacked)
  · cases stacked.symm.trans innermost
    rw [performed, entered_exited claimable]

/-- Calls of any host threads in any order, each on any contexts and scopes, keep the scopes
of every host thread in a chain and every context's owner and count true to its scopes. Every
call returns, a refused one changed nothing, and only the innermost scope can be left, which
makes current again exactly what it was entered over. -/
theorem context_scope_discipline {start : State} (idle : start.Idle)
    (reached : Reached Ledger.Allows start s ledger) :
    Disciplined ledger s ∧ Balanced start s ledger ∧
    (∀ host op, ledger.Allows host op → ∃ status after, perform s host op = .ok (status, after) ∧
      (status ≠ .ok → after = s)) ∧
    (∀ host scope after, contextLeave s host scope = .ok (.ok, after) →
      ∃ active outer, ledger.stack host = active :: outer ∧ scope = some active.scope ∧
        after.hosts = Function.update s.hosts host active.before) ∧
    (∀ host active outer, ledger.stack host = active :: outer →
      ∃ after, contextLeave s host (some active.scope) = .ok (.ok, after)) ∧
    ∀ host thread scope entered, ledger.Allows host (.enter thread scope) →
      contextEnter s host thread scope = .ok (.ok, entered) →
      ∃ address, scope = some address ∧ contextLeave entered host scope =
        .ok (.ok, { s with scopes := Function.update s.scopes address {} }) := by
  obtain ⟨tracks, balanced⟩ := reached_tracks idle reached
  refine ⟨tracks.disciplined, balanced, ?returns, ?innermost, ?leaves, ?undoes⟩
  case returns =>
    intro host op allowed
    rcases perform_effect tracks balanced.backed allowed with
      ⟨status, refused, unchanged⟩ | ⟨after, performed, _⟩
    · exact ⟨status, s, unchanged, fun _ => rfl⟩
    · exact ⟨.ok, after, performed, fun refused => absurd rfl refused⟩
  case innermost =>
    intro host scope after left
    rcases context_leave_effect tracks balanced.backed host scope with
      ⟨refused, _⟩ | ⟨active, outer, stacked, innermost, performed⟩
    · cases refused.symm.trans left
    · cases performed.symm.trans left
      have uppermost : active ∈ ledger.stack host := stacked ▸ List.mem_cons_self
      obtain ⟨_, rfl⟩ := Ledger.mem_stack.mp uppermost
      exact ⟨active, outer, stacked, innermost, exited_hosts s active⟩
  case leaves =>
    intro host active outer stacked
    rcases context_leave_effect tracks balanced.backed host (some active.scope) with
      ⟨_, refused⟩ | ⟨_, _, _, _, performed⟩
    · exact absurd rfl (refused active outer stacked)
    · exact ⟨_, performed⟩
  case undoes =>
    intro host thread scope entered allowed performed
    rcases perform_effect tracks balanced.backed allowed with
      ⟨status, refused, unchanged⟩ | ⟨after, entering, effect⟩
    · cases unchanged.symm.trans performed
      exact absurd rfl refused
    · cases entering.symm.trans performed
      generalize ledger.note s host (.enter thread scope) = noted at effect
      cases effect with
      | @entered _ context address fresh claimable =>
        exact ⟨address, rfl, entered_then_left tracks balanced.backed fresh claimable⟩

/-! ### One context, two scopes and one claim -/

/-- A host thread. -/
def firstHost : HostThread := ⟨1, by decide⟩

/-- Another one. -/
def secondHost : HostThread := ⟨2, by decide⟩

/-- Zeroed contexts, all of one process, and host threads that run none of them. -/
def zeroed : State :=
  { threads := fun _ => { process := some 64 }
    scopes := fun _ => {}
    hosts := fun _ => {}
    activeReferences := fun _ => 0 }

theorem zeroed_idle : zeroed.Idle :=
  ⟨fun _ => rfl, fun _ => rfl, fun _ => rfl⟩

/-- One host thread in two scopes of a context, the other one with a claim on another. -/
def nested : State :=
  let inner := (zeroed.entered firstHost 7 20).entered firstHost 7 21
  inner.setThread 8 ((inner.threads 8).ownedBy secondHost.token)

def nestedLedger : Ledger :=
  let outer := ({} : Ledger).push (zeroed.newScope firstHost 7 20)
  (outer.push ((zeroed.entered firstHost 7 20).newScope firstHost 7 21)).claim 8 (some secondHost)

theorem nested_reached : Reached Ledger.Allows zeroed nested nestedLedger := by
  have outer : Step Ledger.Allows (zeroed, {}) (zeroed.entered firstHost 7 20, _) :=
    @Step.call _ {} zeroed _ firstHost (.enter (some 7) (some 20)) .ok
      ⟨fun _ member => absurd member List.not_mem_nil, fun _ _ _ held => by cases held⟩ rfl
  have inner : Step Ledger.Allows (zeroed.entered firstHost 7 20, _)
      ((zeroed.entered firstHost 7 20).entered firstHost 7 21, _) :=
    @Step.call _ (({} : Ledger).push (zeroed.newScope firstHost 7 20)) _ _ firstHost
      (.enter (some 7) (some 21)) .ok
      ⟨by simp [Ledger.Keeps, Ledger.push], fun _ _ _ held => by cases held⟩ rfl
  have claim : Step Ledger.Allows ((zeroed.entered firstHost 7 20).entered firstHost 7 21, _)
      (nested, nestedLedger) :=
    @Step.call _ ((({} : Ledger).push (zeroed.newScope firstHost 7 20)).push
      ((zeroed.entered firstHost 7 20).newScope firstHost 7 21)) _ _ secondHost
      (.claimInactive (some 8)) .ok ⟨trivial, fun _ _ held => by cases held⟩ rfl
  exact ((Relation.ReflTransGen.single outer).tail inner).tail claim

theorem context_scope_discipline_nested :
    Disciplined nestedLedger nested ∧ (nested.threads 7).activeScopeCount = 2 ∧
      (nested.threads 8).hostThreadToken = 2 :=
  ⟨(context_scope_discipline zeroed_idle nested_reached).1, rfl, rfl⟩

/-- A host thread that claims a context, enters and leaves it loses the claim, and releasing the
context then aborts. -/
theorem entered_inside_claim_aborts :
    let claimed := zeroed.setThread 7 ((zeroed.threads 7).ownedBy firstHost.token)
    let ledger := ({} : Ledger).claim 7 (some firstHost)
    let entered := claimed.entered firstHost 7 20
    let left := entered.exited (claimed.newScope firstHost 7 20)
    let ledger' := (ledger.push (claimed.newScope firstHost 7 20)).drop 20
    Reached Ledger.Keeps zeroed left ledger' ∧ ledger'.brackets 7 = some firstHost ∧
      (left.threads 7).hostThreadToken = 0 ∧
      ledger'.Keeps firstHost (.releaseInactive (some 7)) ∧
      perform left firstHost (.releaseInactive (some 7)) = .error .abort := by
  intro claimed ledger entered left ledger'
  have claim : Step Ledger.Keeps (zeroed, {}) (claimed, ledger) :=
    @Step.call _ {} zeroed _ firstHost (.claimInactive (some 7)) .ok trivial rfl
  have enter : Step Ledger.Keeps (claimed, ledger)
      (entered, ledger.push (claimed.newScope firstHost 7 20)) :=
    @Step.call _ ledger claimed _ firstHost (.enter (some 7) (some 20)) .ok
      (fun _ member => absurd member List.not_mem_nil) rfl
  have leave : Step Ledger.Keeps (entered, ledger.push (claimed.newScope firstHost 7 20))
      (left, ledger') :=
    @Step.call _ _ entered _ firstHost (.leave (some 20)) .ok trivial rfl
  exact ⟨((Relation.ReflTransGen.single claim).tail enter).tail leave, rfl, rfl, ⟨7, rfl, rfl⟩, rfl⟩

end SadLayer.Contexts
