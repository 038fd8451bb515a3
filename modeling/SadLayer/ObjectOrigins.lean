import SadLayer.ObjectLifetimes

/-! Which object a handle leads to: the one that was created when the handle was returned,
with the descriptor that was opened then, and none that came to lie at its address later. -/
namespace SadLayer.KernelObjects
open SadLayer.Library
open HandleTable (HandleKind Lease InsertedUnder)

variable {m : Machine} {trace : List (Label × Answer)} {handle : UInt64} {name fd : Nat}

/-- The runs of the machine, as the handle table sees them. -/
structure Traced (trace : List (Label × Answer)) (m : Machine) : Prop where
  consistent : Consistent m
  reached : ∃ steps, m.handles = (run HandleTable.step HandleTable.create steps).state ∧
    ∀ label handle name fd, (label, Answer.created handle name fd) ∈ trace →
      m.origin name = some fd ∧ name < m.handles.nextRecord ∧ ∃ kind object, InsertedUnder
        (run HandleTable.step HandleTable.create steps).trace handle kind object name

theorem Traced.silent {after : Machine} {event : Label × Answer} (traced : Traced trace m)
    (consistent : Consistent after) (handles : after.handles = m.handles)
    (origin : after.origin = m.origin)
    (made_none : ∀ handle name fd, event.2 ≠ .created handle name fd) :
    Traced (trace ++ [event]) after where
  consistent := consistent
  reached := by
    obtain ⟨steps, reached, made⟩ := traced.reached
    refine ⟨steps, handles.trans reached, ?_⟩
    intro label handle name fd member
    rcases List.mem_append.mp member with old | new
    · rw [handles, origin]
      exact made label handle name fd old
    · rw [List.mem_singleton] at new
      exact absurd (congrArg Prod.snd new).symm (made_none handle name fd)

/-- A step on the table of a machine, which may have made an object. -/
theorem Traced.stepped {after : Machine} {event : Label × Answer} (traced : Traced trace m)
    (consistent : Consistent after) (label : HandleTable.Step)
    (handles : after.handles = (HandleTable.step m.handles label).1)
    (older : ∀ name, name < m.handles.nextRecord → after.origin name = m.origin name)
    (further : m.handles.nextRecord ≤ after.handles.nextRecord)
    (made : ∀ handle name fd, event.2 = .created handle name fd →
      after.origin name = some fd ∧ name < after.handles.nextRecord ∧
        (HandleTable.step m.handles label).2 = .insert .ok name handle ∧
        ∃ kind object callback allocated, label = .insert kind object callback allocated) :
    Traced (trace ++ [event]) after where
  consistent := consistent
  reached := by
    obtain ⟨steps, reached, before⟩ := traced.reached
    refine ⟨steps ++ [label], ?_, ?_⟩
    · rw [run_concat, Run.extend, handles, reached]
    · intro other handle name fd member
      rw [run_concat, Run.extend, ← reached]
      rcases List.mem_append.mp member with old | new
      · obtain ⟨from_fd, allocated, kind, object, inserted⟩ := before other handle name fd old
        exact ⟨(older name allocated).trans from_fd, Nat.lt_of_lt_of_le allocated further, kind,
          object, inserted.later⟩
      · rw [List.mem_singleton] at new
        obtain ⟨from_fd, allocated, answered, kind, object, callback, memory, rfl⟩ :=
          made handle name fd (congrArg Prod.snd new).symm
        refine ⟨from_fd, allocated, kind, object, callback, memory, ?_⟩
        rw [answered]
        exact List.mem_append_right _ List.mem_cons_self

theorem next_record_perform (s : HandleTable.System) (action : HandleTable.Action) :
    (HandleTable.perform s action).1.nextRecord = s.nextRecord := by
  cases action with
  | dropRecord name =>
    simp only [HandleTable.perform]
    split
    · rfl
    · split
      · rfl
      · split <;> rfl
  | runDestroy => rfl
  | dropTracker => exact HandleTable.drop_tracker_next_record s _ _
  | endActivity => exact HandleTable.drop_tracker_next_record s _ _
  | freeTable =>
    simp only [HandleTable.perform]
    split <;> rfl

/-- Record names are given in order. -/
theorem next_record_step {s : HandleTable.System} (ledger : HandleTable.Ledger s)
    (label : HandleTable.Step) :
    s.nextRecord ≤ (HandleTable.step s label).1.nextRecord ∧
      ∀ name handle, (HandleTable.step s label).2 = .insert .ok name handle →
        name = s.nextRecord ∧ name < (HandleTable.step s label).1.nextRecord := by
  have effect := HandleTable.step_effect s label
  generalize (HandleTable.step s label).1 = after at effect ⊢
  generalize (HandleTable.step s label).2 = outcome at effect ⊢
  cases effect with
  | unchanged refused =>
    refine ⟨Nat.le_refl _, ?_⟩
    rintro name handle rfl
    exact absurd refused id
  | refusedInsert failed =>
    refine ⟨Nat.le_succ _, ?_⟩
    intro name handle same
    cases same
    exact absurd rfl failed
  | inserted live open_ free held retained =>
    refine ⟨Nat.le_succ _, ?_⟩
    intro name handle same
    cases same
    exact ⟨rfl, Nat.lt_succ_self _⟩
  | advanced started next =>
    refine ⟨Nat.le_of_eq (next_record_perform s _).symm, ?_⟩
    intro name handle same
    contradiction
  | dangling freed => exact absurd freed ledger.not_dangling
  | _ =>
    refine ⟨Nat.le_refl _, ?_⟩
    intro name handle same
    contradiction

@[simp] theorem destroy_object_handles (m : Machine) (callback address : Nat) :
    (destroyObject m callback address).handles = m.handles ∧
      (destroyObject m callback address).origin = m.origin := by
  unfold destroyObject
  split
  · exact ⟨rfl, rfl⟩
  · split
    · exact ⟨rfl, rfl⟩
    · split <;> exact ⟨rfl, rfl⟩

/-- What publishing an object does to the table, and which object it made. -/
theorem publish_effect (m : Machine) (address : Nat) (object : KernelObject) (record : Bool) :
    (publish m address object record).1.handles = (HandleTable.step m.handles
        (.insert object.kind address object.destroyer record)).1 ∧
      ((∃ name handle, (HandleTable.step m.handles
            (.insert object.kind address object.destroyer record)).2 = .insert .ok name handle ∧
          (publish m address object record).1.origin =
            Function.update m.origin name (some object.fd) ∧
          (publish m address object record).2 = .created handle name object.fd) ∨
        ((publish m address object record).1.origin = m.origin ∧
          (publish m address object record).2 = .refused)) := by
  unfold publish
  dsimp only [allocateObject]
  split
  · rename_i name handle accepted
    exact ⟨rfl, .inl ⟨name, handle, accepted, rfl, rfl⟩⟩
  · obtain ⟨handles, origin⟩ := destroy_object_handles { allocateObject m address object with
      handles := (HandleTable.step m.handles
        (.insert object.kind address object.destroyer record)).1 } object.destroyer address
    exact ⟨handles, .inr ⟨origin, rfl⟩⟩

theorem Traced.published {address : Nat} {label : Label} (traced : Traced trace m)
    (object : KernelObject) (record : Bool)
    (consistent : Consistent (publish m address object record).1) :
    Traced (trace ++ [(label, (publish m address object record).2)])
      (publish m address object record).1 := by
  have ledger := traced.consistent.tied.ledger
  obtain ⟨handles, effect⟩ := publish_effect m address object record
  obtain ⟨further, named⟩ := next_record_step ledger
    (.insert object.kind address object.destroyer record)
  rw [← handles] at further
  rcases effect with ⟨name, handle, accepted, origin, answer⟩ | ⟨origin, answer⟩
  · obtain ⟨next, allocated⟩ := named name handle accepted
    refine traced.stepped consistent _ handles ?_ further ?_
    · intro other older
      rw [origin, Function.update_of_ne (by omega)]
    · intro handle' name' fd made
      rw [answer] at made
      cases made
      refine ⟨?_, ?_, accepted, _, _, _, _, rfl⟩
      · rw [origin, Function.update_self]
      · rw [handles]
        exact allocated
  · refine traced.stepped consistent _ handles (fun other _ => by rw [origin]) further ?_
    intro handle name fd made
    rw [answer] at made
    contradiction

theorem Traced.creation {label : Label} {result : Machine × Answer} (traced : Traced trace m)
    (creation : Creation m result) : Traced (trace ++ [(label, result.2)]) result.1 := by
  have consistent := traced.consistent.creation creation
  cases creation with
  | nothing => exact traced.silent consistent rfl rfl fun _ _ _ => Answer.noConfusion
  | inVain fd => exact traced.silent consistent rfl rfl fun _ _ _ => Answer.noConfusion
  | published address object record free unused => exact traced.published object record consistent

/-- A step on the table makes no object. -/
theorem handles_step_effect (m : Machine) (label : HandleTable.Step) :
    (handlesStep m label = (m, .blocked)) ∨
      (handlesStep m label).1.handles = (HandleTable.step m.handles label).1 ∧
        (handlesStep m label).1.origin = m.origin ∧
        (handlesStep m label).2 = .handles (HandleTable.step m.handles label).2 := by
  unfold handlesStep
  split
  · exact .inl rfl
  · split
    · exact .inr ⟨rfl, rfl, rfl⟩
    · rename_i callback address running
      obtain ⟨handles, origin⟩ := destroy_object_handles { m with
        handles := (HandleTable.step m.handles label).1
        held := heldAfter m.held label (HandleTable.step m.handles label).2 } callback address
      exact .inr ⟨handles, origin, rfl⟩

theorem find_next_effect (m : Machine) (position : Nat) (output : Search.FindData) :
    (findNext m position output).1.handles = m.handles ∧
      (findNext m position output).1.origin = m.origin ∧
      ∀ handle name fd, (findNext m position output).2 ≠ .created handle name fd := by
  unfold findNext
  split
  · exact ⟨rfl, rfl, fun _ _ _ => Answer.noConfusion⟩
  · split
    · exact ⟨rfl, rfl, fun _ _ _ => Answer.noConfusion⟩
    · exact ⟨rfl, rfl, fun _ _ _ => Answer.noConfusion⟩
    · split <;> exact ⟨rfl, rfl, fun _ _ _ => Answer.noConfusion⟩

theorem traced_step (traced : Traced trace m) (label : Label) :
    Traced (trace ++ [(label, (step m label).2)]) (step m label).1 := by
  have consistent := traced.consistent.step label
  cases label with
  | createFile host =>
    simp only [step]
    split
    · exact traced.silent traced.consistent rfl rfl fun _ _ _ => Answer.noConfusion
    · rename_i possible
      exact traced.creation (create_file_creation (not_not.mp (not_or.mp possible).2))
  | findFirst host allocations directory rootFd filename options output =>
    simp only [step]
    split
    · exact traced.silent traced.consistent rfl rfl fun _ _ _ => Answer.noConfusion
    · rename_i possible
      exact traced.creation (find_first_creation (not_not.mp (not_or.mp possible).2) ..)
  | handles label =>
    rcases handles_step_effect m label with refused | ⟨handles, origin, answer⟩
    · simp only [step, refused]
      exact traced.silent traced.consistent rfl rfl fun _ _ _ => Answer.noConfusion
    · obtain ⟨further, -⟩ := next_record_step traced.consistent.tied.ledger label
      refine traced.stepped consistent label handles (fun _ _ => by rw [← origin]; rfl)
        (further.trans (Nat.le_of_eq (congrArg HandleTable.System.nextRecord handles.symm))) ?_
      intro handle name fd made
      rw [show (step m (.handles label)).2 = _ from answer] at made
      contradiction
  | useFile position =>
    obtain ⟨same, answer⟩ := traced.consistent.used position
    refine traced.silent consistent (congrArg Machine.handles same) (congrArg Machine.origin same)
      ?_
    intro handle name fd made
    rcases answer with blocked | ⟨used, -, answered⟩
    · exact Answer.noConfusion (blocked.symm.trans made)
    · exact Answer.noConfusion (answered.symm.trans made)
  | findNext position output =>
    obtain ⟨handles, origin, silent⟩ := find_next_effect m position output
    exact traced.silent consistent handles origin silent

theorem traced_run (labels : List Label) :
    Traced (run step {} labels).trace (run step {} labels).state := by
  apply run_invariant step Traced
  · exact ⟨consistent_start, [], rfl, by simp⟩
  · intro trace m label traced
    exact traced_step traced label

/-- Two inserts that issued the same token are one. -/
theorem same_record {trace : List (HandleTable.Step × HandleTable.Outcome)}
    (distinct : (trace.filterMap HandleTable.issued).Nodup) {kind kind' : HandleKind}
    {object object' name' : Nat} (inserted : InsertedUnder trace handle kind object name)
    (inserted' : InsertedUnder trace handle kind' object' name') : name = name' := by
  obtain ⟨callback, allocated, member⟩ := inserted
  obtain ⟨callback', allocated', member'⟩ := inserted'
  obtain ⟨before, later, rfl⟩ := List.append_of_mem member
  rw [List.filterMap_append, List.filterMap_cons_some (show HandleTable.issued _ = some handle from rfl),
    List.nodup_append, List.nodup_cons] at distinct
  obtain ⟨-, ⟨behind, -⟩, apart⟩ := distinct
  rcases List.mem_append.mp member' with earlier | member'
  · have issued : handle ∈ before.filterMap HandleTable.issued :=
      List.mem_filterMap.mpr ⟨_, earlier, rfl⟩
    exact absurd rfl (apart handle issued handle List.mem_cons_self)
  · rcases List.mem_cons.mp member' with same | afterwards
    · cases same
      rfl
    · have issued : handle ∈ later.filterMap HandleTable.issued :=
        List.mem_filterMap.mpr ⟨_, afterwards, rfl⟩
      exact absurd issued behind

/-- A handle that is acquired leads to the object that was created when the handle was returned:
the lease is on that object's record, the object is there, it is of the kind asked for, and its
descriptor is still the one that was opened for it then, whatever was created and destroyed
since. -/
theorem handle_reaches_its_object (labels : List Label) (label : Label) (handle : UInt64)
    (name fd : Nat) (kind : HandleKind) (lease : Lease)
    (created : (label, Answer.created handle name fd) ∈ (run step {} labels).trace)
    (acquired : (HandleTable.step (run step {} labels).state.handles
      (.acquire handle kind)).2 = .acquire .ok lease) :
    lease.internal = name ∧
      ∃ object, (run step {} labels).state.objects lease.object = some object ∧
        object.kind = kind ∧ object.fd = fd ∧ fd ∈ (run step {} labels).state.descriptors := by
  have traced := traced_run labels
  obtain ⟨tied, owned, -⟩ := traced.consistent
  obtain ⟨steps, reached, made⟩ := traced.reached
  obtain ⟨from_fd, -, kind', object', inserted⟩ := made label handle name fd created
  obtain ⟨ledger, tokens⟩ := HandleTable.tokens_run steps
  rw [← reached] at ledger
  have effect := HandleTable.step_effect (run step {} labels).state.handles (.acquire handle kind)
  generalize (HandleTable.step (run step {} labels).state.handles (.acquire handle kind)).1 = after
    at effect
  rw [reached] at acquired
  have opened := tokens.acquired (by rw [← reached]; exact ledger) acquired
  have same := same_record tokens.distinct inserted opened.1
  rw [← reached] at acquired
  rw [acquired] at effect
  cases effect with
  | unchanged refused => exact absurd rfl refused
  | acquired live resolved room held begun =>
    obtain ⟨object, found, is_kind, origin⟩ := tied.recorded _ _ resolved.live
    rw [same] at from_fd
    have is_fd := Option.some.inj (origin.symm.trans from_fd)
    refine ⟨same.symm, object, found, is_kind.trans resolved.kind_eq, is_fd, ?_⟩
    exact (owned.owned fd).mpr ⟨_, object, found, is_fd⟩
  | dangling freed => exact absurd freed ledger.not_dangling

/-- The console, opened as descriptor 3. -/
def consoleHost : CreateHost := { descriptor := .ok 3, address := some 64, record := true }

theorem console_handle_reaches_its_file :
    (HandleTable.Lease.mk 64 0).internal = 0 ∧
      ∃ object, (run step {} [.createFile consoleHost]).state.objects 64 = some object ∧
        object.kind = .file ∧ object.fd = 3 ∧
        3 ∈ (run step {} [.createFile consoleHost]).state.descriptors :=
  handle_reaches_its_object [.createFile consoleHost] (.createFile consoleHost)
    (HandleTable.encodeHandle 0 1) 0 3 .file ⟨64, 0⟩ List.mem_cons_self (by decide)

end SadLayer.KernelObjects
