import SadLayer.HandleTokens

/-! Who holds an object: the records made for it, and the destroy callbacks owed to it. Only
an insert adds a holder, and only a callback that runs takes one away. -/
namespace SadLayer.HandleTable
open SadLayer.Library

def objectLive (address : Nat) : Option Record → Nat
  | none => 0
  | some record => if record.object = address then 1 else 0

def objectOwed (address : Nat) (_ : CallKind) : Action → Nat
  | .runDestroy _ _ object => if object = address then 1 else 0
  | _ => 0

def holders (s : System) (address : Nat) : Nat :=
  tally (objectLive address) s.records s.nextRecord + pending (objectOwed address) s.calls

/-- The callback that the next action of a started call runs, and its object. -/
def runs (s : System) : Step → Option (Nat × Nat)
  | .advance position => do
    let call ← s.calls[position]?
    match call.todo.head? with
    | some (.runDestroy _ callback object) => some (callback, object)
    | _ => none
  | _ => none

/-- A record of an object with a callback, or that callback being owed. -/
inductive Claims (s : System) (callback object : Nat) : Prop where
  | record (live : s.records name = some record) (destroy : record.destroy = callback)
      (holds : record.object = object)
  | owed (started : call ∈ s.calls) (member : .runDestroy name callback object ∈ call.todo)

/-- What a step does to the holders and the claims. -/
inductive HolderStep (s : System) (label : Step) (outcome : Outcome) (t : System) : Prop where
  | inserted
      (issued : label = .insert kind object callback allocated ∧
        outcome = .insert .ok s.nextRecord handle)
      (holders : ∀ address, holders t address =
        holders s address + if object = address then 1 else 0)
      (records : t.records = Function.update s.records s.nextRecord
        (some { references := 1, kind := kind, object := object, destroy := callback }))
      (claims : ∀ callback' object', Claims t callback' object' →
        Claims s callback' object' ∨ callback' = callback ∧ object' = object) :
      HolderStep s label outcome t
  | ran (running : runs s label = some (callback, object)) (owed : Claims s callback object)
      (holders : ∀ address, holders t address + (if object = address then 1 else 0) =
        holders s address)
      (records : t.records = s.records)
      (claims : ∀ callback object, Claims t callback object → Claims s callback object) :
      HolderStep s label outcome t
  | other (quiet : runs s label = none)
      (refused : ∀ record handle, outcome ≠ .insert .ok record handle)
      (holders : ∀ address, holders t address = holders s address)
      (records : ∀ name record, t.records name = some record → ∃ old, s.records name = some old ∧
        old.kind = record.kind ∧ old.object = record.object ∧ old.destroy = record.destroy)
      (claims : ∀ callback object, Claims t callback object → Claims s callback object) :
      HolderStep s label outcome t

variable {s t : System} {call : Call} {action : Action} {rest : List Action} {label : Step}
  {outcome : Outcome} {address position name object callback : Nat}

theorem Claims.counted (ledger : RecordLedger s) (claims : Claims s callback object) :
    0 < holders s object := by
  unfold holders
  cases claims with
  | @record name record live destroy holds =>
    have weighed := weight_le_tally (objectLive object) s.records (ledger.allocated live)
    have one : objectLive object (s.records name) = 1 := by simp [objectLive, live, holds]
    omega
  | @owed call name started member =>
    have positive := pending_pos (objectOwed object) started member (by simp [objectOwed])
    omega

/-- The same records to claim by, and no callback more that is owed. -/
theorem Claims.back (records : ∀ name record, t.records name = some record →
      ∃ old, s.records name = some old ∧ old.object = record.object ∧ old.destroy = record.destroy)
    (owed : ∀ call ∈ t.calls, ∀ action ∈ call.todo, action.destroys = true →
      ∃ old ∈ s.calls, action ∈ old.todo)
    (claims : Claims t callback object) : Claims s callback object := by
  cases claims with
  | @record name record live destroy holds =>
    obtain ⟨old, was, sameObject, sameDestroy⟩ := records name record live
    exact .record was (sameDestroy.trans destroy) (sameObject.trans holds)
  | @owed call name started member =>
    obtain ⟨old, was, before⟩ := owed call started _ member rfl
    exact .owed was before

/-- A step that leaves the records and starts at most calls that owe no callback. -/
theorem HolderStep.of_started (quiet : runs s label = none)
    (refused : ∀ record handle, outcome ≠ .insert .ok record handle)
    (nextRecord : t.nextRecord = s.nextRecord) (records : t.records = s.records)
    (added : List Call) (calls : t.calls = s.calls ++ added)
    (keeps : ∀ call ∈ added, ∀ action ∈ call.todo, action.destroys = false) :
    HolderStep s label outcome t := by
  refine .other quiet refused ?_ ?_ ?_
  · intro address
    have nothing : pending (objectOwed address) added = 0 := by
      apply total_eq_zero.mpr
      intro call member
      apply total_eq_zero.mpr
      intro action among
      have kept := keeps call member action among
      cases action with
      | runDestroy => contradiction
      | _ => rfl
    simp only [holders, records, nextRecord, calls, pending_append, nothing]
    omega
  · intro name record live
    rw [records] at live
    exact ⟨record, live, rfl, rfl, rfl⟩
  · intro callback object claims
    refine claims.back ?_ ?_
    · intro name record live
      rw [records] at live
      exact ⟨record, live, rfl, rfl⟩
    · intro call started action member destroys
      rw [calls] at started
      rcases List.mem_append.mp started with old | new
      · exact ⟨call, old, member⟩
      · rw [keeps call new action member] at destroys
        contradiction

theorem runs_advance (started : s.calls[position]? = some call)
    (next : call.todo = action :: rest) (keeps : action.destroys = false) :
    runs s (.advance position) = none := by
  simp only [runs, started, Option.bind_eq_bind, Option.bind_some, next, List.head?_cons]
  cases action with
  | runDestroy => contradiction
  | _ => rfl

theorem runs_destroy (started : s.calls[position]? = some call)
    (next : call.todo = .runDestroy name callback object :: rest) :
    runs s (.advance position) = some (callback, object) := by
  simp only [runs, started, Option.bind_eq_bind, Option.bind_some, next, List.head?_cons]

theorem object_owed_of_keeps {kind : CallKind} (keeps : action.destroys = false) :
    objectOwed address kind action = 0 := by
  cases action with
  | runDestroy => contradiction
  | _ => rfl

/-- A write to one record that keeps what it is a record of. -/
theorem tally_same_object {records : Nat → Option Record} {value : Option Record} {n : Nat}
    (inside : name < n)
    (same : objectLive address value = objectLive address (records name)) :
    tally (objectLive address) (Function.update records name value) n =
      tally (objectLive address) records n := by
  have written := tally_update (objectLive address) records value inside
  omega

/-- The claims after the next action of a call was performed. -/
theorem Claims.performed (started : s.calls[position]? = some call)
    (next : call.todo = action :: rest)
    (records : ∀ name record, t.records name = some record →
      ∃ old, s.records name = some old ∧ old.object = record.object ∧ old.destroy = record.destroy)
    (added : List Action) (calls : t.calls = s.calls.set position { call with todo := added ++ rest })
    (owes : ∀ name callback object, .runDestroy name callback object ∈ added →
      Claims s callback object)
    (claims : Claims t callback object) : Claims s callback object := by
  cases claims with
  | @record name record live destroy holds =>
    obtain ⟨old, was, sameObject, sameDestroy⟩ := records name record live
    exact .record was (sameDestroy.trans destroy) (sameObject.trans holds)
  | @owed other name begun member =>
    rw [calls] at begun
    rcases List.mem_or_eq_of_mem_set begun with old | rfl
    · exact .owed old member
    · rcases List.mem_append.mp member with new | kept
      · exact owes _ _ _ new
      · have behind : Action.runDestroy name callback object ∈ call.todo := by
          rw [next]
          exact List.mem_cons_of_mem _ kept
        exact .owed (List.mem_of_getElem? started) behind

/-- Performing an action that runs no callback. -/
theorem HolderStep.of_performed (started : s.calls[position]? = some call)
    (next : call.todo = action :: rest) (keeps : action.destroys = false)
    (nextRecord : t.nextRecord = s.nextRecord)
    (records : ∀ name record, t.records name = some record → ∃ old, s.records name = some old ∧
      old.kind = record.kind ∧ old.object = record.object ∧ old.destroy = record.destroy)
    (added : List Action) (calls : t.calls = s.calls.set position { call with todo := added ++ rest })
    (owes : ∀ name callback object, .runDestroy name callback object ∈ added →
      Claims s callback object)
    (balance : ∀ address,
      tally (objectLive address) t.records s.nextRecord +
          total (objectOwed address call.kind) added =
        tally (objectLive address) s.records s.nextRecord) :
    HolderStep s (.advance position) .done t := by
  refine .other (runs_advance started next keeps) (fun _ _ => Outcome.noConfusion) ?_ records ?_
  · intro address
    have traded := pending_advance (objectOwed address) started next added
    have moved := balance address
    rw [object_owed_of_keeps keeps, ← calls] at traded
    simp only [holders, nextRecord]
    omega
  · intro callback object claims
    apply claims.performed started next _ added calls owes
    intro name record live
    obtain ⟨old, was, -, sameObject, sameDestroy⟩ := records name record live
    exact ⟨old, was, sameObject, sameDestroy⟩

/-- The five actions, as the holders see them. -/
theorem holder_advanced (ledger : Ledger s) (started : s.calls[position]? = some call)
    (next : call.todo = action :: rest) :
    HolderStep s (.advance position) .done { (perform s action).1 with
      calls := (perform s action).1.calls.set position
        { call with todo := (perform s action).2 ++ rest } } := by
  -- an action that only touches the tracker or the table
  have quiet {t : System} (keeps : action.destroys = false)
      (nextRecord : t.nextRecord = s.nextRecord) (records : t.records = s.records)
      (calls : t.calls = s.calls.set position { call with todo := rest }) :
      HolderStep s (.advance position) .done t := by
    refine .of_performed started next keeps nextRecord ?_ [] calls ?_ ?_
    · intro name record live
      rw [records] at live
      exact ⟨record, live, rfl, rfl, rfl⟩
    · intro _ _ _ member
      contradiction
    · intro address
      rw [records]
      rfl
  cases action with
  | dropRecord name =>
    obtain ⟨record, live, -, positive, -⟩ := drop_record_live ledger.records started next
    have inside := ledger.records.allocated live
    by_cases last : record.references = 1
    · simp only [perform, live, last, Nat.succ_ne_self, ↓reduceIte]
      refine .of_performed started next rfl rfl ?_ _ rfl ?_ ?_
      · intro other found there
        by_cases same : other = name
        · subst same
          simp at there
        · simp only [Function.update_of_ne same] at there
          exact ⟨found, there, rfl, rfl, rfl⟩
      · intro other callback object member
        simp only [List.mem_cons, Action.runDestroy.injEq, reduceCtorEq, List.not_mem_nil,
          or_false] at member
        obtain ⟨-, rfl, rfl⟩ := member
        exact .record live rfl rfl
      · intro address
        have written := tally_update (objectLive address) s.records none inside
        simp only [live, objectLive] at written
        simp only [objectOwed, total_cons, total_nil]
        omega
    · simp only [perform, live, last, Nat.ne_of_gt positive, ↓reduceIte]
      refine .of_performed started next rfl rfl ?_ [] rfl ?_ ?_
      · intro other found there
        by_cases same : other = name
        · subst same
          simp only [Function.update_self, Option.some.injEq] at there
          subst there
          exact ⟨record, live, rfl, rfl, rfl⟩
        · simp only [Function.update_of_ne same] at there
          exact ⟨found, there, rfl, rfl, rfl⟩
      · intro _ _ _ member
        contradiction
      · intro address
        exact tally_same_object inside (by rw [live]; rfl)
  | runDestroy name callback object =>
    have member : Action.runDestroy name callback object ∈ call.todo := by
      rw [next]
      exact List.mem_cons_self
    refine .ran (runs_destroy started next) (.owed (List.mem_of_getElem? started) member) ?_ rfl ?_
    · intro address
      have traded := pending_advance (objectOwed address) started next []
      simp only [objectOwed, List.nil_append, total_nil] at traded
      simp only [holders, perform, List.nil_append]
      omega
    · intro callback' object' claims
      apply claims.performed started next _ [] rfl
      · intro _ _ _ member
        contradiction
      · intro other record live
        exact ⟨record, live, rfl, rfl⟩
  | dropTracker record =>
    exact quiet rfl (by simp [perform]) (by simp [perform]) (by simp [perform])
  | endActivity =>
    exact quiet rfl (by simp [perform]) (by simp [perform]) (by simp [perform])
  | freeTable =>
    obtain ⟨table, live, -⟩ := ledger_free_table ledger started next
    exact quiet rfl (by simp [perform, live]) (by simp [perform, live]) (by simp [perform, live])

/-- A step that is refused was not about to run a callback. -/
theorem runs_of_refused (refused : (step s label).2.Refused) : runs s label = none := by
  cases label with
  | advance position =>
    simp only [step, advance] at refused
    simp only [runs]
    split at refused
    · rename_i missing
      rw [missing]
      rfl
    · rename_i call started
      split at refused
      · rename_i finished
        rw [started]
        simp only [Option.bind_eq_bind, Option.bind_some, finished, List.head?_nil]
      · exact absurd refused id
  | _ => rfl

theorem holder_step (ledger : Ledger s) (label : Step) :
    HolderStep s label (step s label).2 (step s label).1 := by
  have effect := step_effect s label
  have idle : (step s label).2.Refused → runs s label = none := runs_of_refused
  generalize (step s label).1 = after at effect ⊢
  generalize (step s label).2 = outcome at effect idle ⊢
  have none' : ∀ call ∈ ([] : List Call), ∀ action ∈ call.todo, action.destroys = false := by simp
  cases effect with
  | unchanged refused =>
    refine .of_started (idle refused) ?_ rfl rfl [] (by simp) none'
    rintro record handle rfl
    exact refused
  | @refusedInsert status kind object callback allocated failed =>
    have unused := ledger.records.fresh s.nextRecord (Nat.le_refl _)
    refine .other rfl ?_ ?_ (fun name record live => ⟨record, live, rfl, rfl, rfl⟩) ?_
    · rintro record handle same
      cases same
      exact failed rfl
    · intro address
      simp [holders, tally_succ, unused, objectLive]
    · intro callback object claims
      refine Claims.back ?_ ?_ claims
      · exact fun name record live => ⟨record, live, rfl, rfl⟩
      · exact fun call started action member _ => ⟨call, started, member⟩
  | @inserted table index word next kind object callback allocated live open_ free held retained =>
    refine .inserted ⟨rfl, rfl⟩ ?_ rfl ?_
    · intro address
      simp only [holders, tally_succ, tally_update_outside (Nat.le_refl _), Function.update_self,
        objectLive]
      omega
    · intro callback' object' claims
      cases claims with
      | @record name record found destroy holds =>
        by_cases same : name = s.nextRecord
        · subst same
          simp only [Function.update_self, Option.some.injEq] at found
          subst found
          exact .inr ⟨destroy.symm, holds.symm⟩
        · simp only [Function.update_of_ne same] at found
          exact .inl (.record found destroy holds)
      | owed started member => exact .inl (.owed started member)
  | @acquired table handle kind index name record word next live resolved room held begun =>
    have inside := ledger.records.allocated resolved.live
    have kept : ∀ other found, Function.update s.records name
        (some { record with references := (record.references + 1) % 2 ^ 32 }) other = some found →
        ∃ old, s.records other = some old ∧ old.kind = found.kind ∧ old.object = found.object ∧
          old.destroy = found.destroy := by
      intro other found there
      by_cases same : other = name
      · subst same
        rw [Function.update_self] at there
        cases there
        exact ⟨record, resolved.live, rfl, rfl, rfl⟩
      · rw [Function.update_of_ne same] at there
        exact ⟨found, there, rfl, rfl, rfl⟩
    refine .other rfl (fun _ _ => Outcome.noConfusion) ?_ kept ?_
    · intro address
      have same : objectLive address
          (some { record with references := (record.references + 1) % 2 ^ 32 }) =
            objectLive address (s.records name) := by
        rw [resolved.live]
        rfl
      simp only [holders, tally_same_object inside same]
    · intro callback object claims
      refine Claims.back ?_ ?_ claims
      · intro other found there
        obtain ⟨old, was, -, sameObject, sameDestroy⟩ := kept other found there
        exact ⟨old, was, sameObject, sameDestroy⟩
      · exact fun call started action member _ => ⟨call, started, member⟩
  | released held live =>
    refine .of_started rfl (fun _ _ => Outcome.noConfusion) rfl rfl _ rfl ?_
    intro call member action owes
    simp only [List.mem_singleton] at member
    subst member
    simp only [List.mem_cons, List.not_mem_nil, or_false] at owes
    rcases owes with rfl | rfl <;> rfl
  | closed live resolved held begun =>
    refine .of_started rfl (fun _ _ => Outcome.noConfusion) rfl rfl _ rfl ?_
    intro call member action owes
    simp only [List.mem_singleton] at member
    subst member
    simp only [List.mem_cons, List.not_mem_nil, or_false] at owes
    rcases owes with rfl | rfl <;> rfl
  | destroyed live open_ =>
    refine .of_started rfl (fun _ _ => Outcome.noConfusion) rfl rfl _ rfl ?_
    intro call member action owes
    simp only [List.mem_singleton] at member
    subst member
    simp only [List.mem_append, List.mem_map, List.mem_cons, List.not_mem_nil, or_false] at owes
    rcases owes with ⟨name, -, rfl⟩ | rfl | rfl <;> rfl
  | cloning live =>
    exact .of_started rfl (fun _ _ => Outcome.noConfusion) rfl rfl [] (by simp) none'
  | cloned live =>
    exact .of_started rfl (fun _ _ => Outcome.noConfusion) rfl rfl [] (by simp) none'
  | advanced started next => exact holder_advanced ledger started next
  | dangling freed => exact absurd freed ledger.not_dangling

end SadLayer.HandleTable
