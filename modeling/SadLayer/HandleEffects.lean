import SadLayer.HandleTable

/-! What one atomic step of the handle table can do. Every later invariant is
proved from these cases, never by unfolding an operation again. -/
namespace SadLayer.HandleTable

/-- The outcomes that grant nothing and allocate nothing. -/
def Outcome.Refused : Outcome → Prop
  | .insert _ _ _ => False
  | .acquire status _ => status ≠ .ok
  | .close status => status ≠ .ok
  | .prepareClone _ => True
  | .done => False
  | .blocked => True

/-- The places where a step would touch freed memory. -/
inductive Dangling (s : System) : Prop where
  | tracker (table : s.table = some live) (freed : s.tracker = none)
  | slot (table : s.table = some live) (inside : index < capacity)
      (held : (live.slots index).record = some name) (freed : s.records name = none)
  | lease (held : lease ∈ s.leases) (freed : s.records lease.internal = none)

/-- A token that resolves names an occupied slot of its own generation. -/
structure Resolved (s : System) (table : Table) (handle : UInt64) (kind : HandleKind)
    (index name : Nat) (record : Record) : Prop where
  decoded : decodeHandle handle = some (index, (table.slots index).generation)
  held : (table.slots index).record = some name
  open_ : table.destroying = false
  usable : (table.slots index).retired = false
  live : s.records name = some record
  kind_eq : record.kind = kind

/-- Everything a step can do to the system. -/
inductive Effect (s : System) : Step → Outcome → System → Prop where
  | unchanged (refused : outcome.Refused) : Effect s label outcome s
  | refusedInsert (failed : status ≠ .ok) :
      Effect s (.insert kind object callback allocated) (.insert status s.nextRecord 0)
        { s with nextRecord := s.nextRecord + 1 }
  | inserted (live : s.table = some table) (open_ : table.destroying = false)
      (free : freeSlot table = some index) (held : s.tracker = some word)
      (retained : trackerRetain word = some next) :
      Effect s (.insert kind object callback allocated)
        (.insert .ok s.nextRecord (encodeHandle index (table.slots index).generation))
        { s with
          nextRecord := s.nextRecord + 1
          table := some
            (setSlot table index { table.slots index with record := some s.nextRecord })
          records := Function.update s.records s.nextRecord
            (some { references := 1, kind := kind, object := object, destroy := callback })
          tracker := some next }
  | acquired (live : s.table = some table)
      (resolved : Resolved s table handle kind index name record)
      (room : record.references ≠ uint32Max) (held : s.tracker = some word)
      (begun : trackerActivityBegin word = some next) :
      Effect s (.acquire handle kind) (.acquire .ok { object := record.object, internal := name })
        { s with
          records := Function.update s.records name
            (some { record with references := (record.references + 1) % 2 ^ 32 })
          tracker := some next
          leases := s.leases ++ [{ object := record.object, internal := name }] }
  | released (held : s.leases[position]? = some lease)
      (live : s.records lease.internal = some record) :
      Effect s (.release position) .done
        { s with
          leases := s.leases.eraseIdx position
          calls := s.calls ++
            [{ kind := .leaseRelease, todo := [.dropRecord lease.internal, .endActivity] }] }
  | closed (live : s.table = some table)
      (resolved : Resolved s table handle kind index name record)
      (held : s.tracker = some word) (begun : trackerActivityBegin word = some next) :
      Effect s (.close handle kind) (.close .ok)
        { s with
          table := some (setSlot table index (invalidateSlot (table.slots index)))
          tracker := some next
          calls := s.calls ++ [{ kind := .close, todo := [.dropRecord name, .endActivity] }] }
  | destroyed (live : s.table = some table) (open_ : table.destroying = false) :
      Effect s .destroy .done (destroy s table).1
  | cloning (live : s.table = some table) :
      Effect s .prepareClone (.prepareClone .ok)
        { s with table := some { table with locked := true } }
  | cloned (live : s.table = some table) :
      Effect s .completeClone .done { s with table := some { table with locked := false } }
  | advanced (started : s.calls[position]? = some call) (next : call.todo = action :: rest) :
      Effect s (.advance position) .done
        { (perform s action).1 with
          calls := (perform s action).1.calls.set position
            { call with todo := (perform s action).2 ++ rest } }
  | dangling (freed : Dangling s) : Effect s label outcome after

theorem decode_index_lt (decoded : decodeHandle handle = some (index, generation)) :
    index < capacity := by
  unfold decodeHandle at decoded
  split at decoded
  · contradiction
  · rename_i shaped
    dsimp only at decoded
    split at decoded
    · contradiction
    · rename_i inside
      simp only [Option.some.injEq, Prod.mk.injEq] at decoded
      have nonzero : (handle &&& handleSlotMask).toNat ≠ 0 := fun zero =>
        shaped (Or.inr (UInt64.toNat_inj.mp zero))
      omega

/-- A rejected token leaves the system alone unless it met a freed record. -/
theorem resolve_error (live : s.table = some table)
    (rejected : resolve s table handle kind = .error (after, status)) :
    (after = s ∧ status ≠ .ok) ∨ Dangling s := by
  unfold resolve at rejected
  split at rejected
  · cases rejected
    exact Or.inl ⟨rfl, nofun⟩
  · rename_i index generation decoded
    dsimp only at rejected
    split at rejected
    · cases rejected
      exact Or.inl ⟨rfl, nofun⟩
    · rename_i name held
      split at rejected
      · cases rejected
        exact Or.inl ⟨rfl, nofun⟩
      · split at rejected
        · rename_i freed
          exact Or.inr (.slot live (decode_index_lt decoded) held freed)
        · split at rejected
          · cases rejected
            exact Or.inl ⟨rfl, nofun⟩
          · contradiction

theorem resolve_ok (accepted : resolve s table handle kind = .ok (index, name, record)) :
    Resolved s table handle kind index name record := by
  unfold resolve at accepted
  split at accepted
  · contradiction
  · rename_i decodedIndex generation decoded
    dsimp only at accepted
    split at accepted
    · contradiction
    · rename_i heldName held
      split at accepted
      · contradiction
      · rename_i open_
        split at accepted
        · contradiction
        · rename_i liveRecord live
          split at accepted
          · contradiction
          · rename_i kind_eq
            simp only [Except.ok.injEq, Prod.mk.injEq] at accepted
            obtain ⟨rfl, rfl, rfl⟩ := accepted
            simp only [Bool.or_eq_true, bne_iff_ne, ne_eq, not_or, Bool.not_eq_true,
              Decidable.not_not] at open_ kind_eq
            obtain ⟨⟨stillOpen, usable⟩, same⟩ := open_
            exact ⟨by rw [decoded, same], held, stillOpen, usable, live, kind_eq⟩

theorem insert_effect (live : s.table = some table) :
    Effect s (.insert kind object callback allocated)
      (insert s table kind object callback allocated).2
      (insert s table kind object callback allocated).1 := by
  unfold insert
  dsimp only
  split
  · exact .refusedInsert nofun
  split
  · exact .refusedInsert nofun
  split
  · exact .refusedInsert nofun
  rename_i open_
  split
  · exact .refusedInsert nofun
  rename_i index free
  split
  · rename_i freed
    exact .dangling (.tracker live freed)
  rename_i word held
  split
  · exact .refusedInsert nofun
  rename_i next retained
  exact .inserted live (by simpa using open_) free held retained

theorem acquire_effect (live : s.table = some table) :
    Effect s (.acquire handle kind) (acquire s table handle kind).2
      (acquire s table handle kind).1 := by
  unfold acquire
  dsimp only
  split
  · exact .unchanged (by simp [Outcome.Refused])
  split
  · rename_i after status rejected
    obtain ⟨rfl, failed⟩ | dangling := resolve_error live rejected
    · exact .unchanged failed
    · exact .dangling dangling
  rename_i index name record accepted
  split
  · exact .unchanged (by simp [Outcome.Refused])
  rename_i room
  split
  · rename_i freed
    exact .dangling (.tracker live freed)
  rename_i word held
  split
  · exact .unchanged (by simp [Outcome.Refused])
  rename_i next begun
  exact .acquired live (resolve_ok accepted) room held begun

theorem close_effect (live : s.table = some table) :
    Effect s (.close handle kind) (close s table handle kind).2
      (close s table handle kind).1 := by
  unfold close
  split
  · exact .unchanged (by simp [Outcome.Refused])
  split
  · rename_i after status rejected
    obtain ⟨rfl, failed⟩ | dangling := resolve_error live rejected
    · exact .unchanged failed
    · exact .dangling dangling
  rename_i index name record accepted
  split
  · rename_i freed
    exact .dangling (.tracker live freed)
  rename_i word held
  split
  · exact .unchanged (by simp [Outcome.Refused])
  rename_i next begun
  exact .closed live (resolve_ok accepted) held begun

theorem release_effect : Effect s (.release position) (leaseRelease s position).2
    (leaseRelease s position).1 := by
  unfold leaseRelease
  split
  · exact .unchanged trivial
  rename_i lease held
  split
  · rename_i freed
    exact .dangling (.lease (List.mem_of_getElem? held) freed)
  rename_i record live
  exact .released held live

theorem prepare_clone_effect (live : s.table = some table) :
    Effect s .prepareClone (prepareClone s table).2 (prepareClone s table).1 := by
  unfold prepareClone
  split
  · exact .unchanged trivial
  split
  · rename_i freed
    exact .dangling (.tracker live freed)
  split
  · exact .unchanged trivial
  · exact .cloning live

theorem advance_effect : Effect s (.advance position) (advance s position).2
    (advance s position).1 := by
  unfold advance
  split
  · exact .unchanged trivial
  rename_i call started
  split
  · exact .unchanged trivial
  rename_i action rest next
  exact .advanced started next

/-- Every step is one of the effects above. -/
theorem step_effect (s : System) (label : Step) :
    Effect s label (step s label).2 (step s label).1 := by
  cases label with
  | release position => exact release_effect
  | advance position => exact advance_effect
  | insert kind object callback allocated =>
    simp only [step]
    split
    · exact .unchanged trivial
    · rename_i table live
      split
      · exact .unchanged trivial
      · exact insert_effect live
  | acquire handle kind =>
    simp only [step]
    split
    · exact .unchanged trivial
    · rename_i table live
      split
      · exact .unchanged trivial
      · exact acquire_effect live
  | close handle kind =>
    simp only [step]
    split
    · exact .unchanged trivial
    · rename_i table live
      split
      · exact .unchanged trivial
      · exact close_effect live
  | destroy =>
    simp only [step]
    split
    · exact .unchanged trivial
    · rename_i table live
      split
      · exact .unchanged trivial
      · rename_i idle
        exact .destroyed live (by simp_all)
  | prepareClone =>
    simp only [step]
    split
    · exact .unchanged trivial
    · rename_i table live
      split
      · exact .unchanged trivial
      · exact prepare_clone_effect live
  | completeClone =>
    simp only [step]
    split
    · exact .unchanged trivial
    · rename_i table live
      split
      · exact .cloned live
      · exact .unchanged trivial

end SadLayer.HandleTable
