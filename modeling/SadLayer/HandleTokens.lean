import SadLayer.HandleDestruction
import SadLayer.Library.BitFields

/-! Tokens over whole runs. A slot never hands out a generation it has left
behind, so a token names one insert for ever. -/
namespace SadLayer.HandleTable
open SadLayer.Library

variable {s t : System} {table : Table} {slot : Slot} {trace : List (Step × Outcome)}
  {event : Step × Outcome} {handle : UInt64} {kind : HandleKind} {index generation name : Nat}

/-! ### The encoding -/

/-- The fields of a token: the tag, the generation and the slot's ordinal. -/
def token (index generation : Nat) : Nat :=
  0x534c * 2 ^ 48 + generation * 2 ^ 16 + (index + 1)

theorem and_mask_to_nat (handle mask : UInt64) (low width : Nat)
    (shape : mask.toNat = (2 ^ width - 1) <<< low) :
    (handle &&& mask).toNat = field handle.toNat low width <<< low := by
  rw [UInt64.toNat_and, shape, and_field_mask]

theorem encode_to_nat (inside : index < capacity) (narrow : generation ≤ uint32Max) :
    (encodeHandle index generation).toNat = token index generation := by
  unfold encodeHandle token capacity uint32Max at *
  rw [UInt64.toNat_or, UInt64.toNat_or, UInt64.toNat_shiftLeft, UInt64.toNat_ofNat_of_lt' (by show _ < 2 ^ 64; omega),
    UInt64.toNat_ofNat_of_lt' (by show _ < 2 ^ 64; omega)]
  have tag : handleTag.toNat = 0x534c <<< 48 := rfl
  have shift : (16 : UInt64).toNat % 64 = 16 := rfl
  have fits : generation <<< 16 < 2 ^ 48 := by rw [Nat.shiftLeft_eq]; omega
  rw [tag, shift, Nat.mod_eq_of_lt (by omega), or_field _ _ 48 fits]
  have low := or_field (0x534c * 2 ^ 32 + generation) (index + 1) 16 (by omega)
  rw [Nat.shiftLeft_eq] at *
  rw [show 0x534c * 2 ^ 48 + generation * 2 ^ 16 = (0x534c * 2 ^ 32 + generation) * 2 ^ 16 by omega,
    low]

theorem decode_iff : decodeHandle handle = some (index, generation) ↔
    handle.toNat = token index generation ∧ index < capacity ∧ 0 < generation ∧
      generation ≤ uint32Max := by
  have tag := and_mask_to_nat handle handleTagMask 48 16 rfl
  have slot := and_mask_to_nat handle handleSlotMask 0 16 rfl
  have middle := and_mask_to_nat handle handleGenerationMask 16 32 rfl
  have tagged : handle &&& handleTagMask = handleTag ↔ field handle.toNat 48 16 = 0x534c := by
    rw [← UInt64.toNat_inj, tag, show handleTag.toNat = 0x534c <<< 48 from rfl]
    simp only [Nat.shiftLeft_eq]
    omega
  have zero : handle &&& handleSlotMask = 0 ↔ field handle.toNat 0 16 = 0 := by
    rw [← UInt64.toNat_inj, slot]
    rfl
  have encoded : ((handle &&& handleGenerationMask) >>> 16).toNat = field handle.toNat 16 32 := by
    rw [UInt64.toNat_shiftRight, middle, show (16 : UInt64).toNat % 64 = 16 from rfl,
      Nat.shiftLeft_shiftRight]
  have bound := handle.toNat_lt
  unfold decodeHandle
  simp only [ne_eq, tagged, zero, slot, encoded, Nat.shiftLeft_zero]
  unfold field token capacity uint32Max
  constructor
  · intro decoded
    split at decoded
    · contradiction
    · split at decoded
      · contradiction
      · simp only [Option.some.injEq, Prod.mk.injEq] at decoded
        omega
  · rintro ⟨shape, inside, positive, narrow⟩
    rw [if_neg (by omega), if_neg (by omega)]
    simp only [Option.some.injEq, Prod.mk.injEq]
    omega

theorem decode_encode (inside : index < capacity) (positive : 0 < generation)
    (narrow : generation ≤ uint32Max) :
    decodeHandle (encodeHandle index generation) = some (index, generation) :=
  decode_iff.mpr ⟨encode_to_nat inside narrow, inside, positive, narrow⟩

/-- Only the encoding of a slot and a generation decodes to them. -/
theorem encode_decoded (decoded : decodeHandle handle = some (index, generation)) :
    encodeHandle index generation = handle ∧ index < capacity ∧ 0 < generation ∧
      generation ≤ uint32Max := by
  obtain ⟨shape, inside, positive, narrow⟩ := decode_iff.mp decoded
  refine ⟨?_, inside, positive, narrow⟩
  rw [← UInt64.toNat_inj, encode_to_nat inside narrow, shape]

/-! ### Tokens in a trace -/

/-- The token a successful insert returned. -/
def issued : Step × Outcome → Option UInt64
  | (_, .insert .ok _ handle) => some handle
  | _ => none

/-- The token a successful close was given. -/
def closedBy : Step × Outcome → Option UInt64
  | (.close handle _, .close .ok) => some handle
  | _ => none

def Issued (trace : List (Step × Outcome)) (handle : UInt64) : Prop :=
  handle ∈ trace.filterMap issued

def Closed (trace : List (Step × Outcome)) (handle : UInt64) : Prop :=
  handle ∈ trace.filterMap closedBy

instance : Decidable (Issued trace handle) :=
  inferInstanceAs (Decidable (handle ∈ trace.filterMap issued))

instance : Decidable (Closed trace handle) :=
  inferInstanceAs (Decidable (handle ∈ trace.filterMap closedBy))

/-- The insert that returned a token. -/
def InsertedUnder (trace : List (Step × Outcome)) (handle : UInt64) (kind : HandleKind)
    (object name : Nat) : Prop :=
  ∃ callback allocated, (.insert kind object callback allocated, .insert .ok name handle) ∈ trace

/-- A generation that a slot has left behind. -/
def Slot.Past (slot : Slot) (generation : Nat) : Prop :=
  slot.retired = true ∨ generation < slot.generation

/-- What a run knows of one slot: every token issued for it is of a past generation, but for the
one of the record it holds, and that one has not been closed. -/
structure SlotTokens (trace : List (Step × Outcome)) (records : Nat → Option Record)
    (index : Nat) (slot : Slot) : Prop where
  usable : slot.retired = false → 0 < slot.generation ∧ slot.generation ≤ uint32Max
  retired : slot.retired = true → slot.record = none
  of_issued : ∀ handle generation, decodeHandle handle = some (index, generation) →
    Issued trace handle → slot.Past generation ∨
      slot.generation = generation ∧ slot.record.isSome = true
  of_closed : ∀ handle generation, decodeHandle handle = some (index, generation) →
    Closed trace handle → slot.Past generation
  held : ∀ name, slot.record = some name → ∃ kind object,
    InsertedUnder trace (encodeHandle index slot.generation) kind object name ∧
      ∀ record, records name = some record → record.kind = kind ∧ record.object = object

/-- What a run knows of its tokens. -/
structure Tokens (trace : List (Step × Outcome)) (s : System) : Prop where
  distinct : (trace.filterMap issued).Nodup
  shaped : ∀ handle, Issued trace handle →
    ∃ index generation, decodeHandle handle = some (index, generation)
  closed_issued : ∀ handle, Closed trace handle → Issued trace handle
  slots : ∀ table, s.table = some table → ∀ index < capacity,
    SlotTokens trace s.records index (table.slots index)

theorem issued_silent (silent : issued event = none) :
    Issued (trace ++ [event]) handle ↔ Issued trace handle := by
  simp [Issued, silent]

theorem closed_silent (silent : closedBy event = none) :
    Closed (trace ++ [event]) handle ↔ Closed trace handle := by
  simp [Closed, silent]

theorem issued_concat (issues : issued event = some handle) {other : UInt64} :
    Issued (trace ++ [event]) other ↔ Issued trace other ∨ other = handle := by
  simp [Issued, issues]

theorem closed_concat (closes : closedBy event = some handle) {other : UInt64} :
    Closed (trace ++ [event]) other ↔ Closed trace other ∨ other = handle := by
  simp [Closed, closes]

theorem InsertedUnder.later {object : Nat} (inserted : InsertedUnder trace handle kind object name) :
    InsertedUnder (trace ++ [event]) handle kind object name := by
  obtain ⟨callback, allocated, member⟩ := inserted
  exact ⟨callback, allocated, List.mem_append_left _ member⟩

theorem InsertedUnder.issued {object : Nat} (inserted : InsertedUnder trace handle kind object name) :
    Issued trace handle := by
  obtain ⟨callback, allocated, member⟩ := inserted
  exact List.mem_filterMap.mpr ⟨_, member, rfl⟩

/-- The kinds and the objects of the records a step keeps. -/
def SameObjects (before after : Nat → Option Record) : Prop :=
  ∀ name record, after name = some record →
    ∃ old, before name = some old ∧ old.kind = record.kind ∧ old.object = record.object

theorem SameObjects.refl (records : Nat → Option Record) : SameObjects records records :=
  fun _ record live => ⟨record, live, rfl, rfl⟩

theorem SlotTokens.kept {records after : Nat → Option Record}
    (tokens : SlotTokens trace records index slot) (issues : issued event = none)
    (closes : closedBy event = none) (same : SameObjects records after) :
    SlotTokens (trace ++ [event]) after index slot where
  usable := tokens.usable
  retired := tokens.retired
  of_issued := fun handle generation decoded was =>
    tokens.of_issued handle generation decoded ((issued_silent issues).mp was)
  of_closed := fun handle generation decoded was =>
    tokens.of_closed handle generation decoded ((closed_silent closes).mp was)
  held := fun name holds => by
    obtain ⟨kind, object, inserted, records⟩ := tokens.held name holds
    refine ⟨kind, object, inserted.later, fun record live => ?_⟩
    obtain ⟨old, was, sameKind, sameObject⟩ := same name record live
    obtain ⟨kindEq, objectEq⟩ := records old was
    exact ⟨sameKind ▸ kindEq, sameObject ▸ objectEq⟩

/-- Invalidation leaves behind the generation it found, and all before it. -/
theorem invalidate_slot_past (was : slot.Past generation ∨ slot.generation = generation) :
    (invalidateSlot slot).Past generation := by
  unfold invalidateSlot Slot.Past at *
  split
  · exact .inl rfl
  · rcases was with (retired | past) | same
    · exact .inl retired
    · exact .inr (Nat.lt_succ_of_lt past)
    · exact .inr (by dsimp only; omega)

theorem invalidate_slot_usable (usable : slot.retired = false → 0 < slot.generation ∧
    slot.generation ≤ uint32Max) : (invalidateSlot slot).retired = false →
      0 < (invalidateSlot slot).generation ∧ (invalidateSlot slot).generation ≤ uint32Max := by
  unfold invalidateSlot
  split
  · intro usable
    contradiction
  · intro open_
    have bound := usable open_
    dsimp only
    omega

/-- A slot that gives up its record, when its token may just have been closed. -/
theorem SlotTokens.invalidated {records : Nat → Option Record}
    (tokens : SlotTokens trace records index slot) (issues : issued event = none)
    (closes : ∀ other, closedBy event = some other →
      ∀ generation, decodeHandle other = some (index, generation) → slot.generation = generation) :
    SlotTokens (trace ++ [event]) records index (invalidateSlot slot) where
  usable := invalidate_slot_usable tokens.usable
  retired := fun _ => invalidate_slot_record slot
  of_issued := fun handle generation decoded was => by
    rcases tokens.of_issued handle generation decoded ((issued_silent issues).mp was) with
      past | ⟨current, -⟩
    · exact .inl (invalidate_slot_past (.inl past))
    · exact .inl (invalidate_slot_past (.inr current))
  of_closed := fun handle generation decoded was => by
    cases closing : closedBy event with
    | none =>
      have past := tokens.of_closed handle generation decoded ((closed_silent closing).mp was)
      exact invalidate_slot_past (.inl past)
    | some other =>
      rcases (closed_concat closing).mp was with before | rfl
      · exact invalidate_slot_past
          (.inl (tokens.of_closed handle generation decoded before))
      · exact invalidate_slot_past (.inr (closes handle closing generation decoded))
  held := fun name holds => by
    rw [invalidate_slot_record] at holds
    contradiction

theorem tokens_create : Tokens [] create where
  distinct := List.nodup_nil
  shaped := fun handle was => by simp [Issued] at was
  closed_issued := fun handle was => by simp [Closed] at was
  slots := fun table live index _ => by
    cases live
    exact {
      usable := fun _ => ⟨Nat.one_pos, show 1 ≤ uint32Max by decide⟩
      retired := fun _ => rfl
      of_issued := fun handle generation _ was => by simp [Issued] at was
      of_closed := fun handle generation _ was => by simp [Closed] at was
      held := fun name holds => by contradiction }

/-- A step that issues and closes nothing and writes no slot. -/
theorem Tokens.kept (tokens : Tokens trace s) (issues : issued event = none)
    (closes : closedBy event = none)
    (slots : ∀ after, t.table = some after → ∃ before, s.table = some before ∧
      after.slots = before.slots)
    (same : SameObjects s.records t.records) : Tokens (trace ++ [event]) t where
  distinct := by
    rw [List.filterMap_append, List.filterMap_cons, issues, List.filterMap_nil, List.append_nil]
    exact tokens.distinct
  shaped := fun handle was => tokens.shaped handle ((issued_silent issues).mp was)
  closed_issued := fun handle was =>
    (issued_silent issues).mpr (tokens.closed_issued handle ((closed_silent closes).mp was))
  slots := fun after live index inside => by
    obtain ⟨before, was, unwritten⟩ := slots after live
    rw [unwritten]
    exact (tokens.slots before was index inside).kept issues closes same

/-- A successful insert issues a token that was never issued before. -/
theorem tokens_inserted (ledger : Ledger s) (tokens : Tokens trace s)
    {object callback : Nat} {allocated : Bool} {tracker : Option Nat} {nextRecord : Nat}
    (live : s.table = some table) (free : freeSlot table = some index) :
    Tokens (trace ++ [(.insert kind object callback allocated,
        .insert .ok s.nextRecord (encodeHandle index (table.slots index).generation))]) { s with
      nextRecord := nextRecord
      table := some (setSlot table index { table.slots index with record := some s.nextRecord })
      records := Function.update s.records s.nextRecord
        (some { references := 1, kind := kind, object := object, destroy := callback })
      tracker := tracker } := by
  obtain ⟨inside, empty, open_⟩ := free_slot_spec free
  have here := tokens.slots table live index inside
  obtain ⟨positive, narrow⟩ := here.usable open_
  have decoded := decode_encode inside positive narrow
  have fresh : ¬ Issued trace (encodeHandle index (table.slots index).generation) := by
    intro was
    rcases here.of_issued _ _ decoded was with (retired | past) | ⟨-, holds⟩
    · rw [open_] at retired
      contradiction
    · exact absurd past (Nat.lt_irrefl _)
    · rw [empty] at holds
      contradiction
  have issues : issued (.insert kind object callback allocated,
      .insert .ok s.nextRecord (encodeHandle index (table.slots index).generation)) =
      some (encodeHandle index (table.slots index).generation) := rfl
  exact {
    distinct := by
      rw [List.filterMap_append, List.filterMap_cons, issues, List.filterMap_nil]
      apply tokens.distinct.append (List.nodup_singleton _)
      intro handle was new
      rw [List.mem_singleton] at new
      exact fresh (new ▸ was)
    shaped := fun handle was => by
      rcases (issued_concat issues).mp was with before | rfl
      · exact tokens.shaped handle before
      · exact ⟨_, _, decoded⟩
    closed_issued := fun handle was =>
      (issued_concat issues).mpr (.inl (tokens.closed_issued handle ((closed_silent rfl).mp was)))
    slots := fun after now other within => by
      cases now
      by_cases same : other = index
      · subst same
        simp only [setSlot, Function.update_self]
        exact {
          usable := fun _ => ⟨positive, narrow⟩
          retired := fun retired => by
            rw [open_] at retired
            contradiction
          of_issued := fun handle generation decodes was => by
            rcases (issued_concat issues).mp was with before | rfl
            · rcases here.of_issued handle generation decodes before with past | ⟨-, holds⟩
              · exact .inl past
              · rw [empty] at holds
                contradiction
            · rw [decoded, Option.some.injEq, Prod.mk.injEq] at decodes
              exact .inr ⟨decodes.2, rfl⟩
          of_closed := fun handle generation decodes was =>
            here.of_closed handle generation decodes ((closed_silent rfl).mp was)
          held := fun name holds => by
            simp only [Option.some.injEq] at holds
            subst holds
            refine ⟨kind, object, ⟨callback, allocated, by simp⟩, fun record found => ?_⟩
            simp only [Function.update_self, Option.some.injEq] at found
            subst found
            exact ⟨rfl, rfl⟩ }
      · simp only [setSlot, Function.update_of_ne same]
        have there := tokens.slots table live other within
        exact {
          usable := there.usable
          retired := there.retired
          of_issued := fun handle generation decodes was => by
            rcases (issued_concat issues).mp was with before | rfl
            · exact there.of_issued handle generation decodes before
            · rw [decoded, Option.some.injEq, Prod.mk.injEq] at decodes
              exact absurd decodes.1.symm same
          of_closed := fun handle generation decodes was =>
            there.of_closed handle generation decodes ((closed_silent rfl).mp was)
          held := fun name holds => by
            obtain ⟨kind', object', inserted, records⟩ := there.held name holds
            refine ⟨kind', object', inserted.later, fun record found => ?_⟩
            have older : name ≠ s.nextRecord := by
              rintro rfl
              exact ledger.not_dangling
                (.slot live within holds (ledger.records.fresh _ (Nat.le_refl _)))
            rw [Function.update_of_ne older] at found
            exact records record found } }

/-- A successful close leaves the generation of its token behind. -/
theorem tokens_closed (tokens : Tokens trace s) {record : Record} {tracker : Option Nat}
    {calls : List Call} (live : s.table = some table)
    (resolved : Resolved s table handle kind index name record) :
    Tokens (trace ++ [(.close handle kind, .close .ok)]) { s with
      table := some (setSlot table index (invalidateSlot (table.slots index)))
      tracker := tracker
      calls := calls } := by
  obtain ⟨encoded, inside, -, -⟩ := encode_decoded resolved.decoded
  have issues : issued (.close handle kind, .close .ok) = none := rfl
  exact {
    distinct := by
      rw [List.filterMap_append, List.filterMap_cons, issues, List.filterMap_nil, List.append_nil]
      exact tokens.distinct
    shaped := fun other was => tokens.shaped other ((issued_silent issues).mp was)
    closed_issued := fun other was => by
      rw [issued_silent issues]
      rcases (closed_concat rfl).mp was with before | rfl
      · exact tokens.closed_issued other before
      · obtain ⟨_, _, inserted, -⟩ :=
          (tokens.slots table live index inside).held name resolved.held
        rw [encoded] at inserted
        exact inserted.issued
    slots := fun after now other within => by
      cases now
      have there := tokens.slots table live other within
      by_cases same : other = index
      · subst same
        simp only [setSlot, Function.update_self]
        apply there.invalidated issues
        intro closing closes generation decodes
        cases closes
        rw [resolved.decoded, Option.some.injEq, Prod.mk.injEq] at decodes
        exact decodes.2
      · simp only [setSlot, Function.update_of_ne same]
        exact {
          usable := there.usable
          retired := there.retired
          of_issued := fun closing generation decodes was =>
            there.of_issued closing generation decodes ((issued_silent issues).mp was)
          of_closed := fun closing generation decodes was => by
            rcases (closed_concat rfl).mp was with before | rfl
            · exact there.of_closed closing generation decodes before
            · rw [resolved.decoded, Option.some.injEq, Prod.mk.injEq] at decodes
              exact absurd decodes.1.symm same
          held := fun holder holds => by
            obtain ⟨kind', object', inserted, records⟩ := there.held holder holds
            exact ⟨kind', object', inserted.later, records⟩ } }

/-- A destruction leaves the generation of every occupied slot behind. -/
theorem tokens_destroyed (tokens : Tokens trace s) (live : s.table = some table) :
    Tokens (trace ++ [(.destroy, .done)]) (destroy s table).1 where
  distinct := by
    rw [List.filterMap_append, List.filterMap_cons, show issued (.destroy, .done) = none from rfl,
      List.filterMap_nil, List.append_nil]
    exact tokens.distinct
  shaped := fun handle was => tokens.shaped handle ((issued_silent rfl).mp was)
  closed_issued := fun handle was =>
    (issued_silent rfl).mpr (tokens.closed_issued handle ((closed_silent rfl).mp was))
  slots := fun after now index inside => by
    cases now
    have there := tokens.slots table live index inside
    dsimp only [destroy]
    split
    · exact there.invalidated rfl fun _ closes => by contradiction
    · exact there.kept rfl rfl (.refl _)

theorem perform_same_objects (s : System) (action : Action) :
    SameObjects s.records (perform s action).1.records := by
  intro name record live
  cases action with
  | dropRecord dropped =>
    simp only [perform] at live
    split at live
    · exact ⟨record, live, rfl, rfl⟩
    · rename_i before found
      split at live
      · exact ⟨record, live, rfl, rfl⟩
      · by_cases same : name = dropped
        · subst same
          split at live
          · simp at live
          · simp only [Function.update_self, Option.some.injEq] at live
            subst live
            exact ⟨before, found, rfl, rfl⟩
        · split at live
          all_goals
            simp only [Function.update_of_ne same] at live
            exact ⟨record, live, rfl, rfl⟩
  | freeTable =>
    simp only [perform] at live
    split at live <;> exact ⟨record, live, rfl, rfl⟩
  | runDestroy other callback object => exact ⟨record, live, rfl, rfl⟩
  | dropTracker holder =>
    simp only [perform, drop_tracker_records] at live
    exact ⟨record, live, rfl, rfl⟩
  | endActivity =>
    simp only [perform, drop_tracker_records] at live
    exact ⟨record, live, rfl, rfl⟩

theorem perform_table (s : System) (action : Action) :
    (perform s action).1.table = s.table ∨ (perform s action).1.table = none := by
  cases action with
  | dropRecord name =>
    simp only [perform]
    split
    · exact .inl rfl
    · split
      · exact .inl rfl
      · split <;> exact .inl rfl
  | freeTable =>
    simp only [perform]
    split
    · exact .inl rfl
    · exact .inr rfl
  | runDestroy name callback object => exact .inl rfl
  | dropTracker record => exact .inl (by simp [perform])
  | endActivity => exact .inl (by simp [perform])

/-- Every atomic step keeps what the run knows of its tokens. -/
theorem tokens_step (ledger : Ledger s) (tokens : Tokens trace s) (label : Step) :
    Tokens (trace ++ [(label, (step s label).2)]) (step s label).1 := by
  have effect := step_effect s label
  generalize (step s label).1 = after at effect ⊢
  generalize (step s label).2 = outcome at effect ⊢
  have unwritten : ∀ after, s.table = some after → ∃ before, s.table = some before ∧
      after.slots = before.slots := fun after live => ⟨after, live, rfl⟩
  cases effect with
  | unchanged refused =>
    refine tokens.kept ?_ ?_ unwritten (.refl _)
    · cases outcome with
      | insert status name handle => exact absurd refused id
      | _ => rfl
    · cases outcome with
      | close status =>
        cases status with
        | ok => exact absurd rfl refused
        | _ => cases label <;> rfl
      | _ => cases label <;> rfl
  | @refusedInsert status kind object callback allocated failed =>
    refine tokens.kept ?_ rfl unwritten (.refl _)
    cases status with
    | ok => exact absurd rfl failed
    | _ => rfl
  | inserted live open_ free held retained => exact tokens_inserted ledger tokens live free
  | @acquired table handle kind index name record word next live resolved room held begun =>
    refine tokens.kept rfl rfl unwritten ?_
    intro other record' found
    by_cases same : other = name
    · subst same
      simp only [Function.update_self, Option.some.injEq] at found
      subst found
      exact ⟨record, resolved.live, rfl, rfl⟩
    · simp only [Function.update_of_ne same] at found
      exact ⟨record', found, rfl, rfl⟩
  | released held live => exact tokens.kept rfl rfl unwritten (.refl _)
  | closed live resolved held begun => exact tokens_closed tokens live resolved
  | destroyed live open_ => exact tokens_destroyed tokens live
  | @cloning table live =>
    exact tokens.kept rfl rfl (fun after now => ⟨table, live, by cases now; rfl⟩) (.refl _)
  | @cloned table live =>
    exact tokens.kept rfl rfl (fun after now => ⟨table, live, by cases now; rfl⟩) (.refl _)
  | @advanced position call action rest started next =>
    refine tokens.kept rfl rfl ?_ (perform_same_objects s action)
    intro after now
    rcases perform_table s action with same | freed
    · exact ⟨after, same ▸ now, rfl⟩
    · exact absurd (freed ▸ now : none = some after) (by simp)
  | dangling freed => exact absurd freed ledger.not_dangling

theorem tokens_run (labels : List Step) :
    Ledger (run step create labels).state ∧
      Tokens (run step create labels).trace (run step create labels).state := by
  apply run_invariant step fun trace s => Ledger s ∧ Tokens trace s
  · exact ⟨ledger_create, tokens_create⟩
  · intro trace s label ⟨ledger, tokens⟩
    exact ⟨ledger_step ledger label, tokens_step ledger tokens label⟩

/-- A closed token stays closed. -/
theorem closed_run {labels : List Step} (more : List Step)
    (closed : Closed (run step create labels).trace handle) :
    Closed (run step create (labels ++ more)).trace handle := by
  obtain ⟨later, extended⟩ := run_trace_append step create labels more
  rw [extended, Closed, List.filterMap_append]
  exact List.mem_append_left _ closed

/-! ### What a token resolves to -/

/-- The token was returned by this insert, and no close of it has succeeded. -/
def OpenUnder (trace : List (Step × Outcome)) (handle : UInt64) (kind : HandleKind)
    (object name : Nat) : Prop :=
  InsertedUnder trace handle kind object name ∧ ¬ Closed trace handle

/-- A token that resolves is the one of the record its slot holds. -/
theorem Tokens.resolved {record : Record} (tokens : Tokens trace s) (live : s.table = some table)
    (resolved : Resolved s table handle kind index name record) :
    OpenUnder trace handle kind record.object name := by
  obtain ⟨encoded, inside, -, -⟩ := encode_decoded resolved.decoded
  have here := tokens.slots table live index inside
  obtain ⟨kind', object, inserted, records⟩ := here.held name resolved.held
  obtain ⟨kindEq, objectEq⟩ := records record resolved.live
  rw [encoded, ← kindEq, resolved.kind_eq, ← objectEq] at inserted
  refine ⟨inserted, fun closed => ?_⟩
  rcases here.of_closed handle _ resolved.decoded closed with retired | past
  · rw [resolved.usable] at retired
    contradiction
  · exact Nat.lt_irrefl _ past

theorem resolve_past (decoded : decodeHandle handle = some (index, generation))
    (past : (table.slots index).Past generation) :
    resolve s table handle kind = .error (s, .handleNotFound) := by
  unfold resolve
  rw [decoded]
  dsimp only
  split
  · rfl
  · split
    · rfl
    · rename_i accepted
      simp only [Bool.or_eq_true, bne_iff_ne, ne_eq, not_or, Bool.not_eq_true,
        Decidable.not_not] at accepted
      obtain ⟨⟨-, usable⟩, same⟩ := accepted
      rcases past with retired | older
      · rw [usable] at retired
        contradiction
      · omega

/-- What a call gets for a token that no slot answers to. -/
def lookupFailure (kind : HandleKind) : Status :=
  if handleKindIsValid kind then .handleNotFound else .invalidArgument

theorem Tokens.closed_acquire (tokens : Tokens trace s) (closed : Closed trace handle)
    (kind : HandleKind) : (step s (.acquire handle kind)).2 = .blocked ∨
      (step s (.acquire handle kind)).2 =
        .acquire (lookupFailure kind) { object := 0, internal := 0 } := by
  obtain ⟨index, generation, decoded⟩ := tokens.shaped handle (tokens.closed_issued handle closed)
  simp only [step]
  split
  · exact .inl rfl
  · rename_i table live
    have past := (tokens.slots table live index (decode_index_lt decoded)).of_closed handle
      generation decoded closed
    split
    · exact .inl rfl
    · right
      simp only [acquire, resolve_past decoded past, lookupFailure]
      cases handleKindIsValid kind <;> rfl

theorem Tokens.closed_close (tokens : Tokens trace s) (closed : Closed trace handle)
    (kind : HandleKind) : (step s (.close handle kind)).2 = .blocked ∨
      (step s (.close handle kind)).2 = .close (lookupFailure kind) := by
  obtain ⟨index, generation, decoded⟩ := tokens.shaped handle (tokens.closed_issued handle closed)
  simp only [step]
  split
  · exact .inl rfl
  · rename_i table live
    have past := (tokens.slots table live index (decode_index_lt decoded)).of_closed handle
      generation decoded closed
    split
    · exact .inl rfl
    · right
      simp only [close, resolve_past decoded past, lookupFailure]
      cases handleKindIsValid kind <;> rfl

theorem Tokens.acquired {lease : Lease} (ledger : Ledger s) (tokens : Tokens trace s)
    (granted : (step s (.acquire handle kind)).2 = .acquire .ok lease) :
    OpenUnder trace handle kind lease.object lease.internal := by
  have effect := step_effect s (.acquire handle kind)
  generalize (step s (.acquire handle kind)).1 = after at effect
  rw [granted] at effect
  cases effect with
  | unchanged refused => exact absurd rfl refused
  | acquired live resolved room held begun => exact tokens.resolved live resolved
  | dangling freed => exact absurd freed ledger.not_dangling

theorem Tokens.closed_open (ledger : Ledger s) (tokens : Tokens trace s)
    (granted : (step s (.close handle kind)).2 = .close .ok) :
    ∃ object name, OpenUnder trace handle kind object name := by
  have effect := step_effect s (.close handle kind)
  generalize (step s (.close handle kind)).1 = after at effect
  rw [granted] at effect
  cases effect with
  | unchanged refused => exact absurd rfl refused
  | closed live resolved held begun => exact ⟨_, _, tokens.resolved live resolved⟩
  | dangling freed => exact absurd freed ledger.not_dangling

/-- After any run: no token was issued twice; a token is honoured only for the kind and the object
of its own unclosed insert; and a closed token is never found again, its kind being the only
argument that is checked before. A blocked call waits for the lock or has no table. -/
theorem no_stale_or_reused_handle (labels : List Step) :
    let history := run step create labels
    (history.trace.filterMap issued).Nodup ∧
      (∀ handle kind lease, (step history.state (.acquire handle kind)).2 = .acquire .ok lease →
        OpenUnder history.trace handle kind lease.object lease.internal) ∧
      (∀ handle kind, (step history.state (.close handle kind)).2 = .close .ok →
        ∃ object name, OpenUnder history.trace handle kind object name) ∧
      ∀ handle, Closed history.trace handle → ∀ more kind,
        let later := (run step create (labels ++ more)).state
        ((step later (.acquire handle kind)).2 = .blocked ∨
          (step later (.acquire handle kind)).2 =
            .acquire (lookupFailure kind) { object := 0, internal := 0 }) ∧
        ((step later (.close handle kind)).2 = .blocked ∨
          (step later (.close handle kind)).2 = .close (lookupFailure kind)) := by
  obtain ⟨ledger, tokens⟩ := tokens_run labels
  refine ⟨tokens.distinct, fun _ _ _ => tokens.acquired ledger,
    fun _ _ => tokens.closed_open ledger, fun handle closed more kind => ?_⟩
  obtain ⟨-, later⟩ := tokens_run (labels ++ more)
  have still := closed_run more closed
  exact ⟨later.closed_acquire still kind, later.closed_close still kind⟩

/-- A kind outside the enumeration is rejected before a closed token is looked up. -/
theorem closed_handle_of_unknown_kind :
    ¬ ∀ (labels : List Step) (handle : UInt64) (kind : HandleKind),
      Closed (run step create labels).trace handle →
      (step (run step create labels).state (.acquire handle kind)).2 =
        .acquire .handleNotFound { object := 0, internal := 0 } := by
  intro always
  have found := always [.insert .file 1 1 true, .close (encodeHandle 0 1) .file]
    (encodeHandle 0 1) (.other 0) (by decide)
  exact absurd found (by decide)

end SadLayer.HandleTable
