import Mathlib.Data.List.Induction
import SadLayer.ImportEnumeration
import SadLayer.Loader

/-! Binding the import address table. The counting and the resolving pass are
offered the same symbols, nothing is written before both have passed, and what
is written is the last address given for each slot. -/
namespace SadLayer.Loader
open SadLayer.Library SadLayer.Pe

variable {image : Image} {mapped : MappedImage} {context : Type} {resolver : Resolver context}
  {bytes other : Nat → UInt8} {symbols : List ImportSymbol} {pending : List PendingImport}
  {rva index : Nat} {address : UInt64}

/-! ### The slots -/

/-- The address given last for a slot. -/
def lastAddress (pending : List PendingImport) (rva : Nat) : Option UInt64 :=
  ((pending.filter fun slot => slot.iatRva = rva).getLast?).map (·.guestAddress)

/-- Writes every pending import in turn. -/
def bindSlots (image : Image) (pending : List PendingImport) (bytes : Nat → UInt8) : Nat → UInt8 :=
  pending.foldl (bindSlot image) bytes

/-- An aligned slot inside the image, and an address that fits it. -/
structure SlotFits (image : Image) (size : Nat) (slot : PendingImport) : Prop where
  inside : slot.iatRva + entrySize image ≤ size
  aligned : slot.iatRva % entrySize image = 0
  fits : slot.guestAddress.toNat < 256 ^ entrySize image

def InSlot (image : Image) (index : Nat) (slot : PendingImport) : Prop :=
  slot.iatRva ≤ index ∧ index < slot.iatRva + entrySize image

theorem bind_slots_concat (pending : List PendingImport) (slot : PendingImport) :
    bindSlots image (pending ++ [slot]) bytes = bindSlot image (bindSlots image pending bytes) slot :=
  List.foldl_append

theorem last_address_concat (pending : List PendingImport) (slot : PendingImport) (rva : Nat) :
    lastAddress (pending ++ [slot]) rva =
      if slot.iatRva = rva then some slot.guestAddress else lastAddress pending rva := by
  unfold lastAddress
  rw [List.filter_append]
  by_cases same : slot.iatRva = rva
  · simp [same]
  · simp [same]

/-- A slot that is pending has been given an address. -/
theorem last_address_of_mem {slot : PendingImport} (member : slot ∈ pending) :
    ∃ address, lastAddress pending slot.iatRva = some address := by
  induction pending using List.reverseRecOn with
  | nil => contradiction
  | append_singleton rest last ih =>
    rw [last_address_concat]
    by_cases same : last.iatRva = slot.iatRva
    · exact ⟨last.guestAddress, if_pos same⟩
    · rw [if_neg same]
      apply ih
      rcases List.mem_append.mp member with earlier | final
      · exact earlier
      · rw [List.mem_singleton] at final
        exact absurd (congrArg (·.iatRva) final).symm same

theorem last_address_origin (last : lastAddress pending rva = some address) :
    ∃ slot ∈ pending, slot.iatRva = rva := by
  unfold lastAddress at last
  obtain ⟨slot, final, -⟩ := Option.map_eq_some_iff.mp last
  have member := List.mem_of_getLast? final
  simp only [List.mem_filter, decide_eq_true_eq] at member
  exact ⟨slot, member⟩

/-- Aligned slots are the same or apart. -/
theorem slots_apart {first second : PendingImport} {size : Nat} (here : SlotFits image size first)
    (there : SlotFits image size second) (different : first.iatRva ≠ second.iatRva) :
    first.iatRva + entrySize image ≤ second.iatRva ∨
      second.iatRva + entrySize image ≤ first.iatRva := by
  have left := here.aligned
  have right := there.aligned
  unfold entrySize at left right ⊢
  split at left <;> split <;> simp_all <;> omega

theorem bind_slots_outside (outside : ∀ slot ∈ pending, ¬ InSlot image index slot) :
    bindSlots image pending bytes index = bytes index := by
  induction pending using List.reverseRecOn with
  | nil => rfl
  | append_singleton rest slot ih =>
    have apart : ¬ InSlot image index slot := outside slot (by simp)
    unfold InSlot at apart
    rw [bind_slots_concat, bindSlot, store_le_outside (by omega)]
    exact ih fun earlier member => outside earlier (List.mem_append_left _ member)

/-- What is in a slot afterwards does not depend on what was there before. -/
theorem bind_slots_inside (inside : ∃ slot ∈ pending, InSlot image index slot) :
    bindSlots image pending bytes index = bindSlots image pending other index := by
  induction pending using List.reverseRecOn with
  | nil =>
    obtain ⟨slot, member, -⟩ := inside
    contradiction
  | append_singleton rest last ih =>
    rw [bind_slots_concat, bind_slots_concat, bindSlot, bindSlot]
    by_cases here : InSlot image index last
    · rw [store_le_inside here.1 here.2, store_le_inside here.1 here.2]
    · obtain ⟨slot, member, within⟩ := inside
      have earlier : slot ∈ rest := by
        rcases List.mem_append.mp member with earlier | final
        · exact earlier
        · rw [List.mem_singleton] at final
          exact absurd (final ▸ within) here
      unfold InSlot at here
      rw [store_le_outside (by omega), store_le_outside (by omega)]
      exact ih ⟨slot, earlier, within⟩

theorem bind_slots_idempotent (pending : List PendingImport) (bytes : Nat → UInt8) :
    bindSlots image pending (bindSlots image pending bytes) = bindSlots image pending bytes := by
  funext index
  by_cases inside : ∃ slot ∈ pending, InSlot image index slot
  · exact bind_slots_inside inside
  · exact bind_slots_outside fun slot member within => inside ⟨slot, member, within⟩

theorem bind_slots_load {size : Nat} (fits : ∀ slot ∈ pending, SlotFits image size slot)
    (last : lastAddress pending rva = some address) :
    loadLe (bindSlots image pending bytes) rva (entrySize image) = address.toNat := by
  induction pending using List.reverseRecOn with
  | nil => contradiction
  | append_singleton rest slot ih =>
    rw [bind_slots_concat, bindSlot]
    rw [last_address_concat] at last
    have here := fits slot (by simp)
    by_cases same : slot.iatRva = rva
    · rw [if_pos same] at last
      rw [← same, load_le_store_le, Nat.mod_eq_of_lt here.fits, Option.some.inj last]
    · rw [if_neg same] at last
      obtain ⟨earlier, member, place⟩ := last_address_origin last
      have apart := slots_apart (fits earlier (List.mem_append_left _ member)) here
        (place ▸ Ne.symm same)
      rw [place] at apart
      rw [load_le_store_le_disjoint apart]
      exact ih (fun other member => fits other (List.mem_append_left _ member)) last

/-! ### The passes -/

/-- The pending import that the resolver makes of a symbol. -/
def resolution (resolver : Resolver context) (symbol : ImportSymbol) (state : context) :
    PendingImport :=
  { iatRva := symbol.iatRva, guestAddress := (resolver symbol state).1.2 }

/-- What the resolver gives for each import, when all are offered to it in order. -/
def resolutions (resolver : Resolver context) : List ImportSymbol → context → List PendingImport
  | [], _ => []
  | symbol :: rest, state =>
    resolution resolver symbol state :: resolutions resolver rest (resolver symbol state).2

theorem resolutions_length (symbols : List ImportSymbol) (state : context) :
    (resolutions resolver symbols state).length = symbols.length := by
  induction symbols generalizing state with
  | nil => rfl
  | cons symbol rest ih => rw [resolutions, List.length_cons, List.length_cons, ih]

theorem mem_resolutions {slot : PendingImport} {state : context}
    (member : slot ∈ resolutions resolver symbols state) :
    ∃ symbol ∈ symbols, slot.iatRva = symbol.iatRva := by
  induction symbols generalizing state with
  | nil => contradiction
  | cons symbol rest ih =>
    rcases List.mem_cons.mp member with rfl | later
    · exact ⟨symbol, List.mem_cons_self, rfl⟩
    · obtain ⟨found, among, same⟩ := ih later
      exact ⟨found, List.mem_cons_of_mem _ among, same⟩

theorem resolutions_mem {symbol : ImportSymbol} {state : context} (member : symbol ∈ symbols) :
    ∃ slot ∈ resolutions resolver symbols state, slot.iatRva = symbol.iatRva := by
  induction symbols generalizing state with
  | nil => contradiction
  | cons first rest ih =>
    rcases List.mem_cons.mp member with rfl | later
    · exact ⟨_, List.mem_cons_self, rfl⟩
    · obtain ⟨slot, among, same⟩ := @ih (resolver first state).2 later
      exact ⟨slot, List.mem_cons_of_mem _ among, same⟩

/-- The counting pass counts every symbol, and gives up beyond `SIZE_MAX`. -/
theorem visit_count (symbols : List ImportSymbol) (count : Nat) (few : count ≤ uint64Max) :
    visitAll countImportSymbol symbols { count := count } =
      if count + symbols.length ≤ uint64Max then ({ count := count + symbols.length }, true)
      else ({ count := uint64Max, overflow := true }, false) := by
  induction symbols generalizing count with
  | nil => exact (if_pos few).symm
  | cons symbol rest ih =>
    rw [visitAll, countImportSymbol, List.length_cons]
    by_cases full : count = uint64Max
    · rw [if_pos full, if_neg (by omega), full]
    · rw [if_neg full]
      have next := ih (count + 1) (by omega)
      rw [Nat.add_right_comm, Nat.add_assoc] at next
      exact next

/-- The resolving pass after one more import. -/
def ResolveContext.push (resolver : Resolver context) (symbol : ImportSymbol)
    (state : ResolveContext context) : ResolveContext context :=
  { resolverContext := (resolver symbol state.resolverContext).2
    pending := state.pending ++ [resolution resolver symbol state.resolverContext]
    status := .ok }

/-- One import of the resolving pass is refused, or becomes pending with a slot that fits. -/
theorem resolve_import_symbol_outcome (mapped : MappedImage) {capacity : Nat}
    (symbol : ImportSymbol) (state : ResolveContext context) :
    (∃ next, resolveImportSymbol image mapped resolver capacity symbol state = (next, false) ∧
      next.status ≠ .ok) ∨
    (resolveImportSymbol image mapped resolver capacity symbol state =
        (state.push resolver symbol, true) ∧
      SlotFits image mapped.size (resolution resolver symbol state.resolverContext)) := by
  unfold resolveImportSymbol ResolveContext.push resolution
  dsimp only
  rcases answer : resolver symbol state.resolverContext with ⟨⟨status, address⟩, after⟩
  split
  · exact .inl ⟨_, rfl, by simp⟩
  · rename_i placed
    dsimp only
    split
    · rename_i refused
      exact .inl ⟨_, rfl, refused⟩
    · rename_i resolved
      split
      · exact .inl ⟨_, rfl, by simp⟩
      · rename_i narrow
        refine .inr ⟨by simp [not_not.mp resolved], ?_⟩
        have small := address.toNat_lt
        simp only [not_or, not_and, not_lt, not_not] at placed narrow
        refine { inside := by dsimp only; omega, aligned := placed.2.2.2, fits := ?_ }
        dsimp only
        unfold entrySize
        split
        · omega
        · rename_i narrowImage
          have limit := narrow (by simpa using narrowImage)
          have widest : uint32Max = 2 ^ 32 - 1 := rfl
          omega

/-- The resolving pass stops at a refusal, or leaves every import pending with the address it was
given. -/
theorem visit_resolve {capacity : Nat} (mapped : MappedImage) (symbols : List ImportSymbol)
    (state : ResolveContext context) (fine : state.status = .ok) :
    (∃ last, visitAll (resolveImportSymbol image mapped resolver capacity) symbols state =
      (last, false) ∧ last.status ≠ .ok) ∨
    (∃ after, visitAll (resolveImportSymbol image mapped resolver capacity) symbols state =
        ({ resolverContext := after
           pending := state.pending ++ resolutions resolver symbols state.resolverContext
           status := .ok }, true) ∧
      ∀ slot ∈ resolutions resolver symbols state.resolverContext,
        SlotFits image mapped.size slot) := by
  induction symbols generalizing state with
  | nil =>
    refine .inr ⟨state.resolverContext, ?_, fun slot member => by contradiction⟩
    rw [visitAll, resolutions, List.append_nil, ← fine]
  | cons symbol rest ih =>
    rcases resolve_import_symbol_outcome mapped symbol state with
      ⟨next, refused, failed⟩ | ⟨accepted, fits⟩
    · refine .inl ⟨next, ?_, failed⟩
      rw [visitAll, refused]
    · rw [visitAll, accepted, resolutions]
      rcases ih (state.push resolver symbol) rfl with
        stopped | ⟨after, completed, others⟩
      · exact .inl stopped
      · refine .inr ⟨after, ?_, ?_⟩
        · apply completed.trans
          simp only [ResolveContext.push, List.append_assoc, List.singleton_append]
        · intro slot member
          rcases List.mem_cons.mp member with rfl | later
          · exact fits
          · exact others slot later

/-- Two states of the resolving pass that differ in the resolver's own state only. -/
def Alike (first second : ResolveContext context) : Prop :=
  first.pending = second.pending ∧ first.status = second.status

theorem resolve_import_symbol_alike {give : ImportSymbol → Status × UInt64} {capacity : Nat}
    (pure' : ∀ symbol state, (resolver symbol state).1 = give symbol) (mapped : MappedImage)
    (symbol : ImportSymbol) {first second : ResolveContext context} (alike : Alike first second) :
    Alike (resolveImportSymbol image mapped resolver capacity symbol first).1
        (resolveImportSymbol image mapped resolver capacity symbol second).1 ∧
      (resolveImportSymbol image mapped resolver capacity symbol first).2 =
        (resolveImportSymbol image mapped resolver capacity symbol second).2 := by
  obtain ⟨samePending, sameStatus⟩ := alike
  have firstAnswer := pure' symbol first.resolverContext
  have secondAnswer := pure' symbol second.resolverContext
  unfold resolveImportSymbol Alike
  rcases left : resolver symbol first.resolverContext with ⟨⟨status, address⟩, after⟩
  rcases right : resolver symbol second.resolverContext with ⟨answer, after'⟩
  rw [left] at firstAnswer
  rw [right] at secondAnswer
  have same : answer = (status, address) := secondAnswer.trans firstAnswer.symm
  rw [same, samePending]
  dsimp only
  split
  · exact ⟨⟨rfl, rfl⟩, rfl⟩
  · split
    · exact ⟨⟨rfl, rfl⟩, rfl⟩
    · split
      · exact ⟨⟨rfl, rfl⟩, rfl⟩
      · exact ⟨⟨rfl, rfl⟩, rfl⟩

theorem visit_resolve_alike {give : ImportSymbol → Status × UInt64} {capacity : Nat}
    (pure' : ∀ symbol state, (resolver symbol state).1 = give symbol) (mapped : MappedImage)
    (symbols : List ImportSymbol) {first second : ResolveContext context}
    (alike : Alike first second) :
    Alike (visitAll (resolveImportSymbol image mapped resolver capacity) symbols first).1
        (visitAll (resolveImportSymbol image mapped resolver capacity) symbols second).1 ∧
      (visitAll (resolveImportSymbol image mapped resolver capacity) symbols first).2 =
        (visitAll (resolveImportSymbol image mapped resolver capacity) symbols second).2 := by
  induction symbols generalizing first second with
  | nil => exact ⟨alike, rfl⟩
  | cons symbol rest ih =>
    have step := @resolve_import_symbol_alike image _ resolver give capacity pure' mapped symbol
      first second alike
    rw [visitAll, visitAll]
    revert step
    rcases resolveImportSymbol image mapped resolver capacity symbol first with ⟨next, more⟩
    rcases resolveImportSymbol image mapped resolver capacity symbol second with ⟨next', more'⟩
    rintro ⟨alike, rfl : more = more'⟩
    cases more with
    | false => exact ⟨alike, rfl⟩
    | true => exact ih alike

/-! ### Binding -/

/-- What binding comes to before anything is written: a status, and the imports to write. -/
def bindingPlan (image : Image) (mapped : MappedImage) (resolver : Resolver context)
    (start : context) (allocated : Bool) (enumerated : Status) (symbols : List ImportSymbol) :
    Status × List PendingImport :=
  if mapped.address = 0 ∨ mapped.size ≠ image.imageSize then (.invalidArgument, [])
  else if mapped.protectionsFinalized = true ∨ mapped.storage = .virtualTainted then
    (.invalidState, [])
  else if symbols.length > uint64Max then (.outOfMemory, [])
  else if enumerated ≠ .ok then (enumerated, [])
  else if symbols.length > uint64Max / 16 then (.outOfMemory, [])
  else if symbols.length = 0 then (.ok, [])
  else if allocated = false then (.outOfMemory, [])
  else match visitAll (resolveImportSymbol image mapped resolver symbols.length) symbols
      { resolverContext := start } with
    | (resolved, true) => (.ok, resolved.pending)
    | (resolved, false) => (resolved.status, [])

/-- What binding leaves behind once the plan is written. -/
def Binding.ofPlan (image : Image) (mapped : MappedImage) (plan : Status × List PendingImport)
    (after : context) : Binding context :=
  { status := plan.1
    mapped := { mapped with bytes := bindSlots image plan.2 mapped.bytes }
    boundCount := plan.2.length
    resolverContext := after }

/-- Every visitor of the image's imports is offered these symbols. -/
def Enumerates (image : Image) (enumerated : Status) (symbols : List ImportSymbol) : Prop :=
  ∀ (State : Type) (callback : ImportSymbol → State → State × Bool) (state : State),
    forEachImportSymbol image callback state = some (offered enumerated symbols callback state)

theorem bind_imports_eq {enumerated : Status} (offers : Enumerates image enumerated symbols)
    (mapped : MappedImage) (resolver : Resolver context) (start : context) (allocated : Bool) :
    ∃ after, bindImports image mapped resolver start allocated =
      some (.ofPlan image mapped
        (bindingPlan image mapped resolver start allocated enumerated symbols) after) := by
  unfold bindImports bindingPlan
  by_cases argument : mapped.address = 0 ∨ mapped.size ≠ image.imageSize
  · exact ⟨start, by simp only [if_pos argument]; rfl⟩
  by_cases sealed' : mapped.protectionsFinalized = true ∨ mapped.storage = .virtualTainted
  · exact ⟨start, by simp only [if_neg argument, if_pos sealed']; rfl⟩
  have counted : forEachImportSymbol image countImportSymbol {} =
      some (if symbols.length ≤ uint64Max then (enumerated, { count := symbols.length })
        else (.ok, { count := uint64Max, overflow := true })) := by
    rw [offers, offered, visitThen, visit_count symbols 0 (Nat.zero_le _), Nat.zero_add]
    by_cases few : symbols.length ≤ uint64Max
    · simp only [if_pos few]
    · simp only [if_neg few]
  simp only [if_neg argument, if_neg sealed', counted, Option.bind_eq_bind, Option.bind_some]
  by_cases overflow : symbols.length > uint64Max
  · simp only [if_pos overflow, if_neg (Nat.not_le_of_gt overflow)]
    exact ⟨start, rfl⟩
  simp only [if_neg overflow, if_pos (Nat.le_of_not_lt overflow)]
  by_cases ended : enumerated = .ok
  · simp only [ended, ne_eq, not_true_eq_false, if_false, false_or, Bool.false_eq_true]
    by_cases many : symbols.length > uint64Max / 16
    · simp only [if_pos many]
      exact ⟨start, rfl⟩
    by_cases empty : symbols.length = 0
    · simp only [if_neg many, if_pos empty]
      exact ⟨start, rfl⟩
    by_cases refused : allocated = false
    · simp only [if_neg many, if_neg empty, refused, Bool.not_false, if_true]
      exact ⟨start, rfl⟩
    have resolving : forEachImportSymbol image
        (resolveImportSymbol image mapped resolver symbols.length) { resolverContext := start } =
          some (offered enumerated symbols
            (resolveImportSymbol image mapped resolver symbols.length)
            { resolverContext := start }) := offers _ _ _
    simp only [if_neg many, if_neg empty, if_neg refused, resolving, offered, visitThen, ended,
      Option.bind_some, Bool.not_eq_true']
    rcases @visit_resolve image context resolver symbols.length mapped symbols
      { resolverContext := start } rfl with ⟨last, stopped, failed⟩ | ⟨after, completed, -⟩
    · refine ⟨last.resolverContext, ?_⟩
      simp only [stopped, if_true, failed, false_and, if_false, not_false_eq_true]
      rfl
    · refine ⟨after, ?_⟩
      simp only [completed, List.nil_append, resolutions_length, if_true, not_true_eq_false, and_false,
        if_false, Binding.ofPlan]
      rfl
  · simp only [if_pos ended]
    exact ⟨start, rfl⟩

/-- A plan fails with nothing to write, or is to write what every import was given. -/
theorem binding_plan_outcome (image : Image) (mapped : MappedImage) (resolver : Resolver context)
    (start : context) (allocated : Bool) (enumerated : Status) (symbols : List ImportSymbol) :
    ((bindingPlan image mapped resolver start allocated enumerated symbols).1 ≠ .ok ∧
        (bindingPlan image mapped resolver start allocated enumerated symbols).2 = []) ∨
      ((bindingPlan image mapped resolver start allocated enumerated symbols).1 = .ok ∧
        (bindingPlan image mapped resolver start allocated enumerated symbols).2 =
          resolutions resolver symbols start ∧
        ∀ slot ∈ resolutions resolver symbols start, SlotFits image mapped.size slot) := by
  unfold bindingPlan
  split
  · exact .inl ⟨by simp, rfl⟩
  split
  · exact .inl ⟨by simp, rfl⟩
  split
  · exact .inl ⟨by simp, rfl⟩
  split
  · rename_i failed
    exact .inl ⟨failed, rfl⟩
  split
  · exact .inl ⟨by simp, rfl⟩
  split
  · rename_i empty
    have none' : symbols = [] := List.length_eq_zero_iff.mp empty
    subst none'
    exact .inr ⟨rfl, rfl, fun slot member => by contradiction⟩
  split
  · exact .inl ⟨by simp, rfl⟩
  rcases @visit_resolve image context resolver symbols.length mapped symbols
    { resolverContext := start } rfl with ⟨last, stopped, failed⟩ | ⟨after, completed, fits⟩
  · rw [stopped]
    exact .inl ⟨failed, rfl⟩
  · rw [completed]
    exact .inr ⟨rfl, rfl, fits⟩

/-- With a resolver that is a function of the import, its state has no part in the plan. -/
theorem binding_plan_start {give : ImportSymbol → Status × UInt64}
    (pure' : ∀ symbol state, (resolver symbol state).1 = give symbol) (image : Image)
    (mapped : MappedImage) (start later : context) (allocated : Bool) (enumerated : Status)
    (symbols : List ImportSymbol) :
    bindingPlan image mapped resolver start allocated enumerated symbols =
      bindingPlan image mapped resolver later allocated enumerated symbols := by
  have alike := @visit_resolve_alike image context resolver give symbols.length pure' mapped symbols
    { resolverContext := start } { resolverContext := later } ⟨rfl, rfl⟩
  unfold bindingPlan
  revert alike
  rcases visitAll (resolveImportSymbol image mapped resolver symbols.length) symbols
    { resolverContext := start } with ⟨last, more⟩
  rcases visitAll (resolveImportSymbol image mapped resolver symbols.length) symbols
    { resolverContext := later } with ⟨last', more'⟩
  rintro ⟨⟨samePending : last.pending = last'.pending, sameStatus : last.status = last'.status⟩,
    rfl : more = more'⟩
  cases more with
  | false => simp only [sameStatus]
  | true => simp only [samePending]

/-- A binding that succeeded: every slot holds the address given last for it, and nothing else of
the mapping has changed. -/
structure Bound (image : Image) (mapped : MappedImage) (resolver : Resolver context)
    (start : context) (symbols : List ImportSymbol) (binding : Binding context) : Prop where
  ok : binding.status = .ok
  count : binding.boundCount = symbols.length
  slots : ∀ symbol ∈ symbols, ∃ address,
    lastAddress (resolutions resolver symbols start) symbol.iatRva = some address ∧
      loadLe binding.mapped.bytes symbol.iatRva (entrySize image) = address.toNat
  others : ∀ index, (∀ symbol ∈ symbols, index < symbol.iatRva ∨
    symbol.iatRva + entrySize image ≤ index) → binding.mapped.bytes index = mapped.bytes index
  frame : binding.mapped = { mapped with bytes := binding.mapped.bytes }

theorem bound_of_plan {plan : Status × List PendingImport} {start after : context}
    (ok : plan.1 = .ok) (all : plan.2 = resolutions resolver symbols start)
    (fits : ∀ slot ∈ resolutions resolver symbols start, SlotFits image mapped.size slot) :
    Bound image mapped resolver start symbols (.ofPlan image mapped plan after) where
  ok := ok
  count := by rw [Binding.ofPlan, all, resolutions_length]
  slots := by
    intro symbol member
    obtain ⟨slot, pending, same⟩ := @resolutions_mem _ resolver _ symbol start member
    obtain ⟨address, last⟩ := last_address_of_mem pending
    rw [same] at last
    refine ⟨address, last, ?_⟩
    rw [Binding.ofPlan, all]
    exact bind_slots_load fits last
  others := by
    intro index outside
    rw [Binding.ofPlan, all]
    refine bind_slots_outside fun slot pending inside => ?_
    obtain ⟨symbol, member, same⟩ := mem_resolutions pending
    have apart := outside symbol member
    unfold InSlot at inside
    omega
  frame := rfl

/-- Binding fails without a trace or writes every slot, and doing it again changes nothing. -/
theorem import_binding {file : ByteView} (parsed : parse file = .ok image) (mapped : MappedImage) :
    ∃ enumerated symbols, forEachImportSymbol image collect [] = some (enumerated, symbols) ∧
      ∀ (context : Type) (resolver : Resolver context) (start : context) (allocated : Bool),
        ∃ binding, bindImports image mapped resolver start allocated = some binding ∧
          ((binding.status ≠ .ok ∧ binding.mapped = mapped ∧ binding.boundCount = 0) ∨
            Bound image mapped resolver start symbols binding) ∧
          ∀ give : ImportSymbol → Status × UInt64,
            (∀ symbol state, (resolver symbol state).1 = give symbol) → ∀ later, ∃ again,
              bindImports image binding.mapped resolver later allocated = some again ∧
                again.status = binding.status ∧ again.mapped = binding.mapped ∧
                again.boundCount = binding.boundCount := by
  obtain ⟨symbols, enumerated, offers⟩ := for_each_import_symbol_offers (parse_well_formed parsed).2
  refine ⟨enumerated, symbols, ?_, fun context resolver start allocated => ?_⟩
  · rw [offers, offered, visit_then_collect]
  obtain ⟨after, bound⟩ := bind_imports_eq offers mapped resolver start allocated
  refine ⟨_, bound, ?_, fun give pure' later => ?_⟩
  · rcases binding_plan_outcome image mapped resolver start allocated enumerated symbols with
      ⟨failed, none'⟩ | ⟨ok, all, fits⟩
    · exact .inl ⟨failed, by rw [Binding.ofPlan, none']; rfl, by rw [Binding.ofPlan, none']; rfl⟩
    · exact .inr (bound_of_plan ok all fits)
  · obtain ⟨last, again⟩ := bind_imports_eq offers
      (Binding.ofPlan image mapped
        (bindingPlan image mapped resolver start allocated enumerated symbols) after).mapped
      resolver later allocated
    have samePlan : bindingPlan image (Binding.ofPlan image mapped
        (bindingPlan image mapped resolver start allocated enumerated symbols) after).mapped
          resolver later allocated enumerated symbols =
        bindingPlan image mapped resolver start allocated enumerated symbols :=
      binding_plan_start pure' image mapped later start allocated enumerated symbols
    rw [samePlan] at again
    refine ⟨_, again, rfl, ?_, rfl⟩
    simp only [Binding.ofPlan, bind_slots_idempotent]

/-- A 32-bit file that imports the ordinals 5 and 6 of `A`, with a lookup table apart from the
slots at `0x124` and `0x128`. -/
def twoImportsFile : ByteView where
  data
    | 0 => 0x4d
    | 1 => 0x5a
    | 0x3c => 0x40
    | 0x40 => 0x50
    | 0x41 => 0x45
    | 0x44 => 0x4c
    | 0x45 => 0x01
    | 0x46 => 1
    | 0x54 => 112
    | 0x58 => 0x0b
    | 0x59 => 0x01
    | 0x91 => 0x10
    | 0x94 => 0x34
    | 0x95 => 0x01
    | 0xb4 => 2
    | 0xc0 => 0xf0
    | 0xc4 => 40
    | 0xf0 => 0x18
    | 0xf1 => 0x01
    | 0xfc => 0x30
    | 0xfd => 0x01
    | 0x100 => 0x24
    | 0x101 => 0x01
    | 0x118 => 5
    | 0x11b => 0x80
    | 0x11c => 6
    | 0x11f => 0x80
    | 0x130 => 0x41
    | _ => 0
  size := 0x134

/-- The file as it lies in memory. -/
def twoImportsMapping : MappedImage where
  address := 0x7000
  bytes := twoImportsFile.data
  size := 0x1000
  storage := .heap

/-- Answers by the ordinal, and counts how often it is asked. -/
def ordinalResolver : Resolver Nat := fun symbol asked =>
  ((.ok, UInt64.ofNat (0x5000 + symbol.ordinal)), asked + 1)

theorem two_imports_bound :
    ∃ image symbols binding, parse twoImportsFile = .ok image ∧
      forEachImportSymbol image collect [] = some (.ok, symbols) ∧ symbols.length = 2 ∧
      bindImports image twoImportsMapping ordinalResolver 0 true = some binding ∧
      Bound image twoImportsMapping ordinalResolver 0 symbols binding ∧
      loadLe binding.mapped.bytes 0x124 4 = 0x5005 ∧
      loadLe binding.mapped.bytes 0x128 4 = 0x5006 ∧
      ∃ again, bindImports image binding.mapped ordinalResolver 2 true = some again ∧
        again.status = .ok ∧ again.mapped = binding.mapped ∧ again.boundCount = 2 := by
  have evaluated : (parse twoImportsFile).toOption.bind (fun image =>
      (forEachImportSymbol image collect []).bind fun answer =>
        (bindImports image twoImportsMapping ordinalResolver 0 true).map fun binding =>
          (answer.1, answer.2.length, binding.status, loadLe binding.mapped.bytes 0x124 4,
            loadLe binding.mapped.bytes 0x128 4)) = some (.ok, 2, .ok, 0x5005, 0x5006) := by
    decide +kernel
  obtain ⟨image, parsed, evaluated⟩ := parse_evaluated evaluated
  obtain ⟨enumerated, symbols, collected, every⟩ := import_binding parsed twoImportsMapping
  obtain ⟨binding, bound, outcome, repeats⟩ := every Nat ordinalResolver 0 true
  obtain ⟨again, rebound, same⟩ := repeats _ (fun _ _ => rfl) 2
  simp only [collected, bound, Option.bind_some, Option.map_some, Option.some.injEq,
    Prod.mk.injEq] at evaluated
  obtain ⟨rfl, two, ok, first, second⟩ := evaluated
  rcases outcome with ⟨failed, -⟩ | done
  · exact absurd ok failed
  · exact ⟨image, symbols, binding, parsed, collected, two, bound, done, first, second, again,
      rebound, same.1.trans ok, same.2.1, same.2.2.trans (done.count.trans two)⟩

end SadLayer.Loader
