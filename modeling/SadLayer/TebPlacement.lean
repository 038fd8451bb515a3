import SadLayer.TebEffects

/-! Which TEB belongs to which context, and where the last-error value of each
context is. A context's token names its one TEB; an attached TEB holds the value, and
no store to another TEB's mapping reaches it. -/
namespace SadLayer.ThreadEnvironment
open Contexts

variable {m : Machine} {answers : Answers} {address : UInt64} {teb : Teb} {processId : UInt32}

/-- The bytes of one TEB's mapping are none of another's. -/
def Apart (first second : Teb) : Prop :=
  first.mapping + first.mappingSize ≤ second.mapping ∨
    second.mapping + second.mappingSize ≤ first.mapping

/-- The last-error field lies in the mapping. -/
def Teb.Placed (teb : Teb) : Prop :=
  teb.mapping ≤ teb.bytes ∧ teb.lastError + 4 ≤ teb.mapping + teb.mappingSize

/-- The TEB is attached to a context. -/
def AttachedTo (context : ThreadContext) (teb : Teb) : Prop :=
  context.teb = some teb.bytes ∧ context.lastErrorAddress = some teb.lastError

/-- Every TEB is owned by its context, and only attached TEBs hold last-error values. -/
structure Sited (m : Machine) : Prop where
  owner : ∀ address teb, m.tebs address = some teb →
    (m.contexts.threads teb.thread).tebOwnerToken = address ∧ address ≠ 0
  owned : ∀ thread, (m.contexts.threads thread).tebOwnerToken ≠ 0 →
    ∃ teb, m.tebs (m.contexts.threads thread).tebOwnerToken = some teb ∧ teb.thread = thread
  attached : ∀ address teb, m.tebs address = some teb → teb.attached = true →
    AttachedTo (m.contexts.threads teb.thread) teb
  holder : ∀ thread place, (m.contexts.threads thread).lastErrorAddress = some place →
    ∃ address teb, m.tebs address = some teb ∧ teb.attached = true ∧ teb.thread = thread ∧
      place = teb.lastError
  placed : ∀ address teb, m.tebs address = some teb → teb.Placed
  apart : ∀ first second teb other, first ≠ second → m.tebs first = some teb →
    m.tebs second = some other → Apart teb other

/-- A context has one TEB at most. -/
theorem Sited.one_teb (sited : Sited m) {first second : UInt64} {teb other : Teb}
    (held : m.tebs first = some teb) (held' : m.tebs second = some other)
    (same : teb.thread = other.thread) : first = second := by
  obtain ⟨token, _⟩ := sited.owner first teb held
  obtain ⟨token', _⟩ := sited.owner second other held'
  rw [← token, ← token', same]

/-- What of a context says where its TEB and its last-error value are. -/
def SameTeb (context last : ThreadContext) : Prop :=
  last.tebOwnerToken = context.tebOwnerToken ∧ last.teb = context.teb ∧
    last.lastErrorAddress = context.lastErrorAddress

theorem Sited.congr {last : Machine} (sited : Sited m) (sameTebs : last.tebs = m.tebs)
    (sameContexts : ∀ thread,
      SameTeb (m.contexts.threads thread) (last.contexts.threads thread)) : Sited last where
  owner address teb held := by
    rw [sameTebs] at held
    rw [(sameContexts teb.thread).1]
    exact sited.owner address teb held
  owned thread owns := by
    rw [(sameContexts thread).1] at owns ⊢
    rw [sameTebs]
    exact sited.owned thread owns
  attached address teb held isAttached := by
    rw [sameTebs] at held
    obtain ⟨_, sameTeb, sameAddress⟩ := sameContexts teb.thread
    rw [AttachedTo, sameTeb, sameAddress]
    exact sited.attached address teb held isAttached
  holder thread place holds := by
    rw [(sameContexts thread).2.2] at holds
    rw [sameTebs]
    exact sited.holder thread place holds
  placed address teb held := sited.placed address teb (sameTebs ▸ held)
  apart first second teb other different held held' :=
    sited.apart first second teb other different (sameTebs ▸ held) (sameTebs ▸ held')

/-! ### Creating and destroying -/

/-- What allocating memory guarantees: a new object is none of those that are allocated, and a
new mapping overlaps none of theirs. -/
structure FreshAnswers (m : Machine) (answers : Answers) : Prop where
  object : ∀ address, answers.allocation = some address →
    address ≠ 0 ∧ address ≠ ownershipReserved ∧ m.tebs address = none
  mapping : ∀ mapping address teb, answers.mapping = some mapping →
    m.tebs address = some teb →
    mapping + answers.pageSize.toNat * totalPageCount ≤ teb.mapping ∨
      teb.mapping + teb.mappingSize ≤ mapping

theorem created_threads (m : Machine) (address : UInt64) (teb : Teb) (processId : UInt32) :
    (m.created address teb processId).contexts.threads = Function.update m.contexts.threads
      teb.thread (tokenOf (m.contexts.threads teb.thread) address) := rfl

theorem created_tebs (m : Machine) (address : UInt64) (teb : Teb) (processId : UInt32) :
    (m.created address teb processId).tebs = Function.update m.tebs address (some teb) := rfl

theorem Creates.placed (creates : Creates m answers address teb) : teb.Placed := by
  obtain ⟨_, _, size, bytes, room, _, _, _⟩ := creates
  unfold tlsSlotsOffset tlsSlotCount writablePageCount at room
  unfold totalPageCount at size
  unfold Teb.Placed Teb.lastError lastErrorOffset
  omega

theorem Creates.apart (creates : Creates m answers address teb) (fresh : FreshAnswers m answers)
    {other : UInt64} {old : Teb} (held : m.tebs other = some old) : Apart teb old := by
  rw [Apart, creates.size]
  exact fresh.mapping teb.mapping other old creates.mapping held

theorem Sited.created (sited : Sited m) (creates : Creates m answers address teb)
    (fresh : FreshAnswers m answers) : Sited (m.created address teb processId) := by
  obtain ⟨nonzero, _, absent⟩ := fresh.object address creates.allocation
  -- The TEBs from before belong to other contexts, since the token of this one was free.
  have elsewhere {other : UInt64} {old : Teb} (held : m.tebs other = some old) :
      old.thread ≠ teb.thread := by
    intro same
    obtain ⟨token, owned⟩ := sited.owner other old held
    rw [same, creates.unowned] at token
    exact owned token.symm
  have before {other : UInt64} {old : Teb} (different : other ≠ address)
      (held : (m.created address teb processId).tebs other = some old) :
      m.tebs other = some old := by
    rwa [created_tebs, Function.update_of_ne different] at held
  have after {other : UInt64} {old : Teb} (held : m.tebs other = some old) :
      (m.created address teb processId).tebs other = some old := by
    have different : other ≠ address := by
      rintro rfl
      rw [absent] at held
      cases held
    rw [created_tebs, Function.update_of_ne different, held]
  have here {new : Teb} (held : (m.created address teb processId).tebs address = some new) :
      new = teb := by
    rw [created_tebs, Function.update_self] at held
    exact (Option.some.inj held).symm
  constructor
  case owner =>
    intro other old held
    rw [created_threads]
    by_cases same : other = address
    · subst same
      rw [here held, Function.update_self]
      exact ⟨rfl, nonzero⟩
    · rw [Function.update_of_ne (elsewhere (before same held))]
      exact sited.owner other old (before same held)
  case owned =>
    intro thread owns
    rw [created_threads] at owns ⊢
    by_cases same : thread = teb.thread
    · subst same
      rw [Function.update_self]
      exact ⟨teb, Function.update_self .., rfl⟩
    · rw [Function.update_of_ne same] at owns ⊢
      obtain ⟨old, held, own⟩ := sited.owned thread owns
      exact ⟨old, after held, own⟩
  case attached =>
    intro other old held isAttached
    by_cases same : other = address
    · subst same
      rw [here held, creates.detached.2.2] at isAttached
      cases isAttached
    · rw [created_threads, Function.update_of_ne (elsewhere (before same held))]
      exact sited.attached other old (before same held) isAttached
  case holder =>
    intro thread place holds
    have held : (m.contexts.threads thread).lastErrorAddress = some place := by
      rw [created_threads] at holds
      by_cases same : thread = teb.thread
      · subst same
        rw [Function.update_self] at holds
        exact holds
      · rwa [Function.update_of_ne same] at holds
    obtain ⟨other, old, allocated, rest⟩ := sited.holder thread place held
    exact ⟨other, old, after allocated, rest⟩
  case placed =>
    intro other old held
    by_cases same : other = address
    · subst same
      rw [here held]
      exact creates.placed
    · exact sited.placed other old (before same held)
  case apart =>
    intro first second old other different held held'
    by_cases same : first = address
    · subst same
      rw [here held]
      exact creates.apart fresh (before (Ne.symm different) held')
    · by_cases same' : second = address
      · subst same'
        rw [here held']
        exact (creates.apart fresh (before same held)).symm
      · exact sited.apart first second old other different (before same held)
          (before same' held')

theorem Sited.destroyed (sited : Sited m) (detachable : Detachable m address teb) :
    Sited (m.tebDestroyed address teb) := by
  have before {other : UInt64} {old : Teb}
      (held : (m.tebDestroyed address teb).tebs other = some old) :
      other ≠ address ∧ m.tebs other = some old := by
    have different : other ≠ address := by
      rintro rfl
      cases (Function.update_self ..).symm.trans held
    exact ⟨different, (Function.update_of_ne different ..).symm.trans held⟩
  have after {other : UInt64} {old : Teb} (different : other ≠ address)
      (held : m.tebs other = some old) : (m.tebDestroyed address teb).tebs other = some old :=
    (Function.update_of_ne different ..).trans held
  have elsewhere {other : UInt64} {old : Teb} (different : other ≠ address)
      (held : m.tebs other = some old) : old.thread ≠ teb.thread :=
    fun same => different (sited.one_teb held detachable.allocated same)
  have kept {thread : UInt64} (different : thread ≠ teb.thread) :
      (m.tebDestroyed address teb).contexts.threads thread = m.contexts.threads thread :=
    Function.update_of_ne different ..
  have here : (m.tebDestroyed address teb).contexts.threads teb.thread =
      tokenOf (m.contexts.threads teb.thread) 0 := Function.update_self ..
  constructor
  case owner =>
    intro other old held
    obtain ⟨different, held⟩ := before held
    rw [kept (elsewhere different held)]
    exact sited.owner other old held
  case owned =>
    intro thread owns
    by_cases same : thread = teb.thread
    · subst same
      rw [here] at owns
      exact absurd rfl owns
    · rw [kept same] at owns ⊢
      obtain ⟨old, held, own⟩ := sited.owned thread owns
      refine ⟨old, after ?_ held, own⟩
      intro token
      rw [token, detachable.allocated] at held
      cases held
      exact same own.symm
  case attached =>
    intro other old held isAttached
    obtain ⟨different, held⟩ := before held
    rw [kept (elsewhere different held)]
    exact sited.attached other old held isAttached
  case holder =>
    intro thread place holds
    have held : (m.contexts.threads thread).lastErrorAddress = some place := by
      by_cases same : thread = teb.thread
      · subst same
        rw [here] at holds
        exact holds
      · rwa [kept same] at holds
    obtain ⟨other, old, allocated, isAttached, rest⟩ := sited.holder thread place held
    refine ⟨other, old, after ?_ allocated, isAttached, rest⟩
    rintro rfl
    cases allocated.symm.trans detachable.allocated
    rw [detachable.detached] at isAttached
    cases isAttached
  case placed => exact fun other old held => sited.placed other old (before held).2
  case apart =>
    intro first second old other different held held'
    exact sited.apart first second old other different (before held).2 (before held').2

/-! ### Attaching and detaching -/

/-- A TEB that is attached or not, in the same place. -/
def Teb.attaching (teb : Teb) (attached : Bool) : Teb := { teb with attached := attached }

/-- Attaching or detaching a TEB, where its context says the same. -/
theorem Sited.reattached (sited : Sited m) {last : Machine} {attached : Bool}
    {context : ThreadContext} (held : m.tebs address = some teb)
    (sameTebs : last.tebs = Function.update m.tebs address (some (teb.attaching attached)))
    (sameContexts : last.contexts.threads =
      Function.update m.contexts.threads teb.thread context)
    (sameToken : context.tebOwnerToken = (m.contexts.threads teb.thread).tebOwnerToken)
    (agrees : if attached then AttachedTo context teb else context.lastErrorAddress = none) :
    Sited last := by
  have here : last.tebs address = some (teb.attaching attached) := by
    rw [sameTebs, Function.update_self]
  have before {other : UInt64} {old : Teb} (found : last.tebs other = some old) :
      ∃ former, m.tebs other = some former ∧ former.thread = old.thread ∧
        former.bytes = old.bytes ∧ former.mapping = old.mapping ∧
        former.mappingSize = old.mappingSize ∧ (other ≠ address → former = old) := by
    by_cases same : other = address
    · subst same
      cases here.symm.trans found
      exact ⟨teb, held, rfl, rfl, rfl, rfl, absurd rfl⟩
    · rw [sameTebs, Function.update_of_ne same] at found
      exact ⟨old, found, rfl, rfl, rfl, rfl, fun _ => rfl⟩
  have token (thread : UInt64) : (last.contexts.threads thread).tebOwnerToken =
      (m.contexts.threads thread).tebOwnerToken := by
    rw [sameContexts]
    by_cases same : thread = teb.thread
    · subst same
      rw [Function.update_self, sameToken]
    · rw [Function.update_of_ne same]
  constructor
  case owner =>
    intro other old found
    obtain ⟨former, found, sameThread, _⟩ := before found
    rw [token, ← sameThread]
    exact sited.owner other former found
  case owned =>
    intro thread owns
    rw [token] at owns ⊢
    obtain ⟨old, found, own⟩ := sited.owned thread owns
    by_cases same : (m.contexts.threads thread).tebOwnerToken = address
    · rw [same] at found ⊢
      cases held.symm.trans found
      exact ⟨_, here, own⟩
    · refine ⟨old, ?_, own⟩
      rw [sameTebs, Function.update_of_ne same, found]
  case attached =>
    intro other old found isAttached
    by_cases same : other = address
    · subst same
      cases here.symm.trans found
      rw [sameContexts]
      change attached = true at isAttached
      rw [if_pos isAttached] at agrees
      exact (congrArg (AttachedTo · teb) (Function.update_self ..)).mpr agrees
    · obtain ⟨former, formerly, _, _, _, _, equal⟩ := before found
      obtain rfl := equal same
      have different : former.thread ≠ teb.thread :=
        fun equal => same (sited.one_teb formerly held equal)
      rw [sameContexts, Function.update_of_ne different]
      exact sited.attached other former formerly isAttached
  case holder =>
    intro thread place holds
    rw [sameContexts] at holds
    by_cases same : thread = teb.thread
    · subst same
      rw [Function.update_self] at holds
      cases attached with
      | false =>
        rw [if_neg Bool.false_ne_true] at agrees
        cases holds.symm.trans agrees
      | true =>
        rw [if_pos rfl] at agrees
        exact ⟨address, _, here, rfl, rfl, Option.some.inj (holds.symm.trans agrees.2)⟩
    · rw [Function.update_of_ne same] at holds
      obtain ⟨other, old, found, rest⟩ := sited.holder thread place holds
      have different : other ≠ address := by
        rintro rfl
        cases held.symm.trans found
        exact same rest.2.1.symm
      refine ⟨other, old, ?_, rest⟩
      rw [sameTebs, Function.update_of_ne different, found]
  case placed =>
    intro other old found
    obtain ⟨former, found, _, sameBytes, sameMapping, sameSize, _⟩ := before found
    have placed := sited.placed other former found
    rw [Teb.Placed, Teb.lastError] at placed ⊢
    rwa [sameBytes, sameMapping, sameSize] at placed
  case apart =>
    intro first second old other different found found'
    obtain ⟨former, found, _, _, sameMapping, sameSize, _⟩ := before found
    obtain ⟨former', found', _, _, sameMapping', sameSize', _⟩ := before found'
    have apart := sited.apart first second former former' different found found'
    rwa [Apart, sameMapping, sameSize, sameMapping', sameSize'] at apart

/-! ### The last-error value -/

section LastError
variable {memory : Nat → UInt8} {place target : Nat} {error : UInt32} {thread : UInt64}

theorem load_store_u32 (memory : Nat → UInt8) (place : Nat) (error : UInt32) :
    loadU32 (storeU32 memory place error) place = error := by
  have bounded := error.toNat_lt
  rw [loadU32, storeU32, Library.load_le_store_le, Nat.mod_eq_of_lt (by omega),
    UInt32.ofNat_toNat]

theorem load_store_u32_apart (apart : place + 4 ≤ target ∨ target + 4 ≤ place) :
    loadU32 (storeU32 memory target error) place = loadU32 memory place := by
  rw [loadU32, loadU32, storeU32, Library.load_le_store_le_disjoint apart]

theorem load_store_uintptr_apart {value : Nat} (apart : place + 4 ≤ target ∨ target + 8 ≤ place) :
    loadU32 (storeUintptr memory target value) place = loadU32 memory place := by
  rw [loadU32, loadU32, storeUintptr, Library.load_le_store_le_disjoint apart]

/-- A new TEB is written inside its mapping. -/
theorem write_teb_apart {threadId lastError : UInt32} {peb : Nat} (placed : teb.Placed)
    (apart : place + 4 ≤ teb.mapping ∨ teb.mapping + teb.mappingSize ≤ place) :
    loadU32 (writeTeb memory teb processId threadId lastError peb) place =
      loadU32 memory place := by
  unfold Teb.Placed Teb.lastError lastErrorOffset at placed
  unfold writeTeb
  rw [load_store_u32_apart (by unfold lastErrorOffset; omega),
    load_store_uintptr_apart (by unfold pebOffset; omega),
    load_store_uintptr_apart (by unfold threadIdOffset; omega),
    load_store_uintptr_apart (by unfold processIdOffset; omega),
    load_store_uintptr_apart (by unfold selfOffset; omega),
    load_store_uintptr_apart (by unfold stackLimitOffset; omega),
    load_store_uintptr_apart (by unfold stackBaseOffset; omega)]

theorem visible_in_context (none : (m.contexts.threads thread).lastErrorAddress = none) :
    m.visibleLastError thread = (m.contexts.threads thread).lastError := by
  rw [Machine.visibleLastError, none]

theorem visible_in_memory (some : (m.contexts.threads thread).lastErrorAddress = some place) :
    m.visibleLastError thread = loadU32 m.memory place := by
  rw [Machine.visibleLastError, some]

/-- What decides the last-error value of a context. -/
theorem visible_congr {last : Machine}
    (sameAddress : (last.contexts.threads thread).lastErrorAddress =
      (m.contexts.threads thread).lastErrorAddress)
    (sameValue : (last.contexts.threads thread).lastError =
      (m.contexts.threads thread).lastError)
    (sameMemory : ∀ place, (m.contexts.threads thread).lastErrorAddress = some place →
      loadU32 last.memory place = loadU32 m.memory place) :
    last.visibleLastError thread = m.visibleLastError thread := by
  cases kept : (m.contexts.threads thread).lastErrorAddress with
  | none => rw [visible_in_context kept, visible_in_context (sameAddress.trans kept), sameValue]
  | some place =>
    rw [visible_in_memory kept, visible_in_memory (sameAddress.trans kept), sameMemory place kept]

/-- A context's value lies in the mapping of its own TEB. -/
theorem Sited.place_inside (sited : Sited m)
    (holds : (m.contexts.threads thread).lastErrorAddress = some place) :
    ∃ address teb, m.tebs address = some teb ∧ teb.thread = thread ∧
      teb.mapping ≤ place ∧ place + 4 ≤ teb.mapping + teb.mappingSize := by
  obtain ⟨address, teb, held, _, own, rfl⟩ := sited.holder thread place holds
  obtain ⟨above, below⟩ := sited.placed address teb held
  refine ⟨address, teb, held, own, ?_, below⟩
  unfold Teb.lastError
  omega

/-- A store to the field of a TEB reaches no other context's value. -/
theorem Sited.store_apart (sited : Sited m) (held : m.tebs address = some teb)
    (other : thread ≠ teb.thread)
    (holds : (m.contexts.threads thread).lastErrorAddress = some place) :
    loadU32 (storeU32 m.memory teb.lastError error) place = loadU32 m.memory place := by
  obtain ⟨theirs, old, found, rfl, above, below⟩ := sited.place_inside holds
  have different : theirs ≠ address := by
    rintro rfl
    cases held.symm.trans found
    exact other rfl
  have apart := sited.apart theirs address old teb different found held
  obtain ⟨inside, inside'⟩ := sited.placed address teb held
  unfold Apart at apart
  unfold Teb.lastError at inside' ⊢
  exact load_store_u32_apart (by omega)

theorem Sited.visible_created (sited : Sited m) (creates : Creates m answers address teb)
    (fresh : FreshAnswers m answers) (thread : UInt64) :
    (m.created address teb processId).visibleLastError thread = m.visibleLastError thread := by
  have unchanged : ((m.created address teb processId).contexts.threads thread).lastErrorAddress =
        (m.contexts.threads thread).lastErrorAddress ∧
      ((m.created address teb processId).contexts.threads thread).lastError =
        (m.contexts.threads thread).lastError := by
    rw [created_threads]
    by_cases same : thread = teb.thread
    · subst same
      rw [Function.update_self]
      exact ⟨rfl, rfl⟩
    · rw [Function.update_of_ne same]
      exact ⟨rfl, rfl⟩
  apply visible_congr unchanged.1 unchanged.2
  intro place holds
  obtain ⟨theirs, old, found, _, above, below⟩ := sited.place_inside holds
  have apart := creates.apart fresh found
  unfold Apart at apart
  exact write_teb_apart creates.placed (by omega)

theorem visible_destroyed (m : Machine) (address : UInt64) (teb : Teb) (thread : UInt64) :
    (m.tebDestroyed address teb).visibleLastError thread = m.visibleLastError thread := by
  by_cases same : thread = teb.thread
  · subst same
    have here : (m.tebDestroyed address teb).contexts.threads teb.thread =
        tokenOf (m.contexts.threads teb.thread) 0 := Function.update_self ..
    exact visible_congr (by rw [here]; rfl) (by rw [here]; rfl) fun _ _ => rfl
  · have kept : (m.tebDestroyed address teb).contexts.threads thread =
        m.contexts.threads thread := Function.update_of_ne same ..
    exact visible_congr (by rw [kept]) (by rw [kept]) fun _ _ => rfl

/-- Attaching carries the value over into the TEB. -/
theorem Sited.visible_attached (sited : Sited m) (held : m.tebs address = some teb)
    (detached : (m.contexts.threads teb.thread).lastErrorAddress = none) (thread : UInt64) :
    (m.attachedTeb address teb).visibleLastError thread = m.visibleLastError thread := by
  by_cases same : thread = teb.thread
  · subst same
    have here : (m.attachedTeb address teb).contexts.threads teb.thread =
        attachedTo (m.contexts.threads teb.thread) teb := Function.update_self ..
    have address' : ((m.attachedTeb address teb).contexts.threads teb.thread).lastErrorAddress =
        some teb.lastError := by rw [here]; rfl
    rw [visible_in_memory address', visible_in_context detached]
    exact load_store_u32 ..
  · have kept : (m.attachedTeb address teb).contexts.threads thread =
        m.contexts.threads thread := Function.update_of_ne same ..
    exact visible_congr (by rw [kept]) (by rw [kept]) fun place holds =>
      sited.store_apart held same holds

/-- Detaching carries the value back into the context. -/
theorem visible_detached
    (attached : (m.contexts.threads teb.thread).lastErrorAddress = some teb.lastError)
    (address thread : UInt64) :
    (m.detachedTeb address teb).visibleLastError thread = m.visibleLastError thread := by
  by_cases same : thread = teb.thread
  · subst same
    have here : (m.detachedTeb address teb).contexts.threads teb.thread =
        detachedFrom (m.contexts.threads teb.thread) (loadU32 m.memory teb.lastError) :=
      Function.update_self ..
    have address' : ((m.detachedTeb address teb).contexts.threads teb.thread).lastErrorAddress =
        none := by rw [here]; rfl
    rw [visible_in_context address', visible_in_memory attached, here]
    rfl
  · have kept : (m.detachedTeb address teb).contexts.threads thread =
        m.contexts.threads thread := Function.update_of_ne same ..
    exact visible_congr (by rw [kept]) (by rw [kept]) fun _ _ => rfl

/-- A store to the field of an attached TEB is a store to its context's value. -/
theorem Sited.visible_stored (sited : Sited m) (held : m.tebs address = some teb)
    (isAttached : teb.attached = true) (error : UInt32) (thread : UInt64) :
    ({ m with memory := storeU32 m.memory teb.lastError error } : Machine).visibleLastError
      thread = if thread = teb.thread then error else m.visibleLastError thread := by
  by_cases same : thread = teb.thread
  · subst same
    obtain ⟨_, holds⟩ := sited.attached address teb held isAttached
    rw [if_pos rfl]
    exact (@visible_in_memory { m with memory := storeU32 m.memory teb.lastError error } _ _
      holds).trans (load_store_u32 ..)
  · rw [if_neg same]
    exact visible_congr rfl rfl fun place holds => sited.store_apart held same holds

/-- `sl_kernel32_set_last_error` sets the value of the current context and of no other. -/
theorem Sited.visible_set (sited : Sited m) (host : HostThread) (error : UInt32)
    (thread : UInt64) : (setLastError m host error).visibleLastError thread =
      if contextCurrent m.contexts host = some thread then error
      else m.visibleLastError thread := by
  cases current : contextCurrent m.contexts host with
  | none =>
    have set : setLastError m host error = { m with
        fallbackLastError := Function.update m.fallbackLastError host error } := by
      simp only [setLastError, current]
    rw [set]
    rfl
  | some running =>
    cases holds : (m.contexts.threads running).lastErrorAddress with
    | none =>
      have set : setLastError m host error = m.setThread running
          { m.contexts.threads running with lastError := error } := by
        simp only [setLastError, current, holds]
      rw [set]
      by_cases same : running = thread
      · subst same
        rw [if_pos rfl, Machine.visibleLastError, set_thread_threads]
        simp only [holds]
      · rw [if_neg fun equal => same (Option.some.inj equal)]
        have kept : (m.setThread running { m.contexts.threads running with
            lastError := error }).contexts.threads thread = m.contexts.threads thread :=
          Function.update_of_ne (Ne.symm same) ..
        exact visible_congr (by rw [kept]) (by rw [kept]) fun _ _ => rfl
    | some place =>
      have set : setLastError m host error = { m with
          memory := storeU32 m.memory place error } := by
        simp only [setLastError, current, holds]
      obtain ⟨address, teb, held, isAttached, rfl, rfl⟩ := sited.holder running place holds
      rw [set, sited.visible_stored held isAttached]
      by_cases same : teb.thread = thread
      · rw [if_pos (congrArg some same), if_pos same.symm]
      · rw [if_neg fun equal => same (Option.some.inj equal), if_neg (Ne.symm same)]

end LastError

end SadLayer.ThreadEnvironment
