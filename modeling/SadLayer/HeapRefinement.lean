import SadLayer.HeapContents

/-! The functions on the process heap do what the smaller heap says, in every run and
whatever the C library answers. -/
namespace SadLayer.Heap
open SadLayer.Library

variable {state after : HeapState} {answer : LibraryAnswer} {block : Block} {header size : Nat}
  {heap memory bytes : UInt64} {flags : UInt32}

/-! ### Writing headers -/

/-- A header that was written is read again, and the bytes around it are as they were. -/
theorem stamped (state : HeapState) (header : Nat) (small : size < addressSpace) :
    magicAt (setSize (setMagic state header heapMagic) header size).bytes header = heapMagic ∧
      sizeAt (setSize (setMagic state header heapMagic) header size).bytes header = size ∧
      ∀ index, index < header ∨ header + 16 ≤ index →
        (setSize (setMagic state header heapMagic) header size).bytes index =
          state.bytes index := by
  refine ⟨?_, ?_, ?_⟩
  · refine (load_le_store_le_disjoint (by omega)).trans ?_
    exact load_le_store_le.trans rfl
  · exact load_le_store_le.trans (Nat.mod_eq_of_lt small)
  · intro index outside
    exact (store_le_outside (by omega)).trans (store_le_outside (by omega))

/-- Clearing behind a header leaves the header. -/
theorem header_behind_fill {bytes : Nat → UInt8} {start length : Nat} {value : UInt8}
    (behind : header + 16 ≤ start) :
    magicAt (fillBytes bytes start length value) header = magicAt bytes header ∧
      sizeAt (fillBytes bytes start length value) header = sizeAt bytes header := by
  constructor
  · apply load_le_congr
    intro index above below
    apply fill_bytes_outside
    omega
  · apply load_le_congr
    intro index above below
    apply fill_bytes_outside
    omega

/-- What a block is like once its header is written and, if so asked, a part behind it cleared. -/
structure Prepared (state after : HeapState) (header size start length : Nat) (zeroed : Prop) :
    Prop where
  blocks : after.blocks = state.blocks
  magic : magicAt after.bytes header = heapMagic
  sized : sizeAt after.bytes header = size
  outside : ∀ index, index < header ∨ header + 16 ≤ index →
    index < start ∨ start + length ≤ index → after.bytes index = state.bytes index
  cleared : zeroed → ∀ index, start ≤ index → index < start + length → after.bytes index = 0

theorem prepared (state : HeapState) (header size start length : Nat) (zeroed : Prop)
    [Decidable zeroed] (small : size < addressSpace) (behind : header + 16 ≤ start) :
    Prepared state
      (if zeroed then clear (setSize (setMagic state header heapMagic) header size) start length
        else setSize (setMagic state header heapMagic) header size)
      header size start length zeroed := by
  obtain ⟨magic, sized, outside⟩ := stamped state header small
  split
  · exact {
      blocks := rfl
      magic := (header_behind_fill behind).1.trans magic
      sized := (header_behind_fill behind).2.trans sized
      outside := fun index apart aside => (fill_bytes_outside aside).trans (outside index apart)
      cleared := fun _ index above below => fill_bytes_inside above below }
  · rename_i unasked
    exact {
      blocks := rfl
      magic := magic
      sized := sized
      outside := fun index apart _ => outside index apart
      cleared := fun asked => absurd asked unasked }

/-- The other blocks keep their bytes when one is prepared. -/
theorem Prepared.kept_other {start length room : Nat} {zeroed : Prop} {other : Block}
    (ready : Prepared state after header size start length zeroed) (roomy : 16 ≤ room)
    (behind : header ≤ start) (fits : 0 < length → start + length ≤ header + room)
    (apart : Block.Apart ⟨header, room⟩ other) : SameBytes state.bytes after.bytes other := by
  intro index held
  have elsewhere := apart.symm.outside held
  simp only [Block.Holds] at elsewhere
  exact (ready.outside index (by omega) (by omega)).symm

theorem Prepared.headed {start length room : Nat} {zeroed : Prop}
    (ready : Prepared state after header size start length zeroed) (positive : 0 < room)
    (fits : size ≤ room) : Headed after.bytes ⟨header, headerSize + room⟩ where
  roomy := Nat.lt_add_of_pos_right positive
  magic := ready.magic
  sized := by
    rw [ready.sized]
    exact Nat.add_le_add_left fits headerSize

theorem give_same_bytes {given other : Block} {found : Nat → UInt8}
    (older : other ∈ state.blocks) : SameBytes state.bytes (state.give given found).bytes other :=
  fun _ held => (BlockStore.settle_bytes older held).symm

theorem payload_size_bounds (bytes : UInt64) :
    0 < payloadSize bytes ∧ bytes.toNat ≤ payloadSize bytes := by
  unfold payloadSize
  split
  · rename_i zero
    subst zero
    simp
  · rename_i given
    have positive : bytes.toNat ≠ 0 := fun none => given (UInt64.toNat_inj.mp none)
    omega

/-! ### Blocks that come and go -/

/-- A block more, its header in order, is an allocation more. -/
theorem Sound.given (sound : Sound state) (admitted : state.Admits addressSpace block)
    (blocks : after.blocks = block :: state.blocks)
    (kept : ∀ other ∈ state.blocks, SameBytes state.bytes after.bytes other)
    (headed : Headed after.bytes block) :
    Sound after ∧ contents state (payload block.address) = none ∧
      payload block.address ≠ 0 ∧
      contents after = Function.update (contents state) (payload block.address)
        (some (readBytes after.bytes (block.address + headerSize)
          (sizeAt after.bytes block.address))) := by
  have whole : after = { bytes := after.bytes, blocks := block :: state.blocks } := by
    rw [← blocks]
  have laid : after.Laid addressSpace := by
    rw [whole]
    exact sound.laid.cons admitted
  have among : block ∈ after.blocks := by
    rw [blocks]
    exact List.mem_cons_self
  have sound' : Sound after := by
    apply sound.change laid
    intro other member
    rw [blocks] at member
    rcases List.mem_cons.mp member with rfl | older
    · exact .inr headed
    · exact .inl ⟨older, kept other older⟩
  obtain ⟨header_is, placed⟩ := sound'.payload_of_block among
  have live : Live after (payload block.address) := ⟨block, among, header_is.symm⟩
  have fresh : ¬ Live state (payload block.address) := by
    rintro ⟨other, older, here⟩
    rw [header_is] at here
    have apart := admitted.2.2.2 other older
    have some_byte := admitted.2.1
    have some_byte' := (sound.laid.placed other older).2.1
    unfold Block.Apart at apart
    omega
  refine ⟨sound', contents_not_live fresh, sound'.not_null live, ?_⟩
  refine sound.contents_update ?_ (fun other older _ => kept other older) ?_
  · intro other elsewhere
    rw [header_is] at elsewhere
    rw [blocks, List.mem_cons]
    exact or_iff_right fun same => elsewhere (congrArg Block.address same)
  · rw [contents_live live, header_is, placed]

/-- A block less is an allocation less. -/
theorem Sound.without (sound : Sound state) (memory : UInt64) :
    Sound (state.without (heapHeader memory)) ∧
      contents (state.without (heapHeader memory)) =
        Function.update (contents state) memory none := by
  constructor
  · apply sound.change (sound.laid.without _)
    intro other among
    exact .inl ⟨(BlockStore.mem_without.mp among).1, fun _ _ => rfl⟩
  · apply sound.contents_update
    · intro other elsewhere
      rw [BlockStore.mem_without]
      exact and_iff_left elsewhere
    · exact fun _ _ _ _ _ => rfl
    · apply contents_not_live
      rintro ⟨other, among, here⟩
      exact (BlockStore.mem_without.mp among).2 here

/-- `free` takes the block of an allocation, whatever it was marked with before. -/
theorem Sound.freed (sound : Sound state) (found : Nat → UInt8) (live : Live state memory) :
    Sound ((setMagic state (heapHeader memory) 0).take (heapHeader memory) found) ∧
      contents ((setMagic state (heapHeader memory) 0).take (heapHeader memory) found) =
        Function.update (contents state) memory none := by
  obtain ⟨block, among, here⟩ := live
  obtain ⟨rest, removed⟩ := sound.without memory
  rw [← removed]
  apply rest.same_blocks
  · rfl
  intro other remains index held
  obtain ⟨older, elsewhere⟩ := BlockStore.mem_without.mp remains
  have apart := sound.laid.blocks_apart older among (by rwa [here])
  have roomy := (sound.headed block among).roomy
  have aside := apart.outside held
  have settled : ((setMagic state (heapHeader memory) 0).take (heapHeader memory) found).bytes
      index = (setMagic state (heapHeader memory) 0).bytes index :=
    if_pos ⟨other, remains, held⟩
  refine (settled.trans (store_le_outside ?_)).symm
  simp only [Block.Holds, headerSize] at aside roomy
  omega

theorem granted_admitted {address : Nat} (given : granted answer state size = some address) :
    state.Admits addressSpace ⟨address, size⟩ := by
  have accepted := (Option.filter_eq_some_iff.mp given).2
  simpa using accepted

/-- A header that is not in order is not of an allocation. -/
theorem Sound.unknown (sound : Sound state)
    (unmarked : magicAt state.bytes (heapHeader memory) ≠ heapMagic) :
    contents state memory = none :=
  contents_not_live fun live => unmarked (sound.magic_of_live live)

theorem Sound.null_unknown (sound : Sound state) : contents state 0 = none :=
  contents_not_live fun live => sound.not_null live rfl

/-! ### The functions -/

/-- What a call leaves is in order, and is what the smaller heap says; and it leaves nothing when
it is a misuse, and only then. -/
inductive Refines (state : HeapState) (call : Call) : Option HeapState × Answer → Prop where
  | defined {after : HeapState} {given : Answer} (fair : ¬ Misused state call)
      (sound : Sound after)
      (transition : HeapStep (contents state) call given (contents after)) :
      Refines state call (some after, given)
  | undefined (misused : Misused state call) : Refines state call (none, .undefined)

theorem Sound.unchanged {call : Call} {given : Answer} (sound : Sound state)
    (fair : ¬ Misused state call)
    (transition : HeapStep (contents state) call given (contents state)) :
    Refines state call (some state, given) :=
  .defined fair sound transition

theorem free_of_live {heap : UInt64} (live : Live state memory) :
    ¬ Misused state (.free heap memory) := by
  rintro ⟨-, -, unknown, -⟩
  rw [contents_live live] at unknown
  cases unknown

theorem realloc_of_live {heap : UInt64} (live : Live state memory) :
    ¬ Misused state (.realloc heap flags memory bytes) := by
  rintro ⟨-, -, unknown, -⟩
  rw [contents_live live] at unknown
  cases unknown

theorem heap_alloc_refines (sound : Sound state) :
    Refines state (.alloc heap flags bytes)
      (some (heapAlloc answer heap flags bytes state).1,
        (heapAlloc answer heap flags bytes state).2) := by
  unfold heapAlloc
  split
  · exact sound.unchanged not_false .allocFails
  · rename_i accepted
    obtain ⟨process, _⟩ := not_or.mp accepted
    have same_heap : heap = processHeapHandle := not_not.mp process
    subst same_heap
    split
    · exact sound.unchanged not_false .allocFails
    · unfold malloc
      cases given : granted answer state (headerSize + payloadSize bytes) with
      | none =>
        obtain ⟨settled, same⟩ := sound.settled answer.found
        refine .defined not_false settled ?_
        rw [same]
        exact .allocFails
      | some address =>
        have admitted := granted_admitted given
        obtain ⟨positive, enough⟩ := payload_size_bounds bytes
        have ready := prepared (state.give ⟨address, headerSize + payloadSize bytes⟩ answer.found)
          address bytes.toNat (address + headerSize) (payloadSize bytes)
          (flags &&& heapZeroMemory ≠ 0) bytes.toNat_lt (Nat.add_le_add_left (by decide) address)
        have kept := fun other older => (give_same_bytes older).trans
          (ready.kept_other (Nat.le_add_right_of_le (by decide)) (Nat.le_add_right _ _)
            (fun _ => Nat.le_of_eq (Nat.add_assoc _ _ _)) (admitted.2.2.2 other older))
        have headed := ready.headed positive enough
        obtain ⟨sound', fresh, valid, changed⟩ := sound.given admitted ready.blocks kept headed
        refine .defined not_false sound' ?_
        rw [changed, ready.sized]
        apply HeapStep.alloc valid fresh length_read_bytes
        intro zeroed
        apply read_bytes_constant
        intro offset inside
        exact ready.cleared zeroed _ (Nat.le_add_right _ _)
          (Nat.add_lt_add_left (Nat.lt_of_lt_of_le inside enough) _)

theorem heap_free_refines (sound : Sound state) :
    Refines state (.free heap memory) (heapFree answer heap memory state) := by
  unfold heapFree
  split
  · rename_i wrong
    apply sound.unchanged
    · rintro ⟨process, given, -⟩
      exact wrong.elim (fun foreign => foreign process) given
    apply HeapStep.freeRefused
    rcases wrong with foreign | null
    · exact .inl foreign
    · rw [null]
      exact .inr sound.null_unknown
  · rename_i accepted
    obtain ⟨process, given⟩ := not_or.mp accepted
    have same_heap : heap = processHeapHandle := not_not.mp process
    subst same_heap
    split
    · rename_i unmarked
      refine sound.unchanged ?_ (.freeRefused (.inr (sound.unknown unmarked)))
      rintro ⟨-, -, -, marked⟩
      exact unmarked marked
    · rename_i marked
      unfold free
      by_cases live : Live state memory
      · obtain ⟨block, found, among, here⟩ := block_at_some live
        have found' : blockAt (setMagic state (heapHeader memory) 0) (heapHeader memory) =
            some block := found
        rw [found', Option.map_some]
        obtain ⟨sound', removed⟩ := sound.freed answer.found live
        refine .defined (free_of_live live) sound' ?_
        rw [removed]
        exact .free (contents_live live)
      · have missing : blockAt (setMagic state (heapHeader memory) 0) (heapHeader memory) = none :=
          block_at_none live
        rw [missing, Option.map_none]
        exact .undefined ⟨rfl, given, contents_not_live live, not_not.mp marked⟩

/-- A smaller size in the header cuts the contents off. -/
theorem shrink_refines (sound : Sound state) (live : Live state memory)
    (inPlace : InPlaceOnly flags)
    (fits : bytes.toNat ≤ sizeAt state.bytes (heapHeader memory)) :
    Refines state (.realloc processHeapHandle flags memory bytes)
      (some (setSize state (heapHeader memory) bytes.toNat), .pointer memory) := by
  have fair : ¬ Misused state (.realloc processHeapHandle flags memory bytes) :=
    realloc_of_live live
  obtain ⟨block, among, here⟩ := live
  have headed := sound.headed block among
  have behind := sound.behind_header among here
  have roomy := headed.roomy
  have sized : sizeAt (setSize state (heapHeader memory) bytes.toNat).bytes (heapHeader memory) =
      bytes.toNat :=
    load_le_store_le.trans (Nat.mod_eq_of_lt bytes.toNat_lt)
  have kept : ∀ other ∈ state.blocks, other.address ≠ heapHeader memory →
      SameBytes state.bytes (setSize state (heapHeader memory) bytes.toNat).bytes other := by
    intro other older elsewhere index held
    have apart := sound.laid.blocks_apart older among (by rwa [here])
    have aside := apart.outside held
    refine (store_le_outside ?_).symm
    simp only [Block.Holds, headerSize] at aside roomy
    omega
  have headed' : Headed (setSize state (heapHeader memory) bytes.toNat).bytes block := by
    refine ⟨headed.roomy, ?_, ?_⟩
    · rw [here]
      refine (load_le_store_le_disjoint (.inl (Nat.le_refl _))).trans ?_
      exact sound.magic_of_live ⟨block, among, here⟩
    · have room := headed.sized
      rw [here] at room ⊢
      rw [sized]
      omega
  refine .defined fair ?_ ?_
  · apply sound.change
    · exact ⟨sound.laid.apart, sound.laid.placed⟩
    intro other older
    by_cases same : other.address = heapHeader memory
    · have is_block := sound.laid.same_address older among (same.trans here.symm)
      rw [is_block]
      exact .inr headed'
    · exact .inl ⟨older, kept other older same⟩
  · have changed : contents (setSize state (heapHeader memory) bytes.toNat) =
        Function.update (contents state) memory
          (some ((readBytes state.bytes memory.toNat
            (sizeAt state.bytes (heapHeader memory))).take bytes.toNat)) := by
      apply sound.contents_update
      · exact fun _ _ => Iff.rfl
      · exact kept
      have live : Live (setSize state (heapHeader memory) bytes.toNat) memory :=
        ⟨block, among, here⟩
      rw [contents_live live, sized, take_read_bytes, Nat.min_eq_left fits]
      apply congrArg some
      apply read_bytes_congr
      intro index above below
      apply store_le_outside
      simp only [headerSize] at behind
      omega
    rw [changed]
    apply HeapStep.shrink inPlace (contents_live ⟨block, among, here⟩)
    rwa [length_read_bytes]

/-- A block in place of another has what fits of the contents. -/
theorem moved_refines {moved : Nat} (sound : Sound state) (anywhere : ¬ InPlaceOnly flags)
    (among : block ∈ state.blocks) (here : block.address = heapHeader memory)
    (admitted : (state.without (heapHeader memory)).Admits addressSpace
      ⟨moved, headerSize + payloadSize bytes⟩)
    (ready : Prepared
      (state.resize (heapHeader memory) (min block.size (headerSize + payloadSize bytes))
        ⟨moved, headerSize + payloadSize bytes⟩ answer.found)
      after moved bytes.toNat (moved + headerSize + sizeAt state.bytes (heapHeader memory))
      (bytes.toNat - sizeAt state.bytes (heapHeader memory))
      (flags &&& heapZeroMemory ≠ 0 ∧
        bytes.toNat > sizeAt state.bytes (heapHeader memory))) :
    Refines state (.realloc processHeapHandle flags memory bytes)
      (some after, .pointer (payload moved)) := by
  have live : Live state memory := ⟨block, among, here⟩
  have headed := sound.headed block among
  have behind := sound.behind_header among here
  obtain ⟨positive, enough⟩ := payload_size_bounds bytes
  obtain ⟨rest, removed⟩ := sound.without memory
  have kept : ∀ other ∈ (state.without (heapHeader memory)).blocks,
      SameBytes (state.without (heapHeader memory)).bytes after.bytes other := by
    intro other remains
    obtain ⟨older, elsewhere⟩ := BlockStore.mem_without.mp remains
    refine SameBytes.trans (fun index held => ?_)
      (ready.kept_other (Nat.le_add_right_of_le (by decide)) ?_ ?_ (admitted.2.2.2 other remains))
    · exact (BlockStore.resize_bytes_other admitted (Nat.min_le_right _ _) older elsewhere held).symm
    · omega
    · omega
  have copied_bytes : ∀ offset < sizeAt state.bytes (heapHeader memory), offset < bytes.toNat →
      after.bytes (moved + headerSize + offset) =
        state.bytes (heapHeader memory + headerSize + offset) := by
    intro offset old new
    have fits := headed.sized
    rw [here] at fits
    have stamped := ready.outside (moved + headerSize + offset)
      (.inr (by simp only [headerSize]; omega)) (.inl (by omega))
    rw [stamped, Nat.add_assoc, Nat.add_assoc]
    apply BlockStore.resize_bytes_kept
    omega
  obtain ⟨sound', fresh, valid, changed⟩ :=
    rest.given admitted ready.blocks kept (ready.headed positive enough)
  refine .defined (realloc_of_live live) sound' ?_
  rw [changed, ready.sized, removed]
  rw [removed] at fresh
  apply HeapStep.realloc anywhere (contents_live live) valid
  · by_cases same : payload moved = memory
    · exact .inl same
    · rw [Function.update_of_ne same] at fresh
      exact .inr fresh
  · exact length_read_bytes
  · rw [length_read_bytes, take_read_bytes, take_read_bytes, Nat.min_comm]
    apply read_bytes_moved
    intro offset inside
    have copied := copied_bytes offset (by omega) (by omega)
    rw [behind, here]
    exact copied
  · intro zeroed
    rw [length_read_bytes, drop_read_bytes]
    apply read_bytes_constant
    intro offset inside
    exact ready.cleared ⟨zeroed, by omega⟩ _ (Nat.le_add_right _ _)
      (Nat.add_lt_add_left inside _)

theorem heap_realloc_refines (sound : Sound state) :
    Refines state (.realloc heap flags memory bytes)
      (heapRealloc answer heap flags memory bytes state) := by
  unfold heapRealloc
  dsimp only
  split
  · rename_i wrong
    refine sound.unchanged ?_ (.reallocFails fun _ => ?_)
    · rintro ⟨process, given, -, -, small, -⟩
      rcases wrong with foreign | null | large
      · exact foreign process
      · exact given null
      · omega
    rcases wrong with foreign | null | large
    · exact .inl foreign
    · rw [null]
      exact .inr (.inl sound.null_unknown)
    · by_cases live : Live state memory
      · refine .inr (.inr ⟨_, contents_live live, ?_⟩)
        obtain ⟨block, among, here⟩ := live
        have placed := (sound.laid.placed block among).2.2
        have positive := (sound.laid.placed block among).1
        have fits := (sound.headed block among).sized
        rw [length_read_bytes, ← here]
        simp only [sizeMax, headerSize, addressSpace] at *
        omega
      · exact .inr (.inl (contents_not_live live))
  · rename_i accepted
    obtain ⟨process, given, small⟩ := not_or.mp accepted |>.imp_right not_or.mp
    have same_heap : heap = processHeapHandle := not_not.mp process
    subst same_heap
    have misused (unused : ¬ Live state memory)
        (marked : magicAt state.bytes (heapHeader memory) = heapMagic)
        (fits : InPlaceOnly flags → bytes.toNat ≤ sizeAt state.bytes (heapHeader memory)) :
        Misused state (.realloc processHeapHandle flags memory bytes) :=
      ⟨rfl, given, contents_not_live unused, marked, Nat.le_of_not_lt small, fits⟩
    split
    · rename_i unmarked
      refine sound.unchanged ?_ (.reallocFails fun _ => .inr (.inl (sound.unknown unmarked)))
      rintro ⟨-, -, -, marked, -⟩
      exact unmarked marked
    · rename_i marked
      split
      · rename_i inPlace
        split
        · rename_i larger
          have fair : ¬ Misused state (.realloc processHeapHandle flags memory bytes) := by
            rintro ⟨-, -, -, -, -, fits⟩
            exact Nat.not_lt.mpr (fits inPlace) larger
          by_cases live : Live state memory
          · exact sound.unchanged fair (.reallocFails fun _ =>
              .inr (.inr ⟨_, contents_live live, by rwa [length_read_bytes]⟩))
          · exact sound.unchanged fair
              (.reallocFails fun _ => .inr (.inl (contents_not_live live)))
        · rename_i fits
          by_cases live : Live state memory
          · obtain ⟨block, found, _⟩ := block_at_some live
            rw [if_neg (by rw [found]; simp)]
            exact shrink_refines sound live inPlace (Nat.le_of_not_lt fits)
          · rw [if_pos (block_at_none live)]
            exact .undefined (misused live (not_not.mp marked) fun _ => Nat.le_of_not_lt fits)
      · rename_i anywhere
        unfold realloc
        by_cases live : Live state memory
        · obtain ⟨block, found, among, here⟩ := block_at_some live
          rw [found, Option.map_some]
          cases given : granted answer (state.without (heapHeader memory))
              (headerSize + payloadSize bytes) with
          | none =>
            obtain ⟨settled, same⟩ := sound.settled answer.found
            refine .defined (realloc_of_live live) settled ?_
            rw [same]
            exact .reallocFails fun inPlace => absurd inPlace anywhere
          | some moved =>
            apply moved_refines sound anywhere among here (granted_admitted given)
            exact prepared _ _ _ _ _ _ bytes.toNat_lt (by simp only [headerSize]; omega)
        · rw [block_at_none live, Option.map_none]
          exact .undefined (misused live (not_not.mp marked)
            fun inPlace => absurd inPlace anywhere)

theorem heap_size_refines (sound : Sound state) :
    Refines state (.size heap memory) (some state, .size (heapSize heap memory state)) := by
  unfold heapSize
  split
  · rename_i wrong
    rcases wrong with foreign | null
    · exact sound.unchanged not_false (.sizeRefused foreign)
    · rw [null]
      exact sound.unchanged not_false (.sizeUnknown sound.null_unknown)
  · rename_i accepted
    obtain ⟨process, _⟩ := not_or.mp accepted
    have same_heap : heap = processHeapHandle := not_not.mp process
    subst same_heap
    split
    · rename_i unmarked
      exact sound.unchanged not_false (.sizeUnknown (sound.unknown unmarked))
    · by_cases live : Live state memory
      · have sized := HeapStep.size (contents_live live)
        rw [length_read_bytes] at sized
        exact sound.unchanged not_false sized
      · exact sound.unchanged not_false (.sizeUnknown (contents_not_live live))

/-- A byte written to an allocation changes that allocation alone. -/
theorem store_refines {address : UInt64} {byte : UInt8} (sound : Sound state)
    (writable : Writable state address.toNat) :
    Refines state (.store address byte)
      (some { state with bytes := Function.update state.bytes address.toNat byte }, .stored) := by
  obtain ⟨block, among, above, below⟩ := writable
  have headed := sound.headed block among
  have fits := headed.sized
  obtain ⟨header_is, placed⟩ := sound.payload_of_block among
  have live : Live state (payload block.address) := ⟨block, among, header_is.symm⟩
  have elsewhere : ∀ index, ¬ (block.address + headerSize ≤ index ∧
      index < block.address + headerSize + sizeAt state.bytes block.address) →
      Function.update state.bytes address.toNat byte index = state.bytes index := by
    intro index outside
    apply Function.update_of_ne
    rintro rfl
    exact outside ⟨above, below⟩
  have same_header : SameBytes state.bytes
      (Function.update state.bytes address.toNat byte) ⟨block.address, headerSize⟩ := by
    intro index held
    refine (elsewhere index ?_).symm
    simp only [Block.Holds] at held
    omega
  have sized : sizeAt (Function.update state.bytes address.toNat byte) block.address =
      sizeAt state.bytes block.address := by
    refine load_le_congr fun index low high => (same_header index ?_).symm
    simp only [Block.Holds, headerSize]
    omega
  have magic : magicAt (Function.update state.bytes address.toNat byte) block.address =
      magicAt state.bytes block.address := by
    refine load_le_congr fun index low high => (same_header index ?_).symm
    simp only [Block.Holds, headerSize]
    omega
  have kept : ∀ other ∈ state.blocks, other.address ≠ block.address →
      SameBytes state.bytes (Function.update state.bytes address.toNat byte) other := by
    intro other older different index held
    have aside := (sound.laid.blocks_apart older among different).outside held
    refine (elsewhere index ?_).symm
    simp only [Block.Holds] at aside
    omega
  refine .defined (fun misused => ?_) ?_ ?_
  · have held := contents_live live
    rw [header_is] at held
    refine misused _ _ held ⟨by omega, ?_⟩
    rw [length_read_bytes]
    omega
  · apply sound.change
    · exact ⟨sound.laid.apart, sound.laid.placed⟩
    intro other older
    by_cases same : other.address = block.address
    · rw [sound.laid.same_address older among same]
      exact .inr ⟨headed.roomy, magic.trans headed.magic, by rwa [sized]⟩
    · exact .inl ⟨older, kept other older same⟩
  · obtain ⟨offset, at_offset⟩ := Nat.exists_eq_add_of_le above
    have inside : offset < sizeAt state.bytes block.address := by omega
    have changed : contents
          { state with bytes := Function.update state.bytes address.toNat byte } =
        Function.update (contents state) (payload block.address)
          (some ((readBytes state.bytes (payload block.address).toNat
            (sizeAt state.bytes block.address)).set offset byte)) := by
      apply sound.contents_update
      · exact fun _ _ => Iff.rfl
      · rw [header_is]
        exact kept
      have live' : Live { state with bytes := Function.update state.bytes address.toNat byte }
          (payload block.address) := live
      rw [contents_live live', header_is, sized, placed, at_offset, read_bytes_update inside]
    rw [changed]
    have held := contents_live live
    rw [header_is] at held
    exact .store held (by rwa [length_read_bytes]) (by rw [placed]; exact at_offset)

theorem store_undefined {address : UInt64} {byte : UInt8} (sound : Sound state)
    (outside : ¬ Writable state address.toNat) :
    Refines state (.store address byte) (none, .undefined) := by
  refine .undefined ?_
  rintro memory data held ⟨above, below⟩
  obtain ⟨live, long⟩ := length_of_contents held
  obtain ⟨block, among, here⟩ := live
  have behind := sound.behind_header among here
  apply outside
  refine ⟨block, among, by omega, ?_⟩
  rw [here, ← long]
  omega

/-! ### Runs -/

theorem perform_refines (sound : Sound state) (label : Call × LibraryAnswer) :
    Refines state label.1 (perform state label) := by
  obtain ⟨call, answer⟩ := label
  cases call with
  | alloc heap flags bytes => exact heap_alloc_refines sound
  | free heap memory => exact heap_free_refines sound
  | realloc heap flags memory bytes => exact heap_realloc_refines sound
  | size heap memory => exact heap_size_refines sound
  | store address byte =>
    simp only [perform]
    split
    · rename_i writable
      exact store_refines sound writable
    · rename_i outside
      exact store_undefined sound outside

/-- A step that has a defined outcome is one of the smaller heap. -/
theorem step_refines {label : Call × LibraryAnswer} (sound : Sound state)
    (defined : (step (some state) label).1 = some after) :
    Sound after ∧ HeapStep (contents state) label.1 (step (some state) label).2
      (contents after) := by
  have refines : Refines state label.1 (step (some state) label) := perform_refines sound label
  generalize step (some state) label = outcome at *
  cases refines with
  | defined fair sound' transition =>
    cases defined
    exact ⟨sound', transition⟩
  | undefined misused => cases defined

theorem undefined_iff {label : Call × LibraryAnswer} (sound : Sound state) :
    (step (some state) label).1 = none ↔ Misused state label.1 := by
  have refines : Refines state label.1 (step (some state) label) := perform_refines sound label
  generalize step (some state) label = outcome at *
  cases refines with
  | defined fair sound' transition => exact iff_of_false nofun fair
  | undefined misused => exact iff_of_true rfl misused

/-- What is true of the heap at the start and after each defined step, in a run that is defined
up to there. -/
theorem defined_run (Holds : List ((Call × LibraryAnswer) × Answer) → HeapState → Prop)
    (bytes : Nat → UInt8) (initial : Holds [] (start bytes))
    (preserved : ∀ trace state after label, Sound state → Holds trace state →
      (step (some state) label).1 = some after →
      Holds (trace ++ [(label, (step (some state) label).2)]) after)
    (labels : List (Call × LibraryAnswer))
    (defined : (run step (some (start bytes)) labels).state = some state) :
    Sound state ∧ Holds (run step (some (start bytes)) labels).trace state := by
  refine run_invariant step (fun trace reached => ∀ state, reached = some state →
    Sound state ∧ Holds trace state) ?_ ?_ labels state defined
  · rintro _ ⟨⟩
    exact ⟨sound_start bytes, initial⟩
  · rintro trace (_ | state) label holds after defined
    · cases defined
    · obtain ⟨sound, held⟩ := holds state rfl
      exact ⟨(step_refines sound defined).1, preserved trace state after label sound held defined⟩

theorem run_sound {bytes : Nat → UInt8} {labels : List (Call × LibraryAnswer)}
    (defined : (run step (some (start bytes)) labels).state = some state) : Sound state :=
  (defined_run (fun _ _ => True) bytes trivial (fun _ _ _ _ _ _ _ => trivial) labels defined).1

/-- In every run, each call answers and changes the allocations as the smaller heap may, or is a
misuse, after which nothing is known. -/
theorem heap_run_refines (bytes : Nat → UInt8) (labels : List (Call × LibraryAnswer))
    (label : Call × LibraryAnswer) :
    contents (start bytes) = (fun _ => none) ∧
      ∀ state, (run step (some (start bytes)) labels).state = some state →
        ((run step (some (start bytes)) (labels ++ [label])).state = none ↔
          Misused state label.1) ∧
        ∀ after, (run step (some (start bytes)) (labels ++ [label])).state = some after →
          HeapStep (contents state) label.1 (step (some state) label).2 (contents after) := by
  refine ⟨contents_start bytes, fun state defined => ?_⟩
  rw [run_concat]
  simp only [Run.extend, defined]
  exact ⟨undefined_iff (run_sound defined), fun after leaves =>
    (step_refines (run_sound defined) leaves).2⟩

/-- Two bytes at 96, given back; and what the C library leaves where they were. -/
def freedOnce (stale : Nat → UInt8) : List (Call × LibraryAnswer) := [
  (.alloc processHeapHandle 0 2, ⟨some 64, fun _ => 7⟩),
  (.free processHeapHandle 96, ⟨none, stale⟩)]

def secondFree : Call × LibraryAnswer := (.free processHeapHandle 96, ⟨none, fun _ => 0⟩)

/-- The magic, where the header was. -/
def staleMagic (index : Nat) : UInt8 := UInt8.ofNat (heapMagic / 256 ^ (index - 64))

/-- A second free is refused where the magic is gone, and a misuse where it is still there. -/
theorem heap_second_free :
    (∃ state after,
      (run step (some (start fun _ => 0)) (freedOnce fun _ => 0)).state = some state ∧
      (run step (some (start fun _ => 0)) (freedOnce (fun _ => 0) ++ [secondFree])).state =
        some after ∧
      HeapStep (contents state) secondFree.1 (.bool false) (contents after)) ∧
    ∃ state, (run step (some (start fun _ => 0)) (freedOnce staleMagic)).state = some state ∧
      (run step (some (start fun _ => 0)) (freedOnce staleMagic ++ [secondFree])).state = none ∧
      Misused state secondFree.1 := by
  constructor
  · have defined : (run step (some (start fun _ => 0)) (freedOnce fun _ => 0)).state = some _ := rfl
    have refused : (run step (some (start fun _ => 0))
        (freedOnce (fun _ => 0) ++ [secondFree])).state = some _ := rfl
    exact ⟨_, _, defined, refused,
      ((heap_run_refines (fun _ => 0) _ secondFree).2 _ defined).2 _ refused⟩
  · have defined : (run step (some (start fun _ => 0)) (freedOnce staleMagic)).state = some _ := rfl
    have gone : (run step (some (start fun _ => 0)) (freedOnce staleMagic ++ [secondFree])).state =
      none := rfl
    exact ⟨_, defined, gone, ((heap_run_refines (fun _ => 0) _ secondFree).2 _ defined).1.mp gone⟩

end SadLayer.Heap
