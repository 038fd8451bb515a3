import SadLayer.Library.Directories
import SadLayer.SearchPaths

/-! The directory of a search is opened one component at a time. Whatever else
goes on in the file system, it lies below the root, no link leads to it, and no
other descriptor is left open. -/
namespace SadLayer.Search
open SadLayer.Library SadLayer.Unicode

/-- What the host has at each call: its directories, the number a new descriptor gets, if it is
given one, and the error of a call that fails. -/
structure Host (δ : Type) where
  tree : Nat → DirectoryTree UInt8 δ
  number : Nat → List Nat → Option Nat
  unused : ∀ {call : Nat} {used : List Nat} {fd : Nat}, number call used = some fd → fd ∉ used
  errno : Nat → Nat

/-- The descriptors in use with the directories they are open on, the calls of `openat` so far,
and the most descriptors that were in use at once. -/
structure Descriptors (δ : Type) where
  inUse : List (Nat × δ)
  calls : Nat := 0
  most : Nat := inUse.length

variable {δ : Type}

/-- Where a name without slashes leads from a directory. -/
def lookUp (tree : DirectoryTree UInt8 δ) (here : δ) (name : List UInt8) (noFollow : Bool) :
    Option δ :=
  if name = [] then none
  else if name = [dot] then some here
  else if name = [dot, dot] then some (tree.above here)
  else match tree.entry here name with
    | some (.directory below) => some below
    | some (.link target) => if noFollow then none else target
    | _ => none

/-- `openat` with `O_DIRECTORY`, and with `O_NOFOLLOW` or not. -/
def openat (host : Host δ) (fd : Nat) (name : List UInt8) (noFollow : Bool)
    (descriptors : Descriptors δ) : Except Nat Nat × Descriptors δ :=
  let there := (descriptors.inUse.lookup fd).bind fun here =>
    lookUp (host.tree descriptors.calls) here name noFollow
  match there, host.number descriptors.calls (descriptors.inUse.map Prod.fst) with
  | some there, some next => (.ok next, {
      inUse := (next, there) :: descriptors.inUse
      calls := descriptors.calls + 1
      most := max descriptors.most (descriptors.inUse.length + 1) })
  | _, _ => (.error (host.errno descriptors.calls), {
      inUse := descriptors.inUse
      calls := descriptors.calls + 1
      most := descriptors.most })

def close (fd : Nat) (descriptors : Descriptors δ) : Descriptors δ := {
  inUse := descriptors.inUse.filter (·.1 != fd)
  calls := descriptors.calls
  most := descriptors.most }

theorem after_separator_shorter {bytes component : List UInt8} {separator : UInt8}
    (rest : bytes.dropWhile (· != slash) = separator :: component) :
    component.length < bytes.length := by
  have shorter := (List.dropWhile_sublist (· != slash) (l := bytes)).length_le
  rw [rest, List.length_cons] at shorter
  exact shorter

/-- The loop of `open_search_directory`, which cuts the path at its next slash. -/
def openComponents (host : Host δ) (current : Nat) (component : List UInt8)
    (descriptors : Descriptors δ) : Except Nat Nat × Descriptors δ :=
  if component = [] then (.ok current, descriptors)
  else match openat host current (component.takeWhile (· != slash)) true descriptors with
    | (.error errno, descriptors) => (.error errno, close current descriptors)
    | (.ok next, descriptors) =>
      match _rest : component.dropWhile (· != slash) with
      | [] => (.ok next, close current descriptors)
      | _ :: component => openComponents host next component (close current descriptors)
termination_by component.length
decreasing_by exact after_separator_shorter _rest

/-- `open_search_directory`. -/
def openSearchDirectory (host : Host δ) (rootFd : Nat) (directory : List UInt8)
    (descriptors : Descriptors δ) : Except Nat Nat × Descriptors δ :=
  match openat host rootFd [dot] false descriptors with
  | (.error errno, descriptors) => (.error errno, descriptors)
  | (.ok current, descriptors) => openComponents host current directory descriptors

/-! ### One component -/

/-- The host may refuse a descriptor. -/
def Host.Refuses (host : Host δ) : Prop := ∃ call used, host.number call used = none

/-- What opening comes to that should lead to the directory `target` and keep the descriptors
`kept` in use, no more than `limit` of them at once. -/
inductive Opening (host : Host δ) (target : Option δ) (kept : List (Nat × δ)) (limit : Nat) :
    Except Nat Nat × Descriptors δ → Prop where
  | opened {fd : Nat} {there : δ} {after : Descriptors δ} (leads : target = some there)
      (fresh : fd ∉ kept.map Prod.fst) (inUse : after.inUse = (fd, there) :: kept)
      (most : after.most ≤ limit) : Opening host target kept limit (.ok fd, after)
  | failed {after : Descriptors δ} (call : Nat) (cause : host.Refuses ∨ target = none)
      (inUse : after.inUse = kept) (most : after.most ≤ limit) :
      Opening host target kept limit (.error (host.errno call), after)

variable {host : Host δ} {fd next : Nat} {here there root : δ} {name : List UInt8}
  {names : List (List UInt8)} {before after : Descriptors δ} {kept : List (Nat × δ)}

theorem Opening.within {target : Option δ} {limit wider : Nat}
    {outcome : Except Nat Nat × Descriptors δ} (opening : Opening host target kept limit outcome)
    (room : limit ≤ wider) : Opening host target kept wider outcome := by
  cases opening with
  | opened leads fresh inUse most => exact .opened leads fresh inUse (le_trans most room)
  | failed call cause inUse most => exact .failed call cause inUse (le_trans most room)

/-- A name that is not dotted leads to an entry of the directory, when links are not followed. -/
theorem look_up_plain (tree : DirectoryTree UInt8 δ) (here : δ)
    (plain : name ≠ [] ∧ name ≠ [dot] ∧ name ≠ [dot, dot]) :
    lookUp tree here name true = tree.enter here name := by
  rw [lookUp, if_neg plain.1, if_neg plain.2.1, if_neg plain.2.2, DirectoryTree.enter]
  split <;> simp_all

theorem openat_opening (host : Host δ) (name : List UInt8) (noFollow : Bool)
    (found : before.inUse.lookup fd = some here) :
    Opening host (lookUp (host.tree before.calls) here name noFollow) before.inUse
      (max before.most (before.inUse.length + 1)) (openat host fd name noFollow before) := by
  simp only [openat, found, Option.bind_some]
  cases lookUp (host.tree before.calls) here name noFollow with
  | none => exact .failed before.calls (.inr rfl) rfl (Nat.le_max_left _ _)
  | some there =>
    cases given : host.number before.calls (before.inUse.map Prod.fst) with
    | none => exact .failed before.calls (.inl ⟨_, _, given⟩) rfl (Nat.le_max_left _ _)
    | some next => exact .opened rfl (host.unused given) rfl (Nat.le_refl _)

theorem openat_calls (name : List UInt8) (noFollow : Bool) :
    (openat host fd name noFollow before).2.calls = before.calls + 1 := by
  unfold openat
  dsimp only
  split <;> rfl

theorem close_first (inUse : before.inUse = (fd, here) :: kept)
    (fresh : fd ∉ kept.map Prod.fst) : (close fd before).inUse = kept := by
  have others : ∀ entry ∈ kept, (entry.1 != fd) = true := by
    intro entry member
    apply bne_iff_ne.mpr
    rintro rfl
    exact fresh (List.mem_map_of_mem member)
  simp [close, inUse, List.filter_eq_self.mpr others]

theorem close_second (inUse : before.inUse = (next, there) :: (fd, here) :: kept)
    (fresh : fd ∉ kept.map Prod.fst) (other : next ≠ fd) :
    (close fd before).inUse = (next, there) :: kept := by
  have rest : (close fd ⟨(fd, here) :: kept, 0, 0⟩).inUse = kept := close_first rfl fresh
  simp only [close] at rest ⊢
  rw [inUse, List.filter_cons_of_pos (by simpa using other), rest]

/-! ### All components -/

theorem join_cons (name : List UInt8) (names : List (List UInt8)) :
    joinSegments slash (name :: names) =
      name ++ if names = [] then [] else slash :: joinSegments slash names := by
  unfold joinSegments
  cases names with
  | nil => simp [List.intercalate_singleton]
  | cons second names => simp [List.intercalate_cons_cons]

/-- The next component of joined names is the first of them. -/
theorem cut_name (plain : slash ∉ name) (names : List (List UInt8)) :
    (joinSegments slash (name :: names)).takeWhile (· != slash) = name ∧
      (joinSegments slash (name :: names)).dropWhile (· != slash) =
        if names = [] then [] else slash :: joinSegments slash names := by
  have inside : ∀ byte ∈ name, (byte != slash) = true := by
    intro byte member
    apply bne_iff_ne.mpr
    rintro rfl
    exact plain member
  rw [join_cons]
  split
  · rw [List.append_nil]
    exact ⟨List.takeWhile_eq_self_iff.mpr inside, List.dropWhile_eq_nil_iff.mpr inside⟩
  · rw [List.takeWhile_append_of_pos inside, List.dropWhile_append_of_pos inside]
    simp

/-- One pass of the loop: the first name is looked up, and the directory it was looked up in is
closed whatever comes of it. -/
theorem open_components_cons (plain : slash ∉ name) (filled : name ≠ [])
    (names : List (List UInt8)) :
    openComponents host fd (joinSegments slash (name :: names)) before =
      match openat host fd name true before with
      | (.error errno, after) => (.error errno, close fd after)
      | (.ok next, after) => openComponents host next (joinSegments slash names) (close fd after) := by
  obtain ⟨first, others⟩ := cut_name plain names
  have some' : joinSegments slash (name :: names) ≠ [] := by
    rw [join_cons]
    simp [filled]
  rw [openComponents, if_neg some', first]
  split
  · rename_i errno after' _
    rfl
  · rename_i next after' _
    split
    · rename_i last
      rw [others] at last
      have empty : names = [] := by
        by_contra more
        rw [if_neg more] at last
        contradiction
      rw [empty, join_nil, openComponents, if_pos rfl]
    · rename_i separator component rest
      rw [others] at rest
      split at rest
      · contradiction
      · rw [← (List.cons.inj rest).2]

/-- The loop leads where the names lead, each looked up in the tree of its call. -/
theorem open_components_opening (host : Host δ) (plain : PlainNames dot isSlash names)
    (inUse : before.inUse = (fd, here) :: kept) (fresh : fd ∉ kept.map Prod.fst) :
    Opening host (followOver host.tree before.calls here names) kept
      (max before.most (kept.length + 2))
      (openComponents host fd (joinSegments slash names) before) := by
  induction names generalizing before fd here with
  | nil =>
    rw [join_nil, openComponents, if_pos rfl, followOver]
    exact .opened rfl fresh inUse (Nat.le_max_left _ _)
  | cons name names ih =>
    obtain ⟨filled, single, double, unseparated⟩ := plain name List.mem_cons_self
    have others : PlainNames dot isSlash names :=
      fun other member => plain other (List.mem_cons_of_mem _ member)
    rw [open_components_cons (plain_iff.mp unseparated) filled, followOver]
    have found : before.inUse.lookup fd = some here := by rw [inUse]; simp
    have step := openat_opening host name true found
    have counted : (openat host fd name true before).2.calls = _ := openat_calls name true
    rw [look_up_plain _ _ ⟨filled, single, double⟩, inUse, List.length_cons] at step
    revert step counted
    generalize openat host fd name true before = outcome
    intro step counted
    cases step with
    | failed call cause unchanged most =>
      refine .failed call ?_ (close_first unchanged fresh) most
      exact cause.imp_right fun nowhere => by rw [nowhere]; rfl
    | @opened next below after leads unused grown most =>
      rw [List.map_cons, List.mem_cons, not_or] at unused
      have onward := ih others (close_second grown fresh unused.1)
        unused.2
      rw [leads, Option.bind_some, ← counted]
      exact onward.within (max_le most (Nat.le_max_right _ _))

theorem open_search_directory_opening (plain : PlainNames dot isSlash names)
    (found : before.inUse.lookup fd = some root) :
    Opening host (followOver host.tree (before.calls + 1) root names) before.inUse
      (max before.most (before.inUse.length + 2))
      (openSearchDirectory host fd (joinSegments slash names) before) := by
  have step := openat_opening host [dot] false found
  have counted : (openat host fd [dot] false before).2.calls = _ := openat_calls [dot] false
  have here : lookUp (host.tree before.calls) root [dot] false = some root := by
    rw [lookUp, if_neg (by simp), if_pos rfl]
  rw [here] at step
  unfold openSearchDirectory
  revert step counted
  generalize openat host fd [dot] false before = outcome
  intro step counted
  cases step with
  | failed call cause unchanged most =>
    refine .failed call (cause.imp_right fun nowhere => nomatch nowhere) unchanged ?_
    omega
  | @opened current below after leads unused grown most =>
    have onward := open_components_opening host plain grown unused
    rw [counted, ← Option.some.inj leads] at onward
    apply onward.within
    omega

/-! ### The directory of a pattern -/

/-- What an outcome of a normalization tells of the directory when it is accepted. -/
def Names (chars : List Char) (outcome : Option Normalized) : Prop :=
  ∃ normalized, outcome = some normalized ∧ (normalized.result ≠ .ok ∨
    ∃ names buffer, resolveSegments '.' [] (directorySegments chars) = some names ∧
      normalized.directory = some buffer ∧ cText buffer = encodeUtf8 (joinSegments '/' names))

theorem names_refused {chars : List Char} {normalized : Normalized}
    (refused : normalized.result ≠ .ok) : Names chars (some normalized) :=
  ⟨normalized, rfl, .inl refused⟩

theorem settled_names {chars : List Char} {outcome : Option Normalized}
    (settled : Settled chars outcome) : Names chars outcome := by
  obtain ⟨normalized, same, ⟨-, refused⟩ | ⟨-, accepted⟩⟩ := settled
  · exact ⟨normalized, same, .inl (by rw [refused]; decide)⟩
  · obtain ⟨names, buffer, resolved, kept, text, -⟩ := accepted.directory
    exact ⟨normalized, same, .inr ⟨names, buffer, resolved, kept, text⟩⟩

theorem normalize_leaf_allocations (leaf directory : List UInt8) (allocations : Allocations) :
    (normalizeLeaf leaf directory allocations).result = .outOfMemory ∨
      normalizeLeaf leaf directory allocations = normalizeLeaf leaf directory {} := by
  rcases allocations with ⟨_, _, pattern⟩
  cases pattern with
  | true => exact .inr rfl
  | false =>
    unfold normalizeLeaf
    dsimp only
    split
    · exact .inr rfl
    split
    · exact .inl rfl
    · exact .inl rfl

/-- An allocation that fails ends the normalization, and nothing else depends on them. -/
theorem normalize_encoded_names {chars : List Char} {encoded : List UInt8}
    (names : Names chars (normalizeEncoded encoded {})) (allocations : Allocations) :
    Names chars (normalizeEncoded encoded allocations) := by
  unfold normalizeEncoded at names ⊢
  split
  · exact names_refused (by decide)
  rename_i relative
  rw [if_neg relative] at names
  dsimp only at names ⊢
  split
  · exact names_refused (by decide)
  rename_i proper
  rw [if_neg proper, if_neg (by decide)] at names
  split
  · exact names_refused (by decide)
  revert names
  split
  · exact id
  split
  · exact id
  split
  · exact id
  · rename_i directory _
    intro names
    rcases normalize_leaf_allocations (encoded.drop (backToSlash encoded encoded.length)) directory
      allocations with failed | same
    · exact names_refused (by rw [failed]; decide)
    · rw [same]
      exact names

theorem normalize_pattern_names (pattern : PathPattern) (allocations : Allocations) :
    Names pattern.chars (normalizePattern pattern.units allocations) := by
  obtain ⟨chars, nonempty, inMemory⟩ := pattern
  change Names chars (normalizePattern (encodeUtf16 chars) allocations)
  have widest : uint64Max = 2 ^ 64 - 1 := rfl
  have longest := encode_utf8_length_le chars
  unfold normalizePattern
  dsimp only
  split
  · exact names_refused (by decide)
  split
  · exact names_refused (by decide)
  rename_i noZero
  have noNul : '\x00' ∉ chars :=
    (ascii_mem_utf16 (by decide : '\x00'.toNat < 0x80)).not.mp noZero
  rw [utf16_to_utf8_size chars (by omega)]
  simp only [Option.getD_some, ne_eq, not_true_eq_false, if_false]
  split
  · exact names_refused (by decide)
  split
  · exact names_refused (by decide)
  simp only [utf16_to_utf8_text chars (by omega) (Nat.le_refl _)]
  simp only [Option.getD_some, not_true_eq_false, or_self, if_false]
  by_cases colonIn : ':' ∈ chars
  · have present : colon ∈ encodeUtf8 chars :=
      (ascii_mem_utf8 (by decide : ':'.toNat < 0x80)).mpr colonIn
    rw [replace_separators_eq, if_pos present]
    exact names_refused (by decide)
  · rw [replace_separators_text colonIn]
    exact normalize_encoded_names
      (settled_names (normalize_encoded_settled nonempty inMemory noNul colonIn)) allocations

/-! ### When a pattern is accepted -/

/-- The names of a resolved pattern stay plain when they are encoded. -/
theorem resolved_plain {segments names : List (List Char)}
    (unseparated : ∀ segment ∈ segments, ∀ char ∈ segment, isSeparator char = false)
    (resolved : resolveSegments '.' [] segments = some names) :
    PlainNames dot isSlash (names.map encodeUtf8) := by
  have plain : PlainNames '.' isSeparator names :=
    resolve_segments_plain (fun _ none' => by contradiction) unseparated resolved
  intro name member
  obtain ⟨text, among, rfl⟩ := List.mem_map.mp member
  obtain ⟨filled, single, double, inside⟩ := plain text among
  refine ⟨(keeps_dots.empty text).not.mpr filled, (keeps_dots.single text).not.mpr single,
    (keeps_dots.double text).not.mpr double, plain_iff.mpr ?_⟩
  refine (ascii_mem_utf8 (by decide : '/'.toNat < 0x80)).not.mpr fun slashed => ?_
  exact absurd (inside '/' slashed) (by decide)

theorem resolved_opening (host : Host δ) {chars : List Char} {buffer : List UInt8}
    {texts : List (List Char)}
    (resolved : resolveSegments '.' [] (directorySegments chars) = some texts)
    (text : cText buffer = encodeUtf8 (joinSegments '/' texts))
    (found : before.inUse.lookup fd = some root) :
    Opening host (followOver host.tree (before.calls + 1) root (texts.map encodeUtf8)) before.inUse
      (max before.most (before.inUse.length + 2))
      (openSearchDirectory host fd (cText buffer) before) := by
  have plain := resolved_plain
    (fun segment member char inside =>
      (mem_segment_of_split (List.dropLast_subset _ member) char inside).1) resolved
  have joined : cText buffer = joinSegments slash (texts.map encodeUtf8) := by
    rw [text, encodeUtf8, join_encode (by decide : String.utf8EncodeChar '/' = [slash])]
    rfl
  rw [joined]
  exact open_search_directory_opening plain found

/-- The directory that a pattern resolves to is opened by going down from the root, one name after
the other and never through a link, while the directories may change from call to call. What was
in use before is in use afterwards, with the new descriptor or without; two more at most are open
meanwhile. -/
theorem search_directory_confined (host : Host δ) (pattern : PathPattern)
    (allocations : Allocations) (rootFd : Nat) (root : δ) (before : Descriptors δ)
    (found : before.inUse.lookup rootFd = some root) :
    ∃ normalized, normalizePattern pattern.units allocations = some normalized ∧
      (normalized.result ≠ .ok ∨
        ∃ names, resolveSegments '.' [] (directorySegments pattern.chars) = some names ∧
          Opening host
            (followOver host.tree (before.calls + 1) root (names.map encodeUtf8)) before.inUse
            (max before.most (before.inUse.length + 2))
            (openSearchDirectory host rootFd (cText (normalized.directory.getD [])) before)) := by
  obtain ⟨normalized, same, refused | ⟨names, buffer, resolved, kept, text⟩⟩ :=
    normalize_pattern_names pattern allocations
  · exact ⟨normalized, same, .inl refused⟩
  refine ⟨normalized, same, .inr ⟨names, resolved, ?_⟩⟩
  rw [kept, Option.getD_some]
  exact resolved_opening host resolved text found

/-- One directory with the name `a`, opened on a host that hands out the descriptors in order. -/
def oneDirectory : Host Nat where
  tree _ := {
    entry := fun here name => if here = 0 ∧ name = [0x61] then some (.directory 1) else none
    above := fun _ => 0
    above_entry := by
      intro here name below found
      split at found
      · rename_i named
        exact named.1.symm
      · contradiction }
  number _ used := some (used.foldr max 0 + 1)
  unused := by
    intro _ used fd given member
    have bound : fd ≤ used.foldr max 0 := by
      clear given
      induction used with
      | nil => contradiction
      | cons first others ih =>
        rcases List.mem_cons.mp member with rfl | later
        · exact Nat.le_max_left _ _
        · exact le_trans (ih later) (Nat.le_max_right _ _)
    have next := Option.some.inj given
    omega
  errno _ := 2

/-- `a\*` -/
def belowOne : PathPattern where
  chars := ['a', '\\', '*']
  nonempty := by decide
  inMemory := by decide

theorem one_directory_confined :
    ∃ normalized, normalizePattern belowOne.units {} = some normalized ∧ normalized.result = .ok ∧
      (openSearchDirectory oneDirectory 3 (cText (normalized.directory.getD []))
        ⟨[(3, 0)], 0, 1⟩).1.toOption = some 5 ∧
      ∃ names, resolveSegments '.' [] (directorySegments belowOne.chars) = some names ∧
        Opening oneDirectory (followOver oneDirectory.tree 1 0 (names.map encodeUtf8)) [(3, 0)] 3
          (openSearchDirectory oneDirectory 3 (cText (normalized.directory.getD []))
            ⟨[(3, 0)], 0, 1⟩) := by
  obtain ⟨normalized, same, outcome⟩ :=
    search_directory_confined oneDirectory belowOne {} 3 0 ⟨[(3, 0)], 0, 1⟩ rfl
  have ok : (normalizePattern belowOne.units {}).map (·.result) = some .ok := by decide +kernel
  have opened : ((normalizePattern belowOne.units {}).bind fun normalized =>
      (openSearchDirectory oneDirectory 3 (cText (normalized.directory.getD []))
        ⟨[(3, 0)], 0, 1⟩).1.toOption) = some 5 := by
    decide +kernel
  rw [same] at ok opened
  have accepted := Option.some.inj ok
  exact ⟨normalized, same, accepted, opened, outcome.resolve_left (absurd accepted)⟩

end SadLayer.Search
