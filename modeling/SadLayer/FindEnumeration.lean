import SadLayer.FindFile
import SadLayer.Transcoding

/-! A search reports every entry of its directory that it is asked for, once and in
the order of the stream, however the kernel cuts that stream into buffers. -/
namespace SadLayer.Search
open SadLayer.Library SadLayer.Unicode

/-! ### The stream -/

/-- A well-formed record of `getdents64`. -/
structure DirectoryEntry where
  /-- The inode and the offset. -/
  header : List UInt8
  type : UInt8
  name : List UInt8
  /-- What is behind the terminator of the name. -/
  padding : List UInt8
  header_length : header.length = 16
  name_ends : 0 ∉ name
  length_fits : nameOffset + name.length + 1 + padding.length < 2 ^ 16

def DirectoryEntry.recordLength (entry : DirectoryEntry) : Nat :=
  nameOffset + entry.name.length + 1 + entry.padding.length

def DirectoryEntry.bytes (entry : DirectoryEntry) : List UInt8 :=
  entry.header ++ [.ofNat entry.recordLength, .ofNat (entry.recordLength / 256), entry.type] ++
    entry.name ++ 0 :: entry.padding

/-- What one read of the directory does: it is interrupted, or it delivers some records. -/
inductive Delivery where
  | interrupted
  | records (first : DirectoryEntry) (rest : List DirectoryEntry)

def Delivery.entries : Delivery → List DirectoryEntry
  | .interrupted => []
  | .records first rest => first :: rest

def Delivery.read : Delivery → DirectoryRead
  | .interrupted => .failed eintr
  | .records first rest => .bytes ((first :: rest).flatMap DirectoryEntry.bytes)

/-- A directory whose stream is cut in this way. Of a name it has metadata, or the name is gone. -/
def delivered (deliveries : List Delivery) (stat : List UInt8 → Option Metadata) : Directory where
  reads := deliveries.map Delivery.read
  metadata name := (stat name).elim (.error enoent) .ok

theorem DirectoryEntry.bytes_length (entry : DirectoryEntry) :
    entry.bytes.length = entry.recordLength := by
  simp only [DirectoryEntry.bytes, DirectoryEntry.recordLength, List.length_append,
    entry.header_length, List.length_cons, List.length_nil, nameOffset]
  omega

theorem DirectoryEntry.bytes_append_ne_nil (entry : DirectoryEntry) (more : List UInt8) :
    entry.bytes ++ more ≠ [] := by
  intro empty
  have length := congrArg List.length empty
  rw [List.length_append, entry.bytes_length, DirectoryEntry.recordLength, List.length_nil] at length
  omega

/-- A record at the head of a buffer is read as it is. -/
theorem read_dirent_bytes (entry : DirectoryEntry) (more : List UInt8) :
    readDirent (entry.bytes ++ more) = some {
      recordLength := entry.recordLength
      nameBytes := entry.name ++ 0 :: entry.padding } := by
  have fits := entry.length_fits
  have header := entry.header_length
  have low : (entry.bytes ++ more).getD 16 0 = .ofNat entry.recordLength := by
    simp [DirectoryEntry.bytes, List.getD_eq_getElem?_getD, header]
  have high : (entry.bytes ++ more).getD 17 0 = .ofNat (entry.recordLength / 256) := by
    simp [DirectoryEntry.bytes, List.getD_eq_getElem?_getD, List.getElem?_append, header]
  have names : ((entry.bytes ++ more).take entry.recordLength).drop nameOffset =
      entry.name ++ 0 :: entry.padding := by
    rw [← entry.bytes_length, List.take_left, DirectoryEntry.bytes, List.append_assoc,
      List.append_assoc, ← List.append_assoc entry.header]
    exact List.drop_left' (by simp [header, nameOffset])
  have encoded : (UInt8.ofNat entry.recordLength).toNat +
      256 * (UInt8.ofNat (entry.recordLength / 256)).toNat = entry.recordLength := by
    rw [UInt8.toNat_ofNat', UInt8.toNat_ofNat', DirectoryEntry.recordLength]
    omega
  unfold readDirent
  rw [low, high, encoded]
  dsimp only
  rw [names, List.length_append, entry.bytes_length, if_neg (by unfold DirectoryEntry.recordLength; omega),
    if_neg (by unfold DirectoryEntry.recordLength; omega)]

/-! ### What a search reports -/

/-- The search reports this name, as this. -/
def Shows (pattern : List UInt16) (options : SearchOptions) (stat : List UInt8 → Option Metadata)
    (name : List UInt8) (found : FindData) : Prop :=
  name ≠ [dot] ∧ name ≠ [dot, dot] ∧
    ∃ chars metadata, name = encodeUtf8 chars ∧ (encodeUtf16 chars).length ≤ 259 ∧
      stat name = some metadata ∧
      wildcardMatches pattern (encodeUtf16 chars) options.caseSensitive = true ∧
      (options.directoriesOnly = true → metadata.isDirectory = true) ∧
      found = describe (encodeUtf16 chars) metadata

/-- The reports on a stream of entries, in its order. -/
inductive Listing (shows : List UInt8 → FindData → Prop) :
    List DirectoryEntry → List FindData → Prop where
  | done : Listing shows [] []
  | hidden (none : ∀ found, ¬ shows entry.name found) (rest : Listing shows entries results) :
      Listing shows (entry :: entries) results
  | shown (found : shows entry.name result) (rest : Listing shows entries results) :
      Listing shows (entry :: entries) (result :: results)

theorem exists_listing (shows : List UInt8 → FindData → Prop) (entries : List DirectoryEntry) :
    ∃ results, Listing shows entries results := by
  induction entries with
  | nil => exact ⟨[], .done⟩
  | cons entry entries ih =>
    obtain ⟨results, rest⟩ := ih
    by_cases shown : ∃ found, shows entry.name found
    · obtain ⟨found, shown⟩ := shown
      exact ⟨found :: results, .shown shown rest⟩
    · exact ⟨results, .hidden (not_exists.mp shown) rest⟩

theorem Shows.unique {pattern : List UInt16} {options : SearchOptions}
    {stat : List UInt8 → Option Metadata} {name : List UInt8} {found found' : FindData}
    (shown : Shows pattern options stat name found)
    (shown' : Shows pattern options stat name found') : found = found' := by
  obtain ⟨-, -, chars, metadata, text, -, known, -, -, rfl⟩ := shown
  obtain ⟨-, -, chars', metadata', text', -, known', -, -, rfl⟩ := shown'
  rw [decodes_utf8.injective (text.symm.trans text'),
    Option.some_inj.mp (known.symm.trans known')]

/-- A stream has one listing. -/
theorem exists_unique_listing {shows : List UInt8 → FindData → Prop}
    (unique : ∀ name found found', shows name found → shows name found' → found = found')
    (entries : List DirectoryEntry) :
    ∃ results, ∀ reported, Listing shows entries reported ↔ reported = results := by
  obtain ⟨results, listing⟩ := exists_listing shows entries
  refine ⟨results, fun reported => ⟨fun reports => ?_, fun same => same ▸ listing⟩⟩
  induction listing generalizing reported with
  | done =>
    cases reports
    rfl
  | hidden none _ ih =>
    cases reports with
    | hidden _ rest => exact ih _ rest
    | shown found _ => exact absurd found (none _)
  | shown found _ ih =>
    cases reports with
    | hidden none _ => exact absurd found (none _)
    | shown found' rest => rw [unique _ _ _ found found', ih _ rest]

variable {pattern : List UInt16} {options : SearchOptions} {stat : List UInt8 → Option Metadata}
  {search : FileSearch} {metadata : Metadata} {found : FindData}

/-- An entry is reported when its name is a text of at most 259 units that matches, and it passes
the filter. -/
theorem fill_find_data_eq_some {name : List UInt8} (fits : name.length ≤ ptrdiffMax) :
    fillFindData search name metadata = some found ↔
      ∃ chars, name = encodeUtf8 chars ∧ (encodeUtf16 chars).length ≤ 259 ∧
        wildcardMatches search.pattern (encodeUtf16 chars) search.options.caseSensitive = true ∧
        (search.options.directoriesOnly = true → metadata.isDirectory = true) ∧
        found = describe (encodeUtf16 chars) metadata := by
  rcases utf8_to_utf16_strict name fits with ⟨chars, rfl, bounded⟩ | ⟨notText, refused⟩
  · have unique {others : List Char} (same : encodeUtf8 chars = encodeUtf8 others) :
        others = chars := (decodes_utf8.injective same).symm
    have sized := utf8_to_utf16_size chars bounded
    by_cases short : (encodeUtf16 chars).length ≤ 259
    · have text := @utf8_to_utf16_text chars (findNameCapacity - 1) bounded short
      have wide : (padded findNameCapacity (encodeUtf16 chars)).take (encodeUtf16 chars).length =
          encodeUtf16 chars := List.take_left
      have few : ¬ findNameCapacity ≤ (encodeUtf16 chars).length := by
        unfold findNameCapacity
        omega
      have filled : fillFindData search (encodeUtf8 chars) metadata =
          if wildcardMatches search.pattern (encodeUtf16 chars) search.options.caseSensitive = false
          then none
          else if search.options.directoriesOnly ∧ metadata.isDirectory = false then none
          else some (describe (encodeUtf16 chars) metadata) := by
        simp [fillFindData, sized, text, wide, few]
      rw [filled]
      constructor
      · intro filled
        split at filled
        · cases filled
        · rename_i matched
          split at filled
          · cases filled
          · rename_i passes
            cases filled
            exact ⟨chars, rfl, short, by simpa using matched, by simpa using passes, rfl⟩
      · rintro ⟨others, same, -, matched, passes, rfl⟩
        rw [unique same] at matched ⊢
        rw [if_neg (by simp [matched]), if_neg (by simpa using passes)]
    · have refused : fillFindData search (encodeUtf8 chars) metadata = none := by
        unfold fillFindData
        rw [sized]
        exact if_pos (.inr (by dsimp only [Option.getD_some]; unfold findNameCapacity; omega))
      rw [refused]
      refine iff_of_false nofun ?_
      rintro ⟨others, same, few, -⟩
      exact short (unique same ▸ few)
  · unfold fillFindData
    rw [refused none, if_pos (.inl nofun)]
    refine iff_of_false nofun ?_
    rintro ⟨chars, text, -⟩
    exact notText ⟨chars, text⟩

/-! ### One call -/

/-- What a search has still to read: the rest of its buffer and what further reads deliver. -/
structure Unread (pattern : List UInt16) (options : SearchOptions)
    (stat : List UInt8 → Option Metadata) (search : FileSearch) (entries : List DirectoryEntry) :
    Prop where
  asked : search.pattern = pattern ∧ search.options = options
  goes_on : search.exhausted = false
  inside : search.bufferOffset ≤ search.buffer.length
  left : ∃ chunk deliveries, search.directory = delivered deliveries stat ∧
    search.buffer.drop search.bufferOffset = chunk.flatMap DirectoryEntry.bytes ∧
    entries = chunk ++ deliveries.flatMap Delivery.entries

/-- Interruptions are passed over, up to the next records or the end. -/
theorem read_directory_delivered (deliveries : List Delivery) :
    (readDirectory (deliveries.map Delivery.read) = (.bytes [], []) ∧
      deliveries.flatMap Delivery.entries = []) ∨
    ∃ first rest, ∃ behind : List Delivery, readDirectory (deliveries.map Delivery.read) =
        (.bytes ((first :: rest).flatMap DirectoryEntry.bytes), behind.map Delivery.read) ∧
      deliveries.flatMap Delivery.entries =
        first :: rest ++ behind.flatMap Delivery.entries := by
  induction deliveries with
  | nil => exact .inl ⟨rfl, rfl⟩
  | cons delivery deliveries ih =>
    cases delivery with
    | interrupted => exact ih
    | records first rest => exact .inr ⟨first, rest, deliveries, rfl, rfl⟩

/-- The end of the stream ends the search. -/
theorem next_at_end (unread : Unread pattern options stat search []) :
    ∃ last, searchNextLocked search = { result := .noMatch, search := last } ∧
      last.exhausted = true := by
  obtain ⟨-, goesOn, inside, chunk, deliveries, directory, bytes, none⟩ := unread
  obtain ⟨empty, ended⟩ := List.append_eq_nil_iff.mp none.symm
  subst empty
  have read : search.bufferOffset = search.buffer.length :=
    le_antisymm inside (List.drop_eq_nil_iff.mp bytes)
  have nothing : readDirectory search.directory.reads = (.bytes [], []) := by
    rcases read_directory_delivered deliveries with ⟨nothing, -⟩ | ⟨_, _, _, -, more⟩
    · rw [directory]
      exact nothing
    · rw [ended] at more
      cases more
  rw [searchNextLocked, if_neg (by simp [goesOn]), if_pos read]
  split <;> rename_i answered <;> rw [nothing] at answered <;> cases answered
  exact ⟨_, rfl, rfl⟩

/-- Before it reads an entry, a search gets the buffer that has it. -/
theorem next_ready {entry : DirectoryEntry} {entries : List DirectoryEntry}
    (unread : Unread pattern options stat search (entry :: entries)) :
    ∃ ready more, searchNextLocked search = searchNextLocked ready ∧
      ready.buffer.drop ready.bufferOffset = entry.bytes ++ more ∧
      Unread pattern options stat ready (entry :: entries) ∧
      Unread pattern options stat
        { ready with bufferOffset := ready.bufferOffset + entry.recordLength } entries := by
  have advanced {ready : FileSearch} {chunk : List DirectoryEntry} {deliveries : List Delivery}
      (whole : Unread pattern options stat ready (entry :: entries))
      (directory : ready.directory = delivered deliveries stat)
      (bytes : ready.buffer.drop ready.bufferOffset =
        (entry :: chunk).flatMap DirectoryEntry.bytes)
      (rest : entries = chunk ++ deliveries.flatMap Delivery.entries) :
      Unread pattern options stat
        { ready with bufferOffset := ready.bufferOffset + entry.recordLength } entries := by
    have inside := whole.inside
    have length := congrArg List.length bytes
    rw [List.length_drop, List.flatMap_cons, List.length_append, entry.bytes_length] at length
    refine ⟨whole.asked, whole.goes_on, by dsimp only; omega, chunk, deliveries, directory, ?_, rest⟩
    rw [← List.drop_drop, bytes, List.flatMap_cons, ← entry.bytes_length, List.drop_left]
  obtain ⟨asked, goesOn, inside, chunk, deliveries, directory, bytes, whole⟩ := unread
  cases chunk with
  | cons first chunk =>
    obtain ⟨rfl, rest⟩ := List.cons_eq_cons.mp whole
    have here : Unread pattern options stat search (entry :: entries) :=
      ⟨asked, goesOn, inside, entry :: chunk, deliveries, directory, bytes, whole⟩
    exact ⟨search, _, rfl, by rw [bytes, List.flatMap_cons], here,
      advanced here directory bytes rest⟩
  | nil =>
    have read : search.bufferOffset = search.buffer.length :=
      le_antisymm inside (List.drop_eq_nil_iff.mp bytes)
    rcases read_directory_delivered deliveries with ⟨-, nothing⟩ | ⟨first, chunk, behind, got, more⟩
    · rw [nothing] at whole
      cases whole
    · obtain ⟨rfl, rest⟩ := List.cons_eq_cons.mp (whole.trans more)
      let ready : FileSearch := { search with
        directory := delivered behind stat
        bufferOffset := 0
        buffer := (entry :: chunk).flatMap DirectoryEntry.bytes }
      have refilled : searchNextLocked search = searchNextLocked ready := by
        rw [searchNextLocked, if_neg (by simp [goesOn]), if_pos read]
        have answered : readDirectory search.directory.reads =
            (.bytes ((entry :: chunk).flatMap DirectoryEntry.bytes), behind.map Delivery.read) := by
          rw [directory]
          exact got
        split <;> rename_i given <;> rw [answered] at given <;> injection given with given reads
        · cases given
        · exact absurd (DirectoryRead.bytes.inj given) (entry.bytes_append_ne_nil _)
        · rw [← DirectoryRead.bytes.inj given, ← reads, directory]
          rfl
      have here : Unread pattern options stat ready (entry :: entries) :=
        ⟨asked, goesOn, Nat.zero_le _, entry :: chunk, behind, rfl, rfl, whole.trans more⟩
      exact ⟨ready, _, refilled, List.flatMap_cons, here, advanced here rfl rfl rest⟩

/-- At an entry a search stops with it or goes on behind it. -/
theorem next_entry {entry : DirectoryEntry} {entries : List DirectoryEntry} {more : List UInt8}
    (unread : Unread pattern options stat search (entry :: entries))
    (bytes : search.buffer.drop search.bufferOffset = entry.bytes ++ more) :
    (∃ found, Shows pattern options stat entry.name found ∧ searchNextLocked search = {
        result := .ok, found := some found
        search := { search with bufferOffset := search.bufferOffset + entry.recordLength } }) ∨
      (∀ found, ¬ Shows pattern options stat entry.name found) ∧
        searchNextLocked search = searchNextLocked
          { search with bufferOffset := search.bufferOffset + entry.recordLength } := by
  obtain ⟨⟨rfl, rfl⟩, goesOn, inside, _, deliveries, directory, _⟩ := unread
  have fits : entry.name.length ≤ ptrdiffMax := by
    have bound := entry.length_fits
    unfold ptrdiffMax
    omega
  have unread : search.bufferOffset ≠ search.buffer.length := by
    intro read
    rw [read, List.drop_length] at bytes
    exact entry.bytes_append_ne_nil more bytes.symm
  have read : readDirent (search.buffer.drop search.bufferOffset) = some {
      recordLength := entry.recordLength
      nameBytes := entry.name ++ 0 :: entry.padding } := by
    rw [bytes, read_dirent_bytes]
  have terminated : 0 ∈ entry.name ++ 0 :: entry.padding := by simp
  have name : (entry.name ++ 0 :: entry.padding).takeWhile (· != 0) = entry.name := by
    rw [List.takeWhile_append_of_pos fun byte inside => by
      simpa using fun zero : byte = 0 => entry.name_ends (zero ▸ inside)]
    simp
  have stated : search.directory.metadata entry.name =
      (stat entry.name).elim (.error enoent) .ok := by
    rw [directory]
    rfl
  rw [searchNextLocked, if_neg (by simp [goesOn]), if_neg unread]
  split <;> rename_i given <;> rw [read] at given <;> cases given
  dsimp only
  rw [if_neg (not_not.mpr terminated), name]
  by_cases dots : entry.name = [dot] ∨ entry.name = [dot, dot]
  · rw [if_pos dots]
    exact .inr ⟨fun found shown => dots.elim shown.1 shown.2.1, rfl⟩
  rw [if_neg dots, stated]
  obtain ⟨one, two⟩ := not_or.mp dots
  cases exists_ : stat entry.name with
  | none =>
    rw [Option.elim_none]
    dsimp only
    rw [if_pos rfl]
    refine .inr ⟨?_, rfl⟩
    rintro found ⟨-, -, chars, metadata, -, -, known, -⟩
    rw [exists_] at known
    cases known
  | some metadata =>
    rw [Option.elim_some]
    dsimp only
    cases filled : fillFindData search entry.name metadata with
    | some found =>
      obtain ⟨chars, text, short, matched, passes, rfl⟩ := (fill_find_data_eq_some fits).mp filled
      exact .inl ⟨_, ⟨one, two, chars, metadata, text, short, exists_, matched, passes, rfl⟩, rfl⟩
    | none =>
      refine .inr ⟨?_, rfl⟩
      rintro found ⟨-, -, chars, metadata', text, short, known, matched, passes, shown⟩
      rw [exists_] at known
      cases known
      rw [(fill_find_data_eq_some fits).mpr ⟨chars, text, short, matched, passes, shown⟩] at filled
      cases filled

/-! ### All calls -/

/-- One call on a search reports the first entry of what is unread that it shows; without one the
stream has ended. -/
theorem next_listed {entries : List DirectoryEntry} {results : List FindData}
    (listing : Listing (Shows pattern options stat) entries results) (search : FileSearch)
    (unread : Unread pattern options stat search entries) :
    (results = [] ∧ ∃ last, searchNextLocked search = { result := .noMatch, search := last } ∧
      last.exhausted = true) ∨
    ∃ found rest next entries', results = found :: rest ∧
      searchNextLocked search = { result := .ok, found := some found, search := next } ∧
      Listing (Shows pattern options stat) entries' rest ∧
      Unread pattern options stat next entries' := by
  induction listing generalizing search with
  | done => exact .inl ⟨rfl, next_at_end unread⟩
  | hidden none rest ih =>
    obtain ⟨ready, more, goesOn, bytes, here, behind⟩ := next_ready unread
    rcases next_entry here bytes with ⟨found, shown, -⟩ | ⟨-, passed⟩
    · exact absurd shown (none found)
    · rw [goesOn, passed]
      exact ih _ behind
  | @shown result entries results entry shown rest ih =>
    obtain ⟨ready, more, goesOn, bytes, here, behind⟩ := next_ready unread
    rcases next_entry here bytes with ⟨found, shown', reported⟩ | ⟨none, -⟩
    · cases shown.unique shown'
      exact .inr ⟨_, _, _, _, rfl, goesOn.trans reported, rest, behind⟩
    · exact absurd shown (none result)

/-- Further calls on a search, each with the caller's output. -/
def searchCalls (search : Option FileSearch) : List FindData → List Called
  | [] => []
  | output :: outputs =>
    let called := searchNext search output
    called :: searchCalls called.search outputs

/-- What the caller gets to see of a call. -/
def Called.seen (called : Called) : SearchResult × Nat × FindData :=
  (called.result, called.hostError, called.output)

/-- Calls that report these results in turn and then no more. -/
def enumerated : List FindData → List FindData → List (SearchResult × Nat × FindData)
  | _, [] => []
  | [], output :: outputs => (.noMatch, 0, output) :: enumerated [] outputs
  | found :: results, _ :: outputs => (.ok, 0, found) :: enumerated results outputs

theorem calls_exhausted (ended : search.exhausted = true) (outputs : List FindData) :
    (searchCalls (some search) outputs).map Called.seen = enumerated [] outputs := by
  have none : searchNextLocked search = { result := .noMatch, search := search } := by
    rw [searchNextLocked, if_pos ended]
  induction outputs with
  | nil => rfl
  | cons output outputs ih =>
    rw [searchCalls, searchNext, none]
    exact congrArg _ ih

theorem calls_listed {entries : List DirectoryEntry} {results : List FindData}
    (listing : Listing (Shows pattern options stat) entries results)
    (unread : Unread pattern options stat search entries) (outputs : List FindData) :
    (searchCalls (some search) outputs).map Called.seen = enumerated results outputs := by
  induction outputs generalizing search entries results with
  | nil => cases results <;> rfl
  | cons output outputs ih =>
    rcases next_listed listing search unread with
      ⟨rfl, last, called, ended⟩ | ⟨found, rest, next, entries', rfl, called, listing, unread⟩
    · rw [searchCalls, searchNext, called]
      exact congrArg _ (calls_exhausted ended outputs)
    · rw [searchCalls, searchNext, called]
      exact congrArg _ (ih listing unread)

theorem failed_next_keeps_output (search : Option FileSearch) (output : FindData)
    (failed : (searchNext search output).result ≠ .ok) :
    (searchNext search output).output = output := by
  cases search with
  | none => rfl
  | some search => exact if_neg failed

theorem failed_open_keeps_output (host : OpenHost) (rootFd : Int) (pathPattern : List UInt16)
    (options : SearchOptions) (firstResult : FindData) {called : Called}
    (opened : searchOpen host rootFd pathPattern options firstResult = some called)
    (failed : called.result ≠ .ok) : called.output = firstResult ∧ called.search = none := by
  unfold searchOpen at opened
  dsimp only at opened
  split at opened
  · cases opened
    exact ⟨rfl, rfl⟩
  split at opened
  · cases opened
  split at opened
  · cases opened
    exact ⟨rfl, rfl⟩
  split at opened
  · cases opened
    exact ⟨rfl, rfl⟩
  split at opened
  · cases opened
    exact ⟨rfl, rfl⟩
  split at opened
  · cases opened
    exact ⟨rfl, rfl⟩
  · cases opened
    exact absurd rfl failed

/-- Whichever way the stream of a directory is cut into buffers, opening a search and calling it
on and on reports exactly the entries it shows, once each and in order, and then no more. A call
that reports nothing, of this search or any other, leaves the caller's output alone. -/
theorem find_file_enumeration (host : OpenHost) (rootFd : Int) (pathPattern : List UInt16)
    (options : SearchOptions) (firstResult : FindData) (normalized : Normalized)
    (deliveries : List Delivery) (stat : List UInt8 → Option Metadata) (root : 0 ≤ rootFd)
    (accepted : normalizePattern pathPattern host.allocations = some normalized)
    (ok : normalized.result = .ok)
    (opened : host.openDirectory ((normalized.directory.getD []).takeWhile (· != 0)) =
      .ok (delivered deliveries stat))
    (allocated : host.searchAllocated = true) :
    (∃ results, (∀ reported, Listing (Shows (normalized.pattern.getD []) options stat)
        (deliveries.flatMap Delivery.entries) reported ↔ reported = results) ∧
      match results with
      | [] => searchOpen host rootFd pathPattern options firstResult =
          some { result := .noMatch, search := none, output := firstResult }
      | first :: rest => ∃ search, searchOpen host rootFd pathPattern options firstResult =
            some { result := .ok, search := some search, output := first } ∧
          ∀ outputs, (searchCalls (some search) outputs).map Called.seen =
            enumerated rest outputs) ∧
    (∀ host rootFd pathPattern options output called,
      searchOpen host rootFd pathPattern options output = some called →
      called.result ≠ .ok → called.output = output) ∧
    ∀ search output, (searchNext search output).result ≠ .ok →
      (searchNext search output).output = output := by
  refine ⟨?_, fun host rootFd pathPattern options output called opened failed =>
    (failed_open_keeps_output host rootFd pathPattern options output opened failed).1,
    failed_next_keeps_output⟩
  obtain ⟨results, unique⟩ := @exists_unique_listing
    (Shows (normalized.pattern.getD []) options stat) (fun _ _ _ => Shows.unique)
    (deliveries.flatMap Delivery.entries)
  refine ⟨results, unique, ?_⟩
  have listing := (unique results).mpr rfl
  have nonempty : pathPattern ≠ [] := by
    rintro rfl
    rw [normalizePattern, if_pos rfl] at accepted
    cases accepted
    cases ok
  let start : FileSearch := {
    directory := delivered deliveries stat
    pattern := normalized.pattern.getD []
    options := options }
  have unread : Unread (normalized.pattern.getD []) options stat start
      (deliveries.flatMap Delivery.entries) :=
    ⟨⟨rfl, rfl⟩, rfl, Nat.le_refl _, [], deliveries, rfl, rfl, rfl⟩
  have opens : searchOpen host rootFd pathPattern options firstResult =
      if (searchNextLocked start).result ≠ .ok then some {
        result := (searchNextLocked start).result
        hostError := (searchNextLocked start).hostError
        search := none, output := firstResult }
      else some {
        result := .ok, search := some (searchNextLocked start).search
        output := (searchNextLocked start).found.getD firstResult } := by
    unfold searchOpen
    rw [if_neg (by simp [nonempty, root]), accepted]
    dsimp only
    rw [if_neg (not_not.mpr ok), opened]
    dsimp only
    rw [if_neg (by simp [allocated])]
  rcases next_listed listing start unread with
    ⟨rfl, last, called, -⟩ | ⟨found, rest, next, entries', rfl, called, listing, unread⟩
  · dsimp only
    rw [opens, called]
    rfl
  · refine ⟨next, ?_, calls_listed listing unread⟩
    rw [opens, called]
    rfl

/-! A directory whose stream comes in two buffers, with an interrupted read between them: itself and
the file `a`, and then `b`, which is gone when it is looked at, and the file `c`. -/

/-- The entry of this name. -/
def namedEntry (name : UInt8) (present : name ≠ 0) : DirectoryEntry where
  header := List.replicate 16 0
  type := 8
  name := [name]
  padding := [0, 0, 0]
  header_length := rfl
  name_ends := by simpa using present.symm
  length_fits := (by decide : nameOffset + 1 + 1 + 3 < 2 ^ 16)

def noteMetadata : Metadata where
  mode := 0o100644
  size := 5
  accessTime := ⟨0, 0⟩
  modificationTime := ⟨0, 0⟩

def noteDeliveries : List Delivery := [
  .records (namedEntry dot (by decide)) [namedEntry 0x61 (by decide)], .interrupted,
  .records (namedEntry 0x62 (by decide)) [namedEntry 0x63 (by decide)]]

def noteStat (name : List UInt8) : Option Metadata :=
  if name = [0x62] then none else some noteMetadata

def noteHost : OpenHost where
  openDirectory _ := .ok (delivered noteDeliveries noteStat)

def everything : Normalized where
  result := .ok
  directory := some [0]
  pattern := some [starUnit]
  patternLength := 1

theorem note_shown (letter : Char) (name : UInt8) (present : name ≠ 0)
    (visible : name ≠ dot) (known : noteStat [name] = some noteMetadata)
    (bytes : encodeUtf8 [letter] = [name]) (units : encodeUtf16 [letter] = [name.toUInt16])
    (plain : name.toUInt16 ≠ starUnit) :
    Shows [starUnit] ⟨true, false⟩ noteStat (namedEntry name present).name
      (describe [name.toUInt16] noteMetadata) := by
  refine ⟨by simpa [namedEntry] using visible, by simp [namedEntry], [letter], noteMetadata,
    bytes.symm, ?_, known, ?_, Bool.noConfusion, ?_⟩
  · rw [units]
    exact Nat.le_of_ble_eq_true rfl
  · rw [units]
    exact wildcard_matches_iff.mpr (.inr (.star [name.toUInt16] (by simpa using plain) .done))
  · rw [units]

theorem notes_listing : Listing (Shows [starUnit] ⟨true, false⟩ noteStat)
    (noteDeliveries.flatMap Delivery.entries)
    [describe [0x61] noteMetadata, describe [0x63] noteMetadata] := by
  refine .hidden (fun _ shown => shown.1 rfl) ?_
  refine .shown (note_shown 'a' 0x61 (by decide) (by decide) rfl (by decide) (by decide)
    (by decide)) ?_
  refine .hidden (fun _ ⟨_, _, _, _, _, _, known, _⟩ => by cases known) ?_
  exact .shown (note_shown 'c' 0x63 (by decide) (by decide) rfl (by decide) (by decide)
    (by decide)) .done

/-- The search for everything there: `a` and `c`. -/
theorem notes_enumerated :
    ∃ search, searchOpen noteHost 3 [starUnit] ⟨true, false⟩ {} = some {
        result := .ok, search := some search, output := describe [0x61] noteMetadata } ∧
      ∀ outputs, (searchCalls (some search) outputs).map Called.seen =
        enumerated [describe [0x63] noteMetadata] outputs := by
  obtain ⟨results, unique, opens⟩ := (find_file_enumeration noteHost 3 [starUnit] ⟨true, false⟩ {}
    everything noteDeliveries noteStat (by decide) (by decide +kernel) rfl rfl rfl).1
  cases (unique _).mp notes_listing
  exact opens

end SadLayer.Search
