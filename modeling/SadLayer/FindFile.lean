import SadLayer.Library.Bytes
import SadLayer.Search
import SadLayer.Wildcards

/-! Searching a directory for the names that match a pattern. The kernel hands the
directory out in buffers of records; every call goes on where the last one stopped,
and asks for another buffer when it has read all of the one it has. -/
namespace SadLayer.Search
open SadLayer.Library SadLayer.Unicode

def eintr : Nat := 4
def enoent : Nat := 2
def eio : Nat := 5

/-! ### What a search reports -/

/-- `struct timespec`. -/
structure Timespec where
  seconds : Int
  nanoseconds : Int
  deriving DecidableEq, Repr

/-- What the search reads of a `struct stat`. -/
structure Metadata where
  mode : Nat
  size : Int
  accessTime : Timespec
  modificationTime : Timespec
  deriving DecidableEq, Repr

/-- `S_ISDIR`. -/
def Metadata.isDirectory (metadata : Metadata) : Bool := metadata.mode / 4096 % 16 == 4

/-- `S_ISLNK`. -/
def Metadata.isLink (metadata : Metadata) : Bool := metadata.mode / 4096 % 16 == 10

/-- `sl_win32_search_filetime`. -/
structure Filetime where
  low : Nat := 0
  high : Nat := 0
  deriving DecidableEq, Repr

def findNameCapacity : Nat := 260
def findAlternateNameCapacity : Nat := 14

/-- `sl_win32_find_data_w`. -/
structure FindData where
  fileAttributes : Nat := 0
  creationTime : Filetime := {}
  lastAccessTime : Filetime := {}
  lastWriteTime : Filetime := {}
  fileSizeHigh : Nat := 0
  fileSizeLow : Nat := 0
  reserved0 : Nat := 0
  reserved1 : Nat := 0
  fileName : List UInt16 := List.replicate findNameCapacity 0
  alternateFileName : List UInt16 := List.replicate findAlternateNameCapacity 0
  deriving DecidableEq, Repr

def filetimeUnixEpochDelta : Nat := 11644473600
def filetimeTicksPerSecond : Nat := 10000000

def timespecToFiletime (value : Timespec) : Nat :=
  let scaled (seconds : Nat) : Nat :=
    if seconds > uint64Max / filetimeTicksPerSecond then uint64Max
    else
      let ticks := seconds * filetimeTicksPerSecond
      let subsecond := if value.nanoseconds ≤ 0 then 0 else value.nanoseconds.toNat / 100
      if ticks > uint64Max - subsecond then uint64Max else ticks + subsecond
  if value.seconds < -(filetimeUnixEpochDelta : Int) then 0
  else if value.seconds < 0 then scaled (value.seconds + filetimeUnixEpochDelta).toNat
  else if value.seconds.toNat > uint64Max - filetimeUnixEpochDelta then uint64Max
  else scaled (value.seconds.toNat + filetimeUnixEpochDelta)

def splitFiletime (value : Nat) : Filetime :=
  { low := value % 2 ^ 32, high := value / 2 ^ 32 }

def fileAttributeDirectory : Nat := 0x10
def fileAttributeArchive : Nat := 0x20
def fileAttributeReparsePoint : Nat := 0x400

/-! ### The search -/

/-- One answer of `getdents64`: an error, or as many bytes as it stored. -/
inductive DirectoryRead where
  | failed (errno : Nat)
  | bytes (bytes : List UInt8)
  deriving DecidableEq, Repr

/-- An open directory: what further reads answer, the end once none is left, and what `fstatat`
answers for a name in it. -/
structure Directory where
  reads : List DirectoryRead
  metadata : List UInt8 → Except Nat Metadata

structure SearchOptions where
  caseSensitive : Bool
  directoriesOnly : Bool
  deriving DecidableEq, Repr

/-- `sl_win32_search`; of its buffer, the bytes that are in use. -/
structure FileSearch where
  directory : Directory
  pattern : List UInt16
  options : SearchOptions
  exhausted : Bool := false
  bufferOffset : Nat := 0
  buffer : List UInt8 := []

/-- A buffer of so many units that begins with the given ones. -/
def padded (capacity : Nat) (units : List UInt16) : List UInt16 :=
  units ++ List.replicate (capacity - units.length) 0

/-- What `fill_find_data` stores for an entry that the search reports. -/
def describe (wideName : List UInt16) (metadata : Metadata) : FindData :=
  let size := metadata.size.toNat
  let sized := !metadata.isDirectory && decide (metadata.size > 0)
  { fileAttributes :=
      if metadata.isDirectory then fileAttributeDirectory
      else if metadata.isLink then fileAttributeReparsePoint
      else fileAttributeArchive
    lastAccessTime := splitFiletime (timespecToFiletime metadata.accessTime)
    lastWriteTime := splitFiletime (timespecToFiletime metadata.modificationTime)
    fileSizeLow := if sized then size % 2 ^ 32 else 0
    fileSizeHigh := if sized then size / 2 ^ 32 else 0
    fileName := padded findNameCapacity wideName }

/-- `fill_find_data`. -/
def fillFindData (search : FileSearch) (name : List UInt8) (metadata : Metadata) : Option FindData :=
  let sized := utf8ToUtf16 name none
  let wideLength := sized.written.getD 0
  if sized.status ≠ .ok ∨ wideLength ≥ findNameCapacity then none
  else
    let conversion := utf8ToUtf16 name (some (findNameCapacity - 1))
    let wideName := (padded findNameCapacity conversion.stored).take wideLength
    if conversion.status ≠ .ok ∨ conversion.written.getD 0 ≠ wideLength ∨
        wildcardMatches search.pattern wideName search.options.caseSensitive = false then none
    else if search.options.directoriesOnly ∧ metadata.isDirectory = false then none
    else some (describe wideName metadata)

/-- The loop around `getdents64`: the first answer that is no interruption, and the reads behind
it. -/
def readDirectory : List DirectoryRead → DirectoryRead × List DirectoryRead
  | [] => (.bytes [], [])
  | .failed errno :: rest =>
    if errno = eintr then readDirectory rest else (.failed errno, rest)
  | .bytes bytes :: rest => (.bytes bytes, rest)

theorem read_directory_shorter (reads : List DirectoryRead)
    (more : (readDirectory reads).1 ≠ .bytes []) :
    (readDirectory reads).2.length < reads.length := by
  induction reads with
  | nil => exact absurd rfl more
  | cons read reads ih =>
    cases read with
    | bytes bytes => exact Nat.lt_succ_self _
    | failed errno =>
      unfold readDirectory at more ⊢
      split
      · rename_i interrupted
        rw [if_pos interrupted] at more
        exact (ih more).trans (Nat.lt_succ_self _)
      · exact Nat.lt_succ_self _

/-- `offsetof(sl_linux_dirent64, name)`. -/
def nameOffset : Nat := 19

/-- A record of `getdents64`: how long it is, and the bytes it has for its name. -/
structure Dirent where
  recordLength : Nat
  nameBytes : List UInt8

/-- The record at the head of the bytes that are left of a buffer, if they hold it. -/
def readDirent (remaining : List UInt8) : Option Dirent :=
  let recordLength := (remaining.getD 16 0).toNat + 256 * (remaining.getD 17 0).toNat
  if remaining.length < nameOffset + 1 then none
  else if recordLength < nameOffset + 1 ∨ recordLength > remaining.length then none
  else some {
    recordLength := recordLength
    nameBytes := (remaining.take recordLength).drop nameOffset }

theorem read_dirent_length {remaining : List UInt8} {dirent : Dirent}
    (read : readDirent remaining = some dirent) :
    0 < dirent.recordLength ∧ dirent.recordLength ≤ remaining.length := by
  unfold readDirent at read
  dsimp only at read
  split at read
  · cases read
  split at read
  · cases read
  · cases read
    dsimp only
    omega

/-- What a search comes to: its result, what it found, the host's error, and what it is then. -/
structure Next where
  result : SearchResult
  found : Option FindData := none
  hostError : Nat := 0
  search : FileSearch

/-- `search_next_locked`. -/
def searchNextLocked (search : FileSearch) : Next :=
  if search.exhausted then { result := .noMatch, search := search }
  else if search.bufferOffset = search.buffer.length then
    match _ : readDirectory search.directory.reads with
    | (.failed errno, reads) => {
        result := .io, hostError := errno
        search := { search with directory := { search.directory with reads := reads } } }
    | (.bytes [], reads) => {
        result := .noMatch
        search := { search with
          directory := { search.directory with reads := reads }, exhausted := true } }
    | (.bytes (byte :: bytes), reads) =>
      searchNextLocked { search with
        directory := { search.directory with reads := reads }
        bufferOffset := 0, buffer := byte :: bytes }
  else
    match _ : readDirent (search.buffer.drop search.bufferOffset) with
    | none => { result := .io, hostError := eio, search := search }
    | some dirent =>
      let next := { search with bufferOffset := search.bufferOffset + dirent.recordLength }
      if 0 ∉ dirent.nameBytes then { result := .io, hostError := eio, search := next }
      else
        let name := dirent.nameBytes.takeWhile (· != 0)
        if name = [dot] ∨ name = [dot, dot] then searchNextLocked next
        else match search.directory.metadata name with
          | .error errno =>
            if errno = enoent then searchNextLocked next
            else { result := .io, hostError := errno, search := next }
          | .ok metadata =>
            match fillFindData search name metadata with
            | some found => { result := .ok, found := some found, search := next }
            | none => searchNextLocked next
termination_by (search.directory.reads.length, search.buffer.length - search.bufferOffset)
decreasing_by
  · rename_i answered
    have shorter := read_directory_shorter search.directory.reads (by rw [answered]; nofun)
    rw [answered] at shorter
    exact Prod.Lex.left _ _ shorter
  all_goals
    have bounds := read_dirent_length (by assumption)
    rw [List.length_drop] at bounds
    exact Prod.Lex.right _ (by omega)

/-- What a call leaves behind: its result, the host's error, the search and the caller's output. -/
structure Called where
  result : SearchResult
  hostError : Nat := 0
  search : Option FileSearch
  output : FindData

/-- `sl_win32_search_next`; a null pointer is none. -/
def searchNext (search : Option FileSearch) (output : FindData) : Called :=
  match search with
  | none => { result := .invalidArgument, search := none, output := output }
  | some search =>
    let next := searchNextLocked search
    { result := next.result, hostError := next.hostError, search := some next.search
      output := if next.result = .ok then next.found.getD output else output }

/-- What the host answers while a search is opened: which allocations succeed, and what
`open_search_directory` comes to. -/
structure OpenHost where
  allocations : Allocations := {}
  searchAllocated : Bool := true
  openDirectory : List UInt8 → Except Nat Directory

/-- `sl_win32_search_open` for pointers that are not null. A write outside a buffer would have no
outcome. -/
def searchOpen (host : OpenHost) (rootFd : Int) (pathPattern : List UInt16)
    (options : SearchOptions) (firstResult : FindData) : Option Called :=
  let refused (result : SearchResult) (hostError : Nat) : Called :=
    { result := result, hostError := hostError, search := none, output := firstResult }
  if rootFd < 0 ∨ pathPattern = [] then some (refused .invalidArgument 0)
  else match normalizePattern pathPattern host.allocations with
    | none => none
    | some normalized =>
      if normalized.result ≠ .ok then some (refused normalized.result 0)
      else match host.openDirectory ((normalized.directory.getD []).takeWhile (· != 0)) with
        | .error errno => some (refused .io errno)
        | .ok directory =>
          if host.searchAllocated = false then some (refused .outOfMemory 0)
          else
            let next := searchNextLocked {
              directory := directory, pattern := normalized.pattern.getD [], options := options }
            if next.result ≠ .ok then some (refused next.result next.hostError)
            else some {
              result := .ok, search := some next.search
              output := next.found.getD firstResult }

end SadLayer.Search
