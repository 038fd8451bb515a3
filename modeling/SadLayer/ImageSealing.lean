import SadLayer.PageProtections
import SadLayer.PeFacts

/-! Finalization seals a mapping: each page gets what the headers and the sections on
it ask for, none is ever to be written and executed, and a failure leaves the pages
as they were mapped, or a mapping that nothing is done with any more. -/
namespace SadLayer.Loader
open SadLayer.Library SadLayer.Pe

/-- Bytes of this range are on the page. -/
def Touches (pageSize start length page : Nat) : Prop :=
  ∃ address, start ≤ address ∧ address < start + length ∧ address / pageSize = page

/-- A section on the page asks for this. -/
def SectionAsks (image : Image) (pageSize page : Nat) (flag : Protection → Bool) : Prop :=
  ∃ header ∈ image.sections,
    Touches pageSize header.virtualAddress (max header.virtualSize header.rawSize) page ∧
      flag (sectionProtection header) = true

/-- A page has what the headers and the sections on it ask for together. -/
structure Granted (image : Image) (pageSize page : Nat) (protection : Protection) : Prop where
  read : protection.read = true ↔
    Touches pageSize 0 image.headersSize page ∨ SectionAsks image pageSize page Protection.read
  write : protection.write = true ↔ SectionAsks image pageSize page Protection.write
  execute : protection.execute = true ↔ SectionAsks image pageSize page Protection.execute

/-- No page is writable and executable, nor was one at any moment of a call. -/
structure Pages.Safe (pages : Pages) : Prop where
  now : ∀ page, (pages.protections page).writesAndExecutes = false
  during : ∀ call ∈ pages.calls, ∀ changed page,
    (call.during changed page).writesAndExecutes = false

variable {image : Image} {mapped : MappedImage} {pages : Pages} {host : PageHost}
  {permissions : Nat → Protection} {pageCount pageSize : Nat}

/-! ### Permissions -/

theorem touches_iff {start length page : Nat} (positive : 0 < pageSize) (nonempty : length ≠ 0) :
    Touches pageSize start length page ↔
      start / pageSize ≤ page ∧ page ≤ (start + length - 1) / pageSize := by
  constructor
  · rintro ⟨address, above, below, rfl⟩
    exact ⟨Nat.div_le_div_right above, Nat.div_le_div_right (by omega)⟩
  · rintro ⟨first, last⟩
    rw [Nat.div_le_iff_le_mul_add_pred positive] at first
    rw [Nat.le_div_iff_mul_le positive] at last
    refine ⟨max start (page * pageSize), Nat.le_max_left .., by omega, ?_⟩
    rw [Nat.div_eq_iff positive]
    have comm := Nat.mul_comm page pageSize
    omega

theorem add_page_permissions_ok {before after : Nat → Protection} {imageSize start length : Nat}
    {protection : Protection} (positive : 0 < pageSize)
    (added : addPagePermissions before pageCount pageSize imageSize start length protection =
      .ok after) (page : Nat) :
    Touches pageSize start length page ∧ after page = (before page).or protection ∨
      ¬ Touches pageSize start length page ∧ after page = before page := by
  unfold addPagePermissions at added
  split at added
  · rename_i empty
    cases added
    exact .inr ⟨fun ⟨address, above, below, _⟩ => by omega, rfl⟩
  · rename_i nonempty
    split at added
    · cases added
    dsimp only at added
    split at added
    · cases added
    · cases added
      have touches := @touches_iff pageSize start length page positive nonempty
      by_cases inside : start / pageSize ≤ page ∧ page ≤ (start + length - 1) / pageSize
      · exact .inl ⟨touches.mpr inside, if_pos inside⟩
      · exact .inr ⟨fun touched => inside (touches.mp touched), if_neg inside⟩

theorem section_permissions_ok {imageSize : Nat} {flag : Protection → Bool}
    (merges : ∀ left right, flag (left.or right) = (flag left || flag right))
    (positive : 0 < pageSize) (sections : List Section) {before after : Nat → Protection}
    (added : sectionPermissions pageCount pageSize imageSize sections before = .ok after)
    (page : Nat) :
    flag (after page) = true ↔ flag (before page) = true ∨ ∃ header ∈ sections,
      Touches pageSize header.virtualAddress (max header.virtualSize header.rawSize) page ∧
        flag (sectionProtection header) = true := by
  induction sections generalizing before with
  | nil =>
    cases added
    simp
  | cons header rest ih =>
    unfold sectionPermissions at added
    split at added
    · cases added
    · rename_i middle first
      rw [ih added]
      simp only [List.mem_cons, exists_eq_or_imp]
      rcases add_page_permissions_ok positive first page with
        ⟨touched, same⟩ | ⟨untouched, same⟩
      · rw [same, merges, Bool.or_eq_true, or_assoc]
        simp only [touched, true_and]
      · rw [same]
        simp only [untouched, false_and, false_or]

/-- Permissions that are found are those the pages are to have. -/
theorem page_permissions_ok (positive : 0 < pageSize)
    (found : pagePermissions image mapped pageSize = .ok permissions) :
    ∀ page < mapped.allocationSize / pageSize, Granted image pageSize page (permissions page) ∧
      (permissions page).writesAndExecutes = false := by
  intro page inside
  unfold pagePermissions at found
  dsimp only at found
  split at found
  · cases found
  · rename_i headers first
    split at found
    · cases found
    · rename_i all second
      split at found
      · cases found
      · rename_i apart
        cases found
        have asked {flag : Protection → Bool}
            (merges : ∀ left right, flag (left.or right) = (flag left || flag right)) :=
          section_permissions_ok merges positive image.sections second page
        have header := add_page_permissions_ok positive first page
        refine ⟨⟨?_, ?_, ?_⟩, ?_⟩
        · rw [@asked Protection.read fun _ _ => rfl]
          refine or_congr_left ?_
          rcases header with ⟨touched, same⟩ | ⟨untouched, same⟩
          · exact iff_of_true (by rw [same]; rfl) touched
          · exact iff_of_false (by rw [same]; exact Bool.false_ne_true) untouched
        · refine (@asked Protection.write fun _ _ => rfl).trans (or_iff_right ?_)
          rcases header with ⟨-, same⟩ | ⟨-, same⟩ <;> rw [same] <;> exact Bool.false_ne_true
        · refine (@asked Protection.execute fun _ _ => rfl).trans (or_iff_right ?_)
          rcases header with ⟨-, same⟩ | ⟨-, same⟩ <;> rw [same] <;> exact Bool.false_ne_true
        · rw [Bool.not_eq_true, List.any_eq_false] at apart
          exact Bool.eq_false_iff.mpr (apart page (List.mem_range.mpr inside))

/-! ### Calls -/

theorem Pages.Safe.mprotect (safe : pages.Safe) {protection : Protection}
    (apart : protection.writesAndExecutes = false) (firstPage endPage : Nat)
    (answer : MprotectAnswer) :
    (mprotect pages firstPage endPage protection answer).2.Safe := by
  have during (changed : Nat → Bool) (page : Nat) : (MprotectCall.during {
      firstPage := firstPage
      endPage := endPage
      protection := protection
      before := pages.protections } changed page).writesAndExecutes = false := by
    unfold MprotectCall.during
    split
    · exact apart
    · exact safe.now page
  refine ⟨during answer.changed, fun call member => ?_⟩
  rcases List.mem_append.mp member with old | new
  · exact safe.during call old
  · rw [List.mem_singleton.mp new]
    exact during

theorem end_of_run {firstPage endPage : Nat} (later : firstPage < endPage)
    (inside : endPage ≤ pageCount)
    (same : ∀ page, firstPage ≤ page → page < endPage → permissions page = permissions firstPage) :
    firstPage < endOfRun permissions pageCount firstPage endPage ∧
      endOfRun permissions pageCount firstPage endPage ≤ pageCount ∧
      ∀ page, firstPage ≤ page → page < endOfRun permissions pageCount firstPage endPage →
        permissions page = permissions firstPage := by
  fun_induction endOfRun permissions pageCount firstPage endPage with
  | case1 endPage more ih =>
    refine ih (by omega) (by omega) fun page above below => ?_
    rcases Nat.lt_succ_iff_lt_or_eq.mp below with before | rfl
    · exact same page above before
    · exact more.2
  | case2 endPage stops => exact ⟨later, inside, same⟩

theorem next_run {firstPage : Nat} (inside : firstPage < pageCount) :
    firstPage < endOfRun permissions pageCount firstPage (firstPage + 1) ∧
      endOfRun permissions pageCount firstPage (firstPage + 1) ≤ pageCount ∧
      ∀ page, firstPage ≤ page →
        page < endOfRun permissions pageCount firstPage (firstPage + 1) →
        permissions page = permissions firstPage :=
  end_of_run (Nat.lt_succ_self _) inside fun page above below => by
    rw [show page = firstPage by omega]

theorem protect_page_runs_safe
    (apart : ∀ page < pageCount, (permissions page).writesAndExecutes = false)
    (runs firstPage : Nat) (safe : pages.Safe) :
    (protectPageRuns host permissions pageCount runs firstPage pages).2.Safe := by
  induction runs generalizing firstPage pages with
  | zero => exact safe
  | succ runs ih =>
    unfold protectPageRuns
    split
    · exact safe
    · have next := safe.mprotect (apart firstPage (by omega)) firstPage
        (endOfRun permissions pageCount firstPage (firstPage + 1))
        (host.protect firstPage (endOfRun permissions pageCount firstPage (firstPage + 1)))
      dsimp only
      split <;> rename_i called <;> rw [called] at next
      · exact next
      · exact ih _ next

/-- Calls that cover each page of the mapping from this one on once. -/
def CoverOnce (calls : List MprotectCall) (firstPage pageCount : Nat) : Prop :=
  ∀ page, calls.countP (·.covers page) = if firstPage ≤ page ∧ page < pageCount then 1 else 0

/-- A loop that succeeds has covered each page once and given it its permissions. -/
theorem protect_page_runs_ok {after : Pages} (runs firstPage : Nat)
    (enough : pageCount ≤ firstPage + runs)
    (protected_ : protectPageRuns host permissions pageCount runs firstPage pages = (.ok, after)) :
    ∃ calls, after.calls = pages.calls ++ calls ∧ CoverOnce calls firstPage pageCount ∧
      ∀ page, after.protections page =
        if firstPage ≤ page ∧ page < pageCount then permissions page
        else pages.protections page := by
  induction runs generalizing firstPage pages with
  | zero =>
    cases protected_
    refine ⟨[], (List.append_nil _).symm, fun page => ?_, fun page => ?_⟩
    · rw [if_neg (by omega), List.countP_nil]
    · rw [if_neg (by omega)]
  | succ runs ih =>
    unfold protectPageRuns at protected_
    split at protected_
    · cases protected_
      refine ⟨[], (List.append_nil _).symm, fun page => ?_, fun page => ?_⟩
      · rw [if_neg (by omega), List.countP_nil]
      · rw [if_neg (by omega)]
    · rename_i more
      obtain ⟨later, inside, same⟩ :=
        @next_run permissions pageCount firstPage (by omega)
      generalize endOfRun permissions pageCount firstPage (firstPage + 1) = endPage at *
      dsimp only at protected_
      cases answer : host.protect firstPage endPage with
      | failed changed =>
        rw [answer] at protected_
        cases protected_
      | done =>
        rw [answer] at protected_
        obtain ⟨calls, logged, once, given⟩ := ih endPage (by omega) protected_
        have logged' : after.calls = pages.calls ++ ({
            firstPage := firstPage
            endPage := endPage
            protection := permissions firstPage
            before := pages.protections } :: calls) :=
          logged.trans (List.append_assoc ..)
        refine ⟨_, logged', fun page => ?_, fun page => ?_⟩
        · rw [List.countP_cons, once page]
          unfold MprotectCall.covers
          simp only [Bool.and_eq_true, decide_eq_true_eq]
          split <;> split <;> split <;> omega
        · rw [given page]
          simp only [MprotectCall.during, MprotectCall.covers, MprotectAnswer.changed,
            Bool.and_true, Bool.and_eq_true, decide_eq_true_eq]
          by_cases here : firstPage ≤ page ∧ page < endPage
          · rw [if_neg (by omega), if_pos here, if_pos (by omega), same page here.1 here.2]
          · rw [if_neg here]
            by_cases behind : endPage ≤ page ∧ page < pageCount
            · rw [if_pos behind, if_pos (by omega)]
            · rw [if_neg behind, if_neg (by omega)]

/-! ### One finalization -/

theorem host_page_size_answers {size : Nat}
    (known : hostPageSize (host.answers pageSize).pageSize = .ok size) :
    size = pageSize ∧ 0 < pageSize := by
  cases tells : host.sysconf with
  | false =>
    have silent : (host.answers pageSize).pageSize = -1 := by simp [PageHost.answers, tells]
    rw [silent, hostPageSize, if_pos (by omega)] at known
    cases known
  | true =>
    have told : (host.answers pageSize).pageSize = pageSize := by simp [PageHost.answers, tells]
    rw [told, hostPageSize] at known
    split at known
    · cases known
    · rw [Int.toNat_natCast] at known
      cases known
      exact ⟨rfl, by omega⟩

theorem add_page_permissions_fails {before : Nat → Protection} {imageSize start length : Nat}
    {protection : Protection} {status : Status}
    (failed : addPagePermissions before pageCount pageSize imageSize start length protection =
      .error status) : status = .invalidImage := by
  unfold addPagePermissions at failed
  dsimp only at failed
  split at failed
  · cases failed
  split at failed
  · cases failed
    rfl
  split at failed
  · cases failed
    rfl
  · cases failed

theorem section_permissions_fails {imageSize : Nat} {status : Status} (sections : List Section)
    {before : Nat → Protection}
    (failed : sectionPermissions pageCount pageSize imageSize sections before = .error status) :
    status = .invalidImage := by
  induction sections generalizing before with
  | nil => cases failed
  | cons header rest ih =>
    unfold sectionPermissions at failed
    split at failed
    · rename_i first
      cases failed
      exact add_page_permissions_fails first
    · exact ih failed

theorem page_permissions_fails {status : Status}
    (failed : pagePermissions image mapped pageSize = .error status) : status ≠ .ok := by
  unfold pagePermissions at failed
  dsimp only at failed
  split at failed
  · rename_i first
    cases failed
    rw [add_page_permissions_fails first]
    nofun
  split at failed
  · rename_i second
    cases failed
    rw [section_permissions_fails image.sections second]
    nofun
  split at failed
  · cases failed
    nofun
  · cases failed

/-- What finalization may come to. -/
inductive FinalizationOutcome (image : Image) (pageSize : Nat) (before : PagedImage) :
    Status → PagedImage → Prop
  | sealed (pages : Pages) (calls : List MprotectCall)
      (logged : pages.calls = before.pages.calls ++ calls)
      (once : CoverOnce calls 0 (before.mapped.allocationSize / pageSize))
      (granted : ∀ page < before.mapped.allocationSize / pageSize,
        Granted image pageSize page (pages.protections page)) :
      FinalizationOutcome image pageSize before .ok
        ⟨{ before.mapped with protectionsFinalized := true }, pages⟩
  | restored (status : Status) (failed : status ≠ .ok) (pages : Pages)
      (writable : ∀ page < before.mapped.allocationSize / pageSize,
        pages.protections page = readWrite) :
      FinalizationOutcome image pageSize before status ⟨before.mapped, pages⟩
  | tainted (pages : Pages) :
      FinalizationOutcome image pageSize before .memoryProtection
        ⟨{ before.mapped with storage := .virtualTainted }, pages⟩

theorem restore_mapping_outcome {status : Status} (failed : status ≠ .ok) {before : Pages}
    (safe : pages.Safe) :
    let after := restoreMapping mapped host (mapped.allocationSize / pageSize) status pages
    after.2.pages.Safe ∧ FinalizationOutcome image pageSize ⟨mapped, before⟩ after.1 after.2 := by
  have restored := safe.mprotect (show readWrite.writesAndExecutes = false from rfl) 0
    (mapped.allocationSize / pageSize) host.restore
  unfold restoreMapping
  cases answer : host.restore with
  | failed changed =>
    rw [answer] at restored
    exact ⟨restored, .tainted _⟩
  | done =>
    rw [answer] at restored
    refine ⟨restored, .restored status failed _ fun page inside => ?_⟩
    have covered : ((decide (0 ≤ page) && decide (page < mapped.allocationSize / pageSize)) &&
        true) = true := by simpa using inside
    exact if_pos covered

theorem protect_mapping_outcome (positive : 0 < pageSize) (safe : pages.Safe) :
    let after := protectMapping image mapped host pageSize pages
    after.2.pages.Safe ∧ FinalizationOutcome image pageSize ⟨mapped, pages⟩ after.1 after.2 := by
  unfold protectMapping
  dsimp only
  cases found : pagePermissions image mapped pageSize with
  | error status => exact restore_mapping_outcome (page_permissions_fails found) safe
  | ok permissions =>
    have permitted := page_permissions_ok positive found
    have kept : (protectPageRuns host permissions (mapped.allocationSize / pageSize)
        (mapped.allocationSize / pageSize) 0 pages).2.Safe :=
      protect_page_runs_safe (fun page inside => (permitted page inside).2) _ _ safe
    dsimp only
    rcases ended : protectPageRuns host permissions (mapped.allocationSize / pageSize)
      (mapped.allocationSize / pageSize) 0 pages with ⟨status, after⟩
    rw [ended] at kept
    by_cases done : status = .ok
    · subst done
      obtain ⟨calls, logged, once, given⟩ := protect_page_runs_ok _ _ (by omega) ended
      refine ⟨kept, .sealed after calls logged once fun page inside => ?_⟩
      rw [given page, if_pos ⟨Nat.zero_le _, inside⟩]
      exact (permitted page inside).1
    · have undone := @restore_mapping_outcome image mapped after host pageSize status done pages
        kept
      split
      · rename_i same
        cases same
        exact absurd rfl done
      · rename_i same
        cases same
        exact undone

/-! ### Beside the loader without pages -/

theorem protect_page_runs_status (runs firstPage : Nat) :
    (protectPageRuns host permissions pageCount runs firstPage pages).1 =
      protectRuns (host.answers pageSize) permissions pageCount runs firstPage := by
  induction runs generalizing firstPage pages with
  | zero => rfl
  | succ runs ih =>
    unfold protectPageRuns protectRuns
    split
    · rfl
    · dsimp only
      generalize endOfRun permissions pageCount firstPage (firstPage + 1) = endPage
      have answered : (host.answers pageSize).protect firstPage endPage =
          (host.protect firstPage endPage).succeeded := rfl
      cases answer : host.protect firstPage endPage with
      | failed changed =>
        rw [answer] at answered
        exact (if_pos answered).symm
      | done =>
        rw [answer] at answered
        rw [if_neg (by rw [answered]; nofun)]
        exact ih endPage

theorem protect_pages_eq : protectPages image mapped (host.answers pageSize) pageSize =
    match pagePermissions image mapped pageSize with
    | .error status => status
    | .ok permissions => (protectPageRuns host permissions (mapped.allocationSize / pageSize)
        (mapped.allocationSize / pageSize) 0 pages).1 := by
  unfold protectPages pagePermissions
  dsimp only
  cases addPagePermissions (fun _ => {}) (mapped.allocationSize / pageSize) pageSize mapped.size 0
      image.headersSize { read := true } with
  | error status => rfl
  | ok permissions =>
    dsimp only
    cases sectionPermissions (mapped.allocationSize / pageSize) pageSize mapped.size image.sections
        permissions with
    | error status => rfl
    | ok permissions =>
      dsimp only
      have same : ((List.range (mapped.allocationSize / pageSize)).any fun page =>
          (permissions page).write && (permissions page).execute) =
        (List.range (mapped.allocationSize / pageSize)).any fun page =>
          (permissions page).writesAndExecutes := rfl
      rw [same]
      by_cases conflict : ((List.range (mapped.allocationSize / pageSize)).any fun page =>
          (permissions page).writesAndExecutes) = true
      · rw [if_pos conflict, if_pos conflict]
      · rw [if_neg conflict, if_neg conflict]
        exact (protect_page_runs_status _ _).symm

theorem restore_mapping_status {status : Status} :
    let after := restoreMapping mapped host pageCount status pages
    (after.1, after.2.mapped) =
      if (host.answers pageSize).restored = false then
        (.memoryProtection, { mapped with storage := .virtualTainted })
      else (status, mapped) := by
  unfold restoreMapping
  have answered : (host.answers pageSize).restored = host.restore.succeeded := rfl
  cases answer : host.restore with
  | failed changed =>
    rw [answer] at answered
    exact (if_pos answered).symm
  | done =>
    rw [answer] at answered
    exact (if_neg (by rw [answered]; nofun)).symm

/-- The pages are the loader's own: without them, finalization is what it was. -/
theorem finalize_pages_status (image : Image) (pageSize : Nat) (host : PageHost)
    (state : PagedImage) :
    ((finalizePages image pageSize host state).1,
        (finalizePages image pageSize host state).2.mapped) =
      finalizeImage image state.mapped (host.answers pageSize) := by
  unfold finalizePages finalizeImage
  dsimp only
  split
  · rfl
  split
  · rfl
  split
  · rfl
  cases known : hostPageSize (host.answers pageSize).pageSize with
  | error status => rfl
  | ok size =>
  obtain ⟨rfl, positive⟩ := host_page_size_answers known
  dsimp only
  split
  · rfl
  rw [show (host.answers size).allocated = host.allocated from rfl]
  split
  · rfl
  have protected_ := @protect_pages_eq image state.mapped state.pages host size
  unfold protectMapping
  dsimp only
  cases found : pagePermissions image state.mapped size with
  | error status =>
    rw [found] at protected_
    dsimp only at protected_
    rw [protected_, if_neg (page_permissions_fails found)]
    exact restore_mapping_status
  | ok permissions =>
    rw [found] at protected_
    dsimp only at protected_
    rcases ended : protectPageRuns host permissions (state.mapped.allocationSize / size)
      (state.mapped.allocationSize / size) 0 state.pages with ⟨status, after⟩
    rw [ended] at protected_
    dsimp only at protected_ ⊢
    rw [protected_, ended]
    by_cases done : status = .ok
    · subst done
      exact (if_pos rfl).symm
    · rw [if_neg done]
      split
      · rename_i same
        cases same
        exact absurd rfl done
      · rename_i same
        cases same
        exact restore_mapping_status

/-! ### Runs -/

/-- Relocation and binding change the bytes and the base of a mapping. -/
def SameMapping (before after : MappedImage) : Prop :=
  ∃ bytes loadBase, after = { before with bytes := bytes, loadBase := loadBase }

theorem apply_relocations_same {loadBase : Nat} {status : Status} {after : MappedImage}
    (applied : applyRelocations image mapped loadBase = (status, after)) :
    SameMapping mapped after := by
  obtain rfl := congrArg Prod.snd applied
  clear applied
  unfold applyRelocations
  dsimp only
  split
  · exact ⟨_, _, rfl⟩
  split
  · exact ⟨_, _, rfl⟩
  split
  · exact ⟨_, _, rfl⟩
  split
  · exact ⟨_, _, rfl⟩
  split
  · exact ⟨_, _, rfl⟩
  split
  · exact ⟨_, _, rfl⟩
  split
  · exact ⟨_, _, rfl⟩
  split
  · split <;> exact ⟨_, _, rfl⟩
  · exact ⟨_, _, rfl⟩

theorem bind_imports_same {context : Type} {resolver : Resolver context} {start : context}
    {allocated : Bool} {binding : Binding context}
    (bound : bindImports image mapped resolver start allocated = some binding) :
    SameMapping mapped binding.mapped := by
  -- an early return leaves the mapping as it was
  have past {returns : Prop} [Decidable returns] {early : Binding context}
      {rest : Option (Binding context)} (unchanged : early.mapped = mapped)
      (taken : (if returns then some early else rest) = some binding) :
      SameMapping mapped binding.mapped ∨ rest = some binding := by
    by_cases stops : returns
    · rw [if_pos stops] at taken
      cases taken
      exact .inl (unchanged ▸ ⟨_, _, rfl⟩)
    · rw [if_neg stops] at taken
      exact .inr taken
  unfold bindImports at bound
  rcases past rfl bound with done | bound
  · exact done
  rcases past rfl bound with done | bound
  · exact done
  obtain ⟨⟨status, count⟩, -, bound⟩ := Option.bind_eq_some_iff.mp bound
  rcases past rfl bound with done | bound
  · exact done
  rcases past rfl bound with done | bound
  · exact done
  rcases past rfl bound with done | bound
  · exact done
  rcases past rfl bound with done | bound
  · exact done
  obtain ⟨⟨status, resolved⟩, -, bound⟩ := Option.bind_eq_some_iff.mp bound
  rcases past rfl bound with done | bound
  · exact done
  · cases bound
    exact ⟨_, _, rfl⟩

theorem begin_mapping_idle (image : Image) (kind : MappingKind) :
    (beginMapping image kind).mapped.protectionsFinalized = false ∧
      (beginMapping image kind).mapped.storage ≠ .virtualTainted := by
  unfold beginMapping
  cases kind with
  | heap buffer =>
    dsimp only
    unfold mapImage
    split
    · exact ⟨rfl, fun tainted => by cases tainted⟩
    split
    · exact ⟨rfl, fun tainted => by cases tainted⟩
    dsimp only
    split <;> exact ⟨rfl, fun tainted => by cases tainted⟩
  | execution host =>
    dsimp only
    unfold mapImageForExecution
    split
    · exact ⟨rfl, fun tainted => by cases tainted⟩
    split
    · exact ⟨rfl, fun tainted => by cases tainted⟩
    split
    · exact ⟨rfl, fun tainted => by cases tainted⟩
    split
    · exact ⟨rfl, fun tainted => by cases tainted⟩
    dsimp only
    split
    · exact ⟨rfl, fun tainted => by cases tainted⟩
    split
    · exact ⟨rfl, fun tainted => by cases tainted⟩
    split
    · rename_i applied
      obtain ⟨bytes, loadBase, rfl⟩ := apply_relocations_same applied
      exact ⟨rfl, fun tainted => by cases tainted⟩
    · exact ⟨rfl, fun tainted => by cases tainted⟩

/-- What holds of a mapped image in every run. -/
structure SealInvariant (image : Image) (pageSize : Nat) (state : PagedImage) : Prop where
  safe : state.pages.Safe
  /-- Pages are as they were mapped until the mapping is sealed or tainted. -/
  writable : state.mapped.protectionsFinalized = false → state.mapped.storage ≠ .virtualTainted →
    ∀ page < state.mapped.allocationSize / pageSize, state.pages.protections page = readWrite
  /-- What is sealed or tainted has passed the checks of its arguments. -/
  checked : state.mapped.protectionsFinalized = true ∨ state.mapped.storage = .virtualTainted →
    state.mapped.address ≠ 0 ∧ state.mapped.size = image.imageSize
  sealed : state.mapped.protectionsFinalized = true →
    state.mapped.storage = .virtual ∧ state.mapped.allocationSize ≠ 0 ∧
      0 < pageSize ∧ state.mapped.allocationSize % pageSize = 0 ∧
      ∀ page < state.mapped.allocationSize / pageSize,
        Granted image pageSize page (state.pages.protections page)

theorem seal_invariant_begin (image : Image) (pageSize : Nat) (kind : MappingKind) :
    SealInvariant image pageSize (beginMapping image kind) := by
  obtain ⟨open_, sound⟩ := begin_mapping_idle image kind
  refine ⟨⟨fun _ => rfl, fun call member => absurd member List.not_mem_nil⟩, fun _ _ _ _ => rfl,
    fun closed => ?_, fun closed => ?_⟩
  · rcases closed with closed | tainted
    · rw [open_] at closed
      cases closed
    · exact absurd tainted sound
  · rw [open_] at closed
    cases closed

theorem seal_invariant_same {state : PagedImage} (invariant : SealInvariant image pageSize state)
    {after : MappedImage} (same : SameMapping state.mapped after) :
    SealInvariant image pageSize { state with mapped := after } := by
  obtain ⟨bytes, loadBase, rfl⟩ := same
  exact ⟨invariant.safe, invariant.writable, invariant.checked, invariant.sealed⟩

/-- How finalization goes, by the state it starts from. -/
theorem finalize_pages_cases {state : PagedImage} (invariant : SealInvariant image pageSize state)
    (host : PageHost) :
    (state.mapped.storage = .virtualTainted ∧
      finalizePages image pageSize host state = (.invalidState, state)) ∨
    (state.mapped.protectionsFinalized = true ∧
      finalizePages image pageSize host state = (.ok, state)) ∨
    (state.mapped.protectionsFinalized = false ∧ state.mapped.storage ≠ .virtualTainted ∧
      ∃ status, status ≠ .ok ∧ finalizePages image pageSize host state = (status, state)) ∨
    (state.mapped.protectionsFinalized = false ∧
      (state.mapped.address ≠ 0 ∧ state.mapped.size = image.imageSize) ∧
      (state.mapped.storage = .virtual ∧ state.mapped.allocationSize ≠ 0 ∧ 0 < pageSize ∧
        state.mapped.allocationSize % pageSize = 0) ∧
      finalizePages image pageSize host state =
        protectMapping image state.mapped host pageSize state.pages) := by
  unfold finalizePages
  dsimp only
  by_cases tainted : state.mapped.storage = .virtualTainted
  · exact .inl ⟨tainted, if_pos tainted⟩
  rw [if_neg tainted]
  cases closed : state.mapped.protectionsFinalized with
  | true =>
    obtain ⟨address, size⟩ := invariant.checked (.inl closed)
    obtain ⟨storage, allocation, -⟩ := invariant.sealed closed
    refine .inr (.inl ⟨rfl, ?_⟩)
    rw [if_neg (by simp [address, size, storage, allocation]), if_pos rfl]
  | false =>
    split
    · exact .inr (.inr (.inl ⟨rfl, tainted, .invalidArgument, nofun, rfl⟩))
    rename_i accepted
    push Not at accepted
    obtain ⟨address, storage, size, allocation⟩ := accepted
    rw [if_neg Bool.false_ne_true]
    cases known : hostPageSize (host.answers pageSize).pageSize with
    | error status =>
      exact .inr (.inr (.inl ⟨rfl, tainted, status, host_page_size_fails known, rfl⟩))
    | ok size' =>
      obtain ⟨rfl, positive⟩ := host_page_size_answers known
      dsimp only
      split
      · exact .inr (.inr (.inl ⟨rfl, tainted, .invalidState, nofun, rfl⟩))
      rename_i whole
      split
      · exact .inr (.inr (.inl ⟨rfl, tainted, .outOfMemory, nofun, rfl⟩))
      · exact .inr (.inr (.inr ⟨rfl, ⟨address, size⟩,
          ⟨storage, allocation, positive, not_not.mp whole⟩, rfl⟩))

theorem seal_invariant_finalize {state : PagedImage}
    (invariant : SealInvariant image pageSize state) (host : PageHost) :
    SealInvariant image pageSize (finalizePages image pageSize host state).2 := by
  rcases finalize_pages_cases invariant host with ⟨-, unchanged⟩ | ⟨-, unchanged⟩ |
    ⟨-, -, status, -, unchanged⟩ | ⟨open_, checked, ⟨storage, present, positive, whole⟩, enters⟩
  · rw [unchanged]
    exact invariant
  · rw [unchanged]
    exact invariant
  · rw [unchanged]
    exact invariant
  rw [enters]
  obtain ⟨safe, outcome⟩ := @protect_mapping_outcome image state.mapped state.pages host pageSize
    positive invariant.safe
  generalize protectMapping image state.mapped host pageSize state.pages = after at safe outcome
  obtain ⟨status, after⟩ := after
  dsimp only at safe outcome ⊢
  cases outcome with
  | sealed pages calls logged once granted =>
    exact ⟨safe, nofun, fun _ => checked, fun _ => ⟨storage, present, positive, whole, granted⟩⟩
  | restored status failed pages writable =>
    refine ⟨safe, fun _ _ => writable, fun _ => checked, fun closed => ?_⟩
    rw [open_] at closed
    cases closed
  | tainted pages =>
    refine ⟨safe, fun _ sound => absurd rfl sound, fun _ => checked, fun closed => ?_⟩
    rw [open_] at closed
    cases closed

theorem seal_invariant_operate {context : Type} {state : PagedImage}
    (invariant : SealInvariant image pageSize state) (operation : Operation context) :
    SealInvariant image pageSize (operate image pageSize state operation).1 := by
  cases operation with
  | relocate loadBase => exact seal_invariant_same invariant (apply_relocations_same rfl)
  | bind resolver start allocated =>
    unfold operate
    dsimp only
    cases bound : bindImports image state.mapped resolver start allocated with
    | none => exact invariant
    | some binding => exact seal_invariant_same invariant (bind_imports_same bound)
  | finalize host => exact seal_invariant_finalize invariant host

theorem seal_invariant_run {context : Type} (image : Image) (pageSize : Nat) (kind : MappingKind)
    (operations : List (Operation context)) :
    SealInvariant image pageSize
      (run (operate image pageSize) (beginMapping image kind) operations).state :=
  run_invariant (operate image pageSize) (fun _ => SealInvariant image pageSize)
    (seal_invariant_begin image pageSize kind)
    (fun _ _ operation invariant => seal_invariant_operate invariant operation) operations

/-! ### Sealed images -/

/-- Nothing is done with a tainted mapping. -/
theorem tainted_refuses {context : Type} {state : PagedImage}
    (invariant : SealInvariant image pageSize state)
    (tainted : state.mapped.storage = .virtualTainted) (operation : Operation context) :
    operate image pageSize state operation = (state, some .invalidState) := by
  obtain ⟨address, size⟩ := invariant.checked (.inr tainted)
  cases operation with
  | relocate loadBase =>
    unfold operate applyRelocations
    dsimp only
    rw [if_neg (by simp [address, size]), if_pos (.inr tainted)]
  | bind resolver start allocated =>
    unfold operate bindImports
    dsimp only
    rw [if_neg (by simp [address, size]), if_pos (.inr tainted)]
  | finalize host =>
    unfold operate finalizePages
    dsimp only
    rw [if_pos tainted]

/-- An entry point that is accepted is on a page that can be executed and not written. -/
theorem trusted_entry_sealed {state : PagedImage} (invariant : SealInvariant image pageSize state)
    (accepted : validateTrustedEntry image state.mapped = .ok) :
    (state.pages.protections (state.mapped.entryRva / pageSize)).execute = true ∧
      (state.pages.protections (state.mapped.entryRva / pageSize)).write = false := by
  unfold validateTrustedEntry at accepted
  split at accepted
  · cases accepted
  rename_i valid
  simp only [not_or] at valid
  obtain ⟨-, -, -, -, closed, -, inside, -, -, -, -, -, entry, executable⟩ := valid
  rw [Bool.not_eq_false] at closed executable
  obtain ⟨-, -, positive, whole, granted⟩ := invariant.sealed closed
  have onPage : state.mapped.entryRva / pageSize < state.mapped.allocationSize / pageSize := by
    rw [Nat.div_lt_iff_lt_mul positive, Nat.div_mul_cancel (Nat.dvd_of_mod_eq_zero whole)]
    omega
  have executes : (state.pages.protections (state.mapped.entryRva / pageSize)).execute = true := by
    rw [(granted _ onPage).execute]
    unfold entryIsExecutable at executable
    rw [List.any_eq_true] at executable
    obtain ⟨header, member, within⟩ := executable
    dsimp only at within
    split at within
    · cases within
    · rename_i reached
      rw [Bool.and_eq_true, decide_eq_true_eq] at within
      exact ⟨header, member, ⟨state.mapped.entryRva, by omega, by omega, rfl⟩, within.2⟩
  refine ⟨executes, ?_⟩
  have apart := invariant.safe.now (state.mapped.entryRva / pageSize)
  unfold Protection.writesAndExecutes at apart
  rwa [executes, Bool.and_true] at apart

/-- In every run over a mapping of an image: what finalization seals has on each page what the
headers and the sections there ask for, given by one call for each page; what it fails on is
readable and writable or tainted; no page is ever writable and executable; nothing is done with a
tainted mapping; and an accepted entry point is on a page that can be executed and not written. -/
theorem images_sealed {context : Type} (image : Image) (pageSize : Nat) (kind : MappingKind)
    (operations : List (Operation context)) :
    let state := (run (operate image pageSize) (beginMapping image kind) operations).state
    let pageCount := state.mapped.allocationSize / pageSize
    (∀ host : PageHost,
      let after := finalizePages image pageSize host state
      (after.1 = .ok → after.2.mapped.protectionsFinalized = true ∧
        (∀ page < pageCount, Granted image pageSize page (after.2.pages.protections page) ∧
          (after.2.pages.protections page).writesAndExecutes = false) ∧
        (state.mapped.protectionsFinalized = true ∧ after.2 = state ∨
          ∃ calls, after.2.pages.calls = state.pages.calls ++ calls ∧
            CoverOnce calls 0 pageCount)) ∧
      (after.1 ≠ .ok → after.2.mapped.storage = .virtualTainted ∨
        ∀ page < pageCount, after.2.pages.protections page = readWrite)) ∧
    state.pages.Safe ∧
    (state.mapped.storage = .virtualTainted → ∀ operation : Operation context,
      operate image pageSize state operation = (state, some .invalidState)) ∧
    (validateTrustedEntry image state.mapped = .ok →
      (state.pages.protections (state.mapped.entryRva / pageSize)).execute = true ∧
        (state.pages.protections (state.mapped.entryRva / pageSize)).write = false) := by
  intro state pageCount
  have invariant : SealInvariant image pageSize state :=
    seal_invariant_run image pageSize kind operations
  refine ⟨fun host => ?_, invariant.safe, fun tainted => tainted_refuses invariant tainted,
    trusted_entry_sealed invariant⟩
  have kept := seal_invariant_finalize invariant host
  rcases finalize_pages_cases invariant host with ⟨tainted, unchanged⟩ | ⟨closed, unchanged⟩ |
    ⟨open_, sound, status, failed, unchanged⟩ |
    ⟨open_, checked, ⟨storage, present, positive, whole⟩, enters⟩
  · rw [unchanged]
    exact ⟨nofun, fun _ => .inl tainted⟩
  · rw [unchanged]
    refine ⟨fun _ => ⟨closed, fun page inside => ?_, .inl ⟨closed, rfl⟩⟩,
      fun failed => absurd rfl failed⟩
    exact ⟨(invariant.sealed closed).2.2.2.2 page inside, invariant.safe.now page⟩
  · rw [unchanged]
    exact ⟨fun done => absurd done failed, fun _ => .inr (invariant.writable open_ sound)⟩
  · obtain ⟨safe, outcome⟩ := @protect_mapping_outcome image state.mapped state.pages host pageSize
      positive invariant.safe
    rw [enters]
    generalize protectMapping image state.mapped host pageSize state.pages = after at safe outcome
    obtain ⟨status, after⟩ := after
    dsimp only at safe outcome ⊢
    cases outcome with
    | sealed pages calls logged once granted =>
      exact ⟨fun _ => ⟨rfl, fun page inside => ⟨granted page inside, safe.now page⟩,
        .inr ⟨calls, logged, once⟩⟩, fun failed => absurd rfl failed⟩
    | restored status failed pages writable =>
      exact ⟨fun done => absurd done failed, fun _ => .inr writable⟩
    | tainted pages => exact ⟨nofun, fun _ => .inl rfl⟩

/-- A 64-bit file that imports the ordinal 5 of `A`. Its entry point is in its one section, which is
to be read and executed. -/
def runnableFile : ByteView where
  data
    | 0 => 0x4d
    | 1 => 0x5a
    | 0x3c => 0x40
    | 0x40 => 0x50
    | 0x41 => 0x45
    | 0x44 => 0x64
    | 0x45 => 0x86
    | 0x46 => 1
    | 0x54 => 0x80
    | 0x58 => 0x0b
    | 0x59 => 0x02
    | 0x69 => 0x10
    | 0x72 => 0x01
    | 0x91 => 0x20
    | 0x95 => 0x02
    | 0xc4 => 2
    | 0xd0 => 0x20
    | 0xd1 => 0x01
    | 0xd4 => 40
    | 0xe0 => 0x10
    | 0xe5 => 0x10
    | 0xe8 => 0x10
    | 0xec => 0xf0
    | 0xed => 0x01
    | 0xfc => 0x20
    | 0xff => 0x60
    | 0x120 => 0x50
    | 0x121 => 0x01
    | 0x12c => 0x70
    | 0x12d => 0x01
    | 0x130 => 0x60
    | 0x131 => 0x01
    | 0x150 => 5
    | 0x157 => 0x80
    | 0x170 => 0x41
    | _ => 0
  size := 0x200

/-- Two pages at the preferred base. -/
def preferredPages : MappingKind := .execution {
  pageSize := 4096
  preferred := some 0x10000
  reservation := none
  prefixUnmapped := true
  suffixUnmapped := true }

def oneAddress : Resolver Unit := fun _ _ => ((.ok, 0x5000), ())

/-- A host that grants every protection. -/
def grantingHost : PageHost where
  sysconf := true
  allocated := true
  protect := fun _ _ => .done
  restore := .done

/-- A mapping of the file with its import bound. -/
def boundFile (image : Image) : PagedImage :=
  (run (operate image 4096) (beginMapping image preferredPages) [.bind oneAddress () true]).state

theorem runnable_file_sealed :
    ∃ image, parse runnableFile = .ok image ∧
      loadLe (boundFile image).mapped.bytes 0x160 8 = 0x5000 ∧
      ∃ after, finalizePages image 4096 grantingHost (boundFile image) = (.ok, after) ∧
        after.pages.protections 0 = { read := true } ∧
        after.pages.protections 1 = { read := true, execute := true } ∧
        (∀ page < 2, Granted image 4096 page (after.pages.protections page)) ∧
        ∃ calls, after.pages.calls = (boundFile image).pages.calls ++ calls ∧
          CoverOnce calls 0 2 := by
  have evaluated : (parse runnableFile).toOption.bind (fun image =>
      let after := finalizePages image 4096 grantingHost (boundFile image)
      some (loadLe (boundFile image).mapped.bytes 0x160 8, (boundFile image).mapped.allocationSize,
        (boundFile image).mapped.protectionsFinalized, after.1, after.2.pages.protections 0,
        after.2.pages.protections 1)) =
      some (0x5000, 0x2000, false, .ok, { read := true }, { read := true, execute := true }) := by
    decide +kernel
  obtain ⟨image, parsed, evaluated⟩ := parse_evaluated evaluated
  simp only [Option.some.injEq, Prod.mk.injEq] at evaluated
  obtain ⟨bound, allocation, open_, ok, first, second⟩ := evaluated
  obtain ⟨done, -⟩ :=
    (images_sealed image 4096 preferredPages [.bind oneAddress () true]).1 grantingHost
  obtain ⟨-, granted, ⟨closed, -⟩ | covered⟩ := done ok
  · exact absurd (open_.symm.trans closed) Bool.false_ne_true
  · have two : (boundFile image).mapped.allocationSize / 4096 = 2 := by rw [allocation]
    refine ⟨image, parsed, bound, _, Prod.ext ok rfl, first, second, fun page inside => ?_, ?_⟩
    · exact (granted page (two.symm ▸ inside)).1
    · rw [← two]
      exact covered

end SadLayer.Loader
