import SadLayer.ExecutionMapping
import SadLayer.Library.BitFields
import SadLayer.Library.Exact

/-! Cutting an aligned allocation out of a larger reservation, with all its
arithmetic watched. -/
namespace SadLayer.Loader
open SadLayer.Library SadLayer.Pe

/-- A range of addresses, as `munmap` is given it. -/
structure Span where
  address : Nat
  size : Nat

def Span.Covers (span : Span) (byte : Nat) : Prop :=
  span.address ≤ byte ∧ byte < span.address + span.size

/-- `round_up_size`, which stops where a word would wrap. -/
def exactRoundUpSize (value alignment : Nat) : Except (Halt Empty) (Option Nat) := do
  let mask ← exactSub alignment 1
  let remainder := value &&& mask
  if remainder = 0 then .ok (some value)
  else do
    let addition ← exactSub alignment remainder
    let last ← exactSub uint64Max addition
    if value > last then .ok none
    else do
      let result ← exactAdd (2 ^ 64) value addition
      .ok (some result)

/-- The unmapping at the end of `map_aligned_address`: what is kept, and what `munmap` is given. -/
def exactUnmapAround (host : MappingHost) (reservation : Span)
    (alignedAddress allocationSize prefixSize suffixSize : Nat) :
    Except (Halt Empty) (Option Nat × List Span) :=
  if prefixSize ≠ 0 ∧ host.prefixUnmapped = false then
    .ok (none, [⟨reservation.address, prefixSize⟩, reservation])
  else
    let before : List Span := if prefixSize = 0 then [] else [⟨reservation.address, prefixSize⟩]
    if suffixSize = 0 then .ok (some alignedAddress, before)
    else do
      let behind ← exactAdd (2 ^ 64) alignedAddress allocationSize
      if host.suffixUnmapped = false then do
        let rest ← exactSub reservation.size prefixSize
        .ok (none, before ++ [⟨behind, suffixSize⟩, ⟨alignedAddress, rest⟩])
      else .ok (some alignedAddress, before ++ [⟨behind, suffixSize⟩])

/-- `map_aligned_address` behind its `mmap`. -/
def exactCutReservation (host : MappingHost) (reservation : Span) (allocationSize alignment : Nat) :
    Except (Halt Empty) (Option Nat × List Span) := do
  let mask ← exactSub alignment 1
  let last ← exactSub uint64Max mask
  if reservation.address > last then .ok (none, [reservation])
  else do
    let sum ← exactAdd (2 ^ 64) reservation.address alignment
    let highest ← exactSub sum 1
    let alignedAddress := highest &&& (uint64Max ^^^ mask)
    let prefixSize ← exactSub alignedAddress reservation.address
    let rest ← exactSub reservation.size prefixSize
    let suffixSize ← exactSub rest allocationSize
    exactUnmapAround host reservation alignedAddress allocationSize prefixSize suffixSize

/-- `map_aligned_address`, which stops where a word would wrap and notes what it unmaps. -/
def exactMapAlignedAddress (host : MappingHost) (allocationSize pageSize alignment : Nat) :
    Except (Halt Empty) (Option Nat × List Span) := do
  let padding ← exactSub alignment pageSize
  let last ← exactSub uint64Max padding
  if allocationSize > last then .ok (none, [])
  else do
    let reservationSize ← exactAdd (2 ^ 64) allocationSize padding
    match host.reservation with
    | none => .ok (none, [])
    | some address => exactCutReservation host ⟨address, reservationSize⟩ allocationSize alignment

/-- The sizes that an aligned mapping is asked for with. -/
structure ReservationSizes (allocationSize pageSize alignment : Nat) : Prop where
  page : pageSize.isPowerOfTwo
  power : alignment.isPowerOfTwo
  le : pageSize ≤ alignment
  whole : pageSize ∣ allocationSize
  alignmentWord : alignment < 2 ^ 64
  allocationWord : allocationSize < 2 ^ 64

/-- What `mmap` promises of a mapping it chooses the place of: it starts with a page, and the
address behind it is one. -/
def MappingHost.Reserves (host : MappingHost) (pageSize size : Nat) : Prop :=
  ∀ address, host.reservation = some address → pageSize ∣ address ∧ address + size < 2 ^ 64

/-- An aligned range of a reservation, and what is unmapped around it. -/
structure CutOut (reservation kept : Span) (pageSize alignment : Nat) (unmapped : List Span) :
    Prop where
  aligned : alignment ∣ kept.address
  inside : reservation.address ≤ kept.address ∧
    kept.address + kept.size ≤ reservation.address + reservation.size
  paged : ∀ span ∈ unmapped, pageSize ∣ span.address ∧ pageSize ∣ span.size
  apart : ∀ span ∈ unmapped, span.address + span.size ≤ kept.address ∨
    kept.address + kept.size ≤ span.address
  sorted : unmapped.Pairwise fun left right => left.address + left.size ≤ right.address
  cover : ∀ byte, reservation.Covers byte ↔
    kept.Covers byte ∨ ∃ span ∈ unmapped, span.Covers byte

/-- What lies around an inner range, before it and behind it, where there is something. -/
def around (reservation kept : Span) : List Span :=
  let prefixSize := kept.address - reservation.address
  [⟨reservation.address, prefixSize⟩,
    ⟨kept.address + kept.size, reservation.size - prefixSize - kept.size⟩].filter (·.size ≠ 0)

section RoundUp
variable {value alignment result : Nat}

theorem and_power (power : alignment.isPowerOfTwo) :
    value &&& (alignment - 1) = value % alignment := by
  obtain ⟨bits, rfl⟩ := power
  exact Nat.and_two_pow_sub_one_eq_mod value bits

theorem round_up_exact (power : alignment.isPowerOfTwo) (word : alignment < 2 ^ 64) :
    exactRoundUpSize value alignment = .ok (roundUpSize value alignment) := by
  have positive : 1 ≤ alignment := Nat.pos_of_isPowerOfTwo power
  have last : uint64Max = 18446744073709551615 := rfl
  have small : value &&& (alignment - 1) ≤ alignment - 1 := Nat.and_le_right
  unfold exactRoundUpSize roundUpSize
  rw [exact_sub_fits positive, ok_bind]
  dsimp only
  by_cases whole : value &&& (alignment - 1) = 0
  · rw [if_pos whole, if_pos whole]
  rw [if_neg whole, if_neg whole, exact_sub_fits (by omega), ok_bind, exact_sub_fits (by omega),
    ok_bind]
  by_cases full : value > uint64Max - (alignment - (value &&& (alignment - 1)))
  · rw [if_pos full, if_pos full]
  · rw [if_neg full, if_neg full, exact_add_fits (by omega), ok_bind]

/-- The least multiple that is not smaller. -/
theorem round_up_least (power : alignment.isPowerOfTwo)
    (rounds : roundUpSize value alignment = some result) :
    alignment ∣ result ∧ value ≤ result ∧ result < value + alignment := by
  have positive := Nat.pos_of_isPowerOfTwo power
  have small := Nat.mod_lt value positive
  have split := Nat.div_add_mod value alignment
  unfold roundUpSize at rounds
  rw [and_power power] at rounds
  dsimp only at rounds
  by_cases whole : value % alignment = 0
  · rw [if_pos whole] at rounds
    cases rounds
    exact ⟨Nat.dvd_of_mod_eq_zero whole, le_refl _, by omega⟩
  rw [if_neg whole] at rounds
  by_cases full : value > uint64Max - (alignment - value % alignment)
  · rw [if_pos full] at rounds
    cases rounds
  rw [if_neg full] at rounds
  cases rounds
  refine ⟨⟨value / alignment + 1, ?_⟩, by omega, by omega⟩
  rw [Nat.mul_add, Nat.mul_one]
  omega

theorem round_up_word (alignmentWord : alignment < 2 ^ 64) (word : value < 2 ^ 64)
    (rounds : roundUpSize value alignment = some result) : result < 2 ^ 64 := by
  have last : uint64Max = 18446744073709551615 := rfl
  unfold roundUpSize at rounds
  dsimp only at rounds
  split at rounds
  · cases rounds
    exact word
  split at rounds
  · cases rounds
  · cases rounds
    omega

/-- Rounding fails only where no multiple is left in a word. -/
theorem round_up_full (power : alignment.isPowerOfTwo) (word : alignment < 2 ^ 64)
    (full : roundUpSize value alignment = none) (multiple : Nat) (dvd : alignment ∣ multiple)
    (le : value ≤ multiple) : 2 ^ 64 ≤ multiple := by
  have positive := Nat.pos_of_isPowerOfTwo power
  have last : uint64Max = 18446744073709551615 := rfl
  have small := Nat.mod_lt value positive
  have split := Nat.div_add_mod value alignment
  unfold roundUpSize at full
  rw [and_power power] at full
  dsimp only at full
  by_cases whole : value % alignment = 0
  · rw [if_pos whole] at full
    cases full
  rw [if_neg whole] at full
  by_cases above : value > uint64Max - (alignment - value % alignment)
  · obtain ⟨factor, rfl⟩ := dvd
    have more : value / alignment + 1 ≤ factor := by
      apply Nat.lt_of_mul_lt_mul_left (a := alignment)
      omega
    have scaled := Nat.mul_le_mul_left alignment more
    rw [Nat.mul_add, Nat.mul_one] at scaled
    omega
  · rw [if_neg above] at full
    cases full

end RoundUp

section Cut
variable {host : MappingHost} {allocationSize pageSize alignment address : Nat}

/-- The first multiple of the alignment behind an address. -/
def alignUp (address alignment : Nat) : Nat :=
  (address + alignment - 1) / alignment * alignment

theorem ReservationSizes.dvd (sizes : ReservationSizes allocationSize pageSize alignment) :
    pageSize ∣ alignment := by
  have le := sizes.le
  obtain ⟨page, rfl⟩ := sizes.page
  obtain ⟨power, rfl⟩ := sizes.power
  exact Nat.pow_dvd_pow 2 ((Nat.pow_le_pow_iff_right (by decide)).mp le)

/-- Both ends are of whole pages, so what is skipped is a page less than the alignment. -/
theorem align_up_padding (sizes : ReservationSizes allocationSize pageSize alignment)
    (paged : pageSize ∣ address) :
    address ≤ alignUp address alignment ∧
      alignUp address alignment ≤ address + (alignment - pageSize) ∧
      alignment ∣ alignUp address alignment ∧ pageSize ∣ alignUp address alignment := by
  have positive := Nat.pos_of_isPowerOfTwo sizes.power
  have split := Nat.div_add_mod' (address + alignment - 1) alignment
  have small := Nat.mod_lt (address + alignment - 1) positive
  have le := sizes.le
  have dvd := sizes.dvd
  have aligned : alignment ∣ alignUp address alignment := Nat.dvd_mul_left ..
  have pages : pageSize ∣ alignUp address alignment := dvd.trans aligned
  have page := Nat.pos_of_isPowerOfTwo sizes.page
  have skipped : pageSize ≤ address + alignment - alignUp address alignment := by
    apply Nat.le_of_dvd
    · unfold alignUp
      omega
    · exact Nat.dvd_sub (Nat.dvd_add paged dvd) pages
  refine ⟨?_, by omega, aligned, pages⟩
  unfold alignUp
  omega

theorem mem_around {reservation kept span : Span} : span ∈ around reservation kept ↔
    (span = ⟨reservation.address, kept.address - reservation.address⟩ ∨
      span = ⟨kept.address + kept.size,
        reservation.size - (kept.address - reservation.address) - kept.size⟩) ∧ span.size ≠ 0 := by
  simp [around]

/-- What lies around an inner range of whole pages cuts it out. -/
theorem around_cuts_out {reservation kept : Span} (aligned : alignment ∣ kept.address)
    (first : reservation.address ≤ kept.address)
    (last : kept.address + kept.size ≤ reservation.address + reservation.size)
    (reservationPaged : pageSize ∣ reservation.address ∧ pageSize ∣ reservation.size)
    (keptPaged : pageSize ∣ kept.address ∧ pageSize ∣ kept.size) :
    CutOut reservation kept pageSize alignment (around reservation kept) where
  aligned := aligned
  inside := ⟨first, last⟩
  paged := by
    intro span member
    have skipped := Nat.dvd_sub keptPaged.1 reservationPaged.1
    rcases (mem_around.mp member).1 with rfl | rfl
    · exact ⟨reservationPaged.1, skipped⟩
    · exact ⟨Nat.dvd_add keptPaged.1 keptPaged.2,
        Nat.dvd_sub (Nat.dvd_sub reservationPaged.2 skipped) keptPaged.2⟩
  apart := by
    intro span member
    rcases (mem_around.mp member).1 with rfl | rfl
    · exact .inl (Nat.add_sub_of_le first).le
    · exact .inr (le_refl _)
  sorted := by
    apply List.Pairwise.filter
    have le := Nat.add_sub_of_le first
    simp
    omega
  cover := by
    intro byte
    constructor
    · rintro ⟨low, high⟩
      by_cases before : byte < kept.address
      · refine .inr ⟨_, mem_around.mpr ⟨.inl rfl, ?_⟩, low, ?_⟩ <;> dsimp only <;> omega
      · by_cases within : byte < kept.address + kept.size
        · exact .inl ⟨by omega, within⟩
        · refine .inr ⟨_, mem_around.mpr ⟨.inr rfl, ?_⟩, ?_, ?_⟩ <;> dsimp only <;> omega
    · rintro (⟨low, high⟩ | ⟨span, member, low, high⟩)
      · exact ⟨by omega, by omega⟩
      · rcases (mem_around.mp member).1 with rfl | rfl <;> dsimp only at low high <;>
          exact ⟨by omega, by omega⟩

/-- What is left of a reservation when the host has unmapped around an address. -/
def keptAddress (host : MappingHost) (prefixSize suffixSize alignedAddress : Nat) : Option Nat :=
  if prefixSize ≠ 0 ∧ host.prefixUnmapped = false then none
  else if suffixSize ≠ 0 ∧ host.suffixUnmapped = false then none
  else some alignedAddress

theorem kept_address_some {prefixSize suffixSize alignedAddress kept : Nat}
    (keeps : keptAddress host prefixSize suffixSize alignedAddress = some kept) :
    kept = alignedAddress := by
  unfold keptAddress at keeps
  split at keeps
  · cases keeps
  split at keeps
  · cases keeps
  · cases keeps
    rfl

theorem map_aligned_address_eq : mapAlignedAddress host allocationSize pageSize alignment =
    if allocationSize > uint64Max - (alignment - pageSize) then none
    else host.reservation.bind fun address =>
      if address > uint64Max - (alignment - 1) then none
      else
        let prefixSize := alignUp address alignment - address
        keptAddress host prefixSize
          (allocationSize + (alignment - pageSize) - prefixSize - allocationSize)
          (alignUp address alignment) := by
  unfold mapAlignedAddress
  dsimp only
  cases host.reservation <;> rfl

/-- The unmapping keeps the aligned range unless `munmap` fails, and gives it what lies around. -/
theorem exact_unmap_around {reservation kept : Span} {prefixSize suffixSize : Nat}
    (prefixed : prefixSize = kept.address - reservation.address)
    (suffixed : suffixSize = reservation.size - prefixSize - kept.size)
    (le : prefixSize ≤ reservation.size) (word : kept.address + kept.size < 2 ^ 64) :
    ∃ unmapped, exactUnmapAround host reservation kept.address kept.size prefixSize suffixSize =
        .ok (keptAddress host prefixSize suffixSize kept.address, unmapped) ∧
      (keptAddress host prefixSize suffixSize kept.address ≠ none →
        unmapped = around reservation kept) := by
  have before : around reservation kept =
      (if prefixSize = 0 then [] else [⟨reservation.address, prefixSize⟩]) ++
        if suffixSize = 0 then [] else [⟨kept.address + kept.size, suffixSize⟩] := by
    unfold around
    dsimp only
    rw [← prefixed, ← suffixed]
    by_cases first : prefixSize = 0 <;> by_cases second : suffixSize = 0 <;> simp [first, second]
  unfold exactUnmapAround keptAddress
  by_cases stuck : prefixSize ≠ 0 ∧ host.prefixUnmapped = false
  · rw [if_pos stuck, if_pos stuck]
    exact ⟨_, rfl, fun some => absurd rfl some⟩
  rw [if_neg stuck, if_neg stuck]
  dsimp only
  by_cases nothing : suffixSize = 0
  · have free : ¬(suffixSize ≠ 0 ∧ host.suffixUnmapped = false) := fun both => both.1 nothing
    rw [if_pos nothing, if_neg free]
    refine ⟨_, rfl, fun _ => ?_⟩
    rw [before, if_pos nothing, List.append_nil]
  rw [if_neg nothing, exact_add_fits word, ok_bind]
  by_cases stays : host.suffixUnmapped = false
  · have taken : suffixSize ≠ 0 ∧ host.suffixUnmapped = false := ⟨nothing, stays⟩
    rw [if_pos stays, if_pos taken, exact_sub_fits le, ok_bind]
    exact ⟨_, rfl, fun some => absurd rfl some⟩
  · have free : ¬(suffixSize ≠ 0 ∧ host.suffixUnmapped = false) := fun both => stays both.2
    rw [if_neg stays, if_neg free]
    refine ⟨_, rfl, fun _ => ?_⟩
    rw [before, if_neg nothing]

/-- The mask of the source rounds up. -/
theorem mask_aligns (power : alignment.isPowerOfTwo) (word : alignment < 2 ^ 64)
    (fits : address + alignment < 2 ^ 64) :
    address + alignment - 1 &&& (uint64Max ^^^ (alignment - 1)) = alignUp address alignment := by
  obtain ⟨bits, rfl⟩ := power
  have narrow : bits < 64 := (Nat.pow_lt_pow_iff_right (by decide)).mp word
  exact and_not_low narrow.le (by omega)

/-- Behind `mmap` no address leaves the word, when neither the address behind the reservation nor
the first that is rounded down does. -/
theorem exact_cut_reservation {reservation : Span} {prefixSize suffixSize : Nat}
    (sizes : ReservationSizes allocationSize pageSize alignment)
    (paged : pageSize ∣ reservation.address) (fits : reservation.address + alignment < 2 ^ 64)
    (sized : reservation.size = allocationSize + (alignment - pageSize))
    (placed : reservation.address + reservation.size < 2 ^ 64)
    (prefixed : prefixSize = alignUp reservation.address alignment - reservation.address)
    (suffixed : suffixSize = reservation.size - prefixSize - allocationSize) :
    ∃ unmapped, exactCutReservation host reservation allocationSize alignment =
        .ok (keptAddress host prefixSize suffixSize (alignUp reservation.address alignment),
          unmapped) ∧
      (keptAddress host prefixSize suffixSize (alignUp reservation.address alignment) ≠ none →
        unmapped = around reservation ⟨alignUp reservation.address alignment, allocationSize⟩) := by
  obtain ⟨low, high, -, -⟩ := align_up_padding sizes paged
  have positive : 1 ≤ alignment := Nat.pos_of_isPowerOfTwo sizes.power
  have page := Nat.pos_of_isPowerOfTwo sizes.page
  have le := sizes.le
  have last : uint64Max = 18446744073709551615 := rfl
  unfold exactCutReservation
  rw [exact_sub_fits positive, ok_bind, exact_sub_fits (by omega), ok_bind, if_neg (by omega),
    exact_add_fits (by omega), ok_bind, exact_sub_fits (by omega), ok_bind]
  dsimp only
  rw [mask_aligns sizes.power sizes.alignmentWord (by omega), exact_sub_fits low, ok_bind,
    exact_sub_fits (by omega), ok_bind, exact_sub_fits (by omega), ok_bind, ← prefixed, ← suffixed]
  have word : alignUp reservation.address alignment + allocationSize < 2 ^ 64 := by omega
  exact @exact_unmap_around _ _ ⟨alignUp reservation.address alignment, allocationSize⟩ _ _
    prefixed suffixed (by omega) word

theorem map_aligned_some {kept : Nat}
    (maps : mapAlignedAddress host allocationSize pageSize alignment = some kept) :
    ∃ reservation, host.reservation = some reservation ∧ kept = alignUp reservation alignment := by
  rw [map_aligned_address_eq] at maps
  split at maps
  · cases maps
  obtain ⟨reservation, some, keeps⟩ := Option.bind_eq_some_iff.mp maps
  refine ⟨reservation, some, ?_⟩
  split at keeps
  · cases keeps
  · exact kept_address_some keeps

/-- The address that is rounded down fits a word, but for an empty range at the last multiple of
the alignment: pages end with the addresses. -/
theorem round_down_fits (sizes : ReservationSizes allocationSize pageSize alignment)
    (paged : pageSize ∣ address)
    (placed : address + (allocationSize + (alignment - pageSize)) < 2 ^ 64)
    (inside : ¬(allocationSize = 0 ∧ address = 2 ^ 64 - alignment)) :
    address + alignment < 2 ^ 64 := by
  have word := sizes.alignmentWord
  have le := sizes.le
  have page := Nat.pos_of_isPowerOfTwo sizes.page
  rcases Nat.eq_zero_or_pos allocationSize with empty | nonempty
  · have pages : pageSize ∣ 2 ^ 64 := by
      obtain ⟨bits, rfl⟩ := sizes.page
      exact Nat.pow_dvd_pow 2 ((Nat.pow_lt_pow_iff_right (by decide)).mp (le.trans_lt word)).le
    have whole : pageSize ∣ 2 ^ 64 - (address + (alignment - pageSize)) :=
      Nat.dvd_sub pages (Nat.dvd_add paged (Nat.dvd_sub sizes.dvd (dvd_refl _)))
    have room := Nat.le_of_dvd (by omega) whole
    have elsewhere : address ≠ 2 ^ 64 - alignment := fun last => inside ⟨empty, last⟩
    omega
  · have room := Nat.le_of_dvd nonempty sizes.whole
    omega

/-- An empty range at the last multiple of the alignment: the sum behind it is beyond the word. -/
theorem exact_map_aligned_wraps (sizes : ReservationSizes 0 pageSize alignment)
    (returned : host.reservation = some (2 ^ 64 - alignment)) :
    exactMapAlignedAddress host 0 pageSize alignment = .error .wrapped := by
  have word := sizes.alignmentWord
  have positive : 1 ≤ alignment := Nat.pos_of_isPowerOfTwo sizes.power
  have last : uint64Max = 18446744073709551615 := rfl
  have beyond : exactAdd (ε := Empty) (2 ^ 64) (2 ^ 64 - alignment) alignment = .error .wrapped :=
    if_neg (by omega)
  unfold exactMapAlignedAddress
  rw [exact_sub_fits sizes.le, ok_bind, exact_sub_fits (by omega), ok_bind, if_neg (by omega),
    exact_add_fits (by omega), ok_bind, returned]
  dsimp only
  unfold exactCutReservation
  rw [exact_sub_fits positive, ok_bind, exact_sub_fits (by omega), ok_bind,
    if_neg (by dsimp only; omega), beyond]
  rfl

theorem exact_map_aligned (sizes : ReservationSizes allocationSize pageSize alignment)
    (reserves : host.Reserves pageSize (allocationSize + (alignment - pageSize)))
    (inside : ¬(allocationSize = 0 ∧ host.reservation = some (2 ^ 64 - alignment))) :
    ∃ unmapped, exactMapAlignedAddress host allocationSize pageSize alignment =
        .ok (mapAlignedAddress host allocationSize pageSize alignment, unmapped) ∧
      ∀ kept reservation, mapAlignedAddress host allocationSize pageSize alignment = some kept →
        host.reservation = some reservation →
        unmapped = around ⟨reservation, allocationSize + (alignment - pageSize)⟩
          ⟨kept, allocationSize⟩ := by
  have word := sizes.alignmentWord
  have positive : 1 ≤ alignment := Nat.pos_of_isPowerOfTwo sizes.power
  have last : uint64Max = 18446744073709551615 := rfl
  rw [map_aligned_address_eq]
  unfold exactMapAlignedAddress
  rw [exact_sub_fits sizes.le, ok_bind, exact_sub_fits (by omega), ok_bind]
  by_cases full : allocationSize > uint64Max - (alignment - pageSize)
  · rw [if_pos full, if_pos full]
    exact ⟨_, rfl, fun _ _ some => by cases some⟩
  rw [if_neg full, if_neg full, exact_add_fits (by omega), ok_bind]
  cases returned : host.reservation with
  | none => exact ⟨_, rfl, fun _ _ some => by cases some⟩
  | some address =>
    obtain ⟨paged, placed⟩ := reserves address returned
    have fits := round_down_fits sizes paged placed
      fun last => inside ⟨last.1, returned.trans (congrArg some last.2)⟩
    have below : ¬address > uint64Max - (alignment - 1) := by omega
    obtain ⟨unmapped, computes, spans⟩ := @exact_cut_reservation host allocationSize pageSize
      alignment ⟨address, allocationSize + (alignment - pageSize)⟩ _ _ sizes paged fits rfl
      placed rfl rfl
    rw [Option.bind_some, if_neg below]
    refine ⟨unmapped, computes, fun kept reservation keeps same => ?_⟩
    cases same
    have filled : keptAddress host (alignUp address alignment - address)
        (allocationSize + (alignment - pageSize) - (alignUp address alignment - address) -
          allocationSize) (alignUp address alignment) ≠ none := by
      rw [keeps]
      exact Option.some_ne_none _
    rw [kept_address_some keeps]
    exact spans filled

theorem map_aligned_cuts_out {kept : Nat}
    (sizes : ReservationSizes allocationSize pageSize alignment)
    (reserves : host.Reserves pageSize (allocationSize + (alignment - pageSize)))
    (maps : mapAlignedAddress host allocationSize pageSize alignment = some kept) :
    ∃ reservation, host.reservation = some reservation ∧
      CutOut ⟨reservation, allocationSize + (alignment - pageSize)⟩ ⟨kept, allocationSize⟩
        pageSize alignment
        (around ⟨reservation, allocationSize + (alignment - pageSize)⟩ ⟨kept, allocationSize⟩) := by
  obtain ⟨reservation, returned, rfl⟩ := map_aligned_some maps
  obtain ⟨paged, placed⟩ := reserves reservation returned
  obtain ⟨low, high, aligned, keptPaged⟩ := align_up_padding sizes paged
  have padded : pageSize ∣ alignment - pageSize := Nat.dvd_sub sizes.dvd (dvd_refl _)
  refine ⟨reservation, returned, around_cuts_out aligned low ?_
    ⟨paged, Nat.dvd_add sizes.whole padded⟩ ⟨keptPaged, sizes.whole⟩⟩
  dsimp only
  omega

/-- What is to be unmapped around an aligned mapping. -/
theorem map_aligned_cuts (sizes : ReservationSizes allocationSize pageSize alignment)
    (reserves : host.Reserves pageSize (allocationSize + (alignment - pageSize))) :
    ∃ unmapped, ∀ kept, mapAlignedAddress host allocationSize pageSize alignment = some kept →
      ∃ reservation, host.reservation = some reservation ∧
        CutOut ⟨reservation, allocationSize + (alignment - pageSize)⟩ ⟨kept, allocationSize⟩
          pageSize alignment unmapped := by
  cases maps : mapAlignedAddress host allocationSize pageSize alignment with
  | none => exact ⟨[], fun _ some => by cases some⟩
  | some kept =>
    obtain ⟨reservation, returned, cuts⟩ := map_aligned_cuts_out sizes reserves maps
    refine ⟨around ⟨reservation, allocationSize + (alignment - pageSize)⟩ ⟨kept, allocationSize⟩,
      fun _ same => ?_⟩
    cases same
    exact ⟨reservation, returned, cuts⟩

/-- What `sl_loader_map_image_for_execution` asks for: whole pages, and the larger of two powers. -/
theorem execution_sizes {image : Image} {value : Int} (word : image.imageSize < 2 ^ 32)
    (valid : validateMapping image = .ok)
    (page : hostPageSize value = .ok pageSize)
    (rounds : roundUpSize image.imageSize pageSize = some allocationSize) :
    ReservationSizes allocationSize pageSize (max allocationGranularity pageSize) ∧
      0 < allocationSize := by
  have last : uint64Max = 18446744073709551615 := rfl
  have granularity : allocationGranularity.isPowerOfTwo := ⟨16, rfl⟩
  have filled : 0 < image.imageSize := by
    unfold validateMapping at valid
    split at valid
    · cases valid
    · omega
  unfold hostPageSize at page
  split at page
  · cases page
  rename_i accepted
  cases page
  have power : value.toNat.isPowerOfTwo :=
    (Nat.and_sub_one_eq_zero_iff_isPowerOfTwo (by omega)).mp (by omega)
  obtain ⟨whole, le, -⟩ := round_up_least power rounds
  have allocated := round_up_word (by omega) (by omega) rounds
  refine ⟨⟨power, ?_, Nat.le_max_right .., whole, ?_, allocated⟩, filled.trans_le le⟩
  · rcases Nat.le_total value.toNat allocationGranularity with small | large
    · rw [Nat.max_eq_left small]
      exact granularity
    · rw [Nat.max_eq_right large]
      exact power
  · exact Nat.max_lt.mpr ⟨by decide, by omega⟩

/-- The caller asks for something, so that no word wraps on its way, whatever `mmap` returns. -/
theorem execution_reservation {image : Image} (word : image.imageSize < 2 ^ 32)
    (valid : validateMapping image = .ok)
    (page : hostPageSize host.pageSize = .ok pageSize)
    (rounds : roundUpSize image.imageSize pageSize = some allocationSize)
    (reserves : host.Reserves pageSize
      (allocationSize + (max allocationGranularity pageSize - pageSize))) :
    exactRoundUpSize image.imageSize pageSize = .ok (some allocationSize) ∧
      ∃ unmapped, exactMapAlignedAddress host allocationSize pageSize
          (max allocationGranularity pageSize) =
        .ok (mapAlignedAddress host allocationSize pageSize
          (max allocationGranularity pageSize), unmapped) := by
  obtain ⟨sizes, nonempty⟩ := execution_sizes word valid page rounds
  obtain ⟨unmapped, computes, -⟩ :=
    exact_map_aligned sizes reserves fun empty => nonempty.ne' empty.1
  refine ⟨?_, unmapped, computes⟩
  rw [round_up_exact sizes.page (sizes.le.trans_lt sizes.alignmentWord), rounds]

/-- An aligned mapping is a multiple of the alignment and lies in its reservation, and what is
unmapped around it is whole pages and the rest of the reservation. No word wraps when a size is
rounded up; on the way to the mapping one does exactly where nothing is to be mapped and the
reservation starts at the last multiple of the alignment. -/
theorem aligned_reservation (host : MappingHost) (allocationSize pageSize alignment : Nat)
    (sizes : ReservationSizes allocationSize pageSize alignment)
    (reserves : host.Reserves pageSize (allocationSize + (alignment - pageSize))) :
    (∃ unmapped,
      (exactMapAlignedAddress host allocationSize pageSize alignment =
          .ok (mapAlignedAddress host allocationSize pageSize alignment, unmapped) ↔
        ¬(allocationSize = 0 ∧ host.reservation = some (2 ^ 64 - alignment))) ∧
      ∀ address, mapAlignedAddress host allocationSize pageSize alignment = some address →
        ∃ reservation, host.reservation = some reservation ∧
          CutOut ⟨reservation, allocationSize + (alignment - pageSize)⟩ ⟨address, allocationSize⟩
            pageSize alignment unmapped) ∧
      ∀ value, exactRoundUpSize value alignment = .ok (roundUpSize value alignment) ∧
        (∀ result, roundUpSize value alignment = some result →
          alignment ∣ result ∧ value ≤ result ∧ result < value + alignment) ∧
        (roundUpSize value alignment = none →
          ∀ multiple, alignment ∣ multiple → value ≤ multiple → 2 ^ 64 ≤ multiple) := by
  refine ⟨?_, fun value => ⟨round_up_exact sizes.power sizes.alignmentWord,
    fun _ rounds => round_up_least sizes.power rounds,
    fun full _ dvd le => round_up_full sizes.power sizes.alignmentWord full _ dvd le⟩⟩
  by_cases last : allocationSize = 0 ∧ host.reservation = some (2 ^ 64 - alignment)
  · obtain ⟨unmapped, cuts⟩ := map_aligned_cuts sizes reserves
    refine ⟨unmapped, iff_of_false ?_ (not_not.mpr last), cuts⟩
    obtain ⟨rfl, returned⟩ := last
    rw [exact_map_aligned_wraps sizes returned]
    exact fun wrapped => by cases wrapped
  · obtain ⟨unmapped, computes, spans⟩ := exact_map_aligned sizes reserves last
    refine ⟨unmapped, iff_of_true computes last, fun kept maps => ?_⟩
    obtain ⟨reservation, returned, cuts⟩ := map_aligned_cuts_out sizes reserves maps
    rw [spans kept reservation maps returned]
    exact ⟨reservation, returned, cuts⟩

/-- A reservation that starts with its second page leaves fifteen pages before the aligned range. -/
theorem aligned_reservation_at_page :
    mapAlignedAddress ⟨4096, none, some 0x11000, true, true⟩ 0x2000 0x1000 0x10000 =
        some 0x20000 ∧
      ∃ unmapped, exactMapAlignedAddress ⟨4096, none, some 0x11000, true, true⟩ 0x2000 0x1000
          0x10000 = .ok (some 0x20000, unmapped) ∧
        CutOut ⟨0x11000, 0x11000⟩ ⟨0x20000, 0x2000⟩ 0x1000 0x10000 unmapped := by
  have maps : mapAlignedAddress ⟨4096, none, some 0x11000, true, true⟩ 0x2000 0x1000 0x10000 =
      some 0x20000 := by decide
  obtain ⟨⟨unmapped, computes, cuts⟩, -⟩ := aligned_reservation
    ⟨4096, none, some 0x11000, true, true⟩ 0x2000 0x1000 0x10000
    ⟨⟨12, rfl⟩, ⟨16, rfl⟩, by decide, ⟨2, rfl⟩, by decide, by decide⟩
    (fun address returned => by
      cases returned
      exact ⟨⟨17, rfl⟩, by decide⟩)
  obtain ⟨reservation, returned, cut⟩ := cuts _ maps
  cases returned
  have computed := computes.mpr fun empty => absurd empty.1 (by decide)
  rw [maps] at computed
  exact ⟨maps, unmapped, computed, cut⟩

end Cut

end SadLayer.Loader
