import SadLayer.FindFile
import SadLayer.Library.Exact

/-! File times. They count tenths of microseconds since 1601 in a word, and give
times before and far behind that as its ends. -/
namespace SadLayer.Search
open SadLayer.Library SadLayer.Unicode

def exactSubsecond (nanoseconds : Int) : Except (Halt Empty) Nat :=
  if nanoseconds ≤ 0 then .ok 0
  else do
    let positive ← exactUnsigned nanoseconds
    .ok (positive / 100)

/-- The end of `timespec_to_filetime`, behind the seconds since 1601. -/
def exactTicks (nanoseconds : Int) (seconds : Nat) : Except (Halt Empty) Nat :=
  if seconds > uint64Max / filetimeTicksPerSecond then .ok uint64Max
  else do
    let ticks ← exactMul (2 ^ 64) seconds filetimeTicksPerSecond
    let subsecond ← exactSubsecond nanoseconds
    let room ← exactSub uint64Max subsecond
    if ticks > room then .ok uint64Max else exactAdd (2 ^ 64) ticks subsecond

/-- `timespec_to_filetime`, which stops where its arithmetic would leave `int64_t` or
`uint64_t`. -/
def exactTimespecToFiletime (value : Timespec) : Except (Halt Empty) Nat :=
  if value.seconds < -(filetimeUnixEpochDelta : Int) then .ok 0
  else if value.seconds < 0 then do
    let sum ← exactAddSigned (2 ^ 63) value.seconds filetimeUnixEpochDelta
    let seconds ← exactUnsigned sum
    exactTicks value.nanoseconds seconds
  else do
    let unixSeconds ← exactUnsigned value.seconds
    let last ← exactSub uint64Max filetimeUnixEpochDelta
    if unixSeconds > last then .ok uint64Max
    else do
      let seconds ← exactAdd (2 ^ 64) unixSeconds filetimeUnixEpochDelta
      exactTicks value.nanoseconds seconds

/-- A time as `int64_t` seconds, with less than a second of nanoseconds. -/
structure Timespec.Normal (value : Timespec) : Prop where
  least : -2 ^ 63 ≤ value.seconds
  greatest : value.seconds < 2 ^ 63
  nonneg : 0 ≤ value.nanoseconds
  small : value.nanoseconds < 10 ^ 9

/-- The whole tenths of microseconds since 1601. -/
def Timespec.ticks (value : Timespec) : Int :=
  (value.seconds + 11644473600) * 10 ^ 7 + value.nanoseconds / 100

def Timespec.NotAfter (earlier later : Timespec) : Prop :=
  earlier.seconds < later.seconds ∨
    (earlier.seconds = later.seconds ∧ earlier.nanoseconds ≤ later.nanoseconds)

/-- The nearest value that a word holds. -/
def clamped (value : Int) : Int := max 0 (min value (2 ^ 64 - 1))

theorem clamped_mono {left right : Int} (le : left ≤ right) : clamped left ≤ clamped right :=
  max_le_max_left 0 (min_le_min_right _ le)

section Times
variable {value earlier later : Timespec} {nanoseconds : Int} {seconds : Nat}

theorem ticks_mono (normal : earlier.Normal) (normal' : later.Normal)
    (notAfter : earlier.NotAfter later) : earlier.ticks ≤ later.ticks := by
  have nonneg := normal'.nonneg
  have small := normal.small
  unfold Timespec.ticks
  rcases notAfter with before | ⟨same, le⟩ <;> omega

theorem exact_subsecond_fits (nonneg : 0 ≤ nanoseconds) :
    exactSubsecond nanoseconds = .ok (nanoseconds / 100).toNat := by
  unfold exactSubsecond
  split
  · have zero : nanoseconds = 0 := by omega
    rw [zero]
    rfl
  · rw [exact_unsigned_fits nonneg, ok_bind]
    exact congrArg Except.ok (by omega)

/-- Behind the first guard no step leaves the word. -/
theorem exact_ticks_fits (nonneg : 0 ≤ nanoseconds) (small : nanoseconds < 10 ^ 9) :
    exactTicks nanoseconds seconds =
      .ok (if seconds > uint64Max / filetimeTicksPerSecond then uint64Max
        else if seconds * filetimeTicksPerSecond > uint64Max - (nanoseconds / 100).toNat
        then uint64Max
        else seconds * filetimeTicksPerSecond + (nanoseconds / 100).toNat) := by
  have whole : uint64Max / filetimeTicksPerSecond = 1844674407370 := rfl
  have last : uint64Max = 18446744073709551615 := rfl
  have product : seconds * filetimeTicksPerSecond = seconds * 10000000 := rfl
  unfold exactTicks
  by_cases far : seconds > uint64Max / filetimeTicksPerSecond
  · rw [if_pos far, if_pos far]
  · rw [if_neg far, if_neg far, exact_mul_fits (by omega), ok_bind, exact_subsecond_fits nonneg,
      ok_bind, exact_sub_fits (by omega), ok_bind]
    by_cases full : seconds * filetimeTicksPerSecond > uint64Max - (nanoseconds / 100).toNat
    · rw [if_pos full, if_pos full]
    · rw [if_neg full, if_neg full, exact_add_fits (by omega)]

/-- The two guards cut the sum where the word ends. -/
theorem exact_ticks_clamped (nonneg : 0 ≤ nanoseconds) (small : nanoseconds < 10 ^ 9) :
    exactTicks nanoseconds seconds =
      .ok (clamped (seconds * 10 ^ 7 + nanoseconds / 100)).toNat := by
  have whole : uint64Max / filetimeTicksPerSecond = 1844674407370 := rfl
  have last : uint64Max = 18446744073709551615 := rfl
  have product : seconds * filetimeTicksPerSecond = seconds * 10000000 := rfl
  rw [exact_ticks_fits nonneg small]
  refine congrArg Except.ok ?_
  unfold clamped
  split
  · omega
  split <;> omega

theorem exact_timespec_clamped (normal : value.Normal) :
    exactTimespecToFiletime value = .ok (clamped value.ticks).toNat := by
  obtain ⟨least, greatest, nonneg, small⟩ := normal
  have last : uint64Max = 18446744073709551615 := rfl
  have delta : filetimeUnixEpochDelta = 11644473600 := rfl
  have ticks (seconds : Nat) (same : (seconds : Int) = value.seconds + 11644473600) :
      exactTicks value.nanoseconds seconds = .ok (clamped value.ticks).toNat := by
    rw [exact_ticks_clamped nonneg small, same]
    rfl
  unfold exactTimespecToFiletime
  by_cases early : value.seconds < -(filetimeUnixEpochDelta : Int)
  · rw [if_pos early]
    exact congrArg Except.ok (by unfold clamped Timespec.ticks; omega)
  by_cases before : value.seconds < 0
  · rw [if_neg early, if_pos before, exact_add_signed_fits (by omega), ok_bind,
      exact_unsigned_fits (by omega), ok_bind]
    exact ticks _ (by omega)
  · rw [if_neg early, if_neg before, exact_unsigned_fits (by omega), ok_bind,
      exact_sub_fits (by omega), ok_bind, if_neg (by omega), exact_add_fits (by omega), ok_bind]
    exact ticks _ (by omega)

/-- `timespec_to_filetime` computes what it computes with its arithmetic watched. -/
theorem timespec_exact (normal : value.Normal) :
    exactTimespecToFiletime value = .ok (timespecToFiletime value) := by
  obtain ⟨least, greatest, nonneg, small⟩ := normal
  have last : uint64Max = 18446744073709551615 := rfl
  have delta : filetimeUnixEpochDelta = 11644473600 := rfl
  have subsecond : (if value.nanoseconds ≤ 0 then 0 else value.nanoseconds.toNat / 100) =
      (value.nanoseconds / 100).toNat := by
    split <;> omega
  unfold exactTimespecToFiletime timespecToFiletime
  dsimp only
  rw [subsecond]
  by_cases early : value.seconds < -(filetimeUnixEpochDelta : Int)
  · rw [if_pos early, if_pos early]
  by_cases before : value.seconds < 0
  · rw [if_neg early, if_neg early, if_pos before, if_pos before,
      exact_add_signed_fits (by omega), ok_bind, exact_unsigned_fits (by omega), ok_bind]
    exact exact_ticks_fits nonneg small
  · rw [if_neg early, if_neg early, if_neg before, if_neg before, exact_unsigned_fits (by omega),
      ok_bind, exact_sub_fits (by omega), ok_bind, if_neg (by omega), if_neg (by omega),
      exact_add_fits (by omega), ok_bind]
    exact exact_ticks_fits nonneg small

theorem timespec_clamped (normal : value.Normal) :
    (timespecToFiletime value : Int) = clamped value.ticks := by
  have same : Except.ok (timespecToFiletime value) = Except.ok (clamped value.ticks).toNat :=
    (timespec_exact normal).symm.trans (exact_timespec_clamped normal)
  injection same with same
  rw [same]
  exact Int.toNat_of_nonneg (le_max_left ..)

/-- The conversion is exact but for the ends of the word, never overflows on the way, and keeps
the order of times. -/
theorem filetime_clamped (value : Timespec) (normal : value.Normal) :
    exactTimespecToFiletime value = .ok (timespecToFiletime value) ∧
      (timespecToFiletime value : Int) = clamped value.ticks ∧
      ∀ later : Timespec, later.Normal → value.NotAfter later →
        timespecToFiletime value ≤ timespecToFiletime later := by
  refine ⟨timespec_exact normal, timespec_clamped normal, fun later normal' notAfter => ?_⟩
  rw [← Int.ofNat_le, timespec_clamped normal, timespec_clamped normal']
  exact clamped_mono (ticks_mono normal normal' notAfter)

/-- The last tick before 1970 and the first behind it. -/
theorem filetime_clamped_at_epoch :
    (timespecToFiletime ⟨-1, 999999999⟩ : Int) = 116444735999999999 ∧
      timespecToFiletime ⟨-1, 999999999⟩ ≤ timespecToFiletime ⟨0, 0⟩ := by
  obtain ⟨-, value, mono⟩ := filetime_clamped ⟨-1, 999999999⟩ (by constructor <;> decide)
  exact ⟨value, mono ⟨0, 0⟩ (by constructor <;> decide) (.inl (by decide))⟩

end Times

end SadLayer.Search
