import CacheDepot.Proofs.Buffer.Budget
import CacheDepot.Proofs.Buffer.Reservation
import Mathlib.Order.Bounds.Defs

/-!
# Sizes in machine words

The number of segments is the largest power of two within its bounds. Whatever the
sizes of a cache, the directories take no more bytes than they are given, or one
entry for each of 64 segments; so no number that comes up while a cache is built
leaves the range of 64-bit words. An allocator without limit always gives enough.
-/

namespace CacheDepot.Buffer

open Memory (Allocator Arena)

/-! ## The number of segments -/

/-- The most segments that leave each its least size, and at least one. -/
def segmentBound (total : Nat) : Nat :=
  min maxSegments (max 1 (total / minSegmentSize))

theorem segmentBound_ne_zero (total : Nat) : segmentBound total ≠ 0 := by
  unfold segmentBound maxSegments
  omega

theorem segmentCount_isGreatest (total : Nat) :
    IsGreatest {n | (∃ k, n = 2 ^ k) ∧ n ≤ segmentBound total} (segmentCount total true) := by
  have count : segmentCount total true = 2 ^ (segmentBound total).log2 := rfl
  rw [count]
  constructor
  · exact ⟨⟨_, rfl⟩, Nat.log2_self_le (segmentBound_ne_zero total)⟩
  · rintro n ⟨⟨k, rfl⟩, within⟩
    exact Nat.pow_le_pow_right (by decide) ((Nat.le_log2 (segmentBound_ne_zero total)).mpr within)

theorem segmentCount_le (total : Nat) (threadSafe : Bool) : segmentCount total threadSafe ≤ 64 := by
  cases threadSafe with
  | false => exact Nat.le_of_ble_eq_true rfl
  | true => exact Nat.le_trans (segmentCount_isGreatest total).1.2 (Nat.min_le_left _ _)

namespace Layout

variable (total directory : Nat) (threadSafe : Bool)

/-- The directories take the bytes set aside for them at most, unless one entry a segment takes
more. -/
theorem directories_le :
    let layout := divide total directory threadSafe
    layout.entriesPerSegment * entrySize * layout.segments ≤ max directory 4096 := by
  intro layout
  have few : layout.segments ≤ 64 := segmentCount_le total threadSafe
  change max 1 (directory / 64 / layout.segments) * 64 * layout.segments ≤ max directory 4096
  by_cases several : 1 ≤ directory / 64 / layout.segments
  · rw [Nat.max_eq_right several, Nat.mul_right_comm]
    have bySegment : directory / 64 / layout.segments * layout.segments ≤ directory / 64 :=
      Nat.div_mul_le_self _ _
    omega
  · rw [Nat.max_eq_left (by omega)]
    omega

/-- The bytes reserved for all segments are their headers and directories. -/
theorem segments_mul_reservation (layout : Layout) :
    layout.segments * layout.reservation =
      layout.segments * segmentHeader +
        layout.entriesPerSegment * entrySize * layout.segments := by
  rw [reservation, Nat.mul_add, Nat.mul_comm layout.segments (_ * _)]

/-- All bytes that a cache takes fit a word, whatever its size, if a sixteenth of them is for the
directories. -/
theorem header_add_reservations_lt (size : UInt64) :
    let layout := divide size.toNat (size.toNat / 16) threadSafe
    Arena.header.toNat + layout.segments * layout.reservation < 2 ^ 64 := by
  intro layout
  have header : Arena.header.toNat = 8192 := rfl
  have few : layout.segments ≤ 64 := segmentCount_le size.toNat threadSafe
  have directories : layout.entriesPerSegment * entrySize * layout.segments ≤
      max (size.toNat / 16) 4096 := directories_le size.toNat (size.toNat / 16) threadSafe
  have word := size.toNat_lt
  rw [segments_mul_reservation]
  unfold segmentHeader
  omega

/-- So does what one segment takes. -/
theorem reservation_lt (size : UInt64) :
    let layout := divide size.toNat (size.toNat / 16) threadSafe
    layout.reservation < 2 ^ 64 := by
  intro layout
  have all : Arena.header.toNat + layout.segments * layout.reservation < 2 ^ 64 :=
    header_add_reservations_lt threadSafe size
  have one : layout.reservation ≤ layout.segments * layout.reservation :=
    Nat.le_mul_of_pos_left _ (segmentCount_pos size.toNat threadSafe)
  omega

end Layout

/-! ## What a cache takes -/

namespace Cache.Built

variable {cache : Cache} {size : UInt64} {threadSafe : Bool}
  (built : cache.Built ⟨0⟩ size (size / 16) threadSafe)
include built

theorem layout_of_sixteenth :
    cache.layout = Layout.divide size.toNat (size.toNat / 16) threadSafe := by
  rw [built.layout_eq, UInt64.toNat_div]
  rfl

theorem toNat_reservation :
    (UInt64.ofNat cache.layout.reservation).toNat = cache.layout.reservation := by
  rw [built.layout_of_sixteenth]
  exact UInt64.toNat_ofNat_of_lt' (Layout.reservation_lt threadSafe size)

/-- A cache with a sixteenth of its bytes for the directories reserves the headers and directories
of its segments, and nothing runs over. -/
theorem toNat_reserved :
    cache.arena.reserved.toNat = cache.layout.segments * cache.layout.reservation := by
  have fits := Layout.header_add_reservations_lt threadSafe size
  rw [← built.layout_of_sixteenth] at fits
  have empty : (⟨0⟩ : Arena).reserved.toNat = 0 := rfl
  rw [built.reserved, built.toNat_reservation, Arena.enlarge,
    Memory.toNat_add_ofNat_of_fits (by omega), empty, Nat.zero_add]

end Cache.Built

/-! ## Building without a limit -/

/-- The bytes in use while the segments are reserved one after the other, as long as they fit a
word. -/
theorem inUse_reserveSegments_of_unlimited {a : Allocator} (unlimited : a.limit = none)
    {bytes : UInt64} {count : Nat} (fits : a.inUse.toNat + count * bytes.toNat < 2 ^ 64)
    (arena : Arena) :
    ∃ partly next, reserveSegments bytes count 0 arena a = (none, partly, next) ∧
      next.inUse.toNat = a.inUse.toNat + count * bytes.toNat := by
  have affords := Allocator.affords_of_unlimited unlimited (count * bytes.toNat)
  exact ⟨_, _, reserveSegments_eq_none_iff.mpr ⟨affords, rfl, rfl⟩, Allocator.inUse_serve fits⟩

theorem Cache.create_of_unlimited {a : Allocator} (unlimited : a.limit = none) (arena : Arena)
    (total directory : UInt64) (threadSafe : Bool) :
    ∃ cache next, create arena total directory threadSafe a = (.ok cache, next) := by
  have affords := Allocator.affords_of_unlimited unlimited
  exact ⟨_, _, (create_eq_ok_iff rfl).mpr
    ⟨_, reserveSegments_eq_none_iff.mpr ⟨affords _, rfl, rfl⟩, rfl⟩⟩

end CacheDepot.Buffer
