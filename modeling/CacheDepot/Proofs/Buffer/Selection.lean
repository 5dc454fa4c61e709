import CacheDepot.Proofs.Buffer.Sizing
import Mathlib.Order.Bounds.Basic

/-!
# The segment of a key

In machine words, the number of segments is the highest bit of a bound, found by
counting the zeros above it, and the segment of a key is told by the low bits of its
hash. The first is the largest power of two within the bound, because the bound is
never zero. The second is the remainder of the hash, because the number is a power of
two. So every key has a segment, whatever was done with the cache before.
-/

namespace CacheDepot.Buffer

open Memory (Allocator Arena)

/-! ## The highest bit of a word -/

/-- The highest bit of a word, by the number of zeros above it. -/
def highestBit (word : UInt64) : UInt64 :=
  ⟨1#64 <<< (63#64 - word.toBitVec.clz)⟩

section HighestBit

variable {word : UInt64} (nonzero : word ≠ 0)
include nonzero

theorem toBitVec_ne_zero : word.toBitVec ≠ 0#64 :=
  fun none => nonzero (UInt64.toBitVec_inj.mp none)

/-- A word that is not zero has fewer than 64 zeros above its highest bit. -/
theorem clz_le_of_ne_zero : word.toBitVec.clz ≤ 63#64 := by
  have below : word.toBitVec.clz < 64#64 :=
    BitVec.clz_lt_iff_ne_zero.mpr (toBitVec_ne_zero nonzero)
  exact Nat.le_of_lt_succ below

/-- The word lies between the power of two at its highest bit and the next one. -/
theorem log2_toNat_eq_sub_clz : word.toNat.log2 = 63 - word.toBitVec.clz.toNat := by
  have number : word.toNat ≠ 0 := fun none => nonzero (UInt64.toNat_inj.mp none)
  have zeros : word.toBitVec.clz.toNat ≤ 63 := clz_le_of_ne_zero nonzero
  apply (Nat.log2_eq_iff number).mpr
  constructor
  · exact BitVec.two_pow_sub_clz_le_toNat_of_ne_zero (by decide) (toBitVec_ne_zero nonzero)
  · have above : word.toNat < 2 ^ (63 + 1 - word.toBitVec.clz.toNat) :=
      BitVec.toNat_lt_two_pow_sub_clz
    rwa [Nat.sub_add_comm zeros] at above

theorem toNat_highestBit : (highestBit word).toNat = 2 ^ word.toNat.log2 := by
  have place : (63#64 - word.toBitVec.clz).toNat = 63 - word.toBitVec.clz.toNat :=
    BitVec.toNat_sub_of_le (clz_le_of_ne_zero nonzero)
  calc
    (highestBit word).toNat = (BitVec.twoPow 64 (63#64 - word.toBitVec.clz).toNat).toNat := rfl
    _ = (BitVec.twoPow 64 (63 - word.toBitVec.clz.toNat)).toNat := by rw [place]
    _ = 2 ^ (63 - word.toBitVec.clz.toNat) :=
        BitVec.toNat_twoPow_of_lt (Nat.lt_succ_of_le (Nat.sub_le _ _))
    _ = 2 ^ word.toNat.log2 := by rw [log2_toNat_eq_sub_clz nonzero]

end HighestBit

/-! ## The number of segments -/

/-- The bound of the number of segments, in words. -/
def segmentBoundWord (total : UInt64) : UInt64 :=
  min 64 (max 1 (total / 1048576))

/-- The number of segments, in words. -/
def segmentCountWord (total : UInt64) (threadSafe : Bool) : UInt64 :=
  if threadSafe then highestBit (segmentBoundWord total) else 1

theorem toNat_segmentBoundWord (total : UInt64) :
    (segmentBoundWord total).toNat = segmentBound total.toNat := by
  rw [segmentBoundWord, UInt64.toNat_min, UInt64.toNat_max, UInt64.toNat_div]
  rfl

theorem segmentBoundWord_ne_zero (total : UInt64) : segmentBoundWord total ≠ 0 := by
  intro none
  apply segmentBound_ne_zero total.toNat
  rw [← toNat_segmentBoundWord, none]
  rfl

/-- The number found in words is the number of segments. -/
theorem toNat_segmentCountWord (total : UInt64) (threadSafe : Bool) :
    (segmentCountWord total threadSafe).toNat = segmentCount total.toNat threadSafe := by
  cases threadSafe with
  | false => rfl
  | true =>
      calc
        _ = (highestBit (segmentBoundWord total)).toNat := rfl
        _ = 2 ^ (segmentBoundWord total).toNat.log2 :=
            toNat_highestBit (segmentBoundWord_ne_zero total)
        _ = 2 ^ (segmentBound total.toNat).log2 := by rw [toNat_segmentBoundWord]

theorem exists_segmentCount_eq_two_pow (total : Nat) (threadSafe : Bool) :
    ∃ k, segmentCount total threadSafe = 2 ^ k := by
  cases threadSafe with
  | false => exact ⟨0, rfl⟩
  | true => exact (segmentCount_isGreatest total).1.1

theorem segmentBound_mono {total larger : Nat} (le : total ≤ larger) :
    segmentBound total ≤ segmentBound larger :=
  min_le_min_left _ (max_le_max_left _ (Nat.div_le_div_right le))

/-- More bytes are divided among no fewer segments. -/
theorem segmentCount_mono {total larger : Nat} (le : total ≤ larger) (threadSafe : Bool) :
    segmentCount total threadSafe ≤ segmentCount larger threadSafe := by
  cases threadSafe with
  | false => exact Nat.le_refl 1
  | true =>
      apply (segmentCount_isGreatest total).mono (segmentCount_isGreatest larger)
      rintro n ⟨power, within⟩
      exact ⟨power, within.trans (segmentBound_mono le)⟩

/-! ## Low bits of a hash -/

/-- Below a power of two, the low bits of a word are its remainder. -/
theorem and_sub_one_eq_mod {count : UInt64} (power : ∃ k, count.toNat = 2 ^ k) (word : UInt64) :
    word &&& (count - 1) = word % count := by
  obtain ⟨k, exponent⟩ := power
  have positive : 1 ≤ count := by
    rw [UInt64.le_iff_toNat_le, exponent]
    exact Nat.one_le_two_pow
  apply UInt64.toNat_inj.mp
  rw [UInt64.toNat_and, UInt64.toNat_sub_of_le _ _ positive, UInt64.toNat_mod, exponent]
  exact Nat.and_two_pow_sub_one_eq_mod word.toNat k

/-- The low bits of a hash are its remainder by the number of segments. -/
theorem toNat_and_segmentCountWord (total : UInt64) (threadSafe : Bool) (h : UInt64) :
    let count := segmentCountWord total threadSafe
    h &&& (count - 1) = h % count ∧
      (h &&& (count - 1)).toNat = h.toNat % segmentCount total.toNat threadSafe := by
  intro count
  have number : count.toNat = segmentCount total.toNat threadSafe :=
    toNat_segmentCountWord total threadSafe
  have masked : h &&& (count - 1) = h % count := by
    apply and_sub_one_eq_mod
    rw [number]
    exact exists_segmentCount_eq_two_pow total.toNat threadSafe
  refine ⟨masked, ?_⟩
  rw [masked, UInt64.toNat_mod, number]

namespace Cache

/-- The segment of a key is told by the low bits of its hash. -/
theorem segmentIndex_eq_toNat_and {cache : Cache} {count : UInt64}
    (size : count.toNat = cache.segments.size) (positive : 1 ≤ count) (key : Key) :
    cache.segmentIndex key = (hash key &&& (count - 1)).toNat := by
  rw [segmentIndex, UInt64.toNat_and, UInt64.toNat_sub_of_le _ _ positive, size]
  rfl

/-- Accesses leave the number of segments as it was built, and every key its segment. -/
theorem Built.run_selects {arena : Arena} {total directory : UInt64} {threadSafe : Bool}
    {cache : Cache} (built : cache.Built arena total directory threadSafe)
    (accesses : List Access) :
    let used := (cache.run accesses).2
    used.segments.size = segmentCount total.toNat threadSafe ∧
      ∀ key, used.segmentIndex key =
          (hash key &&& (segmentCountWord total threadSafe - 1)).toNat ∧
        ∃ segment, used.segment? key = some segment := by
  intro used
  have size : used.segments.size = segmentCount total.toNat threadSafe := by
    rw [size_segments_run, built.size_segments, built.layout_eq]
    rfl
  have number := toNat_segmentCountWord total threadSafe
  have positive : 1 ≤ segmentCountWord total threadSafe := by
    rw [UInt64.le_iff_toNat_le, number]
    exact segmentCount_pos total.toNat threadSafe
  refine ⟨size, ?_⟩
  intro key
  constructor
  · exact segmentIndex_eq_toNat_and (number.trans size.symm) positive key
  · obtain ⟨segment, present, -⟩ := (built.uniform.run accesses).segment?_eq_some key
    exact ⟨segment, present⟩

/-- The number of segments is the largest power of two within its bounds, grows with the bytes and
is what counting the zeros of a word comes to. The low bits of any hash are its remainder by that
number; so they select one of the segments that were built, and under every key there is a segment
to look into, whatever accesses came before. -/
theorem run_selects_by_low_bits (total : UInt64) (threadSafe : Bool) :
    segmentCount total.toNat false = 1 ∧
    IsGreatest {m | (∃ k, m = 2 ^ k) ∧ m ≤ min 64 (max 1 (total.toNat / 2 ^ 20))}
      (segmentCount total.toNat true) ∧
    let n := segmentCount total.toNat threadSafe
    let count := segmentCountWord total threadSafe
    ((∃ k, n = 2 ^ k) ∧ 1 ≤ n ∧ n ≤ 64) ∧
    ((segmentBoundWord total).toBitVec.clz ≤ 63#64 ∧ count.toNat = n) ∧
    (∀ larger : UInt64, total ≤ larger → n ≤ segmentCount larger.toNat threadSafe) ∧
    (∀ h : UInt64, h &&& (count - 1) = h % count ∧ (h &&& (count - 1)).toNat = h.toNat % n) ∧
    ∀ arena directory a cache next,
      create arena total directory threadSafe a = (.ok cache, next) →
      ∀ accesses,
        let used := (cache.run accesses).2
        used.segments.size = n ∧
        (∀ h : UInt64, (h &&& (count - 1)).toNat < used.segments.size) ∧
        ∀ key, used.segmentIndex key = (hash key &&& (count - 1)).toNat ∧
          ∃ segment, used.segment? key = some segment := by
  refine ⟨rfl, segmentCount_isGreatest total.toNat, ?_⟩
  intro n count
  have power : ∃ k, n = 2 ^ k := exists_segmentCount_eq_two_pow total.toNat threadSafe
  have positive : 0 < n := segmentCount_pos total.toNat threadSafe
  have few : n ≤ 64 := segmentCount_le total.toNat threadSafe
  have zeros : (segmentBoundWord total).toBitVec.clz ≤ 63#64 :=
    clz_le_of_ne_zero (segmentBoundWord_ne_zero total)
  have number : count.toNat = n := toNat_segmentCountWord total threadSafe
  have lowBits := toNat_and_segmentCountWord total threadSafe
  refine ⟨⟨power, positive, few⟩, ⟨zeros, number⟩,
    fun larger le => segmentCount_mono le threadSafe, lowBits, ?_⟩
  intro arena directory a cache next created accesses used
  obtain ⟨size, selects⟩ := (built_of_create created).run_selects accesses
  refine ⟨size, ?_, selects⟩
  intro h
  calc
    (h &&& (count - 1)).toNat = h.toNat % n := (lowBits h).2
    _ < n := Nat.mod_lt _ positive
    _ = used.segments.size := size.symm

/-- Three times the least size make two segments, not three; the last bit of a hash tells which, and
an odd hash selects the second one. -/
theorem run_selects_by_low_bits_of_two_segments :
    let segment := Segment.empty 1474560 1536
    let cache : Cache :=
      { segments := #[segment, segment], totalSize := 3145728, directorySize := 196608,
        threadSafe := true, arena := ⟨197120⟩ }
    let key : Key := ⟨#[101]⟩
    create ⟨0⟩ 3145728 196608 true { inUse := 8192 } = (.ok cache, { inUse := 205312 }) ∧
    (3145728 : UInt64) ≤ 4194304 ∧
    segmentCount (UInt64.toNat 3145728) true ≤ segmentCount (UInt64.toNat 4194304) true ∧
    (cache.run [.set key ⟨#[1]⟩]).2.segments.size = 2 ∧
    (cache.run [.set key ⟨#[1]⟩]).2.segmentIndex key = 1 ∧
    ∃ segment, (cache.run [.set key ⟨#[1]⟩]).2.segment? key = some segment := by
  intro segment cache key
  have created : create ⟨0⟩ 3145728 196608 true { inUse := 8192 } =
      (.ok cache, { inUse := 205312 }) := rfl
  have more : (3145728 : UInt64) ≤ 4194304 := by decide
  obtain ⟨-, -, -, -, grows, lowBits, selects⟩ := run_selects_by_low_bits 3145728 true
  obtain ⟨size, -, keys⟩ := selects _ _ _ _ _ created [.set key ⟨#[1]⟩]
  obtain ⟨index, found⟩ := keys key
  have two : segmentCount (UInt64.toNat 3145728) true = 2 := by decide
  have odd : (hash key).toNat % 2 = 1 := by decide +kernel
  rw [(lowBits (hash key)).2, two, odd] at index
  rw [two] at size
  exact ⟨created, more, grows 4194304 more, size, index, found⟩

end Cache

end CacheDepot.Buffer
