import CacheDepot.Proofs.Buffer.Coherence
import CacheDepot.Proofs.Buffer.Independence
import Mathlib.Algebra.Order.BigOperators.Group.List
import Mathlib.Algebra.Order.Group.Nat

/-!
# The byte budget

A cache that sets a sixteenth of its bytes aside for directories divides them so
that no segment loses more than a fraction of a byte. What its buffers take, the
directory entries included, never exceeds the bytes that the cache was given. Below
65 bytes there is no room for an entry and a byte of data; such a cache holds one
byte at most.
-/

namespace CacheDepot.Buffer

open Memory (Allocator Arena)

/-! ## Division -/

/-- Every segment has its least size, unless there is only one. -/
theorem segmentCount_eq_one_or_mul_le (total : Nat) (threadSafe : Bool) :
    segmentCount total threadSafe = 1 ∨ segmentCount total threadSafe * minSegmentSize ≤ total := by
  unfold segmentCount
  split
  · by_cases small : total / minSegmentSize = 0
    · left
      rw [small]
      rfl
    · right
      have several : max 1 (total / minSegmentSize) = total / minSegmentSize :=
        Nat.max_eq_right (Nat.pos_of_ne_zero small)
      have wanted : min maxSegments (total / minSegmentSize) ≠ 0 := by
        unfold maxSegments
        omega
      rw [several]
      calc
        _ ≤ min maxSegments (total / minSegmentSize) * minSegmentSize :=
            Nat.mul_le_mul_right _ (Nat.log2_self_le wanted)
        _ ≤ total / minSegmentSize * minSegmentSize :=
            Nat.mul_le_mul_right _ (Nat.min_le_right _ _)
        _ ≤ total := Nat.div_mul_le_self _ _
  · exact Or.inl rfl

namespace Layout

variable {total : Nat} (threadSafe : Bool)

/-- The directories leave a byte of data for every segment. -/
theorem directories_add_segments_le (enough : 65 ≤ total) :
    let layout := divide total (total / 16) threadSafe
    layout.entriesPerSegment * entrySize * layout.segments + layout.segments ≤ total := by
  intro layout
  have count := segmentCount_eq_one_or_mul_le total threadSafe
  change max 1 (total / 16 / 64 / segmentCount total threadSafe) * 64 *
    segmentCount total threadSafe + segmentCount total threadSafe ≤ total
  have positive := segmentCount_pos total threadSafe
  generalize segmentCount total threadSafe = segments at *
  unfold minSegmentSize at count
  by_cases several : 1 ≤ total / 16 / 64 / segments
  · have bySegment : total / 16 / 64 / segments * segments ≤ total / 16 / 64 :=
      Nat.div_mul_le_self _ _
    have atLeast : segments ≤ total / 16 / 64 / segments * segments :=
      Nat.le_mul_of_pos_left segments several
    rw [Nat.max_eq_right several, Nat.mul_right_comm]
    omega
  · rw [Nat.max_eq_left (by omega)]
    omega

/-- The division loses less than a byte for every segment. -/
theorem loss_lt (enough : 65 ≤ total) :
    let layout := divide total (total / 16) threadSafe
    let split := layout.segments * layout.dataPerSegment +
      layout.segments * layout.entriesPerSegment * entrySize
    split ≤ total ∧ total - split < layout.segments := by
  intro layout split
  have room : layout.entriesPerSegment * entrySize * layout.segments + layout.segments ≤ total :=
    directories_add_segments_le threadSafe enough
  have positive : 0 < layout.segments := segmentCount_pos total threadSafe
  have byteEach : 1 ≤
      (total - layout.entriesPerSegment * entrySize * layout.segments) / layout.segments := by
    apply (Nat.one_le_div_iff positive).mpr
    omega
  have data : layout.dataPerSegment =
      (total - layout.entriesPerSegment * entrySize * layout.segments) / layout.segments :=
    Nat.max_eq_right byteEach
  have directories : layout.segments * layout.entriesPerSegment * entrySize =
      layout.entriesPerSegment * entrySize * layout.segments := by
    rw [Nat.mul_assoc, Nat.mul_comm]
  have below := Nat.mul_div_le (total - layout.entriesPerSegment * entrySize * layout.segments)
    layout.segments
  have above := Nat.lt_mul_div_succ
    (total - layout.entriesPerSegment * entrySize * layout.segments) positive
  rw [Nat.mul_add, Nat.mul_one] at above
  simp only [split, data, directories]
  omega

/-- A budget without room for an entry and a byte of data. -/
theorem divide_of_le_64 (least : total ≤ 64) :
    divide total (total / 16) threadSafe =
      { segments := 1, entriesPerSegment := 1, dataPerSegment := 1 } := by
  have one : segmentCount total threadSafe = 1 := by
    have positive := segmentCount_pos total threadSafe
    rcases segmentCount_eq_one_or_mul_le total threadSafe with one | many
    · exact one
    · unfold minSegmentSize at many
      omega
  have noEntries : total / 16 / entrySize / 1 = 0 := by
    unfold entrySize
    omega
  have noData : (total - 1 * entrySize * 1) / 1 = 0 := by
    unfold entrySize
    omega
  simp only [divide, one, noEntries, Nat.max_eq_left (Nat.zero_le 1), noData]

end Layout

namespace Cache

/-! ## Totals -/

theorem sum_map_le {α : Type} {items : List α} {measure : α → Nat} {bound : Nat}
    (each : ∀ item ∈ items, measure item ≤ bound) :
    (items.map measure).sum ≤ items.length * bound := by
  have sum : (items.map measure).sum ≤ (items.map measure).length • bound := by
    apply List.sum_le_card_nsmul
    intro number numberMem
    obtain ⟨item, itemMem, rfl⟩ := List.mem_map.mp numberMem
    exact each item itemMem
  rwa [List.length_map] at sum

variable {arena : Arena} {total directory : UInt64} {threadSafe : Bool} {cache : Cache}

/-- What is in the cache stays within the bounds of its segments. -/
theorem Built.stats_run_le (built : cache.Built arena total directory threadSafe)
    (accesses : List Access) :
    let layout := Layout.divide total.toNat directory.toNat threadSafe
    (cache.run accesses).2.stats.used ≤ layout.segments * layout.dataPerSegment ∧
      (cache.run accesses).2.stats.entries ≤ layout.segments * layout.entriesPerSegment := by
  intro layout
  have sameLayout : cache.layout = layout := built.layout_eq
  have length : (cache.run accesses).2.segments.toList.length = layout.segments := by
    rw [Array.length_toList, size_segments_run, built.size_segments, sameLayout]
  have each : ∀ segment ∈ (cache.run accesses).2.segments.toList,
      segment.used ≤ layout.dataPerSegment ∧ segment.size ≤ layout.entriesPerSegment := by
    intro segment segmentMem
    rw [built.toList_segments_run accesses, sameLayout] at segmentMem
    obtain ⟨number, -, rfl⟩ := List.mem_map.mp segmentMem
    have room : 0 < layout.entriesPerSegment := Nat.le_max_left 1 _
    have sound := (Segment.sound_empty layout.dataPerSegment layout.entriesPerSegment).run room
      (accesses.filter fun access => cache.segmentIndex access.key = number)
    have used := sound.used_le
    have size := sound.size_le
    rw [(Segment.bounds_run _ _).1] at used
    rw [(Segment.bounds_run _ _).2] at size
    exact ⟨used, size⟩
  rw [← length, stats_eq_sum]
  exact ⟨sum_map_le fun segment segmentMem => (each segment segmentMem).1,
    sum_map_le fun segment segmentMem => (each segment segmentMem).2⟩

/-- Of 65 bytes and more, less than one a segment is lost in the division, and what the buffers take
with their entries never exceeds the bytes of the cache. With less there is one entry at most and
one byte. -/
theorem run_within_budget {arena : Arena} {total : UInt64} {threadSafe : Bool}
    {a next : Allocator} {cache : Cache}
    (created : create arena total (total / 16) threadSafe a = (.ok cache, next)) :
    let layout := Layout.divide total.toNat (total / 16).toNat threadSafe
    cache.segments = Array.replicate layout.segments
      (Segment.empty layout.dataPerSegment layout.entriesPerSegment) ∧
    (65 ≤ total.toNat →
      (layout.segments * layout.dataPerSegment + layout.segments * layout.entriesPerSegment * 64 ≤
          total.toNat ∧
        total.toNat - (layout.segments * layout.dataPerSegment +
          layout.segments * layout.entriesPerSegment * 64) < layout.segments) ∧
      ∀ accesses, (cache.run accesses).2.stats.used +
        64 * (cache.run accesses).2.stats.entries ≤ total.toNat) ∧
    (total.toNat ≤ 64 → ∀ accesses,
      (cache.run accesses).2.stats.entries ≤ 1 ∧ (cache.run accesses).2.stats.used ≤ 1) := by
  intro layout
  have built := built_of_create created
  have sameLayout : cache.layout = layout := built.layout_eq
  have sixteenth : (total / 16).toNat = total.toNat / 16 := rfl
  refine ⟨sameLayout ▸ built.segments, ?_, ?_⟩
  · intro enough
    have split := Layout.loss_lt threadSafe enough
    rw [← sixteenth] at split
    refine ⟨split, ?_⟩
    intro accesses
    have held : (cache.run accesses).2.stats.used ≤ layout.segments * layout.dataPerSegment ∧
        (cache.run accesses).2.stats.entries ≤ layout.segments * layout.entriesPerSegment :=
      built.stats_run_le accesses
    have whole : layout.segments * layout.dataPerSegment +
        layout.segments * layout.entriesPerSegment * entrySize ≤ total.toNat := split.1
    calc
      _ ≤ layout.segments * layout.dataPerSegment +
          64 * (layout.segments * layout.entriesPerSegment) := by omega
      _ = layout.segments * layout.dataPerSegment +
          layout.segments * layout.entriesPerSegment * entrySize := by rw [Nat.mul_comm 64]; rfl
      _ ≤ total.toNat := whole
  · intro least accesses
    obtain ⟨used, entries⟩ := built.stats_run_le accesses
    rw [sixteenth, Layout.divide_of_le_64 threadSafe least] at used entries
    exact ⟨entries, used⟩

/-- The smallest cache with room for an entry and a byte of data. -/
theorem run_within_budget_of_65 :
    let cache : Cache :=
      { segments := #[Segment.empty 1 1], totalSize := 65, directorySize := 4,
        threadSafe := true, arena := ⟨320⟩ }
    create ⟨0⟩ 65 (65 / 16) true { inUse := 8192 } = (.ok cache, { inUse := 8512 }) ∧
    ∀ accesses, (cache.run accesses).2.stats.used +
      64 * (cache.run accesses).2.stats.entries ≤ 65 := by
  intro cache
  have created : create ⟨0⟩ 65 (65 / 16) true { inUse := 8192 } =
      (.ok cache, { inUse := 8512 }) := rfl
  exact ⟨created, ((run_within_budget created).2.1 (by decide)).2⟩

end Cache

end CacheDepot.Buffer
