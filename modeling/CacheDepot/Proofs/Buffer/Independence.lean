import CacheDepot.Proofs.Buffer.LastWrite
import CacheDepot.Proofs.Buffer.Replay
import Mathlib.Algebra.GroupWithZero.Nat

/-!
# Independent segments

The segments of a cache know nothing of each other. Whatever is done with a cache,
each answer is the one that a fresh segment gives after the accesses to its own keys
alone, and what the cache holds is what those segments hold. Two accesses to
different segments may therefore change places.
-/

namespace CacheDepot.Buffer.Cache

open Memory (Allocator Arena)

/-! ## Accesses that change places -/

theorem segment?_perform_of_apart {cache : Cache} {first second : Access}
    (apart : cache.segmentIndex first.key ≠ cache.segmentIndex second.key) :
    (cache.perform first).2.segment? second.key = cache.segment? second.key := by
  unfold segment?
  rw [segmentIndex_perform, getElem?_segments_perform, if_neg apart]

/-- The answer to an access is the same after an access to another segment. -/
theorem fst_perform_of_apart {cache : Cache} {first second : Access}
    (bounded : cache.segmentIndex second.key < cache.segments.size)
    (apart : cache.segmentIndex first.key ≠ cache.segmentIndex second.key) :
    ((cache.perform first).2.perform second).1 = (cache.perform second).1 := by
  have present : cache.segment? second.key = some cache.segments[cache.segmentIndex second.key] :=
    Array.getElem?_eq_getElem bounded
  rw [fst_perform present, fst_perform ((segment?_perform_of_apart apart).trans present)]

/-- Accesses to different segments lead to the same cache in either order. -/
theorem snd_perform_comm {cache : Cache} {first second : Access}
    (firstBounded : cache.segmentIndex first.key < cache.segments.size)
    (secondBounded : cache.segmentIndex second.key < cache.segments.size)
    (apart : cache.segmentIndex first.key ≠ cache.segmentIndex second.key) :
    ((cache.perform first).2.perform second).2 = ((cache.perform second).2.perform first).2 := by
  have segments : ((cache.perform first).2.perform second).2.segments =
      ((cache.perform second).2.perform first).2.segments := by
    apply Array.ext_getElem?
    intro number
    simp only [getElem?_segments_perform, segmentIndex_perform]
    by_cases ofFirst : cache.segmentIndex first.key = number
    · have notSecond : cache.segmentIndex second.key ≠ number := ofFirst ▸ apart.symm
      simp only [if_pos ofFirst, if_neg notSecond]
    · simp only [if_neg ofFirst]
  have secondSame := fst_perform_of_apart secondBounded apart
  have firstSame := fst_perform_of_apart firstBounded apart.symm
  have hits : ((cache.perform first).2.perform second).2.hits =
      ((cache.perform second).2.perform first).2.hits := by
    simp only [hits_perform, secondSame, firstSame]
    omega
  have misses : ((cache.perform first).2.perform second).2.misses =
      ((cache.perform second).2.perform first).2.misses := by
    simp only [misses_perform, secondSame, firstSame]
    omega
  rw [snd_perform_eq second, snd_perform_eq first (cache.perform second).2, segments, hits, misses,
    snd_perform_eq first cache, snd_perform_eq second cache]

/-- Accesses to different segments get the same answers in either order, and so do all accesses
after them. -/
theorem run_pair_of_apart {cache : Cache} {first second : Access}
    (firstBounded : cache.segmentIndex first.key < cache.segments.size)
    (secondBounded : cache.segmentIndex second.key < cache.segments.size)
    (apart : cache.segmentIndex first.key ≠ cache.segmentIndex second.key) (later : List Access) :
    let rest := ((cache.perform first).2.perform second).2.run later
    cache.run (first :: second :: later) =
        ((cache.perform first).1 :: (cache.perform second).1 :: rest.1, rest.2) ∧
      cache.run (second :: first :: later) =
        ((cache.perform second).1 :: (cache.perform first).1 :: rest.1, rest.2) := by
  intro rest
  constructor
  · simp only [run, fst_perform_of_apart secondBounded apart]
    rfl
  · simp only [run, fst_perform_of_apart firstBounded apart.symm,
      ← snd_perform_comm firstBounded secondBounded apart]
    rfl

/-! ## Caches as replays of their segments -/

namespace Built

variable {arena : Arena} {total directory : UInt64} {threadSafe : Bool} {cache : Cache}
  (built : cache.Built arena total directory threadSafe)
include built

theorem segmentIndex_lt (key : Key) : cache.segmentIndex key < cache.segments.size :=
  segmentIndex_lt_size built.uniform.nonempty key

theorem getElem?_segments (number : Nat) :
    cache.segments[number]? =
      if number < cache.segments.size then
        some (Segment.empty cache.layout.dataPerSegment cache.layout.entriesPerSegment)
      else none := by
  rw [built.size_segments, built.segments, Array.getElem?_replicate]

/-- A segment of the cache after a run is a fresh one after the accesses to its own keys. -/
theorem getElem?_segments_run (accesses : List Access) {number : Nat}
    (bounded : number < cache.segments.size) :
    (cache.run accesses).2.segments[number]? =
      some ((Segment.empty cache.layout.dataPerSegment cache.layout.entriesPerSegment).run
        (accesses.filter fun access => cache.segmentIndex access.key = number)).2 := by
  rw [Cache.getElem?_segments_run, built.getElem?_segments, if_pos bounded, Option.map_some]

/-- An access after a run is answered as by its own segment alone. -/
theorem fst_perform_run (earlier : List Access) (access : Access) :
    ((cache.run earlier).2.perform access).1 =
      (((Segment.empty cache.layout.dataPerSegment cache.layout.entriesPerSegment).run
        (earlier.filter fun other =>
          cache.segmentIndex other.key = cache.segmentIndex access.key)).2.perform access).1 := by
  apply fst_perform
  unfold segment?
  rw [segmentIndex_run, built.getElem?_segments_run earlier (built.segmentIndex_lt access.key)]

theorem toList_segments_run (accesses : List Access) :
    (cache.run accesses).2.segments.toList = (List.range cache.segments.size).map fun number =>
      ((Segment.empty cache.layout.dataPerSegment cache.layout.entriesPerSegment).run
        (accesses.filter fun access => cache.segmentIndex access.key = number)).2 := by
  apply List.ext_getElem?
  intro number
  rw [Array.getElem?_toList, List.getElem?_map, Cache.getElem?_segments_run,
    built.getElem?_segments]
  by_cases bounded : number < cache.segments.size
  · rw [if_pos bounded, List.getElem?_range bounded]
    rfl
  · rw [if_neg bounded, List.getElem?_eq_none (by simpa using bounded)]
    rfl

/-- Accesses in a row to different segments change places at any point of a run. -/
theorem run_swap (earlier later : List Access) {first second : Access}
    (apart : cache.segmentIndex first.key ≠ cache.segmentIndex second.key) :
    ∃ before one other rest last, before.length = earlier.length ∧
      cache.run (earlier ++ first :: second :: later) = (before ++ one :: other :: rest, last) ∧
      cache.run (earlier ++ second :: first :: later) = (before ++ other :: one :: rest, last) := by
  have inRange : ∀ key, (cache.run earlier).2.segmentIndex key <
      (cache.run earlier).2.segments.size := by
    intro key
    rw [segmentIndex_run, size_segments_run]
    exact built.segmentIndex_lt key
  have apartThen : (cache.run earlier).2.segmentIndex first.key ≠
      (cache.run earlier).2.segmentIndex second.key := by
    rwa [segmentIndex_run, segmentIndex_run]
  obtain ⟨inOrder, swapped⟩ :=
    run_pair_of_apart (inRange first.key) (inRange second.key) apartThen later
  rw [run_append, run_append, inOrder, swapped]
  exact ⟨_, _, _, _, _, length_fst_run earlier cache, rfl, rfl⟩

/-- A segment holds no keys but its own. -/
theorem eq_segmentIndex_of_contains (accesses : List Access) {number : Nat} {segment : Segment}
    {key : Key} (present : (cache.run accesses).2.segments[number]? = some segment)
    (holds : segment.contains key) : number = cache.segmentIndex key := by
  by_contra apart
  have bounded : number < cache.segments.size := by
    rw [← size_segments_run accesses]
    exact (Array.getElem?_eq_some_iff.mp present).1
  rw [built.getElem?_segments_run accesses bounded] at present
  have unwritten : ∀ value, Access.set key value ∉
      accesses.filter fun access => cache.segmentIndex access.key = number := by
    intro value setMem
    have own := (List.mem_filter.mp setMem).2
    exact apart (of_decide_eq_true own).symm
  have absent : segment.get? key = none := by
    rw [← Option.some.inj present]
    exact Segment.get?_run_eq_none rfl unwritten
  have holding : (segment.get? key).isSome := holds
  rw [absent] at holding
  contradiction

end Built

theorem stats_eq_sum (cache : Cache) :
    cache.stats =
      { entries := (cache.segments.toList.map Segment.size).sum
        used := (cache.segments.toList.map Segment.used).sum
        hits := cache.hits
        misses := cache.misses } := by
  rw [stats, ← Array.foldl_toList, ← Array.foldl_toList, List.sum_eq_foldl_nat,
    List.sum_eq_foldl_nat, List.foldl_map, List.foldl_map]

/-- Every access is answered as by a fresh segment after the earlier accesses to its own keys, and
the segments of the cache are such segments, each with keys of its own only. The totals are sums
over them; reads are counted by their answers. Two accesses in a row to different segments may
change places: their answers, the later answers and the cache itself stay the same. -/
theorem run_eq_replays {arena : Arena} {total directory : UInt64} {threadSafe : Bool}
    {a next : Allocator} {cache : Cache}
    (created : create arena total directory threadSafe a = (.ok cache, next))
    (accesses : List Access) :
    let layout := Layout.divide total.toNat directory.toNat threadSafe
    let replay := fun (accesses : List Access) (number : Nat) =>
      ((Segment.empty layout.dataPerSegment layout.entriesPerSegment).run
        (accesses.filter fun access => cache.segmentIndex access.key = number)).2
    let after := (cache.run accesses).2
    (∀ earlier access later, accesses = earlier ++ access :: later →
      (cache.run accesses).1[earlier.length]? =
        some ((replay earlier (cache.segmentIndex access.key)).perform access).1) ∧
    after.segments.toList = (List.range layout.segments).map (replay accesses) ∧
    (∀ number segment key, after.segments[number]? = some segment → segment.contains key →
      number = cache.segmentIndex key) ∧
    after.stats =
      { entries := ((List.range layout.segments).map fun number =>
          (replay accesses number).size).sum
        used := ((List.range layout.segments).map fun number =>
          (replay accesses number).used).sum
        hits := (cache.run accesses).1.countP Answer.isHit
        misses := (cache.run accesses).1.countP Answer.isMiss } ∧
    ∀ earlier first second later, accesses = earlier ++ first :: second :: later →
      cache.segmentIndex first.key ≠ cache.segmentIndex second.key →
      ∃ before one other rest, before.length = earlier.length ∧
        cache.run accesses = (before ++ one :: other :: rest, after) ∧
        cache.run (earlier ++ second :: first :: later) =
          (before ++ other :: one :: rest, after) := by
  intro layout replay after
  have built := built_of_create created
  have sameLayout : cache.layout = layout := built.layout_eq
  have count : cache.segments.size = layout.segments := by
    rw [built.size_segments, sameLayout]
  have segments : after.segments.toList = (List.range layout.segments).map (replay accesses) := by
    rw [built.toList_segments_run accesses, count, sameLayout]
  refine ⟨?_, segments, ?_, ?_, ?_⟩
  · rintro earlier access later rfl
    have answered := built.fst_perform_run earlier access
    rw [sameLayout] at answered
    rw [run_append, List.getElem?_append_right (Nat.le_of_eq (length_fst_run earlier cache)),
      length_fst_run, Nat.sub_self, ← answered]
    rfl
  · intro number segment key present holds
    exact built.eq_segmentIndex_of_contains accesses present holds
  · obtain ⟨noHits, noMisses⟩ := counts_of_create created
    have hits : after.hits = (cache.run accesses).1.countP Answer.isHit := by
      rw [hits_run, noHits, Nat.zero_add]
    have misses : after.misses = (cache.run accesses).1.countP Answer.isMiss := by
      rw [misses_run, noMisses, Nat.zero_add]
    rw [← hits, ← misses, stats_eq_sum, segments, List.map_map, List.map_map]
    rfl
  · rintro earlier first second later rfl apart
    obtain ⟨before, one, other, rest, last, length, inOrder, swapped⟩ :=
      built.run_swap earlier later apart
    have reached : after = last := congrArg Prod.snd inOrder
    rw [reached]
    exact ⟨before, one, other, rest, length, inOrder, swapped⟩

/-- In a cache of two segments, two keys of different segments are stored in either order. -/
theorem run_eq_replays_of_two_segments :
    let segment := Segment.empty 983040 1024
    let cache : Cache :=
      { segments := #[segment, segment], totalSize := 2097152, directorySize := 131072,
        threadSafe := true, arena := ⟨131584⟩ }
    let first := Access.set ⟨#[97]⟩ ⟨#[1]⟩
    let second := Access.set ⟨#[101]⟩ ⟨#[2]⟩
    create ⟨0⟩ 2097152 131072 true { inUse := 8192 } = (.ok cache, { inUse := 139776 }) ∧
    cache.segmentIndex first.key ≠ cache.segmentIndex second.key ∧
    (cache.run [second, first]).2 = (cache.run [first, second]).2 := by
  intro segment cache first second
  have created : create ⟨0⟩ 2097152 131072 true { inUse := 8192 } =
      (.ok cache, { inUse := 139776 }) := rfl
  have apart : cache.segmentIndex first.key ≠ cache.segmentIndex second.key := by decide +kernel
  obtain ⟨-, -, -, -, change⟩ := run_eq_replays created [first, second]
  obtain ⟨_, _, _, _, -, -, swapped⟩ := change [] first second [] rfl apart
  have same := congrArg Prod.snd swapped
  exact ⟨created, apart, same⟩

end CacheDepot.Buffer.Cache
