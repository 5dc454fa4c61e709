import CacheDepot.Buffer.Cache
import CacheDepot.Proofs.Memory.Bounds

/-!
# Building a buffer cache

What a cache that was built looks like, and what building takes from the allocator:
the reservations of all segments where it succeeds, and where it does not, nothing,
the arena itself given back.
-/

namespace CacheDepot.Buffer

open Memory (Allocator Arena)

theorem segmentCount_pos (total : Nat) (threadSafe : Bool) : 0 < segmentCount total threadSafe := by
  unfold segmentCount
  split
  · exact Nat.pow_pos (by decide)
  · decide

section Reserving

theorem reserved_nothing (bytes : UInt64) (arena : Arena) (a : Allocator) :
    a.Affords (0 * bytes.toNat) ∧ arena = arena.enlarge (0 * bytes.toNat) ∧
      a = a.serve (0 * bytes.toNat) := by
  rw [Nat.zero_mul]
  exact ⟨a.affords_zero, arena.enlarge_zero.symm, a.serve_zero.symm⟩

variable {bytes : UInt64} {remaining index : Nat} {arena partly : Arena} {a next : Allocator}
  {failure : Option OutOfMemory}

/-- However the reservations end, some segments were reserved that the allocator affords together,
and all of them unless a segment failed, as it can under a limit alone. -/
theorem exists_reserved
    (ended : reserveSegments bytes remaining index arena a = (failure, partly, next)) :
    ∃ count, a.Affords (count * bytes.toNat) ∧ partly = arena.enlarge (count * bytes.toNat) ∧
      next = a.serve (count * bytes.toNat) ∧ (failure = none → count = remaining) ∧
      (failure ≠ none → a.limit ≠ none) := by
  induction remaining generalizing index arena a with
  | zero =>
      cases ended
      obtain ⟨affords, same, untouched⟩ := reserved_nothing bytes _ _
      exact ⟨0, affords, same, untouched, fun _ => rfl, fun failed => absurd rfl failed⟩
  | succ remaining ih =>
      simp only [reserveSegments] at ended
      split at ended
      · next larger between reserved =>
          obtain ⟨rfl, one, rfl⟩ := Arena.reserve_eq_ok_iff.mp reserved
          -- The other segments are reserved from what the first one left; both portions add up.
          obtain ⟨count, others, rfl, rfl, all, limited⟩ := ih ended
          have bytesOf : (count + 1) * bytes.toNat = bytes.toNat + count * bytes.toNat := by
            rw [Nat.succ_mul, Nat.add_comm]
          rw [Allocator.limit_serve] at limited
          refine ⟨count + 1, ?_, ?_, ?_, fun complete => congrArg (· + 1) (all complete), limited⟩
          · rw [bytesOf]
            exact Allocator.affords_add_iff.mpr ⟨one, others⟩
          · rw [bytesOf, Arena.enlarge_enlarge]
          · rw [bytesOf, Allocator.serve_serve]
      · next error refused =>
          cases ended
          obtain ⟨affords, same, untouched⟩ := reserved_nothing bytes _ _
          exact ⟨0, affords, same, untouched,
            fun complete => absurd complete (Option.some_ne_none _),
            fun _ => Arena.limit_ne_none_of_refused refused⟩

end Reserving

namespace Cache

variable {arena : Arena} {total directory : UInt64} {threadSafe : Bool} {a next : Allocator}

/-- The division that the sizes of a cache call for. -/
def layout (cache : Cache) : Layout :=
  Layout.divide cache.totalSize.toNat cache.directorySize.toNat cache.threadSafe

theorem layout_segments_pos (cache : Cache) : 0 < cache.layout.segments :=
  segmentCount_pos cache.totalSize.toNat cache.threadSafe

/-- What a cache looks like that was just built in an arena. -/
structure Built (arena : Arena) (total directory : UInt64) (threadSafe : Bool) (cache : Cache) :
    Prop where
  totalSize : cache.totalSize = total
  directorySize : cache.directorySize = directory
  threadSafe : cache.threadSafe = threadSafe
  segments : cache.segments = Array.replicate cache.layout.segments
    (Segment.empty cache.layout.dataPerSegment cache.layout.entriesPerSegment)
  reserved : cache.arena =
    arena.enlarge (cache.layout.segments * (UInt64.ofNat cache.layout.reservation).toNat)

section Outcome

variable {layout : Layout}
  (division : Layout.divide total.toNat directory.toNat threadSafe = layout)
include division

/-- A cache is built exactly if all of its segments are reserved, and they are empty. -/
theorem create_eq_ok_iff {cache : Cache} :
    create arena total directory threadSafe a = (.ok cache, next) ↔
      ∃ full, reserveSegments (.ofNat layout.reservation) layout.segments 0 arena a =
          (none, full, next) ∧
        cache =
          { segments := Array.replicate layout.segments
              (Segment.empty layout.dataPerSegment layout.entriesPerSegment)
            totalSize := total
            directorySize := directory
            threadSafe := threadSafe
            arena := full } := by
  rw [create, division]
  rcases reserveSegments (.ofNat layout.reservation) layout.segments 0 arena a with
    ⟨_ | error, partly, after⟩
  · constructor
    · intro created
      cases created
      exact ⟨_, rfl, rfl⟩
    · rintro ⟨full, ended, rfl⟩
      cases ended
      rfl
  · simp

/-- Otherwise what was reserved is given back, and the arena ends. -/
theorem create_eq_error_iff {error : OutOfMemory} :
    create arena total directory threadSafe a = (.error error, next) ↔
      ∃ partly after, reserveSegments (.ofNat layout.reservation) layout.segments 0 arena a =
          (some error, partly, after) ∧
        next = Arena.dropped ⟨0⟩ (partly.cleared after) := by
  rw [create, division]
  rcases reserveSegments (.ofNat layout.reservation) layout.segments 0 arena a with
    ⟨_ | error, partly, after⟩
  · simp
  · constructor
    · intro created
      cases created
      exact ⟨_, _, rfl, rfl⟩
    · rintro ⟨partly, after, ended, rfl⟩
      cases ended
      rfl

end Outcome

theorem built_of_create {cache : Cache}
    (created : create arena total directory threadSafe a = (.ok cache, next)) :
    cache.Built arena total directory threadSafe := by
  obtain ⟨full, reserved, rfl⟩ := (create_eq_ok_iff rfl).mp created
  obtain ⟨count, -, rfl, -, all, -⟩ := exists_reserved reserved
  cases all rfl
  exact ⟨rfl, rfl, rfl, rfl, rfl⟩

/-- A cache that was just built was not read yet. -/
theorem counts_of_create {cache : Cache}
    (created : create arena total directory threadSafe a = (.ok cache, next)) :
    cache.hits = 0 ∧ cache.misses = 0 := by
  obtain ⟨full, -, rfl⟩ := (create_eq_ok_iff rfl).mp created
  exact ⟨rfl, rfl⟩

/-- What is handed out for a cache is what its segments reserve. -/
theorem handsOut_create {cache : Cache}
    (created : create arena total directory threadSafe a = (.ok cache, next)) :
    a.HandsOut (cache.layout.segments * (UInt64.ofNat cache.layout.reservation).toNat) next := by
  obtain ⟨full, reserved, rfl⟩ := (create_eq_ok_iff rfl).mp created
  obtain ⟨count, affords, rfl, rfl, all, -⟩ := exists_reserved reserved
  cases all rfl
  exact Allocator.handsOut_serve affords

/-- A cache that cannot be built leaves nothing behind, however many segments were reserved. -/
theorem takesBack_create_error {error : OutOfMemory}
    (created : create ⟨0⟩ total directory threadSafe a = (.error error, next)) :
    a.TakesBack (Arena.footprint ⟨0⟩) next := by
  obtain ⟨partly, after, reserved, rfl⟩ := (create_eq_error_iff rfl).mp created
  obtain ⟨count, affords, rfl, rfl, -, limited⟩ := exists_reserved reserved
  have limited : a.limit ≠ none := limited (Option.some_ne_none _)
  have fits := affords.fits (absurd · limited)
  have empty : (⟨0⟩ : Arena).reserved.toNat = 0 := rfl
  rw [Arena.dropped_cleared, Arena.footprint_enlarge (by omega)]
  exact Allocator.takesBack_retrieve_serve affords limited

namespace Built

variable {cache : Cache} (built : cache.Built arena total directory threadSafe)
include built

theorem layout_eq : cache.layout = Layout.divide total.toNat directory.toNat threadSafe := by
  rw [layout, built.totalSize, built.directorySize, built.threadSafe]

theorem size_segments : cache.segments.size = cache.layout.segments := by
  rw [built.segments, Array.size_replicate]

theorem eq_of_mem_segments {segment : Segment} (segmentMem : segment ∈ cache.segments) :
    segment = Segment.empty cache.layout.dataPerSegment cache.layout.entriesPerSegment := by
  rw [built.segments] at segmentMem
  exact (Array.mem_replicate.mp segmentMem).2

end Built

end Cache

end CacheDepot.Buffer
