import CacheDepot.Handles.Cache
import CacheDepot.Proofs.Memory.Bounds

/-!
# Building a handle cache

What a handle cache that was built looks like, and what building takes from the
allocator: its bookkeeping where it succeeds, and where it does not, nothing, the
arena itself given back.
-/

namespace CacheDepot.Handles.Cache

open Memory (Allocator Arena)

variable {arena : Arena} {maxHandles : UInt64} {threadSafe : Bool} {a next : Allocator}

/-- What a cache looks like that was just built in an arena. -/
structure Built (arena : Arena) (maxHandles : UInt64) (threadSafe : Bool) (cache : Cache) :
    Prop where
  maxHandles : cache.maxHandles = maxHandles
  threadSafe : cache.threadSafe = threadSafe
  idle : cache.idle = []
  reserved : cache.arena = arena.enlarge bookkeeping.toNat

/-- A cache is built exactly if its bookkeeping is reserved, and it keeps no handles yet. -/
theorem create_eq_ok_iff {cache : Cache} :
    create arena maxHandles threadSafe a = (.ok cache, next) ↔
      ∃ larger, arena.reserve bookkeeping a = .ok (larger, next) ∧
        cache = { maxHandles := maxHandles, threadSafe := threadSafe, arena := larger } := by
  rw [create]
  rcases arena.reserve bookkeeping a with error | ⟨larger, after⟩
  · simp
  · constructor
    · intro created
      cases created
      exact ⟨larger, rfl, rfl⟩
    · rintro ⟨_, reserved, rfl⟩
      cases reserved
      rfl

theorem built_of_create {cache : Cache}
    (created : create arena maxHandles threadSafe a = (.ok cache, next)) :
    cache.Built arena maxHandles threadSafe := by
  obtain ⟨larger, reserved, rfl⟩ := create_eq_ok_iff.mp created
  obtain ⟨rfl, -, -⟩ := Arena.reserve_eq_ok_iff.mp reserved
  exact ⟨rfl, rfl, rfl, rfl⟩

theorem handsOut_create {cache : Cache}
    (created : create arena maxHandles threadSafe a = (.ok cache, next)) :
    a.HandsOut bookkeeping.toNat next := by
  obtain ⟨larger, reserved, rfl⟩ := create_eq_ok_iff.mp created
  obtain ⟨-, affords, rfl⟩ := Arena.reserve_eq_ok_iff.mp reserved
  exact Allocator.handsOut_serve affords

theorem takesBack_create_error {error : HandleError}
    (created : create arena maxHandles threadSafe a = (.error error, next)) :
    a.TakesBack arena.footprint next := by
  unfold create at created
  split at created
  · cases created
    rw [Arena.dropped_eq_retrieve]
    exact Allocator.takesBack_retrieve _ a
  · cases created

end CacheDepot.Handles.Cache
