import CacheDepot.Proofs.Buffer.Sizing
import CacheDepot.Proofs.Handles.Construction
import CacheDepot.Proofs.Registry.Schedules

/-!
# Footprints of caches

What a backend over one allocator draws for an arena and for a cache in it, and how
many bytes a cache has taken, in terms of the segments and entries that one can see of
it. A registry asks for caches in new arenas only, and for buffer caches with a
sixteenth of their size for the directories, so the bytes of one cache always fit a
word.
-/

namespace CacheDepot

open Memory (Allocator Arena)

variable {backend : Backend Allocator}

/-! ## Backends that account for their arenas -/

/-- What a backend over one allocator does to the bytes in use. What it takes is the footprint of
what it makes, and what it refuses leaves nothing behind. -/
structure Backend.Accounts (backend : Backend Allocator) : Prop where
  acquire : ∀ {maxFree a arena next}, backend.acquire maxFree a = (.ok arena, next) →
    arena = ⟨0⟩ ∧ a.HandsOut Arena.header.toNat next
  acquire_error : ∀ {maxFree a error next}, backend.acquire maxFree a = (.error error, next) →
    a.TakesBack 0 next
  buildBuffer : ∀ {size threadSafe a cache next},
    backend.buildBuffer ⟨0⟩ size (size / 16) threadSafe a = (.ok cache, next) →
      cache.Built ⟨0⟩ size (size / 16) threadSafe ∧ a.HandsOut cache.arena.reserved.toNat next
  buildBuffer_error : ∀ {size threadSafe a error next},
    backend.buildBuffer ⟨0⟩ size (size / 16) threadSafe a = (.error error, next) →
      a.TakesBack (Arena.footprint ⟨0⟩) next
  buildHandles : ∀ {maxHandles threadSafe a cache next},
    backend.buildHandles ⟨0⟩ maxHandles threadSafe a = (.ok cache, next) →
      cache.Built ⟨0⟩ maxHandles threadSafe ∧ a.HandsOut cache.arena.reserved.toNat next
  buildHandles_error : ∀ {maxHandles threadSafe a error next},
    backend.buildHandles ⟨0⟩ maxHandles threadSafe a = (.error error, next) →
      a.TakesBack (Arena.footprint ⟨0⟩) next
  release : ∀ arena (a : Allocator), a.TakesBack arena.footprint (backend.release arena a)

theorem Handles.Cache.Built.toNat_reserved {cache : Handles.Cache} {maxHandles : UInt64}
    {threadSafe : Bool} (built : cache.Built ⟨0⟩ maxHandles threadSafe) :
    cache.arena.reserved.toNat = Handles.bookkeeping.toNat := by
  rw [built.reserved, Arena.enlarge, UInt64.ofNat_toNat]
  rfl

namespace Backend

/-- A bound on the bytes kept makes no difference to the bytes handed out. -/
theorem handsOut_of_bounded {maxFree : Option UInt64} {bytes : Nat} {a b : Allocator}
    (handsOut : (bounded maxFree a).HandsOut bytes b) : a.HandsOut bytes b := by
  cases maxFree <;> exact ⟨handsOut.limit, handsOut.affords, handsOut.inUse⟩

theorem takesBack_bounded (maxFree : Option UInt64) (a : Allocator) :
    a.TakesBack 0 (bounded maxFree a) := by
  cases maxFree <;> exact ⟨rfl, rfl⟩

theorem shared_accounts : shared.Accounts where
  acquire {maxFree a arena next} acquired := by
    simp only [shared] at acquired
    split at acquired
    · next acquiredArena =>
        cases acquired
        obtain ⟨rfl, affords, rfl⟩ := Arena.acquire_eq_ok_iff.mp acquiredArena
        exact ⟨rfl, handsOut_of_bounded (Allocator.handsOut_serve affords)⟩
    · cases acquired
  acquire_error {maxFree a error next} refused := by
    simp only [shared] at refused
    split at refused
    · cases refused
    · cases refused
      exact takesBack_bounded maxFree a
  buildBuffer created := by
    have built := Buffer.Cache.built_of_create created
    have handsOut := Buffer.Cache.handsOut_create created
    rw [built.toNat_reservation, ← built.toNat_reserved] at handsOut
    exact ⟨built, handsOut⟩
  buildBuffer_error := Buffer.Cache.takesBack_create_error
  buildHandles created := by
    have built := Handles.Cache.built_of_create created
    have handsOut := Handles.Cache.handsOut_create created
    rw [← built.toNat_reserved] at handsOut
    exact ⟨built, handsOut⟩
  buildHandles_error := Handles.Cache.takesBack_create_error
  release arena a := by
    change a.TakesBack arena.footprint (arena.dropped a)
    rw [Arena.dropped_eq_retrieve]
    exact Allocator.takesBack_retrieve _ a

theorem Accounts.whileRefusing (accounts : backend.Accounts)
    (refused : Bool) : (backend.whileRefusing refused).Accounts := by
  cases refused with
  | false => exact accounts
  | true =>
      refine ⟨?_, ?_, ?_, ?_, ?_, ?_, accounts.release⟩
      · intro maxFree a arena next acquired
        cases acquired
      · intro maxFree a error next refused
        cases refused
        exact ⟨rfl, rfl⟩
      · intro size threadSafe a cache next created
        cases created
      · intro size threadSafe a error next refused
        cases refused
        exact accounts.release ⟨0⟩ a
      · intro maxHandles threadSafe a cache next created
        cases created
      · intro maxHandles threadSafe a error next refused
        cases refused
        exact accounts.release ⟨0⟩ a

end Backend

/-! ## Sizes of what is held -/

namespace Buffer.Cache

/-- The most entries of a segment, the segments being alike. -/
def entriesPerSegment (cache : Cache) : Nat :=
  match cache.segments[0]? with
  | some segment => segment.maxEntries
  | none => 0

/-- The cache reserved exactly the headers and directories of its segments. -/
structure Measured (cache : Cache) : Prop where
  maxEntries : ∀ segment ∈ cache.segments, segment.maxEntries = cache.entriesPerSegment
  footprint : cache.arena.footprint =
    8192 + cache.segments.size * (256 + 64 * cache.entriesPerSegment)

theorem Built.measured {cache : Cache} {size : UInt64} {threadSafe : Bool}
    (built : cache.Built ⟨0⟩ size (size / 16) threadSafe) : cache.Measured := by
  have entries : cache.entriesPerSegment = cache.layout.entriesPerSegment := by
    have bound : 0 < cache.segments.size := by
      rw [built.size_segments]
      exact cache.layout_segments_pos
    unfold entriesPerSegment
    rw [Array.getElem?_eq_getElem bound]
    simp only [built.eq_of_mem_segments (Array.getElem_mem bound)]
    rfl
  constructor
  · intro segment segmentMem
    rw [entries, built.eq_of_mem_segments segmentMem]
    rfl
  · rw [Arena.footprint, built.toNat_reserved, entries, built.size_segments, Layout.reservation,
      Nat.mul_comm cache.layout.entriesPerSegment]
    rfl

end Buffer.Cache

theorem Handles.Cache.Built.footprint {cache : Handles.Cache} {maxHandles : UInt64}
    {threadSafe : Bool} (built : cache.Built ⟨0⟩ maxHandles threadSafe) :
    cache.arena.footprint = 8192 + 256 := by
  rw [Arena.footprint, built.toNat_reserved]
  rfl

/-- What a call holds is an arena with nothing in it yet, or a cache with its reservations. -/
def Call.Measured (call : Call) : Prop :=
  match call.phase with
  | .buildBuffer _ arena => arena = ⟨0⟩
  | .publishBuffer (some candidate) => candidate.cache.Measured
  | .buildHandles _ arena => arena = ⟨0⟩
  | .publishHandles candidate => candidate.cache.arena.footprint = 8192 + 256
  | _ => True

structure Registry.Measured (registry : Registry) : Prop where
  buffer : ∀ published, registry.buffer = some (some published) → published.cache.Measured
  handles : ∀ published, registry.handles = some published →
    published.cache.arena.footprint = 8192 + 256

theorem Registry.measured_fresh : fresh.Measured where
  buffer _ filled := by cases filled
  handles _ filled := by cases filled

theorem Call.measured_withBuffer (cache : Option (Instance Buffer.Cache)) (call : Call) :
    (call.withBuffer cache).Measured := by
  unfold withBuffer
  split <;> trivial

theorem Call.measured_withHandles (cache : Except CachingError (Instance Handles.Cache))
    (call : Call) : (call.withHandles cache).Measured := by
  unfold withHandles
  split <;> trivial

namespace Move

variable {call moved : Call} {depot next : Depot Allocator}

theorem measured (accounts : backend.Accounts) (move : Move backend call depot moved next)
    (before : call.Measured) : moved.Measured := by
  cases move with
  | bufferArena acquired | handlesArena acquired => exact (accounts.acquire acquired).1
  | @bufferBuilt _ _ arena _ _ _ _ built =>
      obtain rfl : arena = ⟨0⟩ := before
      exact (accounts.buildBuffer built).1.measured
  | @handlesBuilt _ _ arena _ _ _ _ built =>
      obtain rfl : arena = ⟨0⟩ := before
      exact (accounts.buildHandles built).1.footprint
  | bufferFound | bufferNoArena | bufferPublished | absenceLate | bufferLate =>
      exact Call.measured_withBuffer _ _
  | handlesFound | handlesNoArena | handlesFailed | handlesPublished | handlesLate =>
      exact Call.measured_withHandles _ _
  | _ => trivial

theorem registry_measured (move : Move backend call depot moved next) (measured : call.Measured)
    (before : depot.registry.Measured) : next.registry.Measured := by
  cases move with
  | bufferPublished candidate empty =>
      constructor
      · intro published filled
        obtain rfl : candidate = some published := Option.some.inj filled
        exact measured
      · exact before.handles
  | handlesPublished candidate empty =>
      constructor
      · exact before.buffer
      · intro published filled
        obtain rfl : candidate = published := Option.some.inj filled
        exact measured
  | _ => exact ⟨before.buffer, before.handles⟩

end Move

namespace System

theorem measured_stable (accounts : backend.Accounts) :
    Stable backend fun call _ => call.Measured where
  start request _ := by cases request <;> trivial
  own move measured := move.measured (accounts.whileRefusing _) measured
  other _ _ measured := measured

theorem registry_measured_balanced (backend : Backend Allocator) :
    Balanced backend (fun call _ => call.Measured) (fun _ => 0)
      (fun _ depot => depot.registry.Measured) where
  start _ := rfl
  own move measured before := move.registry_measured measured before

theorem registry_measured_of_run_fresh (accounts : backend.Accounts) (a : Allocator)
    (schedule : List Turn) :
    ((fresh a).run backend schedule).depot.registry.Measured :=
  (registry_measured_balanced backend).run_fresh (measured_stable accounts) schedule a
    Registry.measured_fresh

end System

end CacheDepot
