import CacheDepot.Proofs.Buffer.LastWrite
import CacheDepot.Proofs.Buffer.Sizing
import CacheDepot.Proofs.Registry.Attempts

/-!
# Caches from unlimited memory

A backend that gives every arena an allocator of its own has no reason to refuse
anything. Over it the first access to a slot fills the slot: with the caches that the
configuration asks for, or with the statement that there is no buffer cache if its
size is zero. Every other size, however small or large, gives a cache that works.
-/

namespace CacheDepot

open Memory (Allocator Arena)

/-! ## Demands -/

namespace Backend

theorem separate_acquire (maxFree : Option UInt64) :
    separate.acquire maxFree () = (.ok ⟨0⟩, ()) := by
  cases maxFree <;> rfl

theorem separate_buildBuffer (arena : Arena) (total directory : UInt64) (threadSafe : Bool) :
    ∃ cache, separate.buildBuffer arena total directory threadSafe () = (.ok cache, ()) ∧
      cache.Built arena total directory threadSafe := by
  obtain ⟨cache, next, created⟩ := Buffer.Cache.create_of_unlimited
    (a := allocatorOf arena) rfl arena total directory threadSafe
  refine ⟨cache, ?_, Buffer.Cache.built_of_create created⟩
  simp only [separate, created]

theorem separate_buildHandles (arena : Arena) (maxHandles : UInt64) (threadSafe : Bool) :
    ∃ cache, separate.buildHandles arena maxHandles threadSafe () = (.ok cache, ()) ∧
      cache.Built arena maxHandles threadSafe := by
  have created : Handles.Cache.create arena maxHandles threadSafe (allocatorOf arena) =
      (.ok { maxHandles := maxHandles, threadSafe := threadSafe,
             arena := ⟨arena.reserved + Handles.bookkeeping⟩ },
        (allocatorOf arena).grant Handles.bookkeeping) := rfl
  refine ⟨_, ?_, Handles.Cache.built_of_create created⟩
  simp only [separate, created]

end Backend

/-! ## Attempts -/

namespace Depot

open Backend (separate)

theorem attemptBuffer_of_off {σ : Type} {depot : Depot σ} (backend : Backend σ)
    (refused : Demand → Bool) (off : depot.registry.config.get.cacheSize = 0) :
    depot.attemptBuffer backend refused = some none := by
  unfold attemptBuffer
  exact if_pos off

theorem attemptBuffer_of_on {depot : Depot Unit}
    (on : depot.registry.config.get.cacheSize ≠ 0) :
    let config := depot.registry.config.get
    ∃ cache : Buffer.Cache,
      depot.attemptBuffer separate refusingNothing = some (some ⟨depot.built, cache⟩) ∧
      cache.Built ⟨0⟩ config.cacheSize (config.cacheSize / 16) (!config.singleThreaded) := by
  intro config
  obtain ⟨cache, made, built⟩ := Backend.separate_buildBuffer ⟨0⟩ config.cacheSize
    (config.cacheSize / 16) (!config.singleThreaded)
  refine ⟨cache, ?_, built⟩
  have arena : separate.arenaForBuffer refusingNothing depot.supply = (.ok ⟨0⟩, ()) :=
    Backend.separate_acquire _
  have given : separate.bufferFor refusingNothing config ⟨0⟩ () = (.ok cache, ()) := made
  unfold attemptBuffer
  simp only [if_neg on, arena, given, config]

theorem attemptHandles_separate (depot : Depot Unit) :
    let config := depot.registry.config.get
    ∃ cache : Handles.Cache,
      depot.attemptHandles separate refusingNothing = .ok ⟨depot.built, cache⟩ ∧
      cache.Built ⟨0⟩ config.fileHandleCount (!config.singleThreaded) := by
  intro config
  obtain ⟨cache, made, built⟩ := Backend.separate_buildHandles ⟨0⟩ config.fileHandleCount
    (!config.singleThreaded)
  refine ⟨cache, ?_, built⟩
  have arena : separate.arenaForHandles refusingNothing depot.supply = (.ok ⟨0⟩, ()) :=
    Backend.separate_acquire _
  have given : separate.handlesFor refusingNothing config ⟨0⟩ () = (.ok cache, ()) := made
  unfold attemptHandles
  simp only [arena, given, config]

/-! ## Accesses -/

theorem perform_buffer_of_empty {depot : Depot Unit} (empty : depot.registry.buffer = none) :
    ∃ next, depot.perform separate refusingNothing .buffer =
        (.buffer (depot.attemptBuffer separate refusingNothing).join, next) ∧
      next.registry =
        { depot.registry with buffer := depot.attemptBuffer separate refusingNothing } := by
  obtain ⟨supply, built, demands, result, -⟩ :=
    depot.bufferCache_of_empty separate refusingNothing empty
  rw [perform_buffer, result]
  exact ⟨_, rfl, rfl⟩

section

variable {σ : Type} {backend : Backend σ} {refused : Demand → Bool} {depot : Depot σ}

theorem perform_buffer_of_filled {content : Option (Instance Buffer.Cache)}
    (filled : depot.registry.buffer = some content) :
    depot.perform backend refused .buffer = (.buffer content, depot) := by
  rw [perform_buffer, bufferCache_of_filled backend refused depot filled]

theorem perform_handles_of_filled {published : Instance Handles.Cache}
    (filled : depot.registry.handles = some published) :
    depot.perform backend refused .handles = (.handles (.ok published), depot) := by
  rw [perform_handles, handleCache_of_filled backend refused depot filled]

end

/-- A configuration that is put in force before there are caches fills both slots. -/
theorem perform_configure_of_empty {depot : Depot Unit} (noBuffer : depot.registry.buffer = none)
    (noHandles : depot.registry.handles = none) (config : CacheConfig) :
    ∃ (found : Option (Instance Buffer.Cache)) (lent : Instance Handles.Cache) (next : Depot Unit),
      depot.perform separate refusingNothing (.configure config) = (.configured, next) ∧
      next.registry = { config := ⟨config⟩, buffer := some found, handles := some lent } ∧
      (depot.configured config).attemptBuffer separate refusingNothing = some found ∧
      lent.cache.Built ⟨0⟩ config.fileHandleCount (!config.singleThreaded) := by
  let ready := depot.configured config
  let second := (ready.bufferCache separate refusingNothing).2
  let third := (second.handleCache separate refusingNothing).2
  obtain ⟨found, attempted⟩ :
      ∃ found, ready.attemptBuffer separate refusingNothing = some found := by
    by_cases off : ready.registry.config.get.cacheSize = 0
    · exact ⟨none, attemptBuffer_of_off separate refusingNothing off⟩
    · obtain ⟨cache, attempted, -⟩ := attemptBuffer_of_on off
      exact ⟨_, attempted⟩
  have secondRegistry : second.registry = { config := ⟨config⟩, buffer := some found } := by
    refine (registry_bufferCache separate refusingNothing ready).trans ?_
    rw [attempted]
    simp only [ready, configured, noBuffer, noHandles, Option.none_or]
  obtain ⟨cache, lent, built⟩ := attemptHandles_separate second
  rw [secondRegistry] at built
  have thirdRegistry : third.registry =
      { config := ⟨config⟩, buffer := some found, handles := some ⟨second.built, cache⟩ } := by
    refine (registry_handleCache separate refusingNothing second).trans ?_
    rw [lent, secondRegistry]
    rfl
  exact ⟨found, ⟨second.built, cache⟩, third, perform_configure config depot, thirdRegistry,
    attempted, built⟩

end Depot

/-- An empty key with a byte fits every segment. -/
theorem Buffer.Cache.Built.serves {arena : Arena} {total directory : UInt64} {threadSafe : Bool}
    {cache : Buffer.Cache} (built : cache.Built arena total directory threadSafe)
    (accesses : List Buffer.Access) {value : Buffer.Value} (single : value.size = 1) :
    let used := (cache.run accesses).2
    (used.set .empty value).1 = true ∧ ((used.set .empty value).2.get .empty).1 = some value := by
  intro used
  have uniform : used.Uniform cache.layout.dataPerSegment := built.uniform.run accesses
  have fits : Buffer.cost .empty value ≤ cache.layout.dataPerSegment := by
    rw [show Buffer.cost .empty value = 1 by rw [Buffer.cost, single]; rfl]
    exact Nat.le_max_left _ _
  constructor
  · rw [uniform.fst_set]
    exact decide_eq_true fits
  · rw [Buffer.Cache.fst_get, uniform.find?_set_self, if_pos fits]

namespace Depot

open Backend (separate)

/-- The first access to the buffer slot publishes a cache of the size in force, unless that is zero.
Every segment has room for an entry and a byte, no number on the way leaves the range of words, and
the directories leave of the size what they have to, or it is too small to be divided at all. The
cache takes a byte under the empty key and gives it back, whatever was done with it before. -/
theorem first_access_serves {depot : Depot Unit} (empty : depot.registry.buffer = none)
    (on : depot.registry.config.get.cacheSize ≠ 0) :
    let config := depot.registry.config.get
    let size := config.cacheSize.toNat
    let layout := Buffer.Layout.divide size (size / 16) (!config.singleThreaded)
    let directories := layout.entriesPerSegment * 64 * layout.segments
    let reservation := 256 + 64 * layout.entriesPerSegment
    (1 ≤ layout.segments ∧ 1 ≤ layout.entriesPerSegment ∧ 1 ≤ layout.dataPerSegment) ∧
    (directories < 2 ^ 64 ∧ reservation < 2 ^ 64 ∧
      (65 ≤ size → directories ≤ size) ∧
      (size ≤ 64 → layout = { segments := 1, entriesPerSegment := 1, dataPerSegment := 1 })) ∧
    (∀ count ≤ layout.segments, ∃ partly next,
      Buffer.reserveSegments (.ofNat layout.reservation) count 0 ⟨0⟩ (Backend.allocatorOf ⟨0⟩) =
        (none, partly, next) ∧
      next.inUse.toNat = 8192 + count * reservation ∧ 8192 + count * reservation < 2 ^ 64) ∧
    ∃ cache next,
      depot.perform separate refusingNothing .buffer =
        (.buffer (some ⟨depot.built, cache⟩), next) ∧
      next.registry = { depot.registry with buffer := some (some ⟨depot.built, cache⟩) } ∧
      cache.totalSize = config.cacheSize ∧
      cache.directorySize = config.cacheSize / 16 ∧
      cache.threadSafe = !config.singleThreaded ∧
      cache.segments = Array.replicate layout.segments
        (Buffer.Segment.empty layout.dataPerSegment layout.entriesPerSegment) ∧
      ∀ accesses value, value.size = 1 →
        let used := (cache.run accesses).2
        (used.set .empty value).1 = true ∧
          ((used.set .empty value).2.get .empty).1 = some value := by
  intro config size layout directories reservation
  have several : 1 ≤ layout.segments := Buffer.segmentCount_pos size _
  have entries : 1 ≤ layout.entriesPerSegment := Nat.le_max_left _ _
  have taken : 8192 + layout.segments * layout.reservation < 2 ^ 64 :=
    Buffer.Layout.header_add_reservations_lt _ config.cacheSize
  have parts : layout.segments * layout.reservation = layout.segments * 256 + directories :=
    layout.segments_mul_reservation
  have sameReservation : layout.reservation = reservation :=
    congrArg (256 + ·) (Nat.mul_comm _ _)
  have one : layout.reservation ≤ layout.segments * layout.reservation :=
    Nat.le_mul_of_pos_left _ several
  refine ⟨⟨several, entries, Nat.le_max_left _ _⟩, ⟨by omega, by omega, ?_, ?_⟩, ?_, ?_⟩
  · intro enough
    have room := Buffer.Layout.directories_add_segments_le (!config.singleThreaded) enough
    exact Nat.le_trans (Nat.le_add_right _ _) room
  · intro least
    exact Buffer.Layout.divide_of_le_64 _ least
  · intro count within
    have bytes : (UInt64.ofNat layout.reservation).toNat = reservation :=
      (UInt64.toNat_ofNat_of_lt' (Buffer.Layout.reservation_lt _ config.cacheSize)).trans
        sameReservation
    have header : (Backend.allocatorOf ⟨0⟩).inUse.toNat = 8192 := rfl
    have fewer : count * layout.reservation ≤ layout.segments * layout.reservation :=
      Nat.mul_le_mul_right _ within
    rw [sameReservation] at fewer taken
    have fits : (Backend.allocatorOf ⟨0⟩).inUse.toNat +
        count * (UInt64.ofNat layout.reservation).toNat < 2 ^ 64 := by
      rw [header, bytes]
      omega
    obtain ⟨partly, next, reserved, inUse⟩ :=
      Buffer.inUse_reserveSegments_of_unlimited rfl fits ⟨0⟩
    rw [header, bytes] at inUse
    exact ⟨partly, next, reserved, inUse, by omega⟩
  · obtain ⟨cache, attempted, built⟩ := attemptBuffer_of_on on
    obtain ⟨next, performed, registry⟩ := perform_buffer_of_empty empty
    rw [attempted] at performed registry
    have sameLayout : cache.layout = layout := built.layout_eq
    refine ⟨cache, next, performed, registry, built.totalSize, built.directorySize,
      built.threadSafe, sameLayout ▸ built.segments, ?_⟩
    intro accesses value single
    exact built.serves accesses single

/-- The least size and the greatest. -/
theorem first_access_serves_extremes :
    let least := (Depot.fresh ()).configured { cacheSize := 1 }
    let greatest := (Depot.fresh ()).configured { cacheSize := 18446744073709551615 }
    (∃ cache next, least.perform separate refusingNothing .buffer =
        (.buffer (some ⟨0, cache⟩), next) ∧
      cache.totalSize = 1 ∧ (cache.set .empty ⟨#[7]⟩).1 = true) ∧
    ∃ cache next, greatest.perform separate refusingNothing .buffer =
        (.buffer (some ⟨0, cache⟩), next) ∧
      cache.totalSize = 18446744073709551615 := by
  intro least greatest
  have leastEmpty : least.registry.buffer = none := rfl
  have greatestEmpty : greatest.registry.buffer = none := rfl
  constructor
  · obtain ⟨-, -, -, cache, next, performed, -, size, -, -, -, serves⟩ :=
      first_access_serves leastEmpty (by decide)
    exact ⟨cache, next, performed, size, (serves [] ⟨#[7]⟩ rfl).1⟩
  · obtain ⟨-, -, -, cache, next, performed, -, size, -⟩ :=
      first_access_serves greatestEmpty (by decide)
    exact ⟨cache, next, performed, size⟩

end Depot

end CacheDepot
