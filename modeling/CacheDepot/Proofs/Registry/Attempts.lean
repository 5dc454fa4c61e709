import CacheDepot.Proofs.Buffer.Construction
import CacheDepot.Proofs.Handles.Construction
import CacheDepot.Proofs.Registry.Accessors

/-!
# Attempts to fill a slot

What an accessor comes to when its slot is empty. The attempt at a buffer cache
fills the slot as soon as there is an arena, or none is needed; the attempt at a
handle cache fills it only with a cache.
-/

namespace CacheDepot

/-! ## Outcomes -/

namespace Depot

variable {σ : Type} (backend : Backend σ) (refused : Demand → Bool) (depot : Depot σ)

/-- What to publish for the buffer slot. Without an arena it is not decided yet. -/
def attemptBuffer : Option (Option (Instance Buffer.Cache)) :=
  let config := depot.registry.config.get
  if config.cacheSize = 0 then some none
  else
    match backend.arenaForBuffer refused depot.supply with
    | (.error _, _) => none
    | (.ok arena, supply) =>
        match backend.bufferFor refused config arena supply with
        | (.error _, _) => some none
        | (.ok cache, _) => some (some ⟨depot.built, cache⟩)

/-- What to publish for the handle slot, or why there is nothing. -/
def attemptHandles : Except CachingError (Instance Handles.Cache) :=
  let config := depot.registry.config.get
  match backend.arenaForHandles refused depot.supply with
  | (.error error, _) => .error (.arena error)
  | (.ok arena, supply) =>
      match backend.handlesFor refused config arena supply with
      | (.error error, _) => .error (.handleCache error)
      | (.ok cache, _) => .ok ⟨depot.built, cache⟩

end Depot

/-! ## Backends that build what they are asked for -/

/-- A cache that the backend builds has the sizes and the locking that were asked for. -/
structure Backend.Faithful {σ : Type} (backend : Backend σ) : Prop where
  buffer : ∀ {arena total directory threadSafe supply cache next},
    backend.buildBuffer arena total directory threadSafe supply = (.ok cache, next) →
      cache.totalSize = total ∧ cache.directorySize = directory ∧ cache.threadSafe = threadSafe
  handles : ∀ {arena maxHandles threadSafe supply cache next},
    backend.buildHandles arena maxHandles threadSafe supply = (.ok cache, next) →
      cache.maxHandles = maxHandles ∧ cache.threadSafe = threadSafe

namespace Backend

variable {σ : Type} {backend : Backend σ} {refused : Demand → Bool}

theorem shared_faithful : shared.Faithful := by
  constructor
  · intro arena total directory threadSafe a cache next created
    have built := Buffer.Cache.built_of_create created
    exact ⟨built.totalSize, built.directorySize, built.threadSafe⟩
  · intro arena maxHandles threadSafe a cache next created
    have built := Handles.Cache.built_of_create created
    exact ⟨built.maxHandles, built.threadSafe⟩

theorem separate_faithful : separate.Faithful := by
  constructor
  · intro arena total directory threadSafe supply cache next created
    have built := Buffer.Cache.built_of_create
      (Prod.ext (Prod.mk.inj created).1 rfl : Buffer.Cache.create _ _ _ _ _ = (.ok cache, _))
    exact ⟨built.totalSize, built.directorySize, built.threadSafe⟩
  · intro arena maxHandles threadSafe supply cache next created
    have built := Handles.Cache.built_of_create
      (Prod.ext (Prod.mk.inj created).1 rfl : Handles.Cache.create _ _ _ _ = (.ok cache, _))
    exact ⟨built.maxHandles, built.threadSafe⟩

theorem Faithful.whileRefusing (faithful : backend.Faithful) (refused : Bool) :
    (backend.whileRefusing refused).Faithful := by
  cases refused with
  | false => exact faithful
  | true =>
      constructor
      · intro arena total directory threadSafe supply cache next created
        cases created
      · intro arena maxHandles threadSafe supply cache next created
        cases created

end Backend

/-! ## Effects of the accessors -/

namespace Depot

variable {σ : Type} (backend : Backend σ) (refused : Demand → Bool) (depot : Depot σ)

/-- All that an attempt at the buffer slot can do. The call hears what it leaves in the slot. -/
theorem bufferCache_of_empty (empty : depot.registry.buffer = none) :
    ∃ supply built demands,
      depot.bufferCache backend refused =
        ((depot.attemptBuffer backend refused).join,
          ⟨{ depot.registry with buffer := depot.attemptBuffer backend refused },
            supply, built, demands⟩) ∧
      demands.buffers ≤ depot.demands.buffers + 1 ∧
      (depot.attemptBuffer backend refused = none →
        demands.buffers = depot.demands.buffers) := by
  rcases depot with ⟨⟨config, buffer, handles⟩, supply, built, demands⟩
  obtain rfl : buffer = none := empty
  unfold bufferCache attemptBuffer
  by_cases off : config.get.cacheSize = 0
  · simp only [off, if_true]
    exact ⟨_, _, _, rfl, Nat.le_succ _, fun _ => rfl⟩
  · simp only [off, if_false]
    rcases backend.arenaForBuffer refused supply with ⟨error | arena, between⟩
    · exact ⟨_, _, _, rfl, Nat.le_succ _, fun _ => rfl⟩
    · simp only
      rcases backend.bufferFor refused config.get arena between with ⟨error | cache, last⟩
      · refine ⟨_, _, _, rfl, Nat.le_refl _, ?_⟩
        intro undecided
        cases undecided
      · refine ⟨_, _, _, rfl, Nat.le_refl _, ?_⟩
        intro undecided
        cases undecided

/-- All that an attempt at the handle slot can do. The call hears the cache or why there is none. -/
theorem handleCache_of_empty (empty : depot.registry.handles = none) :
    ∃ supply built demands,
      depot.handleCache backend refused =
        (depot.attemptHandles backend refused,
          ⟨{ depot.registry with handles := (depot.attemptHandles backend refused).toOption },
            supply, built, demands⟩) ∧
      demands.buffers = depot.demands.buffers := by
  rcases depot with ⟨⟨config, buffer, handles⟩, supply, built, demands⟩
  obtain rfl : handles = none := empty
  unfold handleCache attemptHandles
  rcases backend.arenaForHandles refused supply with ⟨error | arena, between⟩
  · exact ⟨_, _, _, rfl, rfl⟩
  · simp only
    rcases backend.handlesFor refused config.get arena between with ⟨error | cache, last⟩
    · exact ⟨_, _, _, rfl, rfl⟩
    · exact ⟨_, _, _, rfl, rfl⟩

theorem bufferCache_of_filled {content : Option (Instance Buffer.Cache)}
    (filled : depot.registry.buffer = some content) :
    depot.bufferCache backend refused = (content, depot) := by
  simp only [bufferCache, filled]

theorem handleCache_of_filled {published : Instance Handles.Cache}
    (filled : depot.registry.handles = some published) :
    depot.handleCache backend refused = (.ok published, depot) := by
  simp only [handleCache, filled]

/-- The buffer slot keeps its content or takes what the attempt comes to. -/
theorem registry_bufferCache :
    (depot.bufferCache backend refused).2.registry =
      { depot.registry with
        buffer := depot.registry.buffer.or (depot.attemptBuffer backend refused) } := by
  cases present : depot.registry.buffer with
  | none =>
      obtain ⟨supply, built, demands, result, _⟩ :=
        depot.bufferCache_of_empty backend refused present
      rw [result, Option.none_or]
  | some content =>
      rw [depot.bufferCache_of_filled backend refused present, Option.some_or, ← present]

/-- The handle slot keeps its content or takes the cache that the attempt comes to. -/
theorem registry_handleCache :
    (depot.handleCache backend refused).2.registry =
      { depot.registry with
        handles := depot.registry.handles.or (depot.attemptHandles backend refused).toOption } := by
  cases present : depot.registry.handles with
  | none =>
      obtain ⟨supply, built, demands, result, _⟩ :=
        depot.handleCache_of_empty backend refused present
      rw [result, Option.none_or]
  | some published =>
      rw [depot.handleCache_of_filled backend refused present, Option.some_or, ← present]

theorem fst_bufferCache :
    (depot.bufferCache backend refused).1 =
      (depot.bufferCache backend refused).2.registry.buffer.join := by
  cases present : depot.registry.buffer with
  | none =>
      obtain ⟨supply, built, demands, result, _⟩ :=
        depot.bufferCache_of_empty backend refused present
      rw [result]
  | some content =>
      rw [depot.bufferCache_of_filled backend refused present, present]
      rfl

theorem toOption_fst_handleCache :
    (depot.handleCache backend refused).1.toOption =
      (depot.handleCache backend refused).2.registry.handles := by
  cases present : depot.registry.handles with
  | none =>
      obtain ⟨supply, built, demands, result, _⟩ :=
        depot.handleCache_of_empty backend refused present
      rw [result]
  | some published =>
      rw [depot.handleCache_of_filled backend refused present, present]
      rfl

/-- A call is told why there is no handle cache only by its own attempt. -/
theorem attemptHandles_of_error {error : CachingError}
    (failed : (depot.handleCache backend refused).1 = .error error) :
    depot.attemptHandles backend refused = .error error := by
  cases present : depot.registry.handles with
  | none =>
      obtain ⟨supply, built, demands, result, _⟩ :=
        depot.handleCache_of_empty backend refused present
      rw [result] at failed
      exact failed
  | some published =>
      rw [depot.handleCache_of_filled backend refused present] at failed
      cases failed

/-- A buffer cache was asked for at most once, and not yet if the slot is empty. -/
structure AskedOnce (depot : Depot σ) : Prop where
  atMost : depot.demands.buffers ≤ 1
  notYet : depot.registry.buffer = none → depot.demands.buffers = 0

variable {depot}

theorem AskedOnce.bufferCache (asked : depot.AskedOnce) :
    (depot.bufferCache backend refused).2.AskedOnce := by
  cases present : depot.registry.buffer with
  | none =>
      obtain ⟨supply, built, demands, result, once, undecided⟩ :=
        depot.bufferCache_of_empty backend refused present
      rw [asked.notYet present] at once undecided
      rw [result]
      exact ⟨once, undecided⟩
  | some content =>
      rw [depot.bufferCache_of_filled backend refused present]
      exact asked

theorem AskedOnce.handleCache (asked : depot.AskedOnce) :
    (depot.handleCache backend refused).2.AskedOnce := by
  cases present : depot.registry.handles with
  | none =>
      obtain ⟨supply, built, demands, result, same⟩ :=
        depot.handleCache_of_empty backend refused present
      rw [result]
      constructor
      · exact same ▸ asked.atMost
      · intro empty
        exact same.trans (asked.notYet empty)
  | some published =>
      rw [depot.handleCache_of_filled backend refused present]
      exact asked

/-! ## Sizes of what an attempt comes to -/

variable {backend refused} (faithful : backend.Faithful)
include faithful

theorem sizes_of_attemptBuffer {published : Instance Buffer.Cache}
    (attempted : depot.attemptBuffer backend refused = some (some published)) :
    let config := depot.registry.config.get
    published.cache.totalSize = config.cacheSize ∧
      published.cache.directorySize = config.cacheSize / 16 ∧
      published.cache.threadSafe = !config.singleThreaded := by
  unfold attemptBuffer at attempted
  simp only at attempted
  split at attempted
  · cases attempted
  · split at attempted
    · cases attempted
    · next arena between acquired =>
        rcases built : backend.bufferFor refused depot.registry.config.get arena between
          with ⟨error | cache, last⟩
        · rw [built] at attempted
          cases attempted
        · rw [built] at attempted
          cases attempted
          exact (faithful.whileRefusing _).buffer built

theorem sizes_of_attemptHandles {published : Instance Handles.Cache}
    (attempted : (depot.attemptHandles backend refused).toOption = some published) :
    let config := depot.registry.config.get
    published.cache.maxHandles = config.fileHandleCount ∧
      published.cache.threadSafe = !config.singleThreaded := by
  unfold attemptHandles at attempted
  simp only at attempted
  split at attempted
  · cases attempted
  · next arena between acquired =>
      rcases built : backend.handlesFor refused depot.registry.config.get arena between
        with ⟨error | cache, last⟩
      · rw [built] at attempted
        cases attempted
      · rw [built] at attempted
        cases attempted
        exact (faithful.whileRefusing _).handles built

end Depot

end CacheDepot
