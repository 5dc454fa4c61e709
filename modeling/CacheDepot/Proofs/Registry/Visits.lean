import CacheDepot.Proofs.Registry.Attempts
import Mathlib.Data.List.Induction

/-!
# Visits one after the other

A registry that is visited by one call after the other, whatever the backend
refuses. The configuration in force is the last one that was put in force. Each
slot is settled by the first visit whose attempt comes to something, with the
configuration in force at that visit, and nothing later changes it.
-/

namespace CacheDepot

/-- What is done to a registry while nothing else is. -/
inductive Visit where
  /-- Reads the configuration. -/
  | read
  /-- Asks, the backend refusing some of what the call asks it for. -/
  | ask (request : Request) (refused : Demand → Bool)

/-- What a visit hears. -/
inductive Reading where
  | config (config : CacheConfig)
  | answer (answer : Answer)

namespace Visit

/-- The configuration that a visit puts in force. -/
def configured? : Visit → Option CacheConfig
  | .ask (.configure config) _ => some config
  | _ => none

/-- The configuration put in force last. -/
def latest (history : List Visit) : CacheConfig :=
  (history.filterMap configured?).getLast?.getD CacheConfig.builtin

theorem latest_concat (history : List Visit) (visit : Visit) :
    latest (history ++ [visit]) = visit.configured?.getD (latest history) := by
  unfold latest
  rw [List.filterMap_append]
  cases put : visit.configured? with
  | none => simp [put]
  | some config => simp [put]

end Visit

namespace Depot

variable {σ : Type} (backend : Backend σ)

def visit (depot : Depot σ) : Visit → Reading × Depot σ
  | .read => (.config depot.registry.config.get, depot)
  | .ask request refused =>
      let (answer, next) := depot.perform backend refused request
      (.answer answer, next)

/-- The depot after visits one after the other. -/
def visits (history : List Visit) (depot : Depot σ) : Depot σ :=
  history.foldl (fun depot visit => (depot.visit backend visit).2) depot

/-- What the attempt of a visit at the buffer slot comes to. -/
def bufferAttempt (depot : Depot σ) : Visit → Option (Option (Instance Buffer.Cache))
  | .ask (.configure config) refused => (depot.configured config).attemptBuffer backend refused
  | .ask .buffer refused => depot.attemptBuffer backend refused
  | .ask .handles _ => none
  | .read => none

/-- What the attempt of a visit at the handle slot comes to. One that configures is done with the
buffer slot by then. -/
def handlesAttempt (depot : Depot σ) :
    Visit → Option (Except CachingError (Instance Handles.Cache))
  | .ask (.configure config) refused =>
      some (((depot.configured config).bufferCache backend refused).2.attemptHandles backend
        refused)
  | .ask .handles refused => some (depot.attemptHandles backend refused)
  | .ask .buffer _ => none
  | .read => none

/-- The handle cache that the attempt of a visit comes to. -/
def handlesBuilt (depot : Depot σ) (visit : Visit) : Option (Instance Handles.Cache) :=
  (depot.handlesAttempt backend visit).bind Except.toOption

/-- A visit that finds a depot and leaves a registry behind hears what is in it, or why its attempt
at a handle cache failed. -/
def Hears (found : Depot σ) (left : Registry) : Visit → Reading → Prop
  | .read, .config config => config = left.config.get
  | .ask (.configure _) _, .answer .configured => True
  | .ask .buffer _, .answer (.buffer cache) => cache = left.buffer.join
  | .ask .handles _, .answer (.handles (.ok cache)) => left.handles = some cache
  | .ask .handles refused, .answer (.handles (.error error)) =>
      left.handles = none ∧ found.attemptHandles backend refused = .error error
  | _, _ => False

/-- No visit of a history comes to anything by its attempt at a slot. -/
def Unsettled {α : Type} (attempt : Depot σ → Visit → Option α) : List Visit → Depot σ → Prop
  | [], _ => True
  | visit :: rest, depot =>
      attempt depot visit = none ∧ Unsettled attempt rest (depot.visit backend visit).2

variable {backend}

/-! ## One visit -/

/-- All that a visit does to the registry. -/
theorem registry_visit (depot : Depot σ) (visit : Visit) :
    (depot.visit backend visit).2.registry =
      ⟨⟨visit.configured?.getD depot.registry.config.get⟩,
        depot.registry.buffer.or (depot.bufferAttempt backend visit),
        depot.registry.handles.or (depot.handlesBuilt backend visit)⟩ := by
  cases visit with
  | read =>
      rw [bufferAttempt, handlesBuilt, handlesAttempt, Option.bind_none, Option.or_none,
        Option.or_none]
      rfl
  | ask request refused =>
      cases request with
      | configure config =>
          rw [Depot.visit, perform_configure, registry_handleCache, registry_bufferCache]
          rfl
      | buffer =>
          rw [Depot.visit, perform_buffer, registry_bufferCache, handlesBuilt, handlesAttempt,
            Option.bind_none, Option.or_none]
          rfl
      | handles =>
          rw [Depot.visit, perform_handles, registry_handleCache, bufferAttempt, Option.or_none]
          rfl

theorem AskedOnce.visit {depot : Depot σ} (asked : depot.AskedOnce) (visit : Visit) :
    (depot.visit backend visit).2.AskedOnce := by
  cases visit with
  | read => exact asked
  | ask request refused =>
      cases request with
      | configure config =>
          have configured : (depot.configured config).AskedOnce := ⟨asked.atMost, asked.notYet⟩
          rw [Depot.visit, perform_configure]
          exact (configured.bufferCache backend refused).handleCache backend refused
      | buffer =>
          rw [Depot.visit, perform_buffer]
          exact asked.bufferCache backend refused
      | handles =>
          rw [Depot.visit, perform_handles]
          exact asked.handleCache backend refused

theorem hears_visit (depot : Depot σ) (visit : Visit) :
    depot.Hears backend (depot.visit backend visit).2.registry visit
      (depot.visit backend visit).1 := by
  cases visit with
  | read => rfl
  | ask request refused =>
      cases request with
      | configure config =>
          rw [Depot.visit, perform_configure]
          trivial
      | buffer =>
          rw [Depot.visit, perform_buffer]
          exact depot.fst_bufferCache backend refused
      | handles =>
          have kept := depot.toOption_fst_handleCache backend refused
          rw [Depot.visit, perform_handles]
          cases told : (depot.handleCache backend refused).1 with
          | ok cache =>
              rw [told] at kept
              exact kept.symm
          | error error =>
              rw [told] at kept
              exact ⟨kept.symm, depot.attemptHandles_of_error backend refused told⟩

/-! ## Histories -/

theorem visits_concat (history : List Visit) (visit : Visit) (depot : Depot σ) :
    depot.visits backend (history ++ [visit]) =
      ((depot.visits backend history).visit backend visit).2 := by
  rw [visits, List.foldl_append]
  rfl

theorem visits_append (earlier later : List Visit) (depot : Depot σ) :
    depot.visits backend (earlier ++ later) =
      (depot.visits backend earlier).visits backend later :=
  List.foldl_append

theorem config_visits_fresh (supply : σ) (history : List Visit) :
    ((fresh supply).visits backend history).registry.config.get = Visit.latest history := by
  induction history using List.reverseRecOn with
  | nil => rfl
  | append_singleton history visit ih =>
      rw [visits_concat, registry_visit, ih, Visit.latest_concat]
      rfl

theorem AskedOnce.visits {depot : Depot σ} (asked : depot.AskedOnce) (history : List Visit) :
    (depot.visits backend history).AskedOnce := by
  induction history generalizing depot with
  | nil => exact asked
  | cons visit rest ih => exact ih (asked.visit visit)

/-- A slot that is empty at first and is filled by attempts alone. -/
structure Fills {α : Type} (backend : Backend σ) (slot : Depot σ → Option α)
    (attempt : Depot σ → Visit → Option α) : Prop where
  empty : ∀ supply, slot (fresh supply) = none
  visit : ∀ depot visit,
    slot (depot.visit backend visit).2 = (slot depot).or (attempt depot visit)

theorem buffer_fills (backend : Backend σ) :
    Fills backend (fun depot => depot.registry.buffer) (bufferAttempt backend) := by
  constructor
  · intro supply
    rfl
  · intro depot visit
    rw [registry_visit]

theorem handles_fills (backend : Backend σ) :
    Fills backend (fun depot => depot.registry.handles) (handlesBuilt backend) := by
  constructor
  · intro supply
    rfl
  · intro depot visit
    rw [registry_visit]

namespace Fills

variable {α : Type} {slot : Depot σ → Option α} {attempt : Depot σ → Visit → Option α}
variable (fills : Fills backend slot attempt)
include fills

theorem visits_of_filled {depot : Depot σ} {content : α} (filled : slot depot = some content)
    (history : List Visit) : slot (depot.visits backend history) = some content := by
  induction history generalizing depot with
  | nil => exact filled
  | cons visit rest ih =>
      apply ih
      rw [fills.visit, filled, Option.some_or]

theorem visits_of_unsettled {depot : Depot σ} (empty : slot depot = none) {history : List Visit}
    (unsettled : Unsettled backend attempt history depot) :
    slot (depot.visits backend history) = none := by
  induction history generalizing depot with
  | nil => exact empty
  | cons visit rest ih =>
      rcases unsettled with ⟨nothing, restUnsettled⟩
      refine ih ?_ restUnsettled
      rw [fills.visit, empty, Option.none_or, nothing]

/-- The first attempt that comes to something settles the slot. -/
theorem visits_of_first {supply : σ} {earlier : List Visit}
    (unsettled : Unsettled backend attempt earlier (fresh supply)) {visit : Visit} {content : α}
    (attempted : attempt ((fresh supply).visits backend earlier) visit = some content)
    (later : List Visit) :
    slot ((fresh supply).visits backend (earlier ++ visit :: later)) = some content := by
  have stillEmpty : slot ((fresh supply).visits backend earlier) = none :=
    fills.visits_of_unsettled (fills.empty supply) unsettled
  have settled :
      slot (((fresh supply).visits backend earlier).visit backend visit).2 = some content := by
    rw [fills.visit, stillEmpty, Option.none_or, attempted]
  rw [visits_append]
  exact fills.visits_of_filled settled later

end Fills

/-! ## Sizes of what settles a slot -/

theorem sizes_of_bufferAttempt (faithful : backend.Faithful) {depot : Depot σ} {visit : Visit}
    {published : Instance Buffer.Cache}
    (attempted : depot.bufferAttempt backend visit = some (some published)) :
    let config := visit.configured?.getD depot.registry.config.get
    published.cache.totalSize = config.cacheSize ∧
      published.cache.directorySize = config.cacheSize / 16 ∧
      published.cache.threadSafe = !config.singleThreaded := by
  cases visit with
  | read => cases attempted
  | ask request refused =>
      cases request with
      | configure config => exact sizes_of_attemptBuffer faithful attempted
      | buffer => exact sizes_of_attemptBuffer faithful attempted
      | handles => cases attempted

theorem sizes_of_handlesBuilt (faithful : backend.Faithful) {depot : Depot σ} {visit : Visit}
    {published : Instance Handles.Cache}
    (attempted : depot.handlesBuilt backend visit = some published) :
    let config := visit.configured?.getD depot.registry.config.get
    published.cache.maxHandles = config.fileHandleCount ∧
      published.cache.threadSafe = !config.singleThreaded := by
  cases visit with
  | read => cases attempted
  | ask request refused =>
      cases request with
      | configure config =>
          have sizes := sizes_of_attemptHandles faithful attempted
          rw [registry_bufferCache] at sizes
          exact sizes
      | buffer => cases attempted
      | handles => exact sizes_of_attemptHandles faithful attempted

/-- Whatever a backend refuses and when, the configuration in force is the last one put in force,
and each slot is settled for good by the first attempt that comes to something, with the
configuration that is then in force. A buffer cache is asked for only once, a handle cache until
there is one. -/
theorem first_attempt_settles (faithful : backend.Faithful) (supply : σ) (history : List Visit) :
    let start := fresh supply
    let last := start.visits backend history
    last.registry.config.get = Visit.latest history ∧
    last.demands.buffers ≤ 1 ∧
    (start.Unsettled backend (bufferAttempt backend) history → last.registry.buffer = none) ∧
    (start.Unsettled backend (handlesBuilt backend) history → last.registry.handles = none) ∧
    ∀ earlier visit later, history = earlier ++ visit :: later →
      let found := start.visits backend earlier
      let heard := (found.visit backend visit).1
      let left := (found.visit backend visit).2.registry
      let config := Visit.latest (earlier ++ [visit])
      left.config.get = config ∧
      found.Hears backend left visit heard ∧
      (start.Unsettled backend (bufferAttempt backend) earlier →
        ∀ content, found.bufferAttempt backend visit = some content →
          last.registry.buffer = some content ∧
          ∀ published, content = some published →
            published.cache.totalSize = config.cacheSize ∧
            published.cache.directorySize = config.cacheSize / 16 ∧
            published.cache.threadSafe = !config.singleThreaded) ∧
      (start.Unsettled backend (handlesBuilt backend) earlier →
        ∀ published, found.handlesBuilt backend visit = some published →
          last.registry.handles = some published ∧
          published.cache.maxHandles = config.fileHandleCount ∧
          published.cache.threadSafe = !config.singleThreaded) := by
  intro start last
  have asked : last.AskedOnce := AskedOnce.visits ⟨Nat.zero_le 1, fun _ => rfl⟩ history
  refine ⟨config_visits_fresh supply history, asked.atMost, ?_, ?_, ?_⟩
  · exact (buffer_fills backend).visits_of_unsettled rfl
  · exact (handles_fills backend).visits_of_unsettled rfl
  rintro earlier visit later rfl found heard left config
  have inForce : visit.configured?.getD found.registry.config.get = config := by
    rw [config_visits_fresh, ← Visit.latest_concat]
  refine ⟨?_, found.hears_visit visit, ?_, ?_⟩
  · rw [← inForce]
    exact congrArg (fun registry => registry.config.get) (registry_visit found visit)
  · intro unsettled content attempted
    constructor
    · exact (buffer_fills backend).visits_of_first unsettled attempted later
    · rintro published rfl
      rw [← inForce]
      exact sizes_of_bufferAttempt faithful attempted
  · intro unsettled published attempted
    constructor
    · exact (handles_fills backend).visits_of_first unsettled attempted later
    · rw [← inForce]
      exact sizes_of_handlesBuilt faithful attempted

/-- A visit without an arena leaves the slot to the next one, and a configuration that switches the
cache off after that comes too late. -/
theorem first_attempt_settles_after_refusal :
    let off : CacheConfig := { cacheSize := 0 }
    let last := (fresh ()).visits Backend.separate
      [.ask .buffer fun _ => true, .ask (.configure CacheConfig.builtin) refusingNothing,
        .ask (.configure off) refusingNothing]
    last.registry.config.get = off ∧
    ∃ published, last.registry.buffer = some (some published) ∧
      published.cache.totalSize = 134217728 ∧ published.cache.directorySize = 8388608 := by
  intro off last
  obtain ⟨inForce, _, _, _, visits⟩ := first_attempt_settles Backend.separate_faithful ()
    [.ask .buffer fun _ => true, .ask (.configure CacheConfig.builtin) refusingNothing,
      .ask (.configure off) refusingNothing]
  obtain ⟨_, _, buffer, _⟩ := visits [.ask .buffer fun _ => true] _ _ rfl
  have attempted : ∃ published, ((fresh ()).visits Backend.separate
      [.ask .buffer fun _ => true]).bufferAttempt Backend.separate
        (.ask (.configure CacheConfig.builtin) refusingNothing) = some (some published) := by
    simp only [bufferAttempt, attemptBuffer, configured, Config.Store.get]
    exact ⟨_, rfl⟩
  obtain ⟨published, attempted⟩ := attempted
  obtain ⟨filled, sizes⟩ := buffer ⟨rfl, trivial⟩ _ attempted
  obtain ⟨totalSize, directorySize, _⟩ := sizes published rfl
  exact ⟨inForce, published, filled, totalSize, directorySize.trans (by decide)⟩

end Depot

end CacheDepot
