import CacheDepot.Proofs.Registry.Footprint
import CacheDepot.Proofs.Registry.Publication
import Mathlib.Algebra.BigOperators.Group.List.Basic

/-!
# Bytes in use by a registry

Over a backend whose arenas all draw on one allocator, the bytes in use are at any
time those of the published caches and those that calls in flight have taken for
what they have not published yet. A call that has its answer holds nothing: what it
built too late, or built in part only, has been given back. Without a limit any number
of calls can build at once, so that the bytes in use run over, and then the bytes that
are taken back are more than those that are counted.
-/

namespace CacheDepot

open Memory (Allocator Arena)

variable {backend : Backend Allocator}

/-! ## What calls and registries hold -/

/-- Bytes that a call has taken for what it has not published yet. -/
def Call.holding (call : Call) : Nat :=
  match call.phase with
  | .buildBuffer _ arena => arena.footprint
  | .publishBuffer (some candidate) => candidate.cache.arena.footprint
  | .buildHandles _ arena => arena.footprint
  | .publishHandles candidate => candidate.cache.arena.footprint
  | _ => 0

namespace Registry

/-- Bytes of the published buffer cache. -/
def bufferFootprint (registry : Registry) : Nat :=
  match registry.buffer with
  | some (some published) => published.cache.arena.footprint
  | _ => 0

/-- Bytes of the published handle cache. -/
def handlesFootprint (registry : Registry) : Nat :=
  match registry.handles with
  | some published => published.cache.arena.footprint
  | none => 0

/-- The bytes of the published caches, by the segments and entries of the buffer cache. -/
def publishedBytes (registry : Registry) : Nat :=
  (match registry.buffer with
    | some (some published) =>
        8192 + published.cache.segments.size * (256 + 64 * published.cache.entriesPerSegment)
    | _ => 0) +
  (match registry.handles with
    | some _ => 8192 + 256
    | none => 0)

theorem Measured.publishedBytes_eq {registry : Registry} (measured : registry.Measured) :
    registry.publishedBytes = registry.bufferFootprint + registry.handlesFootprint := by
  rcases registry with ⟨config, buffer, handles⟩
  unfold publishedBytes bufferFootprint handlesFootprint
  congr 1
  · cases buffer with
    | none => rfl
    | some content =>
        cases content with
        | none => rfl
        | some published => exact (measured.buffer published rfl).footprint.symm
  · cases handles with
    | none => rfl
    | some published => exact (measured.handles published rfl).symm

end Registry

namespace Call

@[simp]
theorem holding_withBuffer (cache : Option (Instance Buffer.Cache)) (call : Call) :
    (call.withBuffer cache).holding = 0 := by
  unfold withBuffer
  split <;> rfl

@[simp]
theorem holding_withHandles (cache : Except CachingError (Instance Handles.Cache)) (call : Call) :
    (call.withHandles cache).holding = 0 := by
  unfold withHandles
  split <;> rfl

theorem holding_start (request : Request) : (start request).holding = 0 := by
  cases request <;> rfl

theorem holding_of_answered {call : Call} (answered : call.answer?.isSome) : call.holding = 0 := by
  rcases call with ⟨request, phase, learnt⟩
  cases phase <;> first | rfl | contradiction

end Call

namespace System

/-- All bytes that were handed out and not taken back, as a number: those of the published caches
and those that the calls hold. -/
def held (system : System Allocator) : Nat :=
  system.depot.registry.bufferFootprint + system.depot.registry.handlesFootprint +
    system.sum Call.holding

/-- The most bytes held at a time of a run. -/
def peak (backend : Backend Allocator) : List Turn → System Allocator → Nat
  | [], system => system.held
  | turn :: rest, system => max system.held (peak backend rest (system.step backend turn))

theorem held_le_peak (backend : Backend Allocator) (schedule : List Turn)
    (system : System Allocator) : system.held ≤ peak backend schedule system := by
  cases schedule with
  | nil => exact Nat.le_refl _
  | cons turn rest => exact Nat.le_max_left _ _

theorem sum_holding_of_quiet {system : System Allocator} (quiet : system.Quiet) :
    system.sum Call.holding = 0 := by
  apply List.sum_eq_zero
  intro held heldMem
  obtain ⟨call, callMem, rfl⟩ := List.mem_map.mp heldMem
  exact Call.holding_of_answered (quiet call callMem)

/-- Published caches and calls that hold `total` bytes account for the bytes in use. -/
def Accounted (total : Nat) (depot : Depot Allocator) : Prop :=
  depot.supply.inUse.toNat =
    depot.registry.bufferFootprint + depot.registry.handlesFootprint + total

end System

/-! ## Moves -/

namespace Move

variable {call moved : Call} {depot next : Depot Allocator} {rest : Nat}

theorem limit_supply (accounts : backend.Accounts) (move : Move backend call depot moved next)
    (measured : call.Measured) : next.supply.limit = depot.supply.limit := by
  cases move with
  | bufferArena acquired | handlesArena acquired => exact (accounts.acquire acquired).2.limit
  | bufferNoArena exhausted | handlesNoArena exhausted =>
      exact (accounts.acquire_error exhausted).limit
  | @bufferBuilt _ _ arena _ _ _ _ built =>
      obtain rfl : arena = ⟨0⟩ := measured
      exact (accounts.buildBuffer built).2.limit
  | @bufferFailed _ _ arena _ _ _ _ failed =>
      obtain rfl : arena = ⟨0⟩ := measured
      exact (accounts.buildBuffer_error failed).limit
  | @handlesBuilt _ _ arena _ _ _ _ built =>
      obtain rfl : arena = ⟨0⟩ := measured
      exact (accounts.buildHandles built).2.limit
  | @handlesFailed _ _ arena _ _ _ _ failed =>
      obtain rfl : arena = ⟨0⟩ := measured
      exact (accounts.buildHandles_error failed).limit
  | bufferLate late filled | handlesLate late filled =>
      exact (accounts.release late.cache.arena depot.supply).limit
  | _ => rfl

theorem accounted (accounts : backend.Accounts) (move : Move backend call depot moved next)
    (measured : call.Measured)
    (fits : depot.supply.limit = none →
      next.registry.bufferFootprint + next.registry.handlesFootprint + (moved.holding + rest) <
        2 ^ 64)
    (before : System.Accounted (call.holding + rest) depot) :
    System.Accounted (moved.holding + rest) next := by
  unfold System.Accounted at before ⊢
  have empty : Arena.footprint ⟨0⟩ = Arena.header.toNat := rfl
  cases move with
  | store | bufferMissing | bufferOff | bufferWanted | handlesMissing | handlesWanted | done =>
      exact before
  | bufferFound filled | absenceLate filled =>
      rw [Call.holding_withBuffer]
      exact before
  | handlesFound filled =>
      rw [Call.holding_withHandles]
      exact before
  | bufferArena acquired =>
      obtain ⟨rfl, handsOut⟩ := accounts.acquire acquired
      simp only [Call.holding, Depot.askBuffer] at before fits ⊢
      have taken := handsOut.toNat_inUse fun unlimited => by
        have room := fits unlimited
        omega
      omega
  | handlesArena acquired =>
      obtain ⟨rfl, handsOut⟩ := accounts.acquire acquired
      simp only [Call.holding, Depot.askHandles] at before fits ⊢
      have taken := handsOut.toNat_inUse fun unlimited => by
        have room := fits unlimited
        omega
      omega
  | bufferNoArena exhausted =>
      rw [Call.holding_withBuffer]
      exact (accounts.acquire_error exhausted).inUse.trans before
  | handlesNoArena exhausted =>
      rw [Call.holding_withHandles]
      exact (accounts.acquire_error exhausted).inUse.trans before
  | @bufferBuilt _ _ arena _ _ cache _ built =>
      obtain rfl : arena = ⟨0⟩ := measured
      have handsOut := (accounts.buildBuffer built).2
      have parts : cache.arena.footprint = Arena.header.toNat + cache.arena.reserved.toNat := rfl
      simp only [Call.holding] at before fits ⊢
      have taken := handsOut.toNat_inUse fun unlimited => by
        have room := fits unlimited
        omega
      omega
  | @handlesBuilt _ _ arena _ _ cache _ built =>
      obtain rfl : arena = ⟨0⟩ := measured
      have handsOut := (accounts.buildHandles built).2
      have parts : cache.arena.footprint = Arena.header.toNat + cache.arena.reserved.toNat := rfl
      simp only [Call.holding] at before fits ⊢
      have taken := handsOut.toNat_inUse fun unlimited => by
        have room := fits unlimited
        omega
      omega
  | @bufferFailed _ _ arena _ _ _ _ failed =>
      obtain rfl : arena = ⟨0⟩ := measured
      have given := (accounts.buildBuffer_error failed).inUse
      simp only [Call.holding] at before ⊢
      omega
  | @handlesFailed _ _ arena _ _ _ _ failed =>
      obtain rfl : arena = ⟨0⟩ := measured
      have given := (accounts.buildHandles_error failed).inUse
      rw [Call.holding_withHandles]
      simp only [Call.holding] at before ⊢
      omega
  | bufferPublished candidate empty =>
      rw [Call.holding_withBuffer]
      simp only [Registry.bufferFootprint, Registry.handlesFootprint, empty] at before ⊢
      cases candidate with
      | none => exact before
      | some cache =>
          simp only [Call.holding] at before ⊢
          omega
  | handlesPublished candidate empty =>
      rw [Call.holding_withHandles]
      simp only [Call.holding, Registry.bufferFootprint, Registry.handlesFootprint, empty]
        at before ⊢
      omega
  | bufferLate late filled =>
      have given := (accounts.release late.cache.arena depot.supply).inUse
      rw [Call.holding_withBuffer]
      simp only [Call.holding] at before ⊢
      omega
  | handlesLate late filled =>
      have given := (accounts.release late.cache.arena depot.supply).inUse
      rw [Call.holding_withHandles]
      simp only [Call.holding] at before ⊢
      omega

end Move

/-! ## Runs -/

namespace System

section

variable {system : System Allocator} (accounts : backend.Accounts)
include accounts

theorem limit_step (measured : ∀ call ∈ system.calls, call.Measured) (turn : Turn) :
    (system.step backend turn).depot.supply.limit = system.depot.supply.limit := by
  rcases step_cases backend Call.holding_start turn system with
    ⟨same, -⟩ | ⟨refused, call, moved, rest, callMem, move, -, -⟩
  · rw [same]
  · exact move.limit_supply (accounts.whileRefusing refused) (measured call callMem)

theorem accounted_step (measured : ∀ call ∈ system.calls, call.Measured) (turn : Turn)
    (fits : system.depot.supply.limit = none → (system.step backend turn).held < 2 ^ 64)
    (before : Accounted (system.sum Call.holding) system.depot) :
    Accounted ((system.step backend turn).sum Call.holding)
      (system.step backend turn).depot := by
  rcases step_cases backend Call.holding_start turn system with
    ⟨sameDepot, sameSum⟩ | ⟨refused, call, moved, rest, callMem, move, sum, next⟩
  · rw [sameDepot, sameSum]
    exact before
  · unfold held at fits
    rw [sum] at before
    rw [next] at fits ⊢
    exact move.accounted (accounts.whileRefusing refused) (measured call callMem) fits before

theorem accounted_run {schedule : List Turn} (measured : ∀ call ∈ system.calls, call.Measured)
    (fits : system.depot.supply.limit = none → peak backend schedule system < 2 ^ 64)
    (before : Accounted (system.sum Call.holding) system.depot) :
    Accounted ((system.run backend schedule).sum Call.holding)
      (system.run backend schedule).depot := by
  induction schedule generalizing system with
  | nil => exact before
  | cons turn rest ih =>
      -- The limit never changes, so the rest of the run is held to the same assumption.
      have later : system.depot.supply.limit = none →
          peak backend rest (system.step backend turn) < 2 ^ 64 := fun unlimited =>
        (Nat.max_lt.mp (fits unlimited)).2
      rw [run_cons]
      apply ih ((measured_stable accounts).step turn measured)
      · rw [limit_step accounts measured]
        exact later
      · refine accounted_step accounts measured turn (fun unlimited => ?_) before
        exact Nat.lt_of_le_of_lt (held_le_peak backend rest _) (later unlimited)

end

end System

theorem Depot.inUse_close (accounts : backend.Accounts) (depot : Depot Allocator) :
    (depot.close backend).inUse.toNat =
      depot.supply.inUse.toNat - depot.registry.bufferFootprint -
        depot.registry.handlesFootprint := by
  rcases depot with ⟨⟨config, buffer, handles⟩, supply, built, demands⟩
  have afterBuffer : ∀ a : Allocator, (match handles with
      | some published => backend.release published.cache.arena a
      | none => a).inUse.toNat =
        a.inUse.toNat - Registry.handlesFootprint ⟨config, buffer, handles⟩ := by
    intro a
    cases handles with
    | none => rfl
    | some published => exact (accounts.release published.cache.arena a).inUse
  refine (afterBuffer _).trans ?_
  congr 1
  cases buffer with
  | none => rfl
  | some content =>
      cases content with
      | none => rfl
      | some published => exact (accounts.release published.cache.arena supply).inUse

namespace System

end System

end CacheDepot
