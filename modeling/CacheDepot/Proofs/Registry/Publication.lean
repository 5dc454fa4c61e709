import CacheDepot.Proofs.Registry.Schedules

/-!
# Publication

Several calls may build a cache for the same slot at the same time. The slot takes
the first one that is published and keeps it, and every call that is told of a cache
is told of that one, its own candidate or not. This holds for arbitrary schedules
over an arbitrary backend, so in particular for calls that run in the middle of
another call's demand; a supply may hold beforehand whatever the backend is to
answer.
-/

namespace CacheDepot

namespace System

variable {σ : Type} {backend : Backend σ}

theorem grows_step (system : System σ) (turn : Turn) :
    system.depot.registry.Grows (system.step backend turn).depot.registry := by
  cases turn with
  | begin request => exact Registry.Grows.refl _
  | move number refused =>
      cases present : system.calls[number]? with
      | none =>
          rw [step_move_absent present]
          exact Registry.Grows.refl _
      | some call =>
          rw [step_move present]
          exact (system.depot.move_advance _ call).grows

theorem grows_run (system : System σ) (schedule : List Turn) :
    system.depot.registry.Grows (system.run backend schedule).depot.registry := by
  induction schedule generalizing system with
  | nil => exact Registry.Grows.refl _
  | cons turn rest ih =>
      rw [run_cons]
      exact (system.grows_step turn).trans (ih _)

/-! ## Calls agree with the registry -/

/-- All that a call got agrees with what is published. -/
def Informed (call : Call) (depot : Depot σ) : Prop :=
  ∀ answer, call.Got answer → answer.AgreesWith depot.registry

theorem informed_stable (backend : Backend σ) : Stable backend Informed where
  start request _ answer got := absurd got (Call.not_got_start request answer)
  own move informed answer got := by
    rcases move.got got with old | agrees
    · exact (informed answer old).grow move.grows
    · exact agrees
  other move _ informed answer got := (informed answer got).grow move.grows

theorem informed_of_run_fresh (supply : σ) (schedule : List Turn) :
    ∀ call ∈ ((fresh supply).run backend schedule).calls,
      Informed call ((fresh supply).run backend schedule).depot :=
  (informed_stable backend).run_fresh schedule supply

end System

/-! ## Numbers tell instances apart -/

/-- One for the number in question, nothing for any other. -/
def indicator (number other : Nat) : Nat :=
  if other = number then 1 else 0

/-- How many candidates of a number a call is about to publish. -/
def Call.bears (number : Nat) (call : Call) : Nat :=
  match call.phase with
  | .publishBuffer (some candidate) => indicator number candidate.number
  | .publishHandles candidate => indicator number candidate.number
  | _ => 0

/-- How many published caches have a number. -/
def Registry.bears (number : Nat) (registry : Registry) : Nat :=
  (match registry.buffer with
    | some (some published) => indicator number published.number
    | _ => 0) +
  (match registry.handles with
    | some published => indicator number published.number
    | none => 0)

/-- How many caches of a number are published or about to be. -/
def System.bearers {σ : Type} (number : Nat) (system : System σ) : Nat :=
  system.depot.registry.bears number + system.sum (Call.bears number)

namespace Call

@[simp]
theorem bears_withBuffer (number : Nat) (cache : Option (Instance Buffer.Cache)) (call : Call) :
    (call.withBuffer cache).bears number = 0 := by
  unfold withBuffer
  split <;> rfl

@[simp]
theorem bears_withHandles (number : Nat)
    (cache : Except CachingError (Instance Handles.Cache)) (call : Call) :
    (call.withHandles cache).bears number = 0 := by
  unfold withHandles
  split <;> rfl

end Call

namespace System

variable {σ : Type} {backend : Backend σ}

/-- Numbers from `built` on are not in use, and no number is in use twice. -/
def Distinct (number total : Nat) (depot : Depot σ) : Prop :=
  depot.registry.bears number + total ≤ if number < depot.built then 1 else 0

theorem Distinct.of_le {number total total' : Nat} {depot depot' : Depot σ}
    (distinct : Distinct number total depot)
    (fewer : depot'.registry.bears number + total' ≤ depot.registry.bears number + total)
    (built : depot'.built = depot.built) : Distinct number total' depot' := by
  unfold Distinct at distinct ⊢
  rw [built]
  exact Nat.le_trans fewer distinct

/-- What is built next gets a number that is not in use. -/
theorem Distinct.build {number rest : Nat} {depot depot' : Depot σ}
    (distinct : Distinct number (0 + rest) depot)
    (registry : depot'.registry = depot.registry) (built : depot'.built = depot.built + 1) :
    Distinct number (indicator number depot.built + rest) depot' := by
  unfold Distinct indicator at *
  rw [registry, built]
  grind

theorem Distinct.move {number rest : Nat} {call moved : Call} {depot next : Depot σ}
    (move : Move backend call depot moved next)
    (distinct : Distinct number (call.bears number + rest) depot) :
    Distinct number (moved.bears number + rest) next := by
  cases move with
  | bufferBuilt built | handlesBuilt built => exact distinct.build rfl rfl
  | bufferFound filled | bufferNoArena exhausted | absenceLate filled | bufferLate late filled =>
      exact distinct.of_le (by simp) rfl
  | handlesFound filled | handlesLate late filled => exact distinct.of_le (by simp) rfl
  | handlesNoArena exhausted | handlesFailed failed => exact distinct.of_le (by simp) rfl
  | bufferPublished candidate empty =>
      -- The candidate goes over from the call to the slot.
      refine distinct.of_le ?_ rfl
      rw [Call.bears_withBuffer]
      cases candidate <;> simp only [Registry.bears, Call.bears, empty] <;> omega
  | handlesPublished candidate empty =>
      refine distinct.of_le ?_ rfl
      rw [Call.bears_withHandles]
      simp only [Registry.bears, Call.bears, empty]
      omega
  | _ => exact distinct

theorem distinct_balanced (backend : Backend σ) (number : Nat) :
    Balanced backend (fun _ _ => True) (Call.bears number) (Distinct number) where
  start request := by cases request <;> rfl
  own move _ distinct := distinct.move move

theorem bearers_run_fresh_le (supply : σ) (schedule : List Turn) (number : Nat) :
    ((fresh supply).run backend schedule).bearers number ≤ 1 := by
  have distinct : Distinct number _ _ :=
    (distinct_balanced backend number).run_fresh (stable_true backend) schedule supply
      (Nat.zero_le _)
  refine Nat.le_trans distinct ?_
  split <;> decide

/-- Slots are empty at first, are filled at most once and keep what fills them. A call that is told
of a cache, whatever it built itself, is told of the one in the slot, so of none at all where the
slot says that there is none. No two of the caches that are published or about to be have the same
number, so a published one is never mistaken for a candidate that lost against it. -/
theorem slots_fill_once (backend : Backend σ) (supply : σ) (earlier later : List Turn) :
    let before := (fresh supply).run backend earlier
    let after := before.run backend later
    ((fresh supply).depot.registry.buffer = none ∧ (fresh supply).depot.registry.handles = none) ∧
    (∀ content, before.depot.registry.buffer = some content →
      after.depot.registry.buffer = some content) ∧
    (∀ published, before.depot.registry.handles = some published →
      after.depot.registry.handles = some published) ∧
    (∀ call ∈ after.calls, ∀ found, call.Got (.buffer (some found)) →
      after.depot.registry.buffer = some (some found)) ∧
    (after.depot.registry.buffer = some none →
      ∀ call ∈ after.calls, ∀ found, ¬ call.Got (.buffer (some found))) ∧
    (∀ call ∈ after.calls, ∀ found, call.Got (.handles (.ok found)) →
      after.depot.registry.handles = some found) ∧
    ∀ number, after.bearers number ≤ 1 := by
  intro before after
  have reached : after = (fresh supply).run backend (earlier ++ later) := (run_append ..).symm
  have grows : before.depot.registry.Grows after.depot.registry := before.grows_run later
  have informed : ∀ call ∈ after.calls, Informed call after.depot := by
    rw [reached]
    exact informed_of_run_fresh supply (earlier ++ later)
  refine ⟨⟨rfl, rfl⟩, grows.buffer, grows.handles, ?_, ?_, ?_, ?_⟩
  · intro call callMem found got
    exact informed call callMem _ got
  · intro absent call callMem found got
    have present : after.depot.registry.buffer = some (some found) := informed call callMem _ got
    rw [absent] at present
    cases present
  · intro call callMem found got
    exact informed call callMem _ got
  · rw [reached]
    exact bearers_run_fresh_le supply (earlier ++ later)

end System

end CacheDepot
