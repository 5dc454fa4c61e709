import CacheDepot.Proofs.Memory.Occupancy

/-!
# Conservation of bytes

The bytes that an allocator has drawn from the system are in use, kept for later or
given back to the system. Only a request that is granted draws bytes, and only those
that it does not take from the bytes kept; all else moves bytes from one place to
another. While nothing was given back to the system, the bytes in use and the bytes
kept are together the most that were ever in use. The bytes given back are counted in
a word, which runs over once they are more.
-/

namespace CacheDepot.Memory

namespace Allocator

/-- Bytes drawn from the system so far: in use, kept for later, or given back. -/
def drawn (a : Allocator) : Nat :=
  a.inUse.toNat + a.retained.toNat + a.released.toNat

/-- An allocator turns into another one by which no byte is drawn, and a number of bytes that were
in use or kept go to the system. -/
structure Sheds (gone : Nat) (a b : Allocator) : Prop where
  balance : b.inUse.toNat + b.retained.toNat + gone = a.inUse.toNat + a.retained.toNat
  released : b.released = a.released + .ofNat gone

variable {a b c : Allocator} {bytes : Nat}

theorem serve_balance (fits : a.inUse.toNat + bytes < 2 ^ 64) :
    (a.serve bytes).inUse.toNat + (a.serve bytes).retained.toNat + min bytes a.retained.toNat =
      a.inUse.toNat + a.retained.toNat + bytes := by
  rw [inUse_serve fits, retained_serve]
  omega

theorem sheds_retrieve (covered : bytes ≤ a.inUse.toNat) :
    a.Sheds (bytes - a.room) (a.retrieve bytes) where
  balance := by
    rw [inUse_retrieve, retained_retrieve]
    omega
  released := released_retrieve bytes a

theorem sheds_setMaxFree (bound : UInt64) (a : Allocator) :
    a.Sheds (a.retained.toNat - bound.toNat) (a.setMaxFree bound) where
  balance := by
    rw [inUse_setMaxFree, retained_setMaxFree]
    omega
  released := released_setMaxFree bound a

namespace Sheds

variable {gone more : Nat}

theorem refl (a : Allocator) : a.Sheds 0 a where
  balance := Nat.add_zero _
  released := (UInt64.add_zero _).symm

theorem trans (first : a.Sheds gone b) (second : b.Sheds more c) : a.Sheds (gone + more) c where
  balance := by
    have before := first.balance
    have after := second.balance
    omega
  released := by
    rw [second.released, first.released, add_ofNat_add_ofNat]

/-- As long as the bytes given back fit a word, none is lost from the count. -/
theorem drawn_eq (sheds : a.Sheds gone b) (fits : a.released.toNat + gone < 2 ^ 64) :
    b.drawn = a.drawn := by
  have balance := sheds.balance
  unfold drawn
  rw [sheds.released, toNat_add_ofNat_of_fits fits]
  omega

end Sheds

end Allocator

namespace Workspace

/-! ## Operations -/

/-- The bytes that an operation is granted out of the ones kept. -/
def reused (w : Workspace) (operation : Operation) : Nat :=
  min (w.granted operation) w.allocator.retained.toNat

/-- The bytes that an operation gives back to the system: they were in use or kept or are drawn for
it, and are neither in use nor kept after it. -/
def shed (w : Workspace) (operation : Operation) : Nat :=
  let next := (perform operation w).2.allocator
  w.allocator.inUse.toNat + w.allocator.retained.toNat +
      (w.granted operation - w.reused operation) -
    (next.inUse.toNat + next.retained.toNat)

/-- All that an operation can do to the allocator: set the bound, or hand bytes out and then take
others back. -/
inductive Moves (a : Allocator) : Operation → Nat → Allocator → Prop
  | bound (bytes : UInt64) : Moves a (.setMaxFree bytes) 0 (a.setMaxFree bytes)
  | serve {operation : Operation} {bytes returned : Nat}
      (covered : returned ≤ (a.serve bytes).inUse.toNat) :
      Moves a operation bytes ((a.serve bytes).retrieve returned)

namespace Moves

variable {a : Allocator} {operation : Operation} {bytes : Nat}

theorem served : Moves a operation bytes (a.serve bytes) := by
  have moves : Moves a operation bytes ((a.serve bytes).retrieve 0) := .serve (Nat.zero_le _)
  rwa [Allocator.retrieve_zero] at moves

theorem nothing : Moves a operation 0 a := by
  have moves : Moves a operation 0 (a.serve 0) := served
  rwa [Allocator.serve_zero] at moves

theorem returned (covered : bytes ≤ a.inUse.toNat) : Moves a operation 0 (a.retrieve bytes) := by
  have moves : Moves a operation 0 ((a.serve 0).retrieve bytes) :=
    .serve (by rwa [Allocator.serve_zero])
  rwa [Allocator.serve_zero] at moves

variable {b : Allocator} (moves : Moves a operation bytes b)
include moves

theorem sheds : ∃ gone, (a.serve bytes).Sheds gone b := by
  cases moves with
  | bound bound =>
      rw [Allocator.serve_zero]
      exact ⟨_, Allocator.sheds_setMaxFree bound a⟩
  | serve covered => exact ⟨_, Allocator.sheds_retrieve covered⟩

/-- Without a bound all bytes that are taken back are kept, as long as there is room in a word. -/
theorem kept (fits : a.inUse.toNat + bytes < 2 ^ 64)
    (spare : a.inUse.toNat + a.retained.toNat < 2 ^ 64)
    (unbounded : a.maxFree = Allocator.unbounded)
    (noBound : ∀ bound, operation = .setMaxFree bound → bound = Allocator.unbounded) :
    b.inUse.toNat + b.retained.toNat =
        (a.serve bytes).inUse.toNat + (a.serve bytes).retained.toNat ∧
      b.maxFree = Allocator.unbounded := by
  have greatest : Allocator.unbounded.toNat = 2 ^ 64 - 1 := rfl
  cases moves with
  | bound bound =>
      obtain rfl := noBound bound rfl
      have shed := (Allocator.sheds_setMaxFree Allocator.unbounded a).balance
      rw [Allocator.serve_zero]
      exact ⟨by omega, rfl⟩
  | @serve _ _ returned covered =>
      have served := Allocator.serve_balance fits
      have shed := (Allocator.sheds_retrieve covered).balance
      have room : returned - (a.serve bytes).room = 0 := by
        rw [Allocator.inUse_serve fits] at covered
        rw [Allocator.room, Allocator.maxFree_serve, Allocator.retained_serve, unbounded]
        omega
      rw [Allocator.maxFree_retrieve, Allocator.maxFree_serve]
      exact ⟨by omega, unbounded⟩

end Moves

section

variable {w : Workspace} (accounted : w.Accounted)
include accounted

theorem moves_perform (operation : Operation)
    (fits : w.allocator.inUse.toNat + w.granted operation < 2 ^ 64) :
    Moves w.allocator operation (w.granted operation) (perform operation w).2.allocator := by
  cases operation with
  | acquire name =>
      have demanded : w.demand? (.acquire name) = some Arena.header := rfl
      by_cases affords : w.allocator.Affords Arena.header.toNat
      · rw [granted_of_affords demanded affords] at fits ⊢
        simp only [perform, Arena.acquire_of_affords affords, drop]
        split
        · next old found =>
            rw [Arena.dropped_eq_retrieve]
            apply Moves.serve
            rw [Allocator.inUse_serve fits]
            exact Nat.le_trans (accounted.footprint_le found) (Nat.le_add_right _ _)
        · exact .served
      · obtain ⟨refused, same⟩ := perform_of_not_affords demanded affords
        rw [refused, same]
        exact .nothing
  | reserve name bytes =>
      cases demanded : w.demand? (.reserve name bytes) with
      | none =>
          have absent : w.arena? name = none := Option.map_eq_none_iff.mp demanded
          rw [granted_of_undemanding demanded]
          simp only [perform, absent]
          exact .nothing
      | some asked =>
          obtain ⟨arena, found, rfl⟩ := Option.map_eq_some_iff.mp demanded
          by_cases affords : w.allocator.Affords bytes.toNat
          · rw [granted_of_affords demanded affords]
            simp only [perform, found, Arena.reserve_of_affords affords]
            exact .served
          · obtain ⟨refused, same⟩ := perform_of_not_affords demanded affords
            rw [refused, same]
            exact .nothing
  | clear name =>
      rw [granted_of_undemanding rfl]
      simp only [perform]
      split
      · exact .nothing
      · next arena found =>
          have covered := accounted.footprint_le found
          rw [Arena.cleared_eq_retrieve]
          apply Moves.returned
          unfold Arena.footprint at covered
          omega
  | drop name =>
      rw [granted_of_undemanding rfl]
      simp only [perform]
      split
      · exact .nothing
      · next arena found =>
          simp only [drop, found, Arena.dropped_eq_retrieve]
          exact .returned (accounted.footprint_le found)
  | setMaxFree bytes => exact .bound bytes

/-- An operation is granted bytes, and what it then gives back to the system was in use or kept. -/
theorem sheds_perform (operation : Operation)
    (fits : w.allocator.inUse.toNat + w.granted operation < 2 ^ 64) :
    (w.allocator.serve (w.granted operation)).Sheds (w.shed operation)
      (perform operation w).2.allocator := by
  obtain ⟨gone, sheds⟩ := (moves_perform accounted operation fits).sheds
  have served := Allocator.serve_balance fits
  have balance := sheds.balance
  have same : w.shed operation = gone := by
    simp only [shed, reused]
    omega
  rw [same]
  exact sheds

theorem drawn_perform {operation : Operation}
    (fits : w.allocator.inUse.toNat + w.granted operation < 2 ^ 64)
    (counted : w.allocator.released.toNat + w.shed operation < 2 ^ 64) :
    (perform operation w).2.allocator.drawn + w.reused operation =
      w.allocator.drawn + w.granted operation := by
  have served := Allocator.serve_balance fits
  have sheds := sheds_perform accounted operation fits
  rw [← Allocator.released_serve (w.granted operation)] at counted
  rw [sheds.drawn_eq counted]
  unfold Allocator.drawn reused
  rw [Allocator.released_serve]
  omega

/-- An operation draws what it is granted and does not find among the bytes kept. -/
theorem drawn_perform_eq {operation : Operation}
    (fits : w.allocator.inUse.toNat + w.granted operation < 2 ^ 64)
    (counted : w.allocator.released.toNat + w.shed operation < 2 ^ 64) :
    (∀ bytes, w.demand? operation = some bytes → (perform operation w).1 = .done →
      (perform operation w).2.allocator.drawn = w.allocator.drawn +
        (bytes.toNat - min bytes.toNat w.allocator.retained.toNat)) ∧
    (w.demand? operation = none ∨ (perform operation w).1 ≠ .done →
      (perform operation w).2.allocator.drawn = w.allocator.drawn) := by
  have balance := drawn_perform accounted fits counted
  unfold reused at balance
  constructor
  · intro bytes demanded done
    have all : w.granted operation = bytes.toNat := by simp only [granted, demanded, done]
    rw [all] at balance
    omega
  · intro asksNothing
    have nothing : w.granted operation = 0 := by
      rcases asksNothing with undemanding | refused
      · exact granted_of_undemanding undemanding
      · unfold granted
        split
        · next done _ => exact absurd done refused
        · rfl
    rw [nothing] at balance
    omega

/-- What was given back to the system stays with the system. -/
theorem released_perform {operation : Operation}
    (fits : w.allocator.inUse.toNat + w.granted operation < 2 ^ 64)
    (counted : w.allocator.released.toNat + w.shed operation < 2 ^ 64) :
    (perform operation w).2.allocator.released.toNat =
      w.allocator.released.toNat + w.shed operation := by
  rw [(sheds_perform accounted operation fits).released, Allocator.released_serve,
    toNat_add_ofNat_of_fits counted]

/-- Without a bound nothing goes back to the system, as long as the bytes in use and kept fit a
word. -/
theorem shed_eq_zero {operation : Operation}
    (fits : w.allocator.inUse.toNat + w.granted operation < 2 ^ 64)
    (spare : w.allocator.inUse.toNat + w.allocator.retained.toNat < 2 ^ 64)
    (unbounded : w.allocator.maxFree = Allocator.unbounded)
    (noBound : ∀ bytes, operation = .setMaxFree bytes → bytes = Allocator.unbounded) :
    w.shed operation = 0 ∧ (perform operation w).2.allocator.maxFree = Allocator.unbounded := by
  obtain ⟨kept, stays⟩ := (moves_perform accounted operation fits).kept fits spare unbounded noBound
  have balance := (sheds_perform accounted operation fits).balance
  exact ⟨by omega, stays⟩

end

/-! ## Runs -/

/-- A quantity that belongs to each operation, added up over a run. -/
def tally (quantity : Workspace → Operation → Nat) : List Operation → Workspace → Nat
  | [], _ => 0
  | operation :: rest, w => quantity w operation + tally quantity rest (perform operation w).2

/-- The allocators that a run goes through: at first, after each grant, and after each operation. An
operation is granted its bytes before it gives any back. -/
def history : List Operation → Workspace → List Allocator
  | [], w => [w.allocator]
  | operation :: rest, w =>
      w.allocator :: w.allocator.grant (.ofNat (w.granted operation)) ::
        history rest (perform operation w).2

theorem tally_append (quantity : Workspace → Operation → Nat) (before after : List Operation)
    (w : Workspace) :
    tally quantity (before ++ after) w =
      tally quantity before w + tally quantity after (run before w) := by
  induction before generalizing w with
  | nil => exact (Nat.zero_add _).symm
  | cons operation rest ih =>
      change quantity w operation + tally quantity (rest ++ after) (perform operation w).2 =
        quantity w operation + tally quantity rest (perform operation w).2 +
          tally quantity after (run rest (perform operation w).2)
      rw [ih, Nat.add_assoc]

/-- No part of a run exceeds the peak of the whole. -/
theorem peak_append_le (before after : List Operation) (w : Workspace) :
    peak before w ≤ peak (before ++ after) w ∧
      peak after (run before w) ≤ peak (before ++ after) w := by
  induction before generalizing w with
  | nil =>
      refine ⟨?_, Nat.le_refl _⟩
      cases after with
      | nil => exact Nat.le_refl _
      | cons operation rest => exact Nat.le_trans (Nat.le_add_right _ _) (Nat.le_max_left _ _)
  | cons operation rest ih =>
      obtain ⟨first, second⟩ := ih (perform operation w).2
      have parts : ∀ more, peak (operation :: more) w =
        max (w.allocator.inUse.toNat + w.granted operation) (peak more (perform operation w).2) :=
        fun _ => rfl
      rw [List.cons_append, parts, parts]
      constructor
      · omega
      · exact Nat.le_trans second (Nat.le_max_right _ _)

section

variable {w : Workspace} (accounted : w.Accounted)
include accounted

/-- What is granted in a run is drawn or taken from the bytes kept, and what is drawn is in use,
kept, or given back to the system. -/
theorem balance_run {operations : List Operation} (fits : peak operations w < 2 ^ 64) :
    let last := (run operations w).allocator
    last.inUse.toNat + last.retained.toNat + tally shed operations w + tally reused operations w =
        w.allocator.inUse.toNat + w.allocator.retained.toNat + tally granted operations w ∧
      last.released = w.allocator.released + .ofNat (tally shed operations w) := by
  induction operations generalizing w with
  | nil => exact ⟨rfl, (UInt64.add_zero _).symm⟩
  | cons operation rest ih =>
      obtain ⟨first, later⟩ := Nat.max_lt.mp fits
      have served := Allocator.serve_balance first
      have sheds := sheds_perform accounted operation first
      have balance := sheds.balance
      obtain ⟨rest_balance, released⟩ := ih (accounted.perform operation first) later
      constructor
      · change (run rest (perform operation w).2).allocator.inUse.toNat +
            (run rest (perform operation w).2).allocator.retained.toNat +
            (w.shed operation + tally shed rest (perform operation w).2) +
            (w.reused operation + tally reused rest (perform operation w).2) =
          w.allocator.inUse.toNat + w.allocator.retained.toNat +
            (w.granted operation + tally granted rest (perform operation w).2)
        unfold reused at *
        omega
      · change (run rest (perform operation w).2).allocator.released =
          w.allocator.released + .ofNat (w.shed operation + tally shed rest (perform operation w).2)
        rw [released, sheds.released, Allocator.released_serve, add_ofNat_add_ofNat]

theorem released_run {operations : List Operation} (fits : peak operations w < 2 ^ 64)
    (counted : w.allocator.released.toNat + tally shed operations w < 2 ^ 64) :
    (run operations w).allocator.released.toNat =
      w.allocator.released.toNat + tally shed operations w := by
  rw [(balance_run accounted fits).2, toNat_add_ofNat_of_fits counted]

theorem pairwise_released_history {operations : List Operation}
    (fits : peak operations w < 2 ^ 64)
    (counted : w.allocator.released.toNat + tally shed operations w < 2 ^ 64) :
    (∀ a ∈ history operations w, w.allocator.released ≤ a.released) ∧
      (history operations w).Pairwise fun a b => a.released ≤ b.released := by
  induction operations generalizing w with
  | nil => exact ⟨by simp [history], List.pairwise_singleton _ _⟩
  | cons operation rest ih =>
      obtain ⟨first, later⟩ := Nat.max_lt.mp fits
      have parts : tally shed (operation :: rest) w =
        w.shed operation + tally shed rest (perform operation w).2 := rfl
      have next := released_perform accounted first (by omega)
      obtain ⟨atLeast, ordered⟩ := ih (accounted.perform operation first) later (by omega)
      have grows : w.allocator.released ≤ (perform operation w).2.allocator.released := by
        rw [UInt64.le_iff_toNat_le]
        omega
      have above : ∀ a ∈ history rest (perform operation w).2,
          w.allocator.released ≤ a.released := fun a aMem =>
        UInt64.le_trans grows (atLeast a aMem)
      have granted : ∀ a ∈ w.allocator.grant (.ofNat (w.granted operation)) ::
          history rest (perform operation w).2, w.allocator.released ≤ a.released :=
        List.forall_mem_cons.mpr ⟨UInt64.le_refl _, above⟩
      constructor
      · exact List.forall_mem_cons.mpr ⟨UInt64.le_refl _, granted⟩
      · exact .cons granted (.cons above ordered)

/-- As long as no bound was put on the bytes kept, nothing goes back to the system, and the bytes in
use and kept are the most that were in use. -/
theorem spared_run {operations : List Operation} (fits : peak operations w < 2 ^ 64)
    (unbounded : w.allocator.maxFree = Allocator.unbounded)
    (noBound : ∀ bytes, Operation.setMaxFree bytes ∈ operations → bytes = Allocator.unbounded)
    (spare : w.allocator.inUse.toNat + w.allocator.retained.toNat < 2 ^ 64) :
    let last := (run operations w).allocator
    tally shed operations w = 0 ∧
      last.inUse.toNat + last.retained.toNat =
        max (w.allocator.inUse.toNat + w.allocator.retained.toNat) (peak operations w) := by
  induction operations generalizing w with
  | nil => exact ⟨rfl, (Nat.max_eq_left (Nat.le_add_right _ _)).symm⟩
  | cons operation rest ih =>
      obtain ⟨first, later⟩ := Nat.max_lt.mp fits
      have served := Allocator.serve_balance first
      have balance := (sheds_perform accounted operation first).balance
      obtain ⟨nothing, stays⟩ := shed_eq_zero accounted first spare unbounded
        fun bytes set => noBound bytes (set ▸ List.mem_cons_self)
      have next : (perform operation w).2.allocator.inUse.toNat +
          (perform operation w).2.allocator.retained.toNat =
        max (w.allocator.inUse.toNat + w.allocator.retained.toNat)
          (w.allocator.inUse.toNat + w.granted operation) := by
        omega
      obtain ⟨nothingLater, last⟩ := ih (accounted.perform operation first) later stays
        (fun bytes set => noBound bytes (List.mem_cons_of_mem _ set)) (by omega)
      constructor
      · change w.shed operation + tally shed rest (perform operation w).2 = 0
        omega
      · refine last.trans ?_
        rw [next, peak, Nat.max_assoc]

end

theorem max?_history {operations : List Operation} {w : Workspace}
    (fits : peak operations w < 2 ^ 64) :
    ((history operations w).map fun a => a.inUse.toNat).max? = some (peak operations w) := by
  induction operations generalizing w with
  | nil => rfl
  | cons operation rest ih =>
      obtain ⟨first, later⟩ := Nat.max_lt.mp fits
      have granted : (w.allocator.grant (.ofNat (w.granted operation))).inUse.toNat =
          w.allocator.inUse.toNat + w.granted operation := by
        exact toNat_add_ofNat_of_fits first
      simp only [history, List.map_cons, List.max?_cons, ih later, Option.elim_some, granted]
      have highest : peak (operation :: rest) w =
        max (w.allocator.inUse.toNat + w.granted operation) (peak rest (perform operation w).2) :=
        rfl
      exact congrArg some (by omega)

end Workspace

end CacheDepot.Memory
