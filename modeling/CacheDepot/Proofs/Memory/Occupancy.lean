import CacheDepot.Memory.Workspace
import CacheDepot.Proofs.Memory.Bounds
import CacheDepot.Proofs.Named
import Mathlib.Algebra.GroupWithZero.Nat
import Mathlib.Data.List.Nodup

/-!
# Bytes in use by arenas

The bytes in use of an allocator are those of the arenas that live on it, each with
its header, whatever operations led there. No byte is given back that is not in use,
so the truncated differences of the allocator are exact. This rests on the bytes in
use fitting a machine word at all times, as they do under a limit; without one they
can run over, and then less is in use, by the count, than the arenas have taken.
-/

namespace CacheDepot.Memory

/-- The bytes that arenas have taken together. -/
def totalFootprint (arenas : List (String × Arena)) : Nat :=
  (arenas.map fun entry => entry.2.footprint).sum

/-- One arena and those of other names have taken all bytes together. -/
theorem totalFootprint_filter_ne {arenas : List (String × Arena)} {name : String} {arena : Arena}
    (distinct : (arenas.map Prod.fst).Nodup) (found : arenas.lookup name = some arena) :
    arena.footprint + totalFootprint (arenas.filter fun entry => entry.1 ≠ name) =
      totalFootprint arenas := by
  have parts := ((Named.perm_of_lookup distinct found).map fun entry => entry.2.footprint).sum_nat
  rw [List.map_cons, List.sum_cons] at parts
  exact parts.symm

namespace Workspace

/-! ## Named arenas -/

/-- The names of the live arenas. -/
def names (w : Workspace) : List String :=
  w.arenas.map Prod.fst

theorem nodup_names_others {w : Workspace} (distinct : w.names.Nodup) (name : String) :
    ((w.others name).map Prod.fst).Nodup :=
  distinct.sublist (List.filter_sublist.map Prod.fst)

theorem not_mem_names_others (name : String) (w : Workspace) :
    name ∉ (w.others name).map Prod.fst := by
  intro present
  obtain ⟨entry, entryMem, rfl⟩ := List.mem_map.mp present
  simpa [others] using (List.mem_filter.mp entryMem).2

theorem others_of_absent {name : String} {w : Workspace} (absent : w.arena? name = none) :
    w.others name = w.arenas := by
  exact Named.filter_ne_of_absent (Named.lookup_eq_none_iff.mp absent)

theorem arenas_drop (name : String) (w : Workspace) : (w.drop name).arenas = w.others name := by
  unfold drop
  cases found : w.arena? name with
  | none => exact (others_of_absent found).symm
  | some arena => rfl

/-- An arena that ends gives its footprint back and nothing else. -/
theorem inUse_drop {w : Workspace} (distinct : w.names.Nodup)
    (covered : totalFootprint w.arenas ≤ w.allocator.inUse.toNat) (name : String) :
    (w.drop name).allocator.inUse.toNat + totalFootprint w.arenas =
      w.allocator.inUse.toNat + totalFootprint (w.others name) := by
  unfold drop
  cases found : w.arena? name with
  | none =>
      rw [others_of_absent found]
  | some arena =>
      have parts := totalFootprint_filter_ne distinct found
      simp only [Arena.dropped_eq_retrieve, Allocator.inUse_retrieve, others]
      omega

theorem within_drop {w : Workspace} (within : w.allocator.Within) (name : String) :
    (w.drop name).allocator.Within := by
  unfold drop
  split
  · next arena found =>
      rw [Arena.dropped_eq_retrieve]
      exact within.retrieve arena.footprint
  · exact within

/-! ## Requests -/

/-- The bytes that an operation asks the allocator for. -/
def demand? (w : Workspace) : Operation → Option UInt64
  | .acquire _ => some Arena.header
  | .reserve name bytes => (w.arena? name).map fun _ => bytes
  | .clear _ => none
  | .drop _ => none
  | .setMaxFree _ => none

/-- The bytes that an operation is granted: those that it asks for, if it gets what it asks for. -/
def granted (w : Workspace) (operation : Operation) : Nat :=
  match (perform operation w).1, w.demand? operation with
  | .done, some bytes => bytes.toNat
  | _, _ => 0

section

variable {w : Workspace} {operation : Operation} {bytes : UInt64}

theorem perform_of_short {most : UInt64} (demanded : w.demand? operation = some bytes)
    (limited : w.allocator.limit = some most)
    (short : most.toNat - w.allocator.inUse.toNat < bytes.toNat) :
    perform operation w = (.exhausted ⟨bytes, monus most w.allocator.inUse⟩, w) := by
  cases operation with
  | acquire name =>
      cases demanded
      simp only [perform, Arena.acquire, Allocator.allocate_of_short limited short]
  | reserve name asked =>
      obtain ⟨arena, found, rfl⟩ := Option.map_eq_some_iff.mp demanded
      simp only [perform, found, Arena.reserve, Allocator.allocate_of_short limited short]
  | _ => cases demanded

theorem perform_of_affords (demanded : w.demand? operation = some bytes)
    (affords : w.allocator.Affords bytes.toNat) : (perform operation w).1 = .done := by
  cases operation with
  | acquire name =>
      cases demanded
      simp only [perform, Arena.acquire, Allocator.allocate_of_affords affords]
  | reserve name asked =>
      obtain ⟨arena, found, rfl⟩ := Option.map_eq_some_iff.mp demanded
      simp only [perform, found, Arena.reserve, Allocator.allocate_of_affords affords]
  | _ => cases demanded

theorem perform_of_undemanding (undemanding : w.demand? operation = none) (error : Exhausted) :
    (perform operation w).1 ≠ .exhausted error := by
  cases operation with
  | acquire name => cases undemanding
  | reserve name asked =>
      have absent : w.arena? name = none := Option.map_eq_none_iff.mp undemanding
      simp only [perform, absent, ne_eq, reduceCtorEq, not_false_eq_true]
  | clear name | drop name =>
      simp only [perform]
      split <;> simp
  | setMaxFree bound => simp [perform]

theorem granted_of_undemanding (undemanding : w.demand? operation = none) :
    w.granted operation = 0 := by
  unfold granted
  split
  · next demanded =>
      rw [undemanding] at demanded
      contradiction
  · rfl

theorem granted_of_affords (demanded : w.demand? operation = some bytes)
    (affords : w.allocator.Affords bytes.toNat) : w.granted operation = bytes.toNat := by
  unfold granted
  rw [perform_of_affords demanded affords, demanded]

/-- A request that the limit does not allow changes nothing. -/
theorem perform_of_not_affords (demanded : w.demand? operation = some bytes)
    (short : ¬w.allocator.Affords bytes.toNat) :
    w.granted operation = 0 ∧ (perform operation w).2 = w := by
  obtain ⟨most, limited, short⟩ := Allocator.exists_of_not_affords short
  unfold granted
  rw [perform_of_short demanded limited short]
  exact ⟨rfl, rfl⟩

/-- Only what the limit allows is granted. -/
theorem affords_granted (operation : Operation) (w : Workspace) :
    w.allocator.Affords (w.granted operation) := by
  cases demanded : w.demand? operation with
  | none =>
      rw [granted_of_undemanding demanded]
      exact w.allocator.affords_zero
  | some bytes =>
      by_cases affords : w.allocator.Affords bytes.toNat
      · rw [granted_of_affords demanded affords]
        exact affords
      · rw [(perform_of_not_affords demanded affords).1]
        exact w.allocator.affords_zero

end

/-! ## The limit stays -/

theorem limit_drop (name : String) (w : Workspace) :
    (w.drop name).allocator.limit = w.allocator.limit := by
  unfold drop
  split
  · rw [Arena.dropped_eq_retrieve, Allocator.limit_retrieve]
  · rfl

theorem limit_perform (operation : Operation) (w : Workspace) :
    (perform operation w).2.allocator.limit = w.allocator.limit := by
  cases operation with
  | acquire name =>
      simp only [perform]
      split
      · rfl
      · next arena next acquired =>
          obtain ⟨-, -, rfl⟩ := Arena.acquire_eq_ok_iff.mp acquired
          exact (limit_drop name _).trans (Allocator.limit_serve _ _)
  | reserve name bytes =>
      simp only [perform]
      split
      · rfl
      · split
        · rfl
        · next larger next reserved =>
            obtain ⟨-, -, rfl⟩ := Arena.reserve_eq_ok_iff.mp reserved
            exact Allocator.limit_serve _ _
  | clear name =>
      simp only [perform]
      split
      · rfl
      · rw [Arena.cleared_eq_retrieve, Allocator.limit_retrieve]
  | drop name =>
      simp only [perform]
      split
      · rfl
      · exact limit_drop name w
  | setMaxFree bytes => rfl

theorem limit_run (operations : List Operation) (w : Workspace) :
    (run operations w).allocator.limit = w.allocator.limit := by
  induction operations generalizing w with
  | nil => rfl
  | cons operation rest ih => exact (ih _).trans (limit_perform operation w)

/-! ## The most bytes in use -/

/-- The most bytes in use at a time of a run, as a number. An operation is granted its bytes before
it gives any back. -/
def peak : List Operation → Workspace → Nat
  | [], w => w.allocator.inUse.toNat
  | operation :: rest, w =>
      max (w.allocator.inUse.toNat + w.granted operation) (peak rest (perform operation w).2)

/-- Under a limit the bytes in use always fit a word. -/
theorem peak_lt {w : Workspace} {operations : List Operation}
    (fits : w.allocator.limit = none → peak operations w < 2 ^ 64) :
    peak operations w < 2 ^ 64 := by
  induction operations generalizing w with
  | nil => exact w.allocator.inUse.toNat_lt
  | cons operation rest ih =>
      -- Under a limit each grant fits by itself; without one the assumption covers it.
      have first := (affords_granted operation w).fits fun unlimited =>
        Nat.lt_of_le_of_lt (Nat.le_max_left _ _) (fits unlimited)
      have later : peak rest (perform operation w).2 < 2 ^ 64 := by
        apply ih
        intro unlimited
        rw [limit_perform] at unlimited
        exact Nat.lt_of_le_of_lt (Nat.le_max_right _ _) (fits unlimited)
      exact Nat.max_lt.mpr ⟨first, later⟩

/-! ## What every operation keeps -/

/-- The names tell the live arenas apart, and the allocator is within its limit and its bound. -/
structure Sound (w : Workspace) : Prop where
  distinct : w.names.Nodup
  within : w.allocator.Within

namespace Sound

theorem fresh (limit : Option UInt64) (maxFree : UInt64) :
    Sound ⟨{ limit := limit, maxFree := maxFree }, []⟩ where
  distinct := List.nodup_nil
  within := ⟨fun most _ => Nat.zero_le most.toNat, Nat.zero_le maxFree.toNat⟩

variable {w : Workspace} (sound : w.Sound)
include sound

/-- An arena under a name, beside the arenas of other names. -/
theorem put {name : String} {arena : Arena} {next : Allocator} (within : next.Within) :
    Sound ⟨next, (name, arena) :: w.others name⟩ where
  distinct := List.nodup_cons.mpr
    ⟨w.not_mem_names_others name, nodup_names_others sound.distinct name⟩
  within := within

theorem drop (name : String) : (w.drop name).Sound where
  distinct := by
    rw [names, arenas_drop]
    exact nodup_names_others sound.distinct name
  within := within_drop sound.within name

theorem perform (operation : Operation) : (Workspace.perform operation w).2.Sound := by
  cases operation with
  | acquire name =>
      simp only [Workspace.perform]
      split
      · exact sound
      · next arena next acquired =>
          obtain ⟨-, affords, rfl⟩ := Arena.acquire_eq_ok_iff.mp acquired
          rw [arenas_drop]
          exact sound.put (within_drop (sound.within.serve affords) name)
  | reserve name bytes =>
      simp only [Workspace.perform]
      split
      · exact sound
      · split
        · exact sound
        · next larger next reserved =>
            obtain ⟨-, affords, rfl⟩ := Arena.reserve_eq_ok_iff.mp reserved
            exact sound.put (sound.within.serve affords)
  | clear name =>
      simp only [Workspace.perform]
      split
      · exact sound
      · rw [Arena.cleared_eq_retrieve]
        exact sound.put (sound.within.retrieve _)
  | drop name =>
      simp only [Workspace.perform]
      split
      · exact sound
      · exact sound.drop name
  | setMaxFree bytes => exact ⟨sound.distinct, sound.within.setMaxFree bytes⟩

theorem run (operations : List Operation) : (Workspace.run operations w).Sound := by
  induction operations generalizing w with
  | nil => exact sound
  | cons operation rest ih => exact ih (sound.perform operation)

end Sound

/-- The bytes in use are the footprints of the live arenas. Operations keep this only as long as the
bytes in use fit a word. -/
structure Accounted (w : Workspace) : Prop extends Sound w where
  inUse : w.allocator.inUse.toNat = totalFootprint w.arenas

namespace Accounted

theorem fresh (limit : Option UInt64) (maxFree : UInt64) :
    Accounted ⟨{ limit := limit, maxFree := maxFree }, []⟩ where
  toSound := .fresh limit maxFree
  inUse := rfl

variable {w : Workspace} (accounted : w.Accounted)
include accounted

theorem inUse_eq_others {name : String} {arena : Arena} (found : w.arena? name = some arena) :
    w.allocator.inUse.toNat = arena.footprint + totalFootprint (w.others name) := by
  rw [accounted.inUse]
  exact (totalFootprint_filter_ne accounted.distinct found).symm

theorem footprint_le {name : String} {arena : Arena} (found : w.arena? name = some arena) :
    arena.footprint ≤ w.allocator.inUse.toNat := by
  rw [accounted.inUse_eq_others found]
  exact Nat.le_add_right _ _

/-- The new arena is there before the one of the same name ends. -/
theorem inUse_acquire {name : String} {arena : Arena} {next : Allocator}
    (acquired : Arena.acquire w.allocator = .ok (arena, next))
    (fits : w.allocator.inUse.toNat + Arena.header.toNat < 2 ^ 64) :
    (Workspace.drop name { w with allocator := next }).allocator.inUse.toNat =
      arena.footprint + totalFootprint (w.others name) := by
  obtain ⟨rfl, -, served⟩ := Arena.acquire_eq_ok_iff.mp acquired
  have taken : next.inUse.toNat = w.allocator.inUse.toNat + Arena.header.toNat := by
    rw [served, Allocator.inUse_serve fits]
  -- The old arena ends after the new one was served, so it is covered by the larger sum.
  have enough : totalFootprint w.arenas ≤ next.inUse.toNat := by
    rw [taken, accounted.inUse]
    exact Nat.le_add_right _ _
  have before := accounted.inUse
  have empty : Arena.footprint ⟨0⟩ = Arena.header.toNat := rfl
  have dropped := inUse_drop (w := { w with allocator := next }) accounted.distinct enough name
  simp only [others] at dropped ⊢
  omega

theorem inUse_reserve {name : String} {arena larger : Arena} {bytes : UInt64} {next : Allocator}
    (found : w.arena? name = some arena)
    (reserved : arena.reserve bytes w.allocator = .ok (larger, next))
    (fits : w.allocator.inUse.toNat + bytes.toNat < 2 ^ 64) :
    next.inUse.toNat = larger.footprint + totalFootprint (w.others name) := by
  obtain ⟨rfl, -, rfl⟩ := Arena.reserve_eq_ok_iff.mp reserved
  have before := accounted.inUse_eq_others found
  have smaller : arena.reserved.toNat + bytes.toNat < 2 ^ 64 := by
    unfold Arena.footprint at before
    omega
  rw [Allocator.inUse_serve fits, Arena.footprint_enlarge smaller]
  omega

theorem inUse_clear {name : String} {arena : Arena} (found : w.arena? name = some arena) :
    (arena.cleared w.allocator).inUse.toNat =
      Arena.footprint ⟨0⟩ + totalFootprint (w.others name) := by
  have before := accounted.inUse_eq_others found
  have empty : Arena.footprint ⟨0⟩ = Arena.header.toNat := rfl
  rw [Arena.cleared_eq_retrieve, Allocator.inUse_retrieve]
  unfold Arena.footprint at before empty ⊢
  omega

theorem drop (name : String) : (w.drop name).Accounted where
  toSound := accounted.toSound.drop name
  inUse := by
    have before := accounted.inUse
    have dropped := inUse_drop accounted.distinct (Nat.le_of_eq before.symm) name
    rw [arenas_drop]
    omega

theorem perform (operation : Operation)
    (fits : w.allocator.inUse.toNat + w.granted operation < 2 ^ 64) :
    (Workspace.perform operation w).2.Accounted := by
  refine ⟨accounted.toSound.perform operation, ?_⟩
  cases operation with
  | acquire name =>
      simp only [Workspace.perform]
      split
      · exact accounted.inUse
      · next arena next acquired =>
          rw [granted_of_affords rfl (Arena.acquire_eq_ok_iff.mp acquired).2.1] at fits
          rw [arenas_drop]
          exact accounted.inUse_acquire acquired fits
  | reserve name bytes =>
      simp only [Workspace.perform]
      split
      · exact accounted.inUse
      · next arena found =>
          split
          · exact accounted.inUse
          · next larger next reserved =>
              have demanded : w.demand? (.reserve name bytes) = some bytes :=
                congrArg (Option.map fun _ => bytes) found
              rw [granted_of_affords demanded (Arena.reserve_eq_ok_iff.mp reserved).2.1] at fits
              exact accounted.inUse_reserve found reserved fits
  | clear name =>
      simp only [Workspace.perform]
      split
      · exact accounted.inUse
      · next arena found => exact accounted.inUse_clear found
  | drop name =>
      simp only [Workspace.perform]
      split
      · exact accounted.inUse
      · exact (accounted.drop name).inUse
  | setMaxFree bytes => exact accounted.inUse

theorem run {operations : List Operation} (fits : peak operations w < 2 ^ 64) :
    (Workspace.run operations w).Accounted := by
  induction operations generalizing w with
  | nil => exact accounted
  | cons operation rest ih =>
      obtain ⟨first, later⟩ := Nat.max_lt.mp fits
      exact ih (accounted.perform operation first) later

end Accounted

/-! ## Giving back -/

/-- An allocator that arenas of the workspace give their bytes back to: the present one, or the one
that has just served an arena which is to take the place of another. Without a limit the bytes in
use are to fit a word then. -/
def Serves (w : Workspace) (a : Allocator) : Prop :=
  a = w.allocator ∨
    (∃ made, Arena.acquire w.allocator = .ok (made, a)) ∧
      (w.allocator.limit = none → w.allocator.inUse.toNat + Arena.header.toNat < 2 ^ 64)

theorem Accounted.serves {w : Workspace} (accounted : w.Accounted) {a : Allocator}
    (serves : w.Serves a) : w.allocator.inUse.toNat ≤ a.inUse.toNat ∧ a.Within := by
  rcases serves with rfl | ⟨⟨made, acquired⟩, unlimited⟩
  · exact ⟨Nat.le_refl _, accounted.within⟩
  · obtain ⟨-, affords, rfl⟩ := Arena.acquire_eq_ok_iff.mp acquired
    rw [Allocator.inUse_serve (affords.fits unlimited)]
    exact ⟨Nat.le_add_right _ _, accounted.within.serve affords⟩

end Workspace

end CacheDepot.Memory
