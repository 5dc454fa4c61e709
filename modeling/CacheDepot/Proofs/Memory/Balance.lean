import CacheDepot.Memory.Arena
import Mathlib.Algebra.GroupWithZero.Nat
import Mathlib.Data.List.Basic

/-!
# Bytes in words

What the operations of allocators and arenas do to the numbers of bytes. Bytes that
are handed out or taken back in portions may be more than a word counts, so the laws
are stated for any number of them: a truncated difference of words is that of the
numbers, and a sum is taken modulo the size of a word. The bytes kept never exceed
a word, since their bound is one.
-/

namespace CacheDepot.Memory

@[simp]
theorem toNat_monus (a b : UInt64) : (monus a b).toNat = a.toNat - b.toNat := by
  have least : min a b ≤ a := by
    rw [UInt64.le_iff_toNat_le, UInt64.toNat_min]
    exact Nat.min_le_left _ _
  rw [monus, UInt64.toNat_sub_of_le _ _ least, UInt64.toNat_min]
  omega

theorem toNat_add_ofNat (a : UInt64) (bytes : Nat) :
    (a + .ofNat bytes).toNat = (a.toNat + bytes) % 2 ^ 64 := by
  rw [UInt64.toNat_add, UInt64.toNat_ofNat', Nat.add_mod_mod]

/-- A sum that fits a word is exact. -/
theorem toNat_add_ofNat_of_fits {a : UInt64} {bytes : Nat} (fits : a.toNat + bytes < 2 ^ 64) :
    (a + .ofNat bytes).toNat = a.toNat + bytes := by
  rw [toNat_add_ofNat, Nat.mod_eq_of_lt fits]

theorem add_ofNat_add_ofNat (a : UInt64) (first second : Nat) :
    a + .ofNat first + .ofNat second = a + .ofNat (first + second) := by
  rw [UInt64.ofNat_add, UInt64.add_assoc]

namespace Allocator

/-! ## Any number of bytes -/

/-- Freed bytes that can still be kept. -/
def room (a : Allocator) : Nat :=
  a.maxFree.toNat - a.retained.toNat

/-- Hands out any number of bytes, in portions that fit a word. -/
def serve (bytes : Nat) (a : Allocator) : Allocator :=
  { a with
    inUse := a.inUse + .ofNat bytes
    retained := .ofNat (a.retained.toNat - bytes) }

/-- Takes any number of bytes back, in portions that fit a word. -/
def retrieve (bytes : Nat) (a : Allocator) : Allocator :=
  { a with
    inUse := .ofNat (a.inUse.toNat - bytes)
    retained := a.retained + .ofNat (min bytes a.room)
    released := a.released + .ofNat (bytes - a.room) }

theorem grant_eq_serve (bytes : UInt64) (a : Allocator) : a.grant bytes = a.serve bytes.toNat := by
  rw [grant, serve, UInt64.ofNat_toNat, ← toNat_monus, UInt64.ofNat_toNat]

theorem toNat_kept (bytes : UInt64) (a : Allocator) :
    (a.kept bytes).toNat = min bytes.toNat a.room := by
  rw [kept, UInt64.toNat_min, toNat_monus, room]

theorem free_eq_retrieve (bytes : UInt64) (a : Allocator) :
    a.free bytes = a.retrieve bytes.toNat := by
  have kept := toNat_kept bytes a
  have rest : (bytes - a.kept bytes).toNat = bytes.toNat - a.room := by
    rw [UInt64.toNat_sub_of_le _ _ (UInt64.le_iff_toNat_le.mpr (by omega)), kept]
    omega
  rw [free, retrieve, ← toNat_monus, UInt64.ofNat_toNat, ← kept, UInt64.ofNat_toNat, ← rest,
    UInt64.ofNat_toNat]

/-! ## The bytes in use -/

variable {a : Allocator} {bytes : Nat}

theorem inUse_serve (fits : a.inUse.toNat + bytes < 2 ^ 64) :
    (a.serve bytes).inUse.toNat = a.inUse.toNat + bytes :=
  toNat_add_ofNat_of_fits fits

@[simp]
theorem inUse_retrieve (bytes : Nat) (a : Allocator) :
    (a.retrieve bytes).inUse.toNat = a.inUse.toNat - bytes := by
  have word := a.inUse.toNat_lt
  exact UInt64.toNat_ofNat_of_lt' (by unfold UInt64.size; omega)

@[simp]
theorem inUse_setMaxFree (bound : UInt64) (a : Allocator) : (a.setMaxFree bound).inUse = a.inUse :=
  rfl

/-! ## The bytes kept and the bytes given back -/

@[simp]
theorem retained_serve (bytes : Nat) (a : Allocator) :
    (a.serve bytes).retained.toNat = a.retained.toNat - bytes := by
  have word := a.retained.toNat_lt
  exact UInt64.toNat_ofNat_of_lt' (by unfold UInt64.size; omega)

theorem retained_retrieve (bytes : Nat) (a : Allocator) :
    (a.retrieve bytes).retained.toNat = a.retained.toNat + min bytes a.room := by
  have word := a.maxFree.toNat_lt
  have kept := a.retained.toNat_lt
  exact toNat_add_ofNat_of_fits (by unfold room; omega)

@[simp]
theorem retained_setMaxFree (bound : UInt64) (a : Allocator) :
    (a.setMaxFree bound).retained.toNat = min a.retained.toNat bound.toNat :=
  UInt64.toNat_min _ _

@[simp]
theorem released_serve (bytes : Nat) (a : Allocator) : (a.serve bytes).released = a.released :=
  rfl

theorem released_retrieve (bytes : Nat) (a : Allocator) :
    (a.retrieve bytes).released = a.released + .ofNat (bytes - a.room) :=
  rfl

theorem released_setMaxFree (bound : UInt64) (a : Allocator) :
    (a.setMaxFree bound).released =
      a.released + .ofNat (a.retained.toNat - bound.toNat) := by
  rw [← toNat_monus, UInt64.ofNat_toNat]
  rfl

@[simp]
theorem maxFree_serve (bytes : Nat) (a : Allocator) : (a.serve bytes).maxFree = a.maxFree :=
  rfl

@[simp]
theorem maxFree_retrieve (bytes : Nat) (a : Allocator) : (a.retrieve bytes).maxFree = a.maxFree :=
  rfl

@[simp]
theorem limit_serve (bytes : Nat) (a : Allocator) : (a.serve bytes).limit = a.limit :=
  rfl

@[simp]
theorem limit_retrieve (bytes : Nat) (a : Allocator) : (a.retrieve bytes).limit = a.limit :=
  rfl

/-! ## Portions -/

theorem serve_zero (a : Allocator) : a.serve 0 = a := by
  rw [serve, Nat.sub_zero, UInt64.ofNat_toNat]
  exact congrArg (fun inUse => ({ a with inUse := inUse } : Allocator)) (UInt64.add_zero _)

theorem retrieve_zero (a : Allocator) : a.retrieve 0 = a := by
  rw [retrieve, Nat.sub_zero, Nat.zero_min, Nat.zero_sub, UInt64.ofNat_toNat]
  exact congrArg₂ (fun retained released =>
    ({ a with retained := retained, released := released } : Allocator))
    (UInt64.add_zero _) (UInt64.add_zero _)

/-- Bytes that are handed out in portions leave the allocator as if they were handed out at once. -/
theorem serve_serve (first second : Nat) (a : Allocator) :
    (a.serve first).serve second = a.serve (first + second) := by
  have kept := retained_serve first a
  rw [serve, kept, serve, serve, add_ofNat_add_ofNat, Nat.sub_sub]

/-- What is kept of two portions is kept of both together: the second portion finds the room that
the first one left. -/
theorem retrieve_retrieve (first second : Nat) (a : Allocator) :
    (a.retrieve first).retrieve second = a.retrieve (first + second) := by
  have kept := retained_retrieve first a
  have left := inUse_retrieve first a
  have room : (a.retrieve first).room = a.room - first := by
    unfold Allocator.room at kept ⊢
    rw [kept, maxFree_retrieve]
    omega
  have bothKept : min first a.room + min second (a.room - first) = min (first + second) a.room := by
    omega
  have bothGone : first - a.room + (second - (a.room - first)) = first + second - a.room := by
    omega
  rw [retrieve, room, left, retrieve, retrieve, add_ofNat_add_ofNat, add_ofNat_add_ofNat, bothKept,
    bothGone, Nat.sub_sub]

end Allocator

/-! ## Arenas -/

namespace Arena

theorem cleared_eq_retrieve (arena : Arena) (a : Allocator) :
    arena.cleared a = a.retrieve arena.reserved.toNat := by
  unfold cleared
  split
  · exact a.free_eq_retrieve arena.reserved
  · next nothing =>
      have empty : arena.reserved.toNat = 0 :=
        Nat.eq_zero_of_not_pos fun some => nothing (UInt64.lt_iff_toNat_lt.mpr some)
      rw [empty, Allocator.retrieve_zero]

/-- An arena that ends gives back its whole footprint. -/
theorem dropped_eq_retrieve (arena : Arena) (a : Allocator) :
    arena.dropped a = a.retrieve arena.footprint := by
  rw [dropped, cleared_eq_retrieve, Allocator.free_eq_retrieve, Allocator.retrieve_retrieve,
    footprint, Nat.add_comm]

/-- It does not matter whether an arena is cleared before it ends. -/
theorem dropped_cleared (arena : Arena) (a : Allocator) :
    Arena.dropped ⟨0⟩ (arena.cleared a) = a.retrieve arena.footprint := by
  rw [dropped_eq_retrieve, cleared_eq_retrieve, Allocator.retrieve_retrieve, Nat.add_comm]
  rfl

/-- Reserves any number of bytes, in portions that fit a word. -/
def enlarge (bytes : Nat) (arena : Arena) : Arena :=
  ⟨arena.reserved + .ofNat bytes⟩

theorem enlarge_zero (arena : Arena) : arena.enlarge 0 = arena :=
  congrArg Arena.mk (UInt64.add_zero _)

theorem enlarge_enlarge (first second : Nat) (arena : Arena) :
    (arena.enlarge first).enlarge second = arena.enlarge (first + second) :=
  congrArg Arena.mk (add_ofNat_add_ofNat _ _ _)

theorem footprint_enlarge {arena : Arena} {bytes : Nat}
    (fits : arena.reserved.toNat + bytes < 2 ^ 64) :
    (arena.enlarge bytes).footprint = arena.footprint + bytes := by
  unfold footprint enlarge
  rw [toNat_add_ofNat_of_fits fits, Nat.add_assoc]

end Arena

attribute [irreducible] Allocator.serve Allocator.retrieve Arena.enlarge

end CacheDepot.Memory
