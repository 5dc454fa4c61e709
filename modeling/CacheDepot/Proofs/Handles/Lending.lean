import CacheDepot.Handles.Cache
import Mathlib.Data.List.Perm.Subperm

/-!
# Lending and giving back

All that can come of asking a handle cache for a path: a kept handle is lent again,
at the start of its file, or closed; or the path is opened anew, or it is refused.
A handle that is given back joins those kept, and the ones that exceed the number
allowed are closed.
-/

namespace CacheDepot.Handles

open Files (FileError Handle Tree)
open List (Perm)

/-! ## Handles in use -/

/-- A handle stays the same one while its position moves. -/
theorem eq_of_seek {files : Tree} {handle moved : Handle} {position : Nat}
    (sought : handle.seek files position = .ok moved) :
    moved = { handle with position := position } := by
  unfold Handle.seek at sought
  split at sought
  · cases sought
  · split at sought
    · cases sought
      rfl
    · cases sought

theorem samePath_self (path : String) : Files.samePath path path :=
  Files.samePath_iff.mpr rfl

theorem read_same_handle (files : Tree) (handle : Handle) (limit : Option Nat) :
    (handle.read files limit).2.1.number = handle.number ∧
      (handle.read files limit).2.1.node = handle.node := by
  unfold Handle.read
  split
  · exact ⟨rfl, rfl⟩
  · split <;> exact ⟨rfl, rfl⟩

/-- Reading without a limit from the start of a file gives all that the file has. -/
theorem read_from_start {handle : Handle} (start : handle.position = 0) (files : Tree) :
    (handle.read files none).1 = files.contentAt handle.node := by
  unfold Handle.read Tree.contentAt
  rw [if_neg (by simp), start]
  cases files.node? handle.node with
  | none => rfl
  | some node => cases node <;> simp

/-! ## Handles kept -/

theorem takeLast?_eq_none {path : String} {loans : List Loan} :
    takeLast? path loans = none ↔ ∀ kept ∈ loans, ¬ Files.samePath kept.path path := by
  induction loans with
  | nil => simp [takeLast?]
  | cons loan rest ih =>
      rw [takeLast?, List.forall_mem_cons, ← ih]
      cases takeLast? path rest with
      | none => simp
      | some found => simp

/-- What is taken is the last of those that belong to the path. -/
theorem takeLast?_eq_some_split {path : String} {loans others : List Loan} {handle : Handle}
    (taken : takeLast? path loans = some (handle, others)) :
    ∃ (before : List Loan) (kept : Loan) (behind : List Loan),
      loans = before ++ kept :: behind ∧ others = before ++ behind ∧ kept.handle = handle ∧
      Files.samePath kept.path path ∧ ∀ other ∈ behind, ¬ Files.samePath other.path path := by
  induction loans generalizing others with
  | nil => cases taken
  | cons loan rest ih =>
      rw [takeLast?] at taken
      split at taken
      · next later =>
          cases taken
          rcases ih later with ⟨before, kept, behind, rfl, rfl, handle, path, last⟩
          exact ⟨loan :: before, kept, behind, rfl, rfl, handle, path, last⟩
      · next absent =>
          split at taken
          · next same =>
              cases taken
              exact ⟨[], loan, rest, rfl, rfl, rfl, same, takeLast?_eq_none.mp absent⟩
          · cases taken

/-- The handle that is taken belonged to the path. -/
theorem takeLast?_eq_some {path : String} {loans others : List Loan} {handle : Handle}
    (taken : takeLast? path loans = some (handle, others)) :
    ∃ kept : Loan, kept.handle = handle ∧ Files.samePath kept.path path ∧
      Perm loans (kept :: others) := by
  rcases takeLast?_eq_some_split taken with ⟨before, kept, behind, rfl, rfl, handle, path, -⟩
  exact ⟨kept, handle, path, List.perm_middle⟩

namespace Cache

/-- All that can come of asking for a path. -/
inductive Lending (files : Tree) (path : String) (number : Nat) (cache : Cache) :
    Except HandleError Loan × Cache → Prop
  /-- A kept handle is lent again, from the start. -/
  | again {kept : Loan} {others : List Loan}
      (found : takeLast? path cache.idle = some (kept.handle, others))
      (perm : Perm cache.idle (kept :: others)) (same : Files.samePath kept.path path) :
      Lending files path number cache
        (.ok ⟨path, { kept.handle with position := 0 }⟩,
          { cache with idle := others, hits := cache.hits + 1 })
  /-- A kept handle that cannot be moved to the start is closed. -/
  | lost {kept : Loan} {others : List Loan} {error : FileError}
      (found : takeLast? path cache.idle = some (kept.handle, others))
      (perm : Perm cache.idle (kept :: others)) :
      Lending files path number cache
        (.error (.cannotRewind error), { cache with idle := others, hits := cache.hits + 1 })
  | opened {node : Nat} (absent : takeLast? path cache.idle = none)
      (resolves : files.resolve path = .ok node) :
      Lending files path number cache
        (.ok ⟨path, ⟨number, node, 0⟩⟩, { cache with misses := cache.misses + 1 })
  | refused {error : FileError} (absent : takeLast? path cache.idle = none)
      (fails : files.resolve path = .error error) :
      Lending files path number cache
        (.error (.cannotOpen path error), { cache with misses := cache.misses + 1 })

theorem lending (files : Tree) (path : String) (number : Nat) (cache : Cache) :
    Lending files path number cache (cache.lend files path number) := by
  unfold lend
  split
  · next handle others found =>
      obtain ⟨kept, rfl, same, perm⟩ := takeLast?_eq_some found
      dsimp only
      split
      · next rewound sought =>
          rw [eq_of_seek sought]
          exact Lending.again found perm same
      · exact Lending.lost found perm
  · next absent =>
      unfold Handle.openAt
      dsimp only
      cases resolves : files.resolve path with
      | ok node => exact Lending.opened absent resolves
      | error error => exact Lending.refused absent resolves

theorem maxHandles_giveBack (loan : Loan) (cache : Cache) :
    (cache.giveBack loan).maxHandles = cache.maxHandles := by
  unfold giveBack
  split <;> rfl

/-- No handle is kept that was not kept before or given back. -/
theorem idle_giveBack_sublist (loan : Loan) (cache : Cache) :
    ((cache.giveBack loan).idle).Sublist (cache.idle ++ [loan]) := by
  unfold giveBack
  split
  · exact List.sublist_append_left _ _
  · exact List.drop_sublist _ _

/-- No more handles are kept than allowed. -/
theorem length_idle_giveBack {cache : Cache} (loan : Loan)
    (bounded : cache.idle.length ≤ cache.maxHandles.toNat) :
    (cache.giveBack loan).idle.length ≤ cache.maxHandles.toNat := by
  unfold giveBack
  split
  · exact bounded
  · simp only [List.length_drop]
    omega

end Cache

end CacheDepot.Handles
