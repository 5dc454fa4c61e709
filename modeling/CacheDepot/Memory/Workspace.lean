import CacheDepot.Memory.Arena

/-!
# Arenas that share an allocator

A workspace is an allocator with the named arenas that live on it, and the
operations that its users can perform, one after the other.
-/

namespace CacheDepot.Memory

structure Workspace where
  allocator : Allocator
  arenas : List (String × Arena) := []
  deriving DecidableEq, Repr

/-- What a user can do with a workspace. -/
inductive Operation where
  /-- Makes an arena; one of the same name ends once the new one is there. -/
  | acquire (name : String)
  | reserve (name : String) (bytes : UInt64)
  | clear (name : String)
  | drop (name : String)
  | setMaxFree (bytes : UInt64)
  deriving DecidableEq, Repr

/-- What came of it. -/
inductive Outcome where
  | done
  | noArena
  | exhausted (error : Exhausted)
  deriving DecidableEq, Repr

namespace Workspace

def arena? (name : String) (w : Workspace) : Option Arena :=
  w.arenas.lookup name

/-- The arenas of other names. -/
def others (name : String) (w : Workspace) : List (String × Arena) :=
  w.arenas.filter fun entry => entry.1 ≠ name

/-- Ends the arena of a name, if there is one. -/
def drop (name : String) (w : Workspace) : Workspace :=
  match w.arena? name with
  | some arena => ⟨arena.dropped w.allocator, w.others name⟩
  | none => w

def perform : Operation → Workspace → Outcome × Workspace
  | .acquire name, w =>
      match Arena.acquire w.allocator with
      | .error error => (.exhausted error, w)
      | .ok (arena, next) =>
          let rest := Workspace.drop name { w with allocator := next }
          (.done, { rest with arenas := (name, arena) :: rest.arenas })
  | .reserve name bytes, w =>
      match w.arena? name with
      | none => (.noArena, w)
      | some arena =>
          match arena.reserve bytes w.allocator with
          | .error error => (.exhausted error, w)
          | .ok (larger, next) => (.done, ⟨next, (name, larger) :: w.others name⟩)
  | .clear name, w =>
      match w.arena? name with
      | none => (.noArena, w)
      | some arena => (.done, ⟨arena.cleared w.allocator, (name, ⟨0⟩) :: w.others name⟩)
  | .drop name, w =>
      match w.arena? name with
      | none => (.noArena, w)
      | some _ => (.done, w.drop name)
  | .setMaxFree bytes, w => (.done, { w with allocator := w.allocator.setMaxFree bytes })

/-- The workspace after operations in order, whatever came of them. -/
def run (operations : List Operation) (w : Workspace) : Workspace :=
  operations.foldl (fun state operation => (perform operation state).2) w

/-- The allocator after every arena ended. -/
def close (w : Workspace) : Allocator :=
  w.arenas.foldl (fun a entry => entry.2.dropped a) w.allocator

end Workspace

end CacheDepot.Memory
