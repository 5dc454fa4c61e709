import CacheDepot.Memory.Allocator

/-!
# Arenas

An arena draws bytes from an allocator and gives them all back together. It takes
a fixed number of bytes for itself as long as it lives.
-/

namespace CacheDepot.Memory

/-- A live arena, with the bytes reserved in it. -/
structure Arena where
  reserved : UInt64 := 0
  deriving DecidableEq, Repr, Inhabited

namespace Arena

/-- Bytes that every arena takes for itself. -/
def header : UInt64 := 8192

/-- All bytes that an arena has taken. -/
def footprint (arena : Arena) : Nat :=
  header.toNat + arena.reserved.toNat

/-- Makes an arena. -/
def acquire (a : Allocator) : Except Exhausted (Arena × Allocator) :=
  match a.allocate header with
  | .ok next => .ok (⟨0⟩, next)
  | .error error => .error error

/-- Reserves bytes. -/
def reserve (bytes : UInt64) (arena : Arena) (a : Allocator) :
    Except Exhausted (Arena × Allocator) :=
  match a.allocate bytes with
  | .ok next => .ok (⟨arena.reserved + bytes⟩, next)
  | .error error => .error error

/-- The allocator after an arena gave back what was reserved in it. -/
def cleared (arena : Arena) (a : Allocator) : Allocator :=
  if 0 < arena.reserved then a.free arena.reserved else a

/-- The allocator after an arena ended. -/
def dropped (arena : Arena) (a : Allocator) : Allocator :=
  (arena.cleared a).free header

end Arena

end CacheDepot.Memory
