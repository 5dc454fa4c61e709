/-!
# Allocators

An allocator hands out bytes up to an optional limit and keeps freed bytes for
later, up to a bound; what exceeds the bound goes back to the system. Only the
numbers of bytes are kept. They are machine words, and the sums are not checked:
without a limit the bytes in use can run over, and so can the bytes that the
system got back.
-/

namespace CacheDepot.Memory

/-- The difference of two words, zero if the second one is greater. -/
def monus (a b : UInt64) : UInt64 :=
  a - min a b

/-- Not enough bytes were left. -/
structure Exhausted where
  requested : UInt64
  available : UInt64
  deriving DecidableEq, Repr

def Exhausted.message (error : Exhausted) : String :=
  s!"allocator exhausted: requested {error.requested} bytes, {error.available} available"

/-- The bound that stands for no bound. -/
def Allocator.unbounded : UInt64 := 18446744073709551615

structure Allocator where
  /-- Most bytes in use at a time. -/
  limit : Option UInt64 := none
  /-- Most freed bytes kept. -/
  maxFree : UInt64 := Allocator.unbounded
  inUse : UInt64 := 0
  /-- Freed bytes kept for later. -/
  retained : UInt64 := 0
  /-- Freed bytes given back to the system so far. -/
  released : UInt64 := 0
  deriving DecidableEq, Repr, Inhabited

namespace Allocator

/-- No limit and no bound. -/
def unlimited : Allocator := {}

def withLimit (limit : UInt64) : Allocator :=
  { limit := some limit }

/-- The bound on the bytes kept, if there is one. -/
def maxFree? (a : Allocator) : Option UInt64 :=
  if a.maxFree = unbounded then none else some a.maxFree

/-- Bounds the bytes kept, giving back what exceeds the bound at once. -/
def setMaxFree (bytes : UInt64) (a : Allocator) : Allocator :=
  { a with
    maxFree := bytes
    retained := min a.retained bytes
    released := a.released + monus a.retained bytes }

/-- Bytes that may still be handed out under a limit. -/
def available (a : Allocator) (limit : UInt64) : UInt64 :=
  monus limit a.inUse

/-- Hands out bytes whatever the limit, taking from the ones kept first. -/
def grant (bytes : UInt64) (a : Allocator) : Allocator :=
  { a with inUse := a.inUse + bytes, retained := monus a.retained bytes }

def allocate (bytes : UInt64) (a : Allocator) : Except Exhausted Allocator :=
  match a.limit with
  | some limit =>
      if a.available limit < bytes then .error ⟨bytes, a.available limit⟩ else .ok (a.grant bytes)
  | none => .ok (a.grant bytes)

/-- How many of some freed bytes are kept. -/
def kept (bytes : UInt64) (a : Allocator) : UInt64 :=
  min bytes (monus a.maxFree a.retained)

/-- Takes bytes back. -/
def free (bytes : UInt64) (a : Allocator) : Allocator :=
  { a with
    inUse := monus a.inUse bytes
    retained := a.retained + a.kept bytes
    released := a.released + (bytes - a.kept bytes) }

end Allocator

end CacheDepot.Memory
