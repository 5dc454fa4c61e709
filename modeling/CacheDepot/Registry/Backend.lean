import CacheDepot.Buffer.Cache
import CacheDepot.Handles.Cache

/-!
# Backends

A registry does not make caches itself: it asks a backend for an arena and hands
the arena over to have a cache built in it. A backend may refuse anything. Two
backends are given here: one whose arenas all draw on one allocator, and one that
gives each arena an allocator of its own.
-/

namespace CacheDepot

open Memory (Allocator Arena Exhausted)
open Buffer (OutOfMemory)
open Handles (HandleError)

/-- What a registry asks for. `σ` is what the backend itself changes on the way. An arena that is
handed over to be built in has ended if the building fails. -/
structure Backend (σ : Type) where
  /-- Makes an arena, after bounding the freed bytes that its allocator keeps, if a bound is
  given. -/
  acquire : (maxFree : Option UInt64) → σ → Except Exhausted Arena × σ
  buildBuffer : Arena → (total directory : UInt64) → (threadSafe : Bool) → σ →
    Except OutOfMemory Buffer.Cache × σ
  buildHandles : Arena → (maxHandles : UInt64) → (threadSafe : Bool) → σ →
    Except HandleError Handles.Cache × σ
  /-- Takes an arena back. -/
  release : Arena → σ → σ

namespace Backend

variable {σ : Type}

/-- The allocator after a bound is put on it, if one is given. -/
def bounded (maxFree : Option UInt64) (a : Allocator) : Allocator :=
  match maxFree with
  | some bytes => a.setMaxFree bytes
  | none => a

/-- All arenas draw on one allocator. -/
def shared : Backend Allocator where
  acquire maxFree a :=
    match Arena.acquire (bounded maxFree a) with
    | .ok (arena, next) => (.ok arena, next)
    | .error error => (.error error, bounded maxFree a)
  buildBuffer arena total directory threadSafe a :=
    Buffer.Cache.create arena total directory threadSafe a
  buildHandles arena maxHandles threadSafe a :=
    Handles.Cache.create arena maxHandles threadSafe a
  release arena a := arena.dropped a

/-- An allocator without limit that serves one arena alone. -/
def allocatorOf (arena : Arena) : Allocator :=
  { Allocator.unlimited with inUse := .ofNat arena.footprint }

/-- Every arena draws on an allocator of its own, which has no limit. -/
def separate : Backend Unit where
  acquire maxFree _ :=
    match Arena.acquire (bounded maxFree Allocator.unlimited) with
    | .ok (arena, _) => (.ok arena, ())
    | .error error => (.error error, ())
  buildBuffer arena total directory threadSafe _ :=
    ((Buffer.Cache.create arena total directory threadSafe (allocatorOf arena)).1, ())
  buildHandles arena maxHandles threadSafe _ :=
    ((Handles.Cache.create arena maxHandles threadSafe (allocatorOf arena)).1, ())
  release _ _ := ()

/-- The backend as it is while it refuses everything. -/
def refusing (backend : Backend σ) : Backend σ where
  acquire _ supply := (.error ⟨Arena.header, 0⟩, supply)
  buildBuffer arena _ _ _ supply :=
    (.error ⟨0, ⟨.ofNat Buffer.segmentHeader, 0⟩⟩, backend.release arena supply)
  buildHandles arena _ _ supply :=
    (.error (.arena ⟨Handles.bookkeeping, 0⟩), backend.release arena supply)
  release := backend.release

/-- The backend, refusing everything or not. -/
def whileRefusing (refused : Bool) (backend : Backend σ) : Backend σ :=
  if refused then backend.refusing else backend

end Backend

end CacheDepot
