import CacheDepot.Buffer.Batch
import CacheDepot.Config.Store
import CacheDepot.Registry.Backend

/-!
# Registries

A registry holds the configuration in force and two slots, one for the buffer
cache and one for the handle cache. A slot is filled once. The slot of the buffer
cache can also be filled with the statement that there is none.
-/

namespace CacheDepot

open Memory (Exhausted)
open Handles (HandleError)

/-- A cache that was built. Numbers tell apart what was built at different times. -/
structure Instance (κ : Type) where
  number : Nat
  cache : κ

/-- The caches that a process shares, and the configuration that they are built from. -/
structure Registry where
  config : Config.Store := {}
  /-- `some none` says that there is no buffer cache and will be none. -/
  buffer : Option (Option (Instance Buffer.Cache)) := none
  handles : Option (Instance Handles.Cache) := none

/-- Why there is no handle cache. -/
inductive CachingError where
  | arena (error : Exhausted)
  | handleCache (error : HandleError)
  deriving DecidableEq, Repr

namespace CachingError

def message : CachingError → String
  | .arena error => "cannot acquire arena for file handle cache: " ++ error.message
  | .handleCache error => "cannot create file handle cache: " ++ error.message

/-- The message of the error behind this one. -/
def causeMessage : CachingError → String
  | .arena error => error.message
  | .handleCache error => error.message

end CachingError

/-- What can be told of a slot without using the cache in it. -/
inductive SlotState where
  | empty
  /-- Filled with the statement that there is no cache. -/
  | absent
  | present
  deriving DecidableEq, Repr

namespace SlotState

def title : SlotState → String
  | .empty => "Empty"
  | .absent => "Absent"
  | .present => "Present"

end SlotState

namespace Registry

/-- The built-in configuration and empty slots. -/
def fresh : Registry := {}

def bufferState (registry : Registry) : SlotState :=
  match registry.buffer with
  | none => .empty
  | some none => .absent
  | some (some _) => .present

def handlesState (registry : Registry) : SlotState :=
  match registry.handles with
  | none => .empty
  | some _ => .present

/-- Uses the buffer cache, if there is one: what came of it, and its totals afterwards. -/
def useBuffer (batch : Buffer.Batch) (registry : Registry) :
    Option (Buffer.Yield × Buffer.Stats) × Registry :=
  match registry.buffer with
  | some (some published) =>
      let (yield, cache) := published.cache.performBatch batch
      (some (yield, cache.stats),
        { registry with buffer := some (some { published with cache := cache }) })
  | _ => (none, registry)

end Registry

end CacheDepot
