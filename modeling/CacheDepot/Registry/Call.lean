import CacheDepot.Registry.Basic

/-!
# Calls on a registry

A call asks for one of the shared caches, or replaces the configuration and then
asks for both. It proceeds by moves: look into the slot, read the configuration,
acquire an arena, have the cache built in it, publish what was built unless the
slot was filled meanwhile. Other calls may move in between, since nothing is
locked from one move to the next; a call that comes too late with what it built
gives its arena back and answers with what was published.
-/

namespace CacheDepot

open Memory (Allocator Arena Exhausted)

/-- What can be asked of a registry. -/
inductive Request where
  /-- Puts a configuration in force, then fills the slots that are still empty. -/
  | configure (config : CacheConfig)
  | buffer
  | handles

/-- The answer to a request. -/
inductive Answer where
  | configured
  | buffer (cache : Option (Instance Buffer.Cache))
  | handles (cache : Except CachingError (Instance Handles.Cache))

/-- What the next move of a call is. -/
inductive Phase where
  | store (config : CacheConfig)
  | lookForBuffer
  | readForBuffer
  | acquireForBuffer (config : CacheConfig)
  | buildBuffer (config : CacheConfig) (arena : Arena)
  | publishBuffer (candidate : Option (Instance Buffer.Cache))
  | lookForHandles
  | readForHandles
  | acquireForHandles (config : CacheConfig)
  | buildHandles (config : CacheConfig) (arena : Arena)
  | publishHandles (candidate : Instance Handles.Cache)
  | done (answer : Answer)

structure Call where
  request : Request
  phase : Phase
  /-- What it was told of the caches so far. A call that configures is told of both. -/
  learnt : List Answer := []

/-- What a call waits for when it has asked the backend for something. -/
inductive Demand where
  | arenaForBuffer
  | buffer
  | arenaForHandles
  | handles
  deriving DecidableEq, Repr

/-- How often a backend was asked, whether it refused or not, and the bound given to it last. -/
structure Demands where
  arenas : Nat := 0
  buffers : Nat := 0
  handles : Nat := 0
  lastBound : Option (Option UInt64) := none
  deriving DecidableEq, Repr

/-- A registry with what its backend draws on. -/
structure Depot (σ : Type) where
  registry : Registry := Registry.fresh
  supply : σ
  /-- Caches built so far; the next one gets this number. -/
  built : Nat := 0
  demands : Demands := {}

namespace Registry

/-- The bound on the freed bytes that the allocator of the buffer cache keeps. -/
def bufferMaxFree : UInt64 := 1

/-- The part of the buffer cache that is for its directories. -/
def directoryDivisor : UInt64 := 16

end Registry

namespace Request

/-- The first move of a call. -/
def firstPhase : Request → Phase
  | .configure config => .store config
  | .buffer => .lookForBuffer
  | .handles => .lookForHandles

end Request

namespace Phase

def demand? : Phase → Option Demand
  | .acquireForBuffer _ => some .arenaForBuffer
  | .buildBuffer _ _ => some .buffer
  | .acquireForHandles _ => some .arenaForHandles
  | .buildHandles _ _ => some .handles
  | _ => none

def answer? : Phase → Option Answer
  | .done answer => some answer
  | _ => none

end Phase

namespace Call

variable {σ : Type}

def start (request : Request) : Call :=
  { request := request, phase := request.firstPhase }

def answer? (call : Call) : Option Answer :=
  call.phase.answer?

def demand? (call : Call) : Option Demand :=
  call.phase.demand?

def moveTo (phase : Phase) (call : Call) : Call :=
  { call with phase := phase }

def learn (answer : Answer) (call : Call) : Call :=
  { call with learnt := call.learnt ++ [answer] }

/-- The call after it learnt about the buffer cache. -/
def withBuffer (cache : Option (Instance Buffer.Cache)) (call : Call) : Call :=
  match call.request with
  | .configure _ => (call.learn (.buffer cache)).moveTo .lookForHandles
  | _ => (call.learn (.buffer cache)).moveTo (.done (.buffer cache))

/-- The call after it learnt about the handle cache. One that configures does not pass on what it
learnt. -/
def withHandles (cache : Except CachingError (Instance Handles.Cache)) (call : Call) : Call :=
  match call.request with
  | .configure _ => (call.learn (.handles cache)).moveTo (.done .configured)
  | _ => (call.learn (.handles cache)).moveTo (.done (.handles cache))

end Call

namespace Depot

variable {σ : Type}

/-- An empty registry. -/
def fresh (supply : σ) : Depot σ :=
  { supply := supply }

/-- Counts that an arena is asked for. -/
def askArena (maxFree : Option UInt64) (depot : Depot σ) : Depot σ :=
  { depot with demands :=
      { depot.demands with arenas := depot.demands.arenas + 1, lastBound := some maxFree } }

/-- Counts that a buffer cache is asked for. -/
def askBuffer (depot : Depot σ) : Depot σ :=
  { depot with demands := { depot.demands with buffers := depot.demands.buffers + 1 } }

/-- Counts that a handle cache is asked for. -/
def askHandles (depot : Depot σ) : Depot σ :=
  { depot with demands := { depot.demands with handles := depot.demands.handles + 1 } }

/-- Fills the buffer slot if it is empty. A candidate that comes too late gives its arena back. -/
def publishBuffer (backend : Backend σ) (candidate : Option (Instance Buffer.Cache))
    (depot : Depot σ) : Option (Instance Buffer.Cache) × Depot σ :=
  match depot.registry.buffer with
  | none => (candidate, { depot with registry := { depot.registry with buffer := some candidate } })
  | some published =>
      (published, match candidate with
        | some late => { depot with supply := backend.release late.cache.arena depot.supply }
        | none => depot)

/-- Fills the handle slot if it is empty. A candidate that comes too late gives its arena back. -/
def publishHandles (backend : Backend σ) (candidate : Instance Handles.Cache)
    (depot : Depot σ) : Instance Handles.Cache × Depot σ :=
  match depot.registry.handles with
  | none =>
      (candidate, { depot with registry := { depot.registry with handles := some candidate } })
  | some published =>
      (published, { depot with supply := backend.release candidate.cache.arena depot.supply })

/-- One move of a call. -/
def advance (backend : Backend σ) (call : Call) (depot : Depot σ) : Call × Depot σ :=
  match call.phase with
  | .store config =>
      (call.moveTo .lookForBuffer,
        { depot with
          registry := { depot.registry with config := (depot.registry.config.replace config).2 } })
  | .lookForBuffer =>
      match depot.registry.buffer with
      | some published => (call.withBuffer published, depot)
      | none => (call.moveTo .readForBuffer, depot)
  | .readForBuffer =>
      let config := depot.registry.config.get
      if config.cacheSize = 0 then (call.moveTo (.publishBuffer none), depot)
      else (call.moveTo (.acquireForBuffer config), depot.askArena (some Registry.bufferMaxFree))
  | .acquireForBuffer config =>
      match backend.acquire (some Registry.bufferMaxFree) depot.supply with
      | (.ok arena, supply) =>
          (call.moveTo (.buildBuffer config arena), { depot with supply := supply }.askBuffer)
      | (.error _, supply) => (call.withBuffer none, { depot with supply := supply })
  | .buildBuffer config arena =>
      match backend.buildBuffer arena config.cacheSize
          (config.cacheSize / Registry.directoryDivisor) (!config.singleThreaded) depot.supply with
      | (.ok cache, supply) =>
          (call.moveTo (.publishBuffer (some ⟨depot.built, cache⟩)),
            { depot with supply := supply, built := depot.built + 1 })
      | (.error _, supply) => (call.moveTo (.publishBuffer none), { depot with supply := supply })
  | .publishBuffer candidate =>
      let (published, next) := depot.publishBuffer backend candidate
      (call.withBuffer published, next)
  | .lookForHandles =>
      match depot.registry.handles with
      | some published => (call.withHandles (.ok published), depot)
      | none => (call.moveTo .readForHandles, depot)
  | .readForHandles =>
      (call.moveTo (.acquireForHandles depot.registry.config.get), depot.askArena none)
  | .acquireForHandles config =>
      match backend.acquire none depot.supply with
      | (.ok arena, supply) =>
          (call.moveTo (.buildHandles config arena), { depot with supply := supply }.askHandles)
      | (.error error, supply) =>
          (call.withHandles (.error (.arena error)), { depot with supply := supply })
  | .buildHandles config arena =>
      match backend.buildHandles arena config.fileHandleCount (!config.singleThreaded)
          depot.supply with
      | (.ok cache, supply) =>
          (call.moveTo (.publishHandles ⟨depot.built, cache⟩),
            { depot with supply := supply, built := depot.built + 1 })
      | (.error error, supply) =>
          (call.withHandles (.error (.handleCache error)), { depot with supply := supply })
  | .publishHandles candidate =>
      let (published, next) := depot.publishHandles backend candidate
      (call.withHandles (.ok published), next)
  | .done _ => (call, depot)

/-- The supply after the registry ended and everything in it gave its arena back. -/
def close (backend : Backend σ) (depot : Depot σ) : σ :=
  let afterBuffer := match depot.registry.buffer with
    | some (some published) => backend.release published.cache.arena depot.supply
    | _ => depot.supply
  match depot.registry.handles with
  | some published => backend.release published.cache.arena afterBuffer
  | none => afterBuffer

end Depot

end CacheDepot
