import CacheDepot.Registry.Serial

/-!
# Calls in one piece

A call that nothing interrupts asks for one cache after the other, and for each of
them does everything there is to do about its slot before it goes on. Here the two
accessors are written down in that way, and a call that moves step by step is shown
to come to the same.
-/

namespace CacheDepot

open Memory (Arena Exhausted)
open Buffer (OutOfMemory)
open Handles (HandleError)

/-! ## Demands of an accessor -/

namespace Backend

variable {σ : Type} (backend : Backend σ) (refused : Demand → Bool)

/-- The answer to a demand for the arena of a buffer cache. -/
def arenaForBuffer (supply : σ) : Except Exhausted Arena × σ :=
  (backend.whileRefusing (refused .arenaForBuffer)).acquire (some Registry.bufferMaxFree) supply

/-- The answer to a demand for the buffer cache of a configuration. -/
def bufferFor (config : CacheConfig) (arena : Arena) (supply : σ) :
    Except OutOfMemory Buffer.Cache × σ :=
  (backend.whileRefusing (refused .buffer)).buildBuffer arena config.cacheSize
    (config.cacheSize / Registry.directoryDivisor) (!config.singleThreaded) supply

/-- The answer to a demand for the arena of a handle cache. -/
def arenaForHandles (supply : σ) : Except Exhausted Arena × σ :=
  (backend.whileRefusing (refused .arenaForHandles)).acquire none supply

/-- The answer to a demand for the handle cache of a configuration. -/
def handlesFor (config : CacheConfig) (arena : Arena) (supply : σ) :
    Except HandleError Handles.Cache × σ :=
  (backend.whileRefusing (refused .handles)).buildHandles arena config.fileHandleCount
    (!config.singleThreaded) supply

end Backend

/-! ## The accessors -/

namespace Depot

variable {σ : Type}

/-- Puts a configuration in force. -/
def configured (config : CacheConfig) (depot : Depot σ) : Depot σ :=
  { depot with registry := { depot.registry with config := ⟨config⟩ } }

/-- The buffer cache, built and published first if the slot is empty. -/
def bufferCache (backend : Backend σ) (refused : Demand → Bool) (depot : Depot σ) :
    Option (Instance Buffer.Cache) × Depot σ :=
  match depot.registry.buffer with
  | some published => (published, depot)
  | none =>
      let config := depot.registry.config.get
      let asking := depot.askArena (some Registry.bufferMaxFree)
      if config.cacheSize = 0 then depot.publishBuffer backend none
      else
        match backend.arenaForBuffer refused depot.supply with
        | (.error _, supply) => (none, { asking with supply := supply })
        | (.ok arena, supply) =>
            match backend.bufferFor refused config arena supply with
            | (.error _, supply) =>
                { asking.askBuffer with supply := supply }.publishBuffer backend none
            | (.ok cache, supply) =>
                { asking.askBuffer with supply := supply, built := depot.built + 1 }.publishBuffer
                  backend (some ⟨depot.built, cache⟩)

/-- The handle cache, built and published first if the slot is empty. -/
def handleCache (backend : Backend σ) (refused : Demand → Bool) (depot : Depot σ) :
    Except CachingError (Instance Handles.Cache) × Depot σ :=
  match depot.registry.handles with
  | some published => (.ok published, depot)
  | none =>
      let config := depot.registry.config.get
      let asking := depot.askArena none
      match backend.arenaForHandles refused depot.supply with
      | (.error error, supply) => (.error (.arena error), { asking with supply := supply })
      | (.ok arena, supply) =>
          match backend.handlesFor refused config arena supply with
          | (.error error, supply) =>
              (.error (.handleCache error), { asking.askHandles with supply := supply })
          | (.ok cache, supply) =>
              let (published, last) :=
                { asking.askHandles with supply := supply, built := depot.built + 1 }.publishHandles
                  backend ⟨depot.built, cache⟩
              (.ok published, last)

/-! ## Agreement with the moves -/

variable {backend : Backend σ} {refused : Demand → Bool}

theorem finish_publishBuffer (request : Request) (learnt : List Answer)
    (candidate : Option (Instance Buffer.Cache)) (depot : Depot σ) :
    depot.finish backend refused ⟨request, .publishBuffer candidate, learnt⟩ =
      (depot.publishBuffer backend candidate).2.finish backend refused
        ((Call.mk request .lookForBuffer learnt).withBuffer
          (depot.publishBuffer backend candidate).1) := by
  rw [finish_of_waiting rfl]
  rfl

theorem finish_publishHandles (request : Request) (learnt : List Answer)
    (candidate : Instance Handles.Cache) (depot : Depot σ) :
    depot.finish backend refused ⟨request, .publishHandles candidate, learnt⟩ =
      (depot.publishHandles backend candidate).2.finish backend refused
        ((Call.mk request .lookForHandles learnt).withHandles
          (.ok (depot.publishHandles backend candidate).1)) := by
  rw [finish_of_waiting rfl]
  rfl

theorem finish_lookForBuffer (request : Request) (learnt : List Answer) (depot : Depot σ) :
    depot.finish backend refused ⟨request, .lookForBuffer, learnt⟩ =
      (depot.bufferCache backend refused).2.finish backend refused
        ((Call.mk request .lookForBuffer learnt).withBuffer
          (depot.bufferCache backend refused).1) := by
  rw [finish_of_waiting rfl]
  unfold bufferCache
  cases filled : depot.registry.buffer with
  | some published => simp only [advance, filled]
  | none =>
      simp only [advance, filled, Call.moveTo]
      rw [finish_of_waiting rfl]
      by_cases off : depot.registry.config.get.cacheSize = 0
      · simp only [advance, off, if_true, Call.moveTo]
        exact finish_publishBuffer request learnt none depot
      · simp only [advance, off, if_false, Call.moveTo]
        rw [finish_of_waiting rfl]
        simp only [advance, refuses, Call.demand?, Phase.demand?, Backend.arenaForBuffer, askArena]
        rcases (backend.whileRefusing (refused .arenaForBuffer)).acquire
          (some Registry.bufferMaxFree) depot.supply with ⟨error | arena, between⟩
        · rfl
        · simp only [Call.moveTo]
          rw [finish_of_waiting rfl]
          simp only [advance, refuses, Call.demand?, Phase.demand?, Backend.bufferFor, askBuffer]
          rcases (backend.whileRefusing (refused .buffer)).buildBuffer arena
            depot.registry.config.get.cacheSize
            (depot.registry.config.get.cacheSize / Registry.directoryDivisor)
            (!depot.registry.config.get.singleThreaded) between with ⟨error | cache, last⟩
          · exact finish_publishBuffer request learnt none _
          · exact finish_publishBuffer request learnt _ _

theorem finish_lookForHandles (request : Request) (learnt : List Answer) (depot : Depot σ) :
    depot.finish backend refused ⟨request, .lookForHandles, learnt⟩ =
      (depot.handleCache backend refused).2.finish backend refused
        ((Call.mk request .lookForHandles learnt).withHandles
          (depot.handleCache backend refused).1) := by
  rw [finish_of_waiting rfl]
  unfold handleCache
  cases filled : depot.registry.handles with
  | some published => simp only [advance, filled]
  | none =>
      simp only [advance, filled, Call.moveTo]
      rw [finish_of_waiting rfl]
      simp only [advance, Call.moveTo]
      rw [finish_of_waiting rfl]
      simp only [advance, refuses, Call.demand?, Phase.demand?, Backend.arenaForHandles, askArena]
      rcases (backend.whileRefusing (refused .arenaForHandles)).acquire none depot.supply
        with ⟨error | arena, between⟩
      · rfl
      · simp only [Call.moveTo]
        rw [finish_of_waiting rfl]
        simp only [advance, refuses, Call.demand?, Phase.demand?, Backend.handlesFor, askHandles]
        rcases (backend.whileRefusing (refused .handles)).buildHandles arena
          depot.registry.config.get.fileHandleCount
          (!depot.registry.config.get.singleThreaded) between with ⟨error | cache, last⟩
        · rfl
        · exact finish_publishHandles request learnt _ _

theorem perform_buffer (depot : Depot σ) :
    depot.perform backend refused .buffer =
      (.buffer (depot.bufferCache backend refused).1, (depot.bufferCache backend refused).2) := by
  rw [perform, Call.start, Request.firstPhase, finish_lookForBuffer]
  exact finish_of_answer rfl _

theorem perform_handles (depot : Depot σ) :
    depot.perform backend refused .handles =
      (.handles (depot.handleCache backend refused).1,
        (depot.handleCache backend refused).2) := by
  rw [perform, Call.start, Request.firstPhase, finish_lookForHandles]
  exact finish_of_answer rfl _

theorem perform_configure (config : CacheConfig) (depot : Depot σ) :
    depot.perform backend refused (.configure config) =
      (.configured,
        (((depot.configured config).bufferCache backend refused).2.handleCache backend
          refused).2) := by
  rw [perform, Call.start, Request.firstPhase, finish_of_waiting rfl]
  simp only [advance, Call.moveTo]
  change Depot.finish _ _ ⟨_, .lookForBuffer, _⟩ (depot.configured config) = _
  rw [finish_lookForBuffer]
  simp only [Call.withBuffer, Call.moveTo, Call.learn]
  rw [finish_lookForHandles]
  exact finish_of_answer rfl _

end Depot

end CacheDepot
