import CacheDepot.Registry.System

/-!
# What one move does

The moves of calls as rules, one for each way that a move can go, and the facts
about single moves that the theorems about whole schedules rest on: what a move
does to the slots, and which answers a call can have after it that it did not have
before. Backends are arbitrary here; nothing is said about what they draw on.
-/

namespace CacheDepot

variable {σ : Type} {backend : Backend σ}

/-! ## Rules -/

/-- A call and a depot move to a call and a depot. -/
inductive Move (backend : Backend σ) : Call → Depot σ → Call → Depot σ → Prop
  | store {request learnt depot} (config : CacheConfig) :
      Move backend ⟨request, .store config, learnt⟩ depot
        ⟨request, .lookForBuffer, learnt⟩
        { depot with registry := { depot.registry with config := ⟨config⟩ } }
  | bufferFound {request learnt depot content} (filled : depot.registry.buffer = some content) :
      Move backend ⟨request, .lookForBuffer, learnt⟩ depot
        (Call.withBuffer content ⟨request, .lookForBuffer, learnt⟩) depot
  | bufferMissing {request learnt depot} (empty : depot.registry.buffer = none) :
      Move backend ⟨request, .lookForBuffer, learnt⟩ depot
        ⟨request, .readForBuffer, learnt⟩ depot
  | bufferOff {request learnt depot} (off : depot.registry.config.get.cacheSize = 0) :
      Move backend ⟨request, .readForBuffer, learnt⟩ depot
        ⟨request, .publishBuffer none, learnt⟩ depot
  | bufferWanted {request learnt depot} (on : depot.registry.config.get.cacheSize ≠ 0) :
      Move backend ⟨request, .readForBuffer, learnt⟩ depot
        ⟨request, .acquireForBuffer depot.registry.config.get, learnt⟩
        (depot.askArena (some Registry.bufferMaxFree))
  | bufferArena {request config learnt depot arena supply}
      (acquired : backend.acquire (some Registry.bufferMaxFree) depot.supply =
        (.ok arena, supply)) :
      Move backend ⟨request, .acquireForBuffer config, learnt⟩ depot
        ⟨request, .buildBuffer config arena, learnt⟩ { depot with supply := supply }.askBuffer
  | bufferNoArena {request config learnt depot error supply}
      (exhausted : backend.acquire (some Registry.bufferMaxFree) depot.supply =
        (.error error, supply)) :
      Move backend ⟨request, .acquireForBuffer config, learnt⟩ depot
        (Call.withBuffer none ⟨request, .acquireForBuffer config, learnt⟩)
        { depot with supply := supply }
  | bufferBuilt {request config arena learnt depot cache supply}
      (built : backend.buildBuffer arena config.cacheSize
        (config.cacheSize / Registry.directoryDivisor) (!config.singleThreaded) depot.supply =
          (.ok cache, supply)) :
      Move backend ⟨request, .buildBuffer config arena, learnt⟩ depot
        ⟨request, .publishBuffer (some ⟨depot.built, cache⟩), learnt⟩
        { depot with supply := supply, built := depot.built + 1 }
  | bufferFailed {request config arena learnt depot error supply}
      (failed : backend.buildBuffer arena config.cacheSize
        (config.cacheSize / Registry.directoryDivisor) (!config.singleThreaded) depot.supply =
          (.error error, supply)) :
      Move backend ⟨request, .buildBuffer config arena, learnt⟩ depot
        ⟨request, .publishBuffer none, learnt⟩ { depot with supply := supply }
  | bufferPublished {request learnt depot} (candidate : Option (Instance Buffer.Cache))
      (empty : depot.registry.buffer = none) :
      Move backend ⟨request, .publishBuffer candidate, learnt⟩ depot
        (Call.withBuffer candidate ⟨request, .publishBuffer candidate, learnt⟩)
        { depot with registry := { depot.registry with buffer := some candidate } }
  | absenceLate {request learnt depot content} (filled : depot.registry.buffer = some content) :
      Move backend ⟨request, .publishBuffer none, learnt⟩ depot
        (Call.withBuffer content ⟨request, .publishBuffer none, learnt⟩) depot
  | bufferLate {request learnt depot content} (late : Instance Buffer.Cache)
      (filled : depot.registry.buffer = some content) :
      Move backend ⟨request, .publishBuffer (some late), learnt⟩ depot
        (Call.withBuffer content ⟨request, .publishBuffer (some late), learnt⟩)
        { depot with supply := backend.release late.cache.arena depot.supply }
  | handlesFound {request learnt depot published}
      (filled : depot.registry.handles = some published) :
      Move backend ⟨request, .lookForHandles, learnt⟩ depot
        (Call.withHandles (.ok published) ⟨request, .lookForHandles, learnt⟩) depot
  | handlesMissing {request learnt depot} (empty : depot.registry.handles = none) :
      Move backend ⟨request, .lookForHandles, learnt⟩ depot
        ⟨request, .readForHandles, learnt⟩ depot
  | handlesWanted {request learnt depot} :
      Move backend ⟨request, .readForHandles, learnt⟩ depot
        ⟨request, .acquireForHandles depot.registry.config.get, learnt⟩ (depot.askArena none)
  | handlesArena {request config learnt depot arena supply}
      (acquired : backend.acquire none depot.supply = (.ok arena, supply)) :
      Move backend ⟨request, .acquireForHandles config, learnt⟩ depot
        ⟨request, .buildHandles config arena, learnt⟩ { depot with supply := supply }.askHandles
  | handlesNoArena {request config learnt depot error supply}
      (exhausted : backend.acquire none depot.supply = (.error error, supply)) :
      Move backend ⟨request, .acquireForHandles config, learnt⟩ depot
        (Call.withHandles (.error (.arena error)) ⟨request, .acquireForHandles config, learnt⟩)
        { depot with supply := supply }
  | handlesBuilt {request config arena learnt depot cache supply}
      (built : backend.buildHandles arena config.fileHandleCount (!config.singleThreaded)
        depot.supply = (.ok cache, supply)) :
      Move backend ⟨request, .buildHandles config arena, learnt⟩ depot
        ⟨request, .publishHandles ⟨depot.built, cache⟩, learnt⟩
        { depot with supply := supply, built := depot.built + 1 }
  | handlesFailed {request config arena learnt depot error supply}
      (failed : backend.buildHandles arena config.fileHandleCount (!config.singleThreaded)
        depot.supply = (.error error, supply)) :
      Move backend ⟨request, .buildHandles config arena, learnt⟩ depot
        (Call.withHandles (.error (.handleCache error))
          ⟨request, .buildHandles config arena, learnt⟩)
        { depot with supply := supply }
  | handlesPublished {request learnt depot} (candidate : Instance Handles.Cache)
      (empty : depot.registry.handles = none) :
      Move backend ⟨request, .publishHandles candidate, learnt⟩ depot
        (Call.withHandles (.ok candidate) ⟨request, .publishHandles candidate, learnt⟩)
        { depot with registry := { depot.registry with handles := some candidate } }
  | handlesLate {request learnt depot published} (late : Instance Handles.Cache)
      (filled : depot.registry.handles = some published) :
      Move backend ⟨request, .publishHandles late, learnt⟩ depot
        (Call.withHandles (.ok published) ⟨request, .publishHandles late, learnt⟩)
        { depot with supply := backend.release late.cache.arena depot.supply }
  | done {request learnt depot} (answer : Answer) :
      Move backend ⟨request, .done answer, learnt⟩ depot ⟨request, .done answer, learnt⟩ depot

/-- The rules leave no move out. -/
theorem Depot.move_advance (backend : Backend σ) (call : Call) (depot : Depot σ) :
    Move backend call depot (depot.advance backend call).1 (depot.advance backend call).2 := by
  rcases call with ⟨request, phase, learnt⟩
  cases phase with
  | store config => exact Move.store config
  | lookForBuffer =>
      simp only [advance]
      split
      · next content filled => exact Move.bufferFound filled
      · next empty => exact Move.bufferMissing empty
  | readForBuffer =>
      simp only [advance]
      split
      · next off => exact Move.bufferOff off
      · next on => exact Move.bufferWanted on
  | acquireForBuffer config =>
      simp only [advance]
      split
      · next acquired => exact Move.bufferArena acquired
      · next exhausted => exact Move.bufferNoArena exhausted
  | buildBuffer config arena =>
      simp only [advance]
      split
      · next built => exact Move.bufferBuilt built
      · next failed => exact Move.bufferFailed failed
  | publishBuffer candidate =>
      simp only [advance, publishBuffer]
      split
      · next empty => exact Move.bufferPublished candidate empty
      · next content filled =>
          cases candidate with
          | none => exact Move.absenceLate filled
          | some late => exact Move.bufferLate late filled
  | lookForHandles =>
      simp only [advance]
      split
      · next published filled => exact Move.handlesFound filled
      · next empty => exact Move.handlesMissing empty
  | readForHandles => exact Move.handlesWanted
  | acquireForHandles config =>
      simp only [advance]
      split
      · next acquired => exact Move.handlesArena acquired
      · next exhausted => exact Move.handlesNoArena exhausted
  | buildHandles config arena =>
      simp only [advance]
      split
      · next built => exact Move.handlesBuilt built
      · next failed => exact Move.handlesFailed failed
  | publishHandles candidate =>
      simp only [advance, publishHandles]
      split
      · next empty => exact Move.handlesPublished candidate empty
      · next published filled => exact Move.handlesLate candidate filled
  | done answer => exact Move.done answer

/-! ## Registries only grow -/

namespace Registry

/-- What a registry has published, a later one has too. -/
structure Grows (earlier later : Registry) : Prop where
  buffer : ∀ content, earlier.buffer = some content → later.buffer = some content
  handles : ∀ published, earlier.handles = some published → later.handles = some published

theorem Grows.refl (registry : Registry) : registry.Grows registry :=
  ⟨fun _ filled => filled, fun _ filled => filled⟩

theorem Grows.trans {first second third : Registry} (start : first.Grows second)
    (rest : second.Grows third) : first.Grows third :=
  ⟨fun content filled => rest.buffer content (start.buffer content filled),
    fun published filled => rest.handles published (start.handles published filled)⟩

end Registry

namespace Move

variable {call moved : Call} {depot next : Depot σ}

theorem grows (move : Move backend call depot moved next) :
    depot.registry.Grows next.registry := by
  cases move with
  | bufferPublished candidate empty =>
      constructor
      · intro content filled
        rw [empty] at filled
        cases filled
      · exact fun _ filled => filled
  | handlesPublished candidate empty =>
      constructor
      · exact fun _ filled => filled
      · intro published filled
        rw [empty] at filled
        cases filled
  | _ => exact ⟨fun _ filled => filled, fun _ filled => filled⟩

end Move

/-! ## Answers -/

namespace Answer

/-- A cache that the answer names is the one published in its slot. -/
def AgreesWith (registry : Registry) : Answer → Prop
  | .buffer (some found) => registry.buffer = some (some found)
  | .handles (.ok found) => registry.handles = some found
  | _ => True

theorem agreesWith_buffer {registry : Registry} {content : Option (Instance Buffer.Cache)}
    (filled : registry.buffer = some content) : (buffer content).AgreesWith registry := by
  cases content with
  | none => trivial
  | some found => exact filled

theorem AgreesWith.grow {answer : Answer} {earlier later : Registry}
    (agrees : answer.AgreesWith earlier) (grows : earlier.Grows later) :
    answer.AgreesWith later := by
  cases answer with
  | configured => trivial
  | buffer cache =>
      cases cache with
      | none => trivial
      | some found => exact grows.buffer (some found) agrees
  | handles cache =>
      cases cache with
      | error error => trivial
      | ok found => exact grows.handles found agrees

end Answer

namespace Call

/-- The call gave an answer, or was told it by one of the accessors it went through. -/
def Got (answer : Answer) (call : Call) : Prop :=
  answer ∈ call.learnt ∨ call.answer? = some answer

theorem not_got_start (request : Request) (answer : Answer) :
    ¬ (start request).Got answer := by
  rintro (learnt | answered)
  · cases learnt
  · cases request <;> cases answered

/-- A call that is not done got no more than it learnt. -/
theorem got_of_waiting {request : Request} {phase other : Phase} {learnt : List Answer}
    {answer : Answer} (waiting : other.answer? = none)
    (got : (Call.mk request other learnt).Got answer) :
    (Call.mk request phase learnt).Got answer := by
  rcases got with told | answered
  · exact Or.inl told
  · change other.answer? = some answer at answered
    rw [waiting] at answered
    contradiction

variable {call : Call} {registry : Registry} {answer : Answer}

theorem got_withBuffer {cache : Option (Instance Buffer.Cache)}
    (got : (call.withBuffer cache).Got answer)
    (agrees : (Answer.buffer cache).AgreesWith registry) :
    call.Got answer ∨ answer.AgreesWith registry := by
  have told : call.Got answer ∨ answer = .buffer cache := by
    rcases call with ⟨request, phase, learnt⟩
    cases request <;>
      simp only [Got, withBuffer, learn, moveTo, answer?, Phase.answer?, List.mem_append,
        List.mem_singleton, Option.some.injEq, reduceCtorEq, or_false] at got ⊢ <;>
      grind
  rcases told with old | rfl
  · exact Or.inl old
  · exact Or.inr agrees

theorem got_withHandles {cache : Except CachingError (Instance Handles.Cache)}
    (got : (call.withHandles cache).Got answer)
    (agrees : (Answer.handles cache).AgreesWith registry) :
    call.Got answer ∨ answer.AgreesWith registry := by
  have told : call.Got answer ∨ answer = .handles cache ∨ answer = .configured := by
    rcases call with ⟨request, phase, learnt⟩
    cases request <;>
      simp only [Got, withHandles, learn, moveTo, answer?, Phase.answer?, List.mem_append,
        List.mem_singleton, Option.some.injEq] at got ⊢ <;>
      grind
  rcases told with old | rfl | rfl
  · exact Or.inl old
  · exact Or.inr agrees
  · exact Or.inr trivial

end Call

/-- Whatever a call is told by a move agrees with the registry after the move. A candidate of its
own that came too late is not what it is told. -/
theorem Move.got {call moved : Call} {depot next : Depot σ} {answer : Answer}
    (move : Move backend call depot moved next) (got : moved.Got answer) :
    call.Got answer ∨ answer.AgreesWith next.registry := by
  cases move with
  | bufferFound filled | absenceLate filled | bufferLate late filled =>
      exact Call.got_withBuffer got (Answer.agreesWith_buffer filled)
  | bufferPublished candidate empty => exact Call.got_withBuffer got (Answer.agreesWith_buffer rfl)
  | bufferNoArena exhausted => exact Call.got_withBuffer got trivial
  | handlesFound filled | handlesLate late filled => exact Call.got_withHandles got filled
  | handlesPublished candidate empty => exact Call.got_withHandles got rfl
  | handlesNoArena exhausted | handlesFailed failed => exact Call.got_withHandles got trivial
  | done last => exact Or.inl got
  | _ => exact Or.inl (Call.got_of_waiting rfl got)

end CacheDepot
