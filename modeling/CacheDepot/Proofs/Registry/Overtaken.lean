import CacheDepot.Proofs.Registry.Snapshots

/-!
# Calls that are overtaken

A call that found its slot empty may be overtaken: another call publishes a cache
while the first one waits for the backend. If the overtaken call gets as far as
publishing, it is told of the published cache, whatever it built itself. It does not
look into the slot again when the backend refuses it an arena, nor when the backend
fails to build a handle cache, and it is then told that there is none.
-/

namespace CacheDepot

open Memory (Allocator)

variable {σ : Type} {backend : Backend σ}

/-! ## What one move tells a call -/

namespace Call

variable (backend) in
/-- The backend refuses the call an arena for the buffer cache. -/
def DeniedBuffer (call : Call) (depot : Depot σ) : Prop :=
  ∃ config error next, call.phase = .acquireForBuffer config ∧
    backend.acquire (some Registry.bufferMaxFree) depot.supply = (.error error, next)

variable (backend) in
/-- The backend refuses the call an arena for the handle cache, or fails to build the cache. -/
inductive DeniedHandles (call : Call) (depot : Depot σ) : CachingError → Prop
  | arena {config error next} (asking : call.phase = .acquireForHandles config)
      (exhausted : backend.acquire none depot.supply = (.error error, next)) :
      DeniedHandles call depot (.arena error)
  | handleCache {config arena error next} (asking : call.phase = .buildHandles config arena)
      (failed : backend.buildHandles arena config.fileHandleCount (!config.singleThreaded)
        depot.supply = (.error error, next)) :
      DeniedHandles call depot (.handleCache error)

theorem learnt_withBuffer (content : Option (Instance Buffer.Cache)) (call : Call) :
    (call.withBuffer content).learnt = call.learnt ++ [.buffer content] := by
  unfold withBuffer
  split <;> rfl

theorem learnt_withHandles (answer : Except CachingError (Instance Handles.Cache)) (call : Call) :
    (call.withHandles answer).learnt = call.learnt ++ [.handles answer] := by
  unfold withHandles
  split <;> rfl

/-- Being told of the buffer cache, a call goes on to the handle cache or is done. -/
theorem phase_withBuffer (content : Option (Instance Buffer.Cache)) (call : Call) :
    (call.withBuffer content).phase = .lookForHandles ∨
      ∃ answer, (call.withBuffer content).phase = .done answer := by
  unfold withBuffer
  split
  · exact Or.inl rfl
  · exact Or.inr ⟨_, rfl⟩

theorem phase_withHandles (answer : Except CachingError (Instance Handles.Cache)) (call : Call) :
    ∃ last, (call.withHandles answer).phase = .done last := by
  unfold withHandles
  split <;> exact ⟨_, rfl⟩

end Call

namespace Move

variable {call moved : Call} {depot next : Depot σ}

/-- A call is told what the buffer slot holds, or that there is no arena. -/
theorem tells_buffer {content : Option (Instance Buffer.Cache)}
    (move : Move backend call depot moved next)
    (told : moved.learnt = call.learnt ++ [.buffer content]) :
    next.registry.buffer = some content ∨
      content = none ∧ call.DeniedBuffer backend depot := by
  cases move with
  | bufferFound filled | absenceLate filled | bufferLate late filled =>
      rw [Call.learnt_withBuffer] at told
      cases List.append_cancel_left told
      exact Or.inl filled
  | bufferPublished candidate empty =>
      rw [Call.learnt_withBuffer] at told
      cases List.append_cancel_left told
      exact Or.inl rfl
  | bufferNoArena exhausted =>
      rw [Call.learnt_withBuffer] at told
      cases List.append_cancel_left told
      exact Or.inr ⟨rfl, _, _, _, rfl, exhausted⟩
  | handlesFound filled | handlesLate late filled | handlesPublished candidate empty
  | handlesNoArena exhausted | handlesFailed failed =>
      rw [Call.learnt_withHandles] at told
      cases List.append_cancel_left told
  | _ => simp at told

/-- A call is told what the handle slot holds, or why it got none. -/
theorem tells_handles {answer : Except CachingError (Instance Handles.Cache)}
    (move : Move backend call depot moved next)
    (told : moved.learnt = call.learnt ++ [.handles answer]) :
    (∃ published, answer = .ok published ∧ next.registry.handles = some published) ∨
      ∃ reason, answer = .error reason ∧ call.DeniedHandles backend depot reason := by
  cases move with
  | handlesFound filled | handlesLate late filled =>
      rw [Call.learnt_withHandles] at told
      cases List.append_cancel_left told
      exact Or.inl ⟨_, rfl, filled⟩
  | handlesPublished candidate empty =>
      rw [Call.learnt_withHandles] at told
      cases List.append_cancel_left told
      exact Or.inl ⟨_, rfl, rfl⟩
  | handlesNoArena exhausted =>
      rw [Call.learnt_withHandles] at told
      cases List.append_cancel_left told
      exact Or.inr ⟨_, rfl, .arena rfl exhausted⟩
  | handlesFailed failed =>
      rw [Call.learnt_withHandles] at told
      cases List.append_cancel_left told
      exact Or.inr ⟨_, rfl, .handleCache rfl failed⟩
  | bufferFound filled | absenceLate filled | bufferLate late filled
  | bufferPublished candidate empty | bufferNoArena exhausted =>
      rw [Call.learnt_withBuffer] at told
      cases List.append_cancel_left told
  | _ => simp at told

/-- A call gets past looking for the buffer cache only if the slot is empty. -/
theorem looked_for_buffer (move : Move backend call depot moved next)
    (inside : moved.phase.ForBuffer) (past : moved.phase ≠ .lookForBuffer) :
    call.phase.ForBuffer ∧ (call.phase = .lookForBuffer → depot.registry.buffer = none) := by
  cases move with
  | bufferMissing empty => exact ⟨trivial, fun _ => empty⟩
  | bufferOff off | bufferWanted on | bufferArena acquired | bufferBuilt built
  | bufferFailed failed => exact ⟨trivial, Phase.noConfusion⟩
  | bufferFound filled | bufferNoArena exhausted | bufferPublished candidate empty
  | absenceLate filled | bufferLate late filled =>
      rcases Call.phase_withBuffer _ _ with next | ⟨answer, last⟩
      · rw [next] at inside
        cases inside
      · rw [last] at inside
        cases inside
  | handlesFound filled | handlesNoArena exhausted | handlesFailed failed
  | handlesPublished candidate empty | handlesLate late filled =>
      obtain ⟨answer, last⟩ := Call.phase_withHandles _ _
      rw [last] at inside
      cases inside
  | store config => exact absurd rfl past
  | handlesMissing empty | handlesWanted | handlesArena acquired | handlesBuilt built
  | done answer => cases inside

/-- A call gets past looking for the handle cache only if the slot is empty. -/
theorem looked_for_handles (move : Move backend call depot moved next)
    (inside : moved.phase.ForHandles) (past : moved.phase ≠ .lookForHandles) :
    call.phase.ForHandles ∧ (call.phase = .lookForHandles → depot.registry.handles = none) := by
  cases move with
  | handlesMissing empty => exact ⟨trivial, fun _ => empty⟩
  | handlesWanted | handlesArena acquired | handlesBuilt built => exact ⟨trivial, Phase.noConfusion⟩
  | bufferFound filled | bufferNoArena exhausted | bufferPublished candidate empty
  | absenceLate filled | bufferLate late filled =>
      rcases Call.phase_withBuffer _ _ with next | ⟨answer, last⟩
      · exact absurd next past
      · rw [last] at inside
        cases inside
  | handlesFound filled | handlesNoArena exhausted | handlesFailed failed
  | handlesPublished candidate empty | handlesLate late filled =>
      obtain ⟨answer, last⟩ := Call.phase_withHandles _ _
      rw [last] at inside
      cases inside
  | store config | bufferMissing empty | bufferOff off | bufferWanted on | bufferArena acquired
  | bufferBuilt built | bufferFailed failed | done answer => cases inside

end Move

/-! ## Whole schedules -/

namespace System

variable {supply : σ} {history : List Turn} {number : Nat}

/-- A call that is past looking into its slot found it empty, and has been within the accessor
since. -/
theorem since_empty {within : Phase → Prop} {look : Phase} {empty : Depot σ → Prop}
    (first : ∀ request, within (Request.firstPhase request) → Request.firstPhase request = look)
    (looks : ∀ {refused call depot moved next},
      Move (backend.whileRefusing refused) call depot moved next → within moved.phase →
        moved.phase ≠ look → within call.phase ∧ (call.phase = look → empty depot))
    {phase : Phase} (present : (after backend supply history).phase? number = some phase)
    (inside : within phase) (past : phase ≠ look) :
    Since backend supply within empty history number := by
  refine phase?_induction (motive := fun history phase => within phase → phase ≠ look →
    Since backend supply within empty history number) ?_ ?_ ?_ present inside past
  · intro history request inside past
    exact absurd (first request inside) past
  · intro history turn phase present since inside past
    exact (since inside past).later present inside
  · intro history refused call moved next found move present since inside past
    obtain ⟨within, looked⟩ := looks move inside past
    by_cases looking : call.phase = look
    · have before := phase?_of_found found
      exact (Since.now before within (looked looking)).later present inside
    · exact (since within looking).later present inside

theorem since_buffer_empty {phase : Phase}
    (present : (after backend supply history).phase? number = some phase)
    (inside : phase.ForBuffer) (past : phase ≠ .lookForBuffer) :
    Since backend supply Phase.ForBuffer (fun depot => depot.registry.buffer = none) history
      number := by
  refine since_empty ?_ Move.looked_for_buffer present inside past
  intro request inside
  cases request with
  | buffer => rfl
  | configure config | handles => cases inside

theorem since_handles_empty {phase : Phase}
    (present : (after backend supply history).phase? number = some phase)
    (inside : phase.ForHandles) (past : phase ≠ .lookForHandles) :
    Since backend supply Phase.ForHandles (fun depot => depot.registry.handles = none) history
      number := by
  refine since_empty ?_ Move.looked_for_handles present inside past
  intro request inside
  cases request with
  | handles => rfl
  | configure config | buffer => cases inside

/-- What a call is told when the slot of a cache is filled is the published cache, unless the
backend denied the call what it needed after the call had found the slot empty. -/
theorem told_published_unless_denied (backend : Backend σ) (supply : σ) (history : List Turn)
    (number : Nat) (refused : Bool) :
    let before := after backend supply history
    let later := after backend supply (history ++ [.move number refused])
    ∀ call moved, before.calls[number]? = some call → later.calls[number]? = some moved →
      (∀ content published, moved.learnt = call.learnt ++ [.buffer content] →
        later.depot.registry.buffer = some (some published) →
          content = some published ∨
          content = none ∧ call.DeniedBuffer (backend.whileRefusing refused) before.depot ∧
          Since backend supply Phase.ForBuffer (fun depot => depot.registry.buffer = none) history
            number) ∧
      ∀ answer published, moved.learnt = call.learnt ++ [.handles answer] →
        later.depot.registry.handles = some published →
          answer = .ok published ∨
          ∃ reason, answer = .error reason ∧
            call.DeniedHandles (backend.whileRefusing refused) before.depot reason ∧
            Since backend supply Phase.ForHandles (fun depot => depot.registry.handles = none)
              history number := by
  intro before later call moved found after
  have reached : later = before.step backend (.move number refused) := after_concat history _
  have present : before.phase? number = some call.phase := by
    rw [phase?, found]
    rfl
  rw [step_move found] at reached
  rw [reached, List.getElem?_set_self (List.getElem?_eq_some_iff.mp found).1] at after
  cases after
  have move := before.depot.move_advance (backend.whileRefusing refused) call
  rw [reached]
  constructor
  · intro content published told filled
    rcases move.tells_buffer told with shown | ⟨rfl, denied⟩
    · exact Or.inl (Option.some.inj (shown.symm.trans filled))
    · obtain ⟨config, error, next, asking, exhausted⟩ := denied
      refine Or.inr ⟨rfl, ⟨config, error, next, asking, exhausted⟩, ?_⟩
      rw [asking] at present
      exact since_buffer_empty present trivial Phase.noConfusion
  · intro answer published told filled
    rcases move.tells_handles told with ⟨shown, rfl, same⟩ | ⟨reason, rfl, denied⟩
    · rw [Option.some.inj (same.symm.trans filled)]
      exact Or.inl rfl
    · refine Or.inr ⟨reason, rfl, denied, ?_⟩
      cases denied with
      | arena asking exhausted | handleCache asking failed =>
          rw [asking] at present
          exact since_handles_empty present trivial Phase.noConfusion

/-! ## A call that takes the last of the memory -/

/-- A call looks into its slot, then another one for the same slot does all that it has to do. -/
def overtaking (request : Request) : List Turn :=
  [.begin request, .move 0 false, .move 0 false, .begin request] ++
    List.replicate 5 (.move 1 false)

/-- The call that overtakes takes the last of the memory for the buffer cache that it publishes. -/
theorem overtaken_without_arena :
    let before := after Backend.shared (Allocator.withLimit 8413184) (overtaking .buffer)
    let later := after Backend.shared (Allocator.withLimit 8413184)
      (overtaking .buffer ++ [.move 0 false])
    ∃ call moved published, before.calls[0]? = some call ∧ later.calls[0]? = some moved ∧
      moved.learnt = call.learnt ++ [.buffer none] ∧
      later.depot.registry.buffer = some (some published) :=
  ⟨_, _, _, rfl, rfl, rfl, rfl⟩

/-- The call that overtakes takes the last of the memory for the handle cache that it publishes. -/
theorem overtaken_without_handles :
    let before := after Backend.shared (Allocator.withLimit 8448) (overtaking .handles)
    let later := after Backend.shared (Allocator.withLimit 8448)
      (overtaking .handles ++ [.move 0 false])
    ∃ call moved published, before.calls[0]? = some call ∧ later.calls[0]? = some moved ∧
      moved.learnt = call.learnt ++ [.handles (.error (.arena ⟨8192, 0⟩))] ∧
      later.depot.registry.handles = some published :=
  ⟨_, _, _, rfl, rfl, rfl, rfl⟩

theorem told_published_unless_denied_of_overtaken :
    (∃ call, (after Backend.shared (Allocator.withLimit 8413184)
          (overtaking .buffer)).calls[0]? = some call ∧
        call.DeniedBuffer Backend.shared
          (after Backend.shared (Allocator.withLimit 8413184) (overtaking .buffer)).depot ∧
        Since Backend.shared (Allocator.withLimit 8413184) Phase.ForBuffer
          (fun depot => depot.registry.buffer = none) (overtaking .buffer) 0) ∧
    ∃ call reason, (after Backend.shared (Allocator.withLimit 8448)
          (overtaking .handles)).calls[0]? = some call ∧
        call.DeniedHandles Backend.shared
          (after Backend.shared (Allocator.withLimit 8448) (overtaking .handles)).depot reason ∧
        Since Backend.shared (Allocator.withLimit 8448) Phase.ForHandles
          (fun depot => depot.registry.handles = none) (overtaking .handles) 0 := by
  constructor
  · obtain ⟨call, moved, published, found, after, learnt, filled⟩ := overtaken_without_arena
    have told := told_published_unless_denied Backend.shared _ _ 0 false call moved found after
    rcases told.1 none published learnt filled with same | ⟨-, denied, since⟩
    · cases same
    · exact ⟨call, found, denied, since⟩
  · obtain ⟨call, moved, published, found, after, learnt, filled⟩ := overtaken_without_handles
    have told := told_published_unless_denied Backend.shared _ _ 0 false call moved found after
    rcases told.2 _ published learnt filled with same | ⟨reason, -, denied, since⟩
    · cases same
    · exact ⟨call, reason, found, denied, since⟩

/-- It is not the case that a call is always told of what is published, for neither slot. -/
theorem not_always_told_published :
    (¬ ∀ (supply : Allocator) (history : List Turn) (number : Nat) (call moved : Call) content
        published,
      (after Backend.shared supply history).calls[number]? = some call →
      (after Backend.shared supply (history ++ [.move number false])).calls[number]? = some moved →
      moved.learnt = call.learnt ++ [.buffer content] →
      (after Backend.shared supply (history ++ [.move number false])).depot.registry.buffer =
        some (some published) →
      content = some published) ∧
    ¬ ∀ (supply : Allocator) (history : List Turn) (number : Nat) (call moved : Call) answer
        published,
      (after Backend.shared supply history).calls[number]? = some call →
      (after Backend.shared supply (history ++ [.move number false])).calls[number]? = some moved →
      moved.learnt = call.learnt ++ [.handles answer] →
      (after Backend.shared supply (history ++ [.move number false])).depot.registry.handles =
        some published →
      answer = .ok published := by
  constructor
  · intro always
    obtain ⟨call, moved, published, found, after, learnt, filled⟩ := overtaken_without_arena
    cases always _ _ 0 call moved none published found after learnt filled
  · intro always
    obtain ⟨call, moved, published, found, after, learnt, filled⟩ := overtaken_without_handles
    cases always _ _ 0 call moved _ published found after learnt filled

end System

end CacheDepot
