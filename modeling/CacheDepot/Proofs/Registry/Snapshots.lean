import CacheDepot.Proofs.Registry.Attempts
import CacheDepot.Proofs.Registry.Publication
import Mathlib.Data.List.Induction

/-!
# Configurations behind the slots

What is published for a slot comes from one configuration as a whole, and from one
that was in force while the call that published it was within its accessor. The
history of a system is kept beside it here, so that a phase of a call can be traced
to the moment at which the call read the configuration. Nothing is assumed of what
happens between that moment and the publication; the configuration may have been
replaced many times by then.
-/

namespace CacheDepot

/-- The call is within the accessor of the buffer cache. -/
def Phase.ForBuffer : Phase → Prop
  | .lookForBuffer => True
  | .readForBuffer => True
  | .acquireForBuffer _ => True
  | .buildBuffer _ _ => True
  | .publishBuffer _ => True
  | _ => False

/-- The call is within the accessor of the handle cache. -/
def Phase.ForHandles : Phase → Prop
  | .lookForHandles => True
  | .readForHandles => True
  | .acquireForHandles _ => True
  | .buildHandles _ _ => True
  | .publishHandles _ => True
  | _ => False

namespace System

variable {σ : Type} {backend : Backend σ} {supply : σ} {history : List Turn} {turn : Turn}
  {number : Nat} {phase : Phase} {config : CacheConfig}

/-! ## Histories -/

variable (backend supply) in
/-- The system after a history. -/
def after (history : List Turn) : System σ :=
  (fresh supply).run backend history

theorem after_concat (history : List Turn) (turn : Turn) :
    after backend supply (history ++ [turn]) = (after backend supply history).step backend turn :=
  run_append history [turn] _

/-- The phase of the call of a number. -/
def phase? (number : Nat) (system : System σ) : Option Phase :=
  system.calls[number]?.map Call.phase

theorem phase?_of_found {system : System σ} {call : Call}
    (found : system.calls[number]? = some call) : system.phase? number = some call.phase :=
  congrArg (Option.map Call.phase) found

variable (backend supply) in
/-- Something was the case of the depot at a moment from which on, to the end of the history, the
call was within an accessor. -/
def Since (within : Phase → Prop) (fact : Depot σ → Prop) (history : List Turn) (number : Nat) :
    Prop :=
  ∃ moment, moment <+: history ∧ fact (after backend supply moment).depot ∧
    ∀ middle, moment <+: middle → middle <+: history →
      ∃ phase, (after backend supply middle).phase? number = some phase ∧ within phase

variable (backend supply) in
/-- The configuration was in force at a moment from which on, to the end of the history, the call
was within an accessor. -/
def InForce (within : Phase → Prop) (history : List Turn) (number : Nat) (config : CacheConfig) :
    Prop :=
  ∃ moment, moment <+: history ∧ (after backend supply moment).depot.registry.config.get = config ∧
    ∀ middle, moment <+: middle → middle <+: history →
      ∃ phase, (after backend supply middle).phase? number = some phase ∧ within phase

variable (backend supply) in
/-- The call had asked for the buffer cache of the configuration, and there was none. -/
def BuildFailed (history : List Turn) (number : Nat) (config : CacheConfig) : Prop :=
  ∃ earlier refused arena error next, earlier ++ [.move number refused] <+: history ∧
    (after backend supply earlier).phase? number = some (.buildBuffer config arena) ∧
    (backend.whileRefusing refused).buildBuffer arena config.cacheSize (config.cacheSize / 16)
      (!config.singleThreaded) (after backend supply earlier).depot.supply = (.error error, next)

namespace Since

variable {within : Phase → Prop} {fact : Depot σ → Prop}

theorem now (present : (after backend supply history).phase? number = some phase)
    (inside : within phase) (holds : fact (after backend supply history).depot) :
    Since backend supply within fact history number := by
  refine ⟨history, List.prefix_refl history, holds, ?_⟩
  intro middle later earlier
  obtain rfl : middle = history := earlier.eq_of_length_le later.length_le
  exact ⟨phase, present, inside⟩

theorem later (since : Since backend supply within fact history number)
    (present : (after backend supply (history ++ [turn])).phase? number = some phase)
    (inside : within phase) : Since backend supply within fact (history ++ [turn]) number := by
  obtain ⟨moment, before, held, during⟩ := since
  refine ⟨moment, before.trans (List.prefix_append history [turn]), held, ?_⟩
  intro middle since upTo
  rcases List.prefix_concat_iff.mp upTo with rfl | earlier
  · exact ⟨phase, present, inside⟩
  · exact during middle since earlier

end Since

namespace InForce

variable {within : Phase → Prop}

theorem since_iff : InForce backend supply within history number config ↔
    Since backend supply within (fun depot => depot.registry.config.get = config) history number :=
  Iff.rfl

/-- The configuration that a call finds in force. -/
theorem now (present : (after backend supply history).phase? number = some phase)
    (inside : within phase) :
    InForce backend supply within history number
      (after backend supply history).depot.registry.config.get :=
  since_iff.mpr (Since.now present inside rfl)

theorem later (inForce : InForce backend supply within history number config)
    (present : (after backend supply (history ++ [turn])).phase? number = some phase)
    (inside : within phase) : InForce backend supply within (history ++ [turn]) number config :=
  since_iff.mpr ((since_iff.mp inForce).later present inside)

end InForce

theorem BuildFailed.later (failed : BuildFailed backend supply history number config)
    (turn : Turn) : BuildFailed backend supply (history ++ [turn]) number config := by
  obtain ⟨earlier, refused, arena, error, next, before, rest⟩ := failed
  have still := before.trans (List.prefix_append history [turn])
  exact ⟨earlier, refused, arena, error, next, still, rest⟩

/-! ## Where the phases of calls come from -/

variable (backend supply) in
/-- What a call holds on its way comes from one configuration. -/
def Sourced (history : List Turn) (number : Nat) : Phase → Prop
  | .acquireForBuffer config =>
      InForce backend supply Phase.ForBuffer history number config ∧ config.cacheSize ≠ 0
  | .buildBuffer config _ =>
      InForce backend supply Phase.ForBuffer history number config ∧ config.cacheSize ≠ 0
  | .publishBuffer none =>
      ∃ config, InForce backend supply Phase.ForBuffer history number config ∧
        (config.cacheSize = 0 ∨ BuildFailed backend supply history number config)
  | .publishBuffer (some candidate) =>
      ∃ config, InForce backend supply Phase.ForBuffer history number config ∧
        config.cacheSize ≠ 0 ∧ candidate.cache.totalSize = config.cacheSize ∧
        candidate.cache.directorySize = config.cacheSize / 16 ∧
        candidate.cache.threadSafe = !config.singleThreaded
  | .acquireForHandles config =>
      InForce backend supply Phase.ForHandles history number config
  | .buildHandles config _ =>
      InForce backend supply Phase.ForHandles history number config
  | .publishHandles candidate =>
      ∃ config, InForce backend supply Phase.ForHandles history number config ∧
        candidate.cache.maxHandles = config.fileHandleCount ∧
        candidate.cache.threadSafe = !config.singleThreaded
  | _ => True

theorem sourced_firstPhase (request : Request) :
    Sourced backend supply history number request.firstPhase := by
  cases request <;> trivial

theorem sourced_withBuffer (content : Option (Instance Buffer.Cache)) (call : Call) :
    Sourced backend supply history number (call.withBuffer content).phase := by
  unfold Call.withBuffer
  split <;> trivial

theorem sourced_withHandles (answer : Except CachingError (Instance Handles.Cache)) (call : Call) :
    Sourced backend supply history number (call.withHandles answer).phase := by
  unfold Call.withHandles
  split <;> trivial

/-- A call that does not move stays sourced. -/
theorem Sourced.later (sourced : Sourced backend supply history number phase)
    (present : (after backend supply (history ++ [turn])).phase? number = some phase) :
    Sourced backend supply (history ++ [turn]) number phase := by
  cases phase with
  | acquireForBuffer config | buildBuffer config arena =>
      obtain ⟨inForce, on⟩ := sourced
      exact ⟨inForce.later present trivial, on⟩
  | publishBuffer content =>
      cases content with
      | none =>
          obtain ⟨config, inForce, reason⟩ := sourced
          exact ⟨config, inForce.later present trivial,
            reason.imp_right fun failed => failed.later turn⟩
      | some candidate =>
          obtain ⟨config, inForce, sizes⟩ := sourced
          exact ⟨config, inForce.later present trivial, sizes⟩
  | acquireForHandles config | buildHandles config arena =>
      exact InForce.later sourced present trivial
  | publishHandles candidate =>
      obtain ⟨config, inForce, sizes⟩ := sourced
      exact ⟨config, inForce.later present trivial, sizes⟩
  | store | lookForBuffer | readForBuffer | lookForHandles | readForHandles | done => trivial

/-- All that a turn can do to the phase of a call. -/
theorem phase?_step {system : System σ}
    (present : (system.step backend turn).phase? number = some phase) :
    system.phase? number = some phase ∨ (∃ request, phase = Request.firstPhase request) ∨
      ∃ refused call moved next, turn = .move number refused ∧
        system.calls[number]? = some call ∧
        Move (backend.whileRefusing refused) call system.depot moved next ∧
        phase = moved.phase := by
  cases turn with
  | begin request =>
      rw [phase?, step, List.getElem?_append] at present
      split at present
      · exact Or.inl present
      · obtain ⟨call, found, rfl⟩ := Option.map_eq_some_iff.mp present
        have new := List.mem_singleton.mp (List.mem_of_getElem? found)
        exact Or.inr (Or.inl ⟨request, new ▸ rfl⟩)
  | move other refused =>
      cases found : system.calls[other]? with
      | none =>
          rw [step_move_absent found] at present
          exact Or.inl present
      | some call =>
          rw [step_move found, phase?] at present
          by_cases same : other = number
          · subst same
            rw [List.getElem?_set_self (List.getElem?_eq_some_iff.mp found).1] at present
            cases present
            exact Or.inr (Or.inr ⟨refused, call, _, _, rfl, found,
              system.depot.move_advance (backend.whileRefusing refused) call, rfl⟩)
          · rw [List.getElem?_set_ne same] at present
            exact Or.inl present

/-- What holds of a call that begins, and is kept when the call moves and when others do, holds of
the phase that a call has reached. -/
theorem phase?_induction {motive : List Turn → Phase → Prop}
    (first : ∀ history request, motive history (Request.firstPhase request))
    (other : ∀ {history turn phase},
      (after backend supply (history ++ [turn])).phase? number = some phase →
        motive history phase → motive (history ++ [turn]) phase)
    (own : ∀ {history refused call moved next},
      (after backend supply history).calls[number]? = some call →
        Move (backend.whileRefusing refused) call (after backend supply history).depot moved next →
        (after backend supply (history ++ [.move number refused])).phase? number =
          some moved.phase →
        motive history call.phase → motive (history ++ [.move number refused]) moved.phase)
    {history : List Turn} {phase : Phase}
    (present : (after backend supply history).phase? number = some phase) :
    motive history phase := by
  induction history using List.reverseRecOn generalizing phase with
  | nil => cases present
  | append_singleton history turn ih =>
      have stepped := present
      rw [after_concat] at stepped
      rcases phase?_step stepped with same | ⟨request, rfl⟩ |
        ⟨refused, call, moved, next, rfl, found, move, rfl⟩
      · exact other present (ih same)
      · exact first _ request
      · exact own found move present (ih (phase?_of_found found))

/-- The move of a call keeps what the call holds sourced. -/
theorem Sourced.move (faithful : backend.Faithful) {refused : Bool} {call moved : Call}
    {next : Depot σ} (found : (after backend supply history).calls[number]? = some call)
    (move : Move (backend.whileRefusing refused) call (after backend supply history).depot moved
      next)
    (sourced : Sourced backend supply history number call.phase)
    (present : (after backend supply (history ++ [.move number refused])).phase? number =
      some moved.phase) :
    Sourced backend supply (history ++ [.move number refused]) number moved.phase := by
  have before := phase?_of_found found
  generalize same : (after backend supply history).depot = depot at move
  cases move with
  | bufferFound filled | bufferNoArena exhausted | bufferPublished candidate empty
  | absenceLate filled | bufferLate late filled => exact sourced_withBuffer _ _
  | handlesFound filled | handlesNoArena exhausted | handlesFailed failed
  | handlesPublished candidate empty | handlesLate late filled => exact sourced_withHandles _ _
  | store config | bufferMissing empty | handlesMissing empty | done answer => trivial
  | bufferOff off =>
      subst same
      exact ⟨_, (InForce.now before trivial).later present trivial, Or.inl off⟩
  | bufferWanted on =>
      subst same
      exact ⟨(InForce.now before trivial).later present trivial, on⟩
  | bufferArena acquired =>
      obtain ⟨inForce, on⟩ := sourced
      exact ⟨inForce.later present trivial, on⟩
  | bufferBuilt built =>
      obtain ⟨inForce, on⟩ := sourced
      exact ⟨_, inForce.later present trivial, on, (faithful.whileRefusing refused).buffer built⟩
  | bufferFailed failed =>
      subst same
      obtain ⟨inForce, on⟩ := sourced
      exact ⟨_, inForce.later present trivial, Or.inr
        ⟨history, refused, _, _, _, List.prefix_refl _, before, failed⟩⟩
  | handlesWanted =>
      subst same
      exact (InForce.now before trivial).later present trivial
  | handlesArena acquired => exact InForce.later sourced present trivial
  | handlesBuilt built =>
      exact ⟨_, InForce.later sourced present trivial,
        (faithful.whileRefusing refused).handles built⟩

theorem sourced_of_run (faithful : backend.Faithful) (supply : σ) (history : List Turn)
    {phase : Phase} (present : (after backend supply history).phase? number = some phase) :
    Sourced backend supply history number phase := by
  refine phase?_induction (motive := fun history phase =>
    Sourced backend supply history number phase) ?_ ?_ ?_ present
  · exact fun history request => sourced_firstPhase request
  · exact fun present sourced => sourced.later present
  · exact fun found move present sourced => sourced.move faithful found move present

/-! ## Filling a slot -/

theorem grows_after (history : List Turn) (turn : Turn) :
    (after backend supply history).depot.registry.Grows
      (after backend supply (history ++ [turn])).depot.registry := by
  rw [after_concat]
  exact grows_step _ turn

/-- A slot that is filled was filled by a call that was about to publish what is in it. -/
theorem exists_publication {α : Type} (slot : Registry → Option α) (publishing : α → Phase)
    (fresh : slot Registry.fresh = none)
    (grows : ∀ {earlier later : Registry} {content}, earlier.Grows later →
      slot earlier = some content → slot later = some content)
    (fills : ∀ {refused call depot moved next content},
      Move (backend.whileRefusing refused) call depot moved next → slot depot.registry = none →
        slot next.registry = some content → call.phase = publishing content)
    {history : List Turn} {content : α}
    (filled : slot (after backend supply history).depot.registry = some content) :
    ∃ earlier number refused later, history = earlier ++ .move number refused :: later ∧
      slot (after backend supply earlier).depot.registry = none ∧
      (after backend supply earlier).phase? number = some (publishing content) := by
  induction history using List.reverseRecOn with
  | nil =>
      change slot Registry.fresh = some content at filled
      rw [fresh] at filled
      cases filled
  | append_singleton history turn ih =>
      cases before : slot (after backend supply history).depot.registry with
      | some old =>
          have kept := grows (grows_after history turn) before
          obtain rfl : old = content := Option.some.inj (kept.symm.trans filled)
          obtain ⟨earlier, number, refused, later, rfl, rest⟩ := ih before
          exact ⟨earlier, number, refused, later ++ [turn], by simp, rest⟩
      | none =>
          rw [after_concat] at filled
          cases turn with
          | begin request => cases before.symm.trans filled
          | move number refused =>
              cases found : (after backend supply history).calls[number]? with
              | none =>
                  rw [step_move_absent found] at filled
                  cases before.symm.trans filled
              | some call =>
                  rw [step_move found] at filled
                  have move := (after backend supply history).depot.move_advance
                    (backend.whileRefusing refused) call
                  refine ⟨history, number, refused, [], rfl, before, ?_⟩
                  rw [phase?, found, ← fills move before filled]
                  rfl

theorem fills_buffer {call moved : Call} {depot next : Depot σ}
    {content : Option (Instance Buffer.Cache)} (move : Move backend call depot moved next)
    (empty : depot.registry.buffer = none) (filled : next.registry.buffer = some content) :
    call.phase = .publishBuffer content := by
  cases move with
  | bufferPublished candidate _ =>
      cases filled
      rfl
  | _ => cases empty.symm.trans filled

theorem fills_handles {call moved : Call} {depot next : Depot σ}
    {published : Instance Handles.Cache} (move : Move backend call depot moved next)
    (empty : depot.registry.handles = none) (filled : next.registry.handles = some published) :
    call.phase = .publishHandles published := by
  cases move with
  | handlesPublished candidate _ =>
      cases filled
      rfl
  | _ => cases empty.symm.trans filled

/-- What is published in a slot was made from one configuration, which was in force at a moment when
the call that published it was within its accessor. There is no buffer cache only where that
configuration asks for none or the call could not have it built. -/
theorem slots_filled_from_one_config (faithful : backend.Faithful) (supply : σ)
    (history : List Turn) :
    (∀ content, (after backend supply history).depot.registry.buffer = some content →
      ∃ earlier number refused later, history = earlier ++ .move number refused :: later ∧
        (after backend supply earlier).depot.registry.buffer = none ∧
        (after backend supply earlier).phase? number = some (.publishBuffer content) ∧
        ∃ config, InForce backend supply Phase.ForBuffer earlier number config ∧
          (content = none →
            config.cacheSize = 0 ∨ BuildFailed backend supply earlier number config) ∧
          ∀ published, content = some published →
            config.cacheSize ≠ 0 ∧ published.cache.totalSize = config.cacheSize ∧
            published.cache.directorySize = config.cacheSize / 16 ∧
            published.cache.threadSafe = !config.singleThreaded) ∧
    ∀ published, (after backend supply history).depot.registry.handles = some published →
      ∃ earlier number refused later, history = earlier ++ .move number refused :: later ∧
        (after backend supply earlier).depot.registry.handles = none ∧
        (after backend supply earlier).phase? number = some (.publishHandles published) ∧
        ∃ config, InForce backend supply Phase.ForHandles earlier number config ∧
          published.cache.maxHandles = config.fileHandleCount ∧
          published.cache.threadSafe = !config.singleThreaded := by
  constructor
  · intro content filled
    obtain ⟨earlier, number, refused, later, split, empty, publishing⟩ :=
      exists_publication Registry.buffer Phase.publishBuffer rfl
        (fun grows => grows.buffer _) fills_buffer filled
    have sourced := sourced_of_run faithful supply earlier publishing
    refine ⟨earlier, number, refused, later, split, empty, publishing, ?_⟩
    cases content with
    | none =>
        obtain ⟨config, inForce, reason⟩ := sourced
        refine ⟨config, inForce, fun _ => reason, ?_⟩
        rintro published ⟨⟩
    | some candidate =>
        obtain ⟨config, inForce, sizes⟩ := sourced
        refine ⟨config, inForce, ?_, ?_⟩
        · rintro ⟨⟩
        · rintro published ⟨⟩
          exact sizes
  · intro published filled
    obtain ⟨earlier, number, refused, later, split, empty, publishing⟩ :=
      exists_publication Registry.handles Phase.publishHandles rfl
        (fun grows => grows.handles _) fills_handles filled
    exact ⟨earlier, number, refused, later, split, empty, publishing,
      sourced_of_run faithful supply earlier publishing⟩

/-- The buffer cache is switched off while a call that has read the configuration waits for its
arena. The call goes on with what it has read. -/
theorem slots_filled_from_one_config_switched_off :
    let off : CacheConfig := { cacheSize := 0 }
    let history : List Turn :=
      [.begin .buffer, .move 0 false, .move 0 false, .begin (.configure off), .move 1 false,
        .move 0 false, .move 0 false, .move 0 false]
    let system := after Backend.shared { limit := some 20000000, maxFree := 1 } history
    system.depot.registry.config.get = off ∧
      ∃ published config, system.depot.registry.buffer = some (some published) ∧
        config ≠ off ∧ published.cache.totalSize = config.cacheSize := by
  intro off history system
  have reached :
      after Backend.shared { limit := some 20000000, maxFree := 1 } history = system := rfl
  obtain ⟨fills, -⟩ := slots_filled_from_one_config Backend.shared_faithful
    { limit := some 20000000, maxFree := 1 } history
  rw [reached] at fills
  have filled : system.depot.registry.buffer.join.isSome := by decide +kernel
  obtain ⟨published, joined⟩ := Option.isSome_iff_exists.mp filled
  have present : system.depot.registry.buffer = some (some published) :=
    Option.join_eq_some_iff.mp joined
  obtain ⟨earlier, number, refused, later, -, -, -, config, -, -, sizes⟩ := fills _ present
  obtain ⟨on, total, -, -⟩ := sizes published rfl
  refine ⟨by decide +kernel, published, config, present, ?_, total⟩
  rintro rfl
  exact on rfl

end System

end CacheDepot
