import CacheDepot.Registry.Call

/-!
# Calls one at a time

A call that nothing interrupts moves until it has its answer. It always gets there,
since every move brings it nearer: `remaining_advance_lt`.
-/

namespace CacheDepot

namespace Phase

/-- The most moves to the answer. -/
def remaining : Phase → Nat
  | .store _ => 11
  | .lookForBuffer => 10
  | .readForBuffer => 9
  | .acquireForBuffer _ => 8
  | .buildBuffer _ _ => 7
  | .publishBuffer _ => 6
  | .lookForHandles => 5
  | .readForHandles => 4
  | .acquireForHandles _ => 3
  | .buildHandles _ _ => 2
  | .publishHandles _ => 1
  | .done _ => 0

end Phase

namespace Call

theorem remaining_pos {call : Call} (waiting : call.answer? = none) :
    0 < call.phase.remaining := by
  obtain ⟨request, phase, learnt⟩ := call
  cases phase <;> simp_all [answer?, Phase.answer?, Phase.remaining]

theorem remaining_withBuffer_le (cache : Option (Instance Buffer.Cache)) (call : Call) :
    (call.withBuffer cache).phase.remaining ≤ 5 := by
  unfold withBuffer
  split <;> simp [moveTo, Phase.remaining]

theorem remaining_withHandles (cache : Except CachingError (Instance Handles.Cache)) (call : Call) :
    (call.withHandles cache).phase.remaining = 0 := by
  unfold withHandles
  split <;> simp [moveTo, Phase.remaining]

end Call

namespace Depot

variable {σ : Type}

theorem remaining_advance_lt (backend : Backend σ) (call : Call) (depot : Depot σ)
    (waiting : 0 < call.phase.remaining) :
    (depot.advance backend call).1.phase.remaining < call.phase.remaining := by
  have buffer := fun cache => call.remaining_withBuffer_le cache
  have handles := fun cache => call.remaining_withHandles cache
  obtain ⟨request, phase, learnt⟩ := call
  cases phase with
  | store config => simp [advance, Call.moveTo, Phase.remaining]
  | lookForBuffer =>
      simp only [advance]
      split
      · next published _ => exact Nat.lt_of_le_of_lt (buffer published) (by simp [Phase.remaining])
      · simp [Call.moveTo, Phase.remaining]
  | readForBuffer =>
      simp only [advance]
      split <;> simp [Call.moveTo, Phase.remaining]
  | acquireForBuffer config =>
      simp only [advance]
      split
      · simp [Call.moveTo, Phase.remaining]
      · exact Nat.lt_of_le_of_lt (buffer none) (by simp [Phase.remaining])
  | buildBuffer config arena =>
      simp only [advance]
      split <;> simp [Call.moveTo, Phase.remaining]
  | publishBuffer candidate =>
      exact Nat.lt_of_le_of_lt (buffer _) (by simp [Phase.remaining])
  | lookForHandles =>
      simp only [advance]
      split
      · next published _ => rw [handles]; simp [Phase.remaining]
      · simp [Call.moveTo, Phase.remaining]
  | readForHandles => simp [advance, Call.moveTo, Phase.remaining]
  | acquireForHandles config =>
      simp only [advance]
      split
      · simp [Call.moveTo, Phase.remaining]
      · rw [handles]; simp [Phase.remaining]
  | buildHandles config arena =>
      simp only [advance]
      split
      · simp [Call.moveTo, Phase.remaining]
      · rw [handles]; simp [Phase.remaining]
  | publishHandles candidate =>
      simp only [advance]
      rw [handles]; simp [Phase.remaining]
  | done answer => simp [Phase.remaining] at waiting

/-- The refusals of a backend that refuses nothing. -/
def refusingNothing : Demand → Bool :=
  fun _ => false

/-- Whether the backend refuses what the next move of a call asks for. -/
def refuses (refused : Demand → Bool) (call : Call) : Bool :=
  match call.demand? with
  | some demand => refused demand
  | none => false

/-- Moves a call until it has its answer, the backend refusing some of what it is asked for. -/
def finish (backend : Backend σ) (refused : Demand → Bool) (call : Call) (depot : Depot σ) :
    Answer × Depot σ :=
  match _ : call.answer? with
  | some answer => (answer, depot)
  | none =>
      let moved := depot.advance (backend.whileRefusing (refuses refused call)) call
      finish backend refused moved.1 moved.2
termination_by call.phase.remaining
decreasing_by
  exact remaining_advance_lt _ _ _ (Call.remaining_pos ‹_›)

theorem finish_of_answer {backend : Backend σ} {refused : Demand → Bool} {call : Call}
    {answer : Answer} (answered : call.answer? = some answer) (depot : Depot σ) :
    depot.finish backend refused call = (answer, depot) := by
  rw [finish]
  split
  · next found same => simp_all
  · next waiting => simp_all

theorem finish_of_waiting {backend : Backend σ} {refused : Demand → Bool} {call : Call}
    (waiting : call.answer? = none) (depot : Depot σ) :
    depot.finish backend refused call =
      (depot.advance (backend.whileRefusing (refuses refused call)) call).2.finish backend refused
        (depot.advance (backend.whileRefusing (refuses refused call)) call).1 := by
  rw [finish]
  split
  · next found same => simp_all
  · rfl

/-- The answer to a request that nothing interrupts. -/
def perform (backend : Backend σ) (refused : Demand → Bool) (request : Request)
    (depot : Depot σ) : Answer × Depot σ :=
  depot.finish backend refused (Call.start request)

end Depot

end CacheDepot
