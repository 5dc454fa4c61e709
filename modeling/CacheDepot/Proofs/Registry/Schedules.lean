import CacheDepot.Proofs.Registry.Moves
import Mathlib.Algebra.Ring.Nat

/-!
# Induction over schedules

Two ways to carry a fact about single moves over to every schedule. A `Stable`
property is one of each call together with the depot: a move establishes it for the
call that moves and does not spoil it for the others. A `Balanced` property relates
the depot to a sum over all calls: a move may change what the moving call
contributes, whatever the other calls contribute.
-/

namespace CacheDepot.System

variable {σ : Type} {backend : Backend σ}

theorem run_nil (system : System σ) : system.run backend [] = system :=
  rfl

theorem run_cons (turn : Turn) (schedule : List Turn) (system : System σ) :
    system.run backend (turn :: schedule) = (system.step backend turn).run backend schedule :=
  rfl

theorem run_append (first second : List Turn) (system : System σ) :
    system.run backend (first ++ second) = (system.run backend first).run backend second :=
  List.foldl_append

/-- Moving a call that is there. -/
theorem step_move {system : System σ} {number : Nat} {call : Call}
    (present : system.calls[number]? = some call) (refused : Bool) :
    system.step backend (.move number refused) =
      ⟨(system.depot.advance (backend.whileRefusing refused) call).2,
        system.calls.set number (system.depot.advance (backend.whileRefusing refused) call).1⟩ := by
  simp only [step, present]

theorem step_move_absent {system : System σ} {number : Nat}
    (absent : system.calls[number]? = none) (refused : Bool) :
    system.step backend (.move number refused) = system := by
  simp only [step, absent]

/-! ## Properties of single calls -/

/-- A property of a call and the depot that holds from the beginning of the call and that neither
its own moves nor those of other calls end. -/
structure Stable (backend : Backend σ) (property : Call → Depot σ → Prop) : Prop where
  start : ∀ request depot, property (Call.start request) depot
  own : ∀ {refused call depot moved next},
    Move (backend.whileRefusing refused) call depot moved next → property call depot →
      property moved next
  other : ∀ {refused call depot moved next witness},
    Move (backend.whileRefusing refused) call depot moved next → property call depot →
      property witness depot → property witness next

namespace Stable

variable {property : Call → Depot σ → Prop}

theorem step (stable : Stable backend property) (turn : Turn) {system : System σ}
    (holds : ∀ call ∈ system.calls, property call system.depot) :
    ∀ call ∈ (system.step backend turn).calls, property call (system.step backend turn).depot := by
  intro witness witnessMem
  cases turn with
  | begin request =>
      rcases List.mem_append.mp witnessMem with old | new
      · exact holds witness old
      · rw [List.mem_singleton.mp new]
        exact stable.start request system.depot
  | move number refused =>
      cases present : system.calls[number]? with
      | none =>
          rw [step_move_absent present] at witnessMem ⊢
          exact holds witness witnessMem
      | some call =>
          rw [step_move present] at witnessMem ⊢
          have move := system.depot.move_advance (backend.whileRefusing refused) call
          have callHolds := holds call (List.mem_of_getElem? present)
          rcases List.mem_or_eq_of_mem_set witnessMem with old | rfl
          · exact stable.other move callHolds (holds witness old)
          · exact stable.own move callHolds

theorem run (stable : Stable backend property) (schedule : List Turn) {system : System σ}
    (holds : ∀ call ∈ system.calls, property call system.depot) :
    ∀ call ∈ (system.run backend schedule).calls,
      property call (system.run backend schedule).depot := by
  induction schedule generalizing system with
  | nil =>
      rw [run_nil]
      exact holds
  | cons turn rest ih =>
      rw [run_cons]
      exact ih (stable.step turn holds)

theorem run_fresh (stable : Stable backend property) (schedule : List Turn) (supply : σ) :
    ∀ call ∈ ((fresh supply).run backend schedule).calls,
      property call ((fresh supply).run backend schedule).depot :=
  stable.run schedule (by simp [fresh])

end Stable

theorem stable_true (backend : Backend σ) : Stable backend fun _ _ => True :=
  ⟨fun _ _ => trivial, fun _ _ => trivial, fun _ _ _ => trivial⟩

/-! ## Sums over all calls -/

/-- What all calls together contribute to a sum. -/
def sum (weight : Call → Nat) (system : System σ) : Nat :=
  (system.calls.map weight).sum

/-- Replacing one call of a list changes a sum by what the two contribute. -/
theorem sum_map_set {calls : List Call} {number : Nat} {call : Call} (weight : Call → Nat)
    (present : calls[number]? = some call) (moved : Call) :
    ∃ rest, (calls.map weight).sum = weight call + rest ∧
      ((calls.set number moved).map weight).sum = weight moved + rest := by
  induction calls generalizing number with
  | nil => simp at present
  | cons first others ih =>
      cases number with
      | zero =>
          obtain rfl : first = call := by simpa using present
          exact ⟨(others.map weight).sum, rfl, rfl⟩
      | succ number =>
          obtain ⟨rest, before, after⟩ := ih (by simpa using present)
          refine ⟨weight first + rest, ?_, ?_⟩
          · simp only [List.map_cons, List.sum_cons, before]
            omega
          · simp only [List.set_cons_succ, List.map_cons, List.sum_cons, after]
            omega

/-- All that a turn can do where calls start with nothing: it leaves the depot and the sum alone, or
one call moves, and what it contributes changes. -/
theorem step_cases (backend : Backend σ) {weight : Call → Nat}
    (start : ∀ request, weight (Call.start request) = 0) (turn : Turn) (system : System σ) :
    ((system.step backend turn).depot = system.depot ∧
      (system.step backend turn).sum weight = system.sum weight) ∨
    ∃ refused call moved rest, call ∈ system.calls ∧
      Move (backend.whileRefusing refused) call system.depot moved
        (system.step backend turn).depot ∧
      system.sum weight = weight call + rest ∧
      (system.step backend turn).sum weight = weight moved + rest := by
  cases turn with
  | begin request => exact Or.inl ⟨rfl, by simp [sum, step, start]⟩
  | move number refused =>
      cases present : system.calls[number]? with
      | none =>
          rw [step_move_absent present]
          exact Or.inl ⟨rfl, rfl⟩
      | some call =>
          rw [step_move present]
          obtain ⟨rest, before, after⟩ := sum_map_set weight present
            (system.depot.advance (backend.whileRefusing refused) call).1
          exact Or.inr ⟨refused, call, _, rest, List.mem_of_getElem? present,
            system.depot.move_advance (backend.whileRefusing refused) call, before, after⟩

/-- A relation between the depot and the sum of what the calls contribute. Calls start with nothing;
`property` is what is known of the calls that move. -/
structure Balanced (backend : Backend σ) (property : Call → Depot σ → Prop)
    (weight : Call → Nat) (relation : Nat → Depot σ → Prop) : Prop where
  start : ∀ request, weight (Call.start request) = 0
  own : ∀ {refused call depot moved next rest},
    Move (backend.whileRefusing refused) call depot moved next → property call depot →
      relation (weight call + rest) depot → relation (weight moved + rest) next

namespace Balanced

variable {property : Call → Depot σ → Prop} {weight : Call → Nat} {relation : Nat → Depot σ → Prop}

theorem step (balanced : Balanced backend property weight relation) (turn : Turn)
    {system : System σ} (known : ∀ call ∈ system.calls, property call system.depot)
    (holds : relation (system.sum weight) system.depot) :
    relation ((system.step backend turn).sum weight) (system.step backend turn).depot := by
  rcases step_cases backend balanced.start turn system with
    ⟨sameDepot, sameSum⟩ | ⟨refused, call, moved, rest, callMem, move, before, after⟩
  · rw [sameDepot, sameSum]
    exact holds
  · rw [before] at holds
    rw [after]
    exact balanced.own move (known call callMem) holds

theorem run (balanced : Balanced backend property weight relation)
    (stable : Stable backend property) (schedule : List Turn) {system : System σ}
    (known : ∀ call ∈ system.calls, property call system.depot)
    (holds : relation (system.sum weight) system.depot) :
    relation ((system.run backend schedule).sum weight) (system.run backend schedule).depot := by
  induction schedule generalizing system with
  | nil =>
      rw [run_nil]
      exact holds
  | cons turn rest ih =>
      rw [run_cons]
      exact ih (stable.step turn known) (balanced.step turn known holds)

theorem run_fresh (balanced : Balanced backend property weight relation)
    (stable : Stable backend property) (schedule : List Turn) (supply : σ)
    (holds : relation 0 (Depot.fresh supply)) :
    relation (((fresh supply).run backend schedule).sum weight)
      ((fresh supply).run backend schedule).depot :=
  balanced.run stable schedule (by simp [fresh]) holds

end Balanced

end CacheDepot.System
