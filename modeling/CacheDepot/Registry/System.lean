import CacheDepot.Registry.Call

/-!
# Calls in flight

Any number of calls can be in flight on one registry. A schedule says which call
moves next, and whether the backend refuses what that move asks for; a new call
can begin at any time, also while another one waits for the backend.
-/

namespace CacheDepot

/-- A registry with all calls that were ever begun on it. -/
structure System (σ : Type) where
  depot : Depot σ
  calls : List Call := []

/-- One turn in a schedule. -/
inductive Turn where
  | begin (request : Request)
  /-- The call of that number moves. -/
  | move (call : Nat) (refused : Bool)

namespace System

variable {σ : Type}

def fresh (supply : σ) : System σ :=
  { depot := Depot.fresh supply }

/-- A schedule that moves a call that is not there, or is done, changes nothing by it. -/
def step (backend : Backend σ) (system : System σ) : Turn → System σ
  | .begin request => { system with calls := system.calls ++ [Call.start request] }
  | .move number refused =>
      match system.calls[number]? with
      | some call =>
          let (moved, depot) := system.depot.advance (backend.whileRefusing refused) call
          ⟨depot, system.calls.set number moved⟩
      | none => system

def run (backend : Backend σ) (schedule : List Turn) (system : System σ) : System σ :=
  schedule.foldl (step backend) system

/-- Every call has its answer. -/
def Quiet (system : System σ) : Prop :=
  ∀ call ∈ system.calls, call.answer?.isSome

instance (system : System σ) : Decidable system.Quiet :=
  inferInstanceAs (Decidable (∀ call ∈ system.calls, call.answer?.isSome))

end System

end CacheDepot
