import CacheDepot.Registry.Serial

/-!
# Scripts

A script is a list of steps on a registry. Steps can be put off until a call waits
for the backend; they then run in the middle of that call, and may in turn put off
steps. A race lets several calls move in turns, so that each of them builds before
any of them publishes.
-/

namespace CacheDepot

/-- What a backend can be asked for. -/
inductive Place where
  | arena
  | buffer
  | handles
  deriving DecidableEq, Repr

namespace Demand

def place : Demand → Place
  | .arenaForBuffer => .arena
  | .buffer => .buffer
  | .arenaForHandles => .arena
  | .handles => .handles

end Demand

inductive Step where
  /-- Reads the configuration. -/
  | config
  | configure (config : CacheConfig)
  | buffer
  | handles
  /-- Asks for the buffer cache and uses the one it gets: without one nothing is used, not even
  a cache that another call published in the meantime. -/
  | useBuffer (batch : Buffer.Batch)
  /-- Says for some places whether the backend refuses what it is asked for there. -/
  | refuse (settings : List (Place × Bool))
  /-- Puts steps off until the backend is next asked for something at a place. -/
  | putOff (place : Place) (steps : List Step)
  /-- Does nothing but report. -/
  | observe
  /-- Several calls in turns. -/
  | race (request : Request) (calls : Nat)

namespace Step

mutual

/-- The number of steps in a step, itself included. -/
def count : Step → Nat
  | .putOff _ steps => 1 + countAll steps
  | _ => 1
termination_by structural step => step

def countAll : List Step → Nat
  | [] => 0
  | step :: rest => count step + countAll rest
termination_by structural steps => steps

end

end Step

/-- What came of a step. Caches carry numbers in the order in which steps first returned them. -/
inductive Reply where
  | done
  | config (config : CacheConfig)
  | buffer (cache : Option (Nat × Buffer.Cache))
  | handles (cache : Except CachingError (Nat × Handles.Cache))
  | used (outcome : Option (Buffer.Yield × Buffer.Stats))
  /-- The supply is what the report shows. -/
  | observed
  | raced (replies : List Reply)

/-- What a step left behind, with the reports of the steps that ran in the middle of it. -/
structure Report (σ : Type) where
  reply : Reply
  bufferState : SlotState
  handlesState : SlotState
  demands : Demands
  supply : σ
  nested : List (Place × List (Report σ))

namespace Script

variable {σ : Type}

abbrev Nested (σ : Type) := List (Place × List (Report σ))

structure State (σ : Type) where
  depot : Depot σ
  refused : Place → Bool := fun _ => false
  /-- Steps put off, those of the same place in the order in which they run. -/
  waiting : List (Place × List Step) := []
  /-- Numbers of the buffer caches returned so far, without repetition. -/
  buffers : List Nat := []
  /-- Numbers of the handle caches returned so far, without repetition. -/
  handles : List Nat := []

/-- What runs when the backend is asked for something at a place. -/
abbrev Interlude (σ : Type) := Place → State σ → Nested σ × State σ

/-- Takes out the first steps that wait for a place. -/
def takeFirst? (place : Place) : List (Place × List Step) →
    Option (List Step × List (Place × List Step))
  | [] => none
  | (other, steps) :: rest =>
      if other = place then some (steps, rest)
      else (takeFirst? place rest).map fun (found, others) => (found, (other, steps) :: others)

/-- The position of a number in a list that it is appended to if it is new. -/
def rank (number : Nat) (seen : List Nat) : Nat × List Nat :=
  if number ∈ seen then (seen.idxOf number, seen) else (seen.length, seen ++ [number])

namespace State

def start (supply : σ) : State σ :=
  { depot := Depot.fresh supply }

def refuses (call : Call) (s : State σ) : Bool :=
  Depot.refuses (fun demand => s.refused demand.place) call

/-- One move of a call, with what runs in the middle of it. -/
def advance (backend : Backend σ) (interlude : Interlude σ) (call : Call) (s : State σ) :
    Call × Nested σ × State σ :=
  let (nested, ready) := match call.demand? with
    | some demand => interlude demand.place s
    | none => ([], s)
  let (moved, depot) := ready.depot.advance (backend.whileRefusing (ready.refuses call)) call
  (moved, nested, { ready with depot := depot })

/-- Moves a call until it has its answer. -/
def finish (backend : Backend σ) (interlude : Interlude σ) (call : Call) (s : State σ) :
    Answer × Nested σ × State σ :=
  match _ : call.answer? with
  | some answer => (answer, [], s)
  | none =>
      let moved := s.advance backend interlude call
      let (answer, later, last) := finish backend interlude moved.1 moved.2.2
      (answer, moved.2.1 ++ later, last)
termination_by call.phase.remaining
decreasing_by
  exact Depot.remaining_advance_lt _ _ _ (Call.remaining_pos ‹_›)

def perform (backend : Backend σ) (interlude : Interlude σ) (request : Request) (s : State σ) :
    Answer × Nested σ × State σ :=
  s.finish backend interlude (Call.start request)

/-- One move of each of several calls. -/
def advanceAll (backend : Backend σ) (interlude : Interlude σ) :
    List Call → State σ → List Call × Nested σ × State σ
  | [], s => ([], [], s)
  | call :: rest, s =>
      let (moved, first, between) := s.advance backend interlude call
      let (others, later, last) := advanceAll backend interlude rest between
      (moved :: others, first ++ later, last)

/-- A number of rounds in which each of several calls moves once. -/
def rounds (backend : Backend σ) (interlude : Interlude σ) :
    Nat → List Call → State σ → List Call × Nested σ × State σ
  | 0, calls, s => (calls, [], s)
  | n + 1, calls, s =>
      let (moved, first, between) := advanceAll backend interlude calls s
      let (finished, later, last) := rounds backend interlude n moved between
      (finished, first ++ later, last)

/-- The answers of calls that move in turns until all have theirs. -/
def race (backend : Backend σ) (interlude : Interlude σ) (request : Request) (calls : Nat)
    (s : State σ) : List Answer × Nested σ × State σ :=
  let (finished, nested, last) :=
    rounds backend interlude request.firstPhase.remaining
      (List.replicate calls (Call.start request)) s
  (finished.filterMap Call.answer?, nested, last)

/-- An answer as a reply; a cache returned for the first time gets its number. -/
def replyTo (answer : Answer) (s : State σ) : Reply × State σ :=
  match answer with
  | .configured => (.done, s)
  | .buffer none => (.buffer none, s)
  | .buffer (some found) =>
      let (position, seen) := rank found.number s.buffers
      (.buffer (some (position, found.cache)), { s with buffers := seen })
  | .handles (.error error) => (.handles (.error error), s)
  | .handles (.ok found) =>
      let (position, seen) := rank found.number s.handles
      (.handles (.ok (position, found.cache)), { s with handles := seen })

def repliesTo : List Answer → State σ → List Reply × State σ
  | [], s => ([], s)
  | answer :: rest, s =>
      let (reply, next) := s.replyTo answer
      let (replies, last) := repliesTo rest next
      (reply :: replies, last)

/-- The reply to a request that only steps put off can interrupt. -/
def ask (backend : Backend σ) (interlude : Interlude σ) (request : Request) (s : State σ) :
    Reply × Nested σ × State σ :=
  let (answer, nested, after) := s.perform backend interlude request
  let (reply, last) := after.replyTo answer
  (reply, nested, last)

/-- Says whether the backend refuses what it is asked for at a place. -/
def setRefused (setting : Place × Bool) (s : State σ) : State σ :=
  { s with refused := fun place => if place = setting.1 then setting.2 else s.refused place }

/-- What a step does, apart from reporting. -/
def act (backend : Backend σ) (interlude : Interlude σ) (step : Step) (s : State σ) :
    Reply × Nested σ × State σ :=
  match step with
  | .config => (.config s.depot.registry.config.get, [], s)
  | .configure config => s.ask backend interlude (.configure config)
  | .buffer => s.ask backend interlude .buffer
  | .handles => s.ask backend interlude .handles
  | .useBuffer batch =>
      let (answer, nested, after) := s.perform backend interlude .buffer
      match answer with
      | .buffer (some _) =>
          let (outcome, registry) := after.depot.registry.useBuffer batch
          (.used outcome, nested, { after with depot := { after.depot with registry := registry } })
      | _ => (.used none, nested, after)
  | .refuse settings =>
      (.done, [], settings.foldl (fun state setting => state.setRefused setting) s)
  | .putOff place steps => (.done, [], { s with waiting := s.waiting ++ [(place, steps)] })
  | .observe => (.observed, [], s)
  | .race request calls =>
      let (answers, nested, after) := s.race backend interlude request calls
      let (replies, last) := after.repliesTo answers
      (.raced replies, nested, last)

def report (reply : Reply) (nested : Nested σ) (s : State σ) : Report σ :=
  { reply := reply
    bufferState := s.depot.registry.bufferState
    handlesState := s.depot.registry.handlesState
    demands := s.depot.demands
    supply := s.depot.supply
    nested := nested }

def runSteps (backend : Backend σ) (interlude : Interlude σ) :
    List Step → State σ → List (Report σ) × State σ
  | [], s => ([], s)
  | step :: rest, s =>
      let (reply, nested, next) := s.act backend interlude step
      let (reports, last) := runSteps backend interlude rest next
      (next.report reply nested :: reports, last)

end State

/-- Runs the first steps that wait for a place. The number bounds how deep steps run in the middle
of others; since every list of steps runs once, the number of steps is bound enough. -/
def interlude (backend : Backend σ) : (depth : Nat) → Interlude σ
  | 0, _, s => ([], s)
  | depth + 1, place, s =>
      match takeFirst? place s.waiting with
      | some (steps, others) =>
          let (reports, last) :=
            State.runSteps backend (interlude backend depth) steps { s with waiting := others }
          ([(place, reports)], last)
      | none => ([], s)

/-- Runs a script on a fresh registry. -/
def run (backend : Backend σ) (supply : σ) (steps : List Step) : List (Report σ) × State σ :=
  State.runSteps backend (interlude backend (Step.countAll steps)) steps (State.start supply)

end Script

end CacheDepot
