import CacheDepot.Proofs.Registry.Schedules
import CacheDepot.Registry.Script

/-!
# Scripts are schedules

Steps that run in the middle of a call, and those that run in the middle of these,
are calls in flight beside it. So what a script leaves behind, a schedule leaves
behind too, as long as no step uses a cache: how calls nest is one of the orders in
which they can move.
-/

namespace CacheDepot

namespace Step

mutual

/-- The step may ask for caches, but neither uses one nor puts off a step that does. -/
def asks : Step → Bool
  | .useBuffer _ => false
  | .putOff _ steps => allAsk steps
  | .config => true
  | .configure _ => true
  | .buffer => true
  | .handles => true
  | .refuse _ => true
  | .observe => true
  | .race _ _ => true
termination_by structural step => step

def allAsk : List Step → Bool
  | [] => true
  | step :: rest => asks step && allAsk rest
termination_by structural steps => steps

end

end Step

variable {σ : Type} {backend : Backend σ}

theorem System.run_begin (requests : List Request) (depot : Depot σ) (calls : List Call) :
    (System.mk depot calls).run backend (requests.map Turn.begin) =
      ⟨depot, calls ++ requests.map Call.start⟩ := by
  induction requests generalizing calls with
  | nil => simp [run_nil]
  | cons request rest ih =>
      rw [List.map_cons, run_cons]
      exact (ih (calls ++ [Call.start request])).trans (by simp)

/-! ## Moves of some of the calls in flight -/

/-- Moves of these calls and of new ones lead from depot to depot. Other calls in flight stay where
they are. -/
def Leads (backend : Backend σ) (calls moved : List Call) (before after : Depot σ) : Prop :=
  ∀ earlier later, ∃ schedule others,
    (System.mk before (earlier ++ calls ++ later)).run backend schedule =
      ⟨after, earlier ++ moved ++ later ++ others⟩

namespace Leads

variable {calls moved rest settled : List Call} {first second third : Depot σ}

theorem refl (calls : List Call) (depot : Depot σ) : Leads backend calls calls depot depot := by
  intro earlier later
  refine ⟨[], [], ?_⟩
  rw [System.run_nil, List.append_nil]

theorem trans (start : Leads backend calls moved first second)
    (last : Leads backend moved settled second third) :
    Leads backend calls settled first third := by
  intro earlier later
  obtain ⟨schedule, others, reached⟩ := start earlier later
  obtain ⟨more, newer, ended⟩ := last earlier (later ++ others)
  refine ⟨schedule ++ more, others ++ newer, ?_⟩
  rw [System.run_append, reached, List.append_assoc, ended]
  simp only [List.append_assoc]

/-- First some calls move, then the ones behind them. -/
theorem append {others : List Call} (front : Leads backend calls moved first second)
    (back : Leads backend rest others second third) :
    Leads backend (calls ++ rest) (moved ++ others) first third := by
  intro earlier later
  obtain ⟨schedule, new, reached⟩ := front earlier (rest ++ later)
  obtain ⟨more, newer, ended⟩ := back (earlier ++ moved) (later ++ new)
  refine ⟨schedule ++ more, new ++ newer, ?_⟩
  simp only [List.append_assoc] at reached ended ⊢
  rw [System.run_append, reached, ended]

/-- Calls that are there need not move when new ones do. -/
theorem beside (new : Leads backend [] [] first second) (calls : List Call) :
    Leads backend calls calls first second :=
  new.append (refl calls second)

theorem own (refused : Bool) (call : Call) (depot : Depot σ) :
    Leads backend [call] [(depot.advance (backend.whileRefusing refused) call).1] depot
      (depot.advance (backend.whileRefusing refused) call).2 := by
  intro earlier later
  refine ⟨[.move earlier.length refused], [], ?_⟩
  have present : (earlier ++ [call] ++ later)[earlier.length]? = some call := by simp
  rw [System.run_cons, System.step_move present, System.run_nil]
  simp

/-- New calls that are begun and moved. -/
theorem begun {requests : List Request} (started : requests.map Call.start = calls)
    (moves : Leads backend calls moved first second) : Leads backend [] [] first second := by
  subst started
  intro earlier later
  obtain ⟨schedule, others, reached⟩ := moves (earlier ++ later) []
  refine ⟨requests.map Turn.begin ++ schedule, moved ++ others, ?_⟩
  rw [System.run_append, List.append_nil, System.run_begin]
  simpa using reached

end Leads

namespace Script

open Step (asks allAsk)

/-! ## States -/

namespace State

/-- No step that was put off uses a cache. -/
def Asking (s : State σ) : Prop :=
  ∀ entry ∈ s.waiting, allAsk entry.2

/-- New calls lead from one state to another, in which still no step uses a cache. -/
structure Follows (backend : Backend σ) (s t : State σ) : Prop where
  asking : t.Asking
  leads : Leads backend [] [] s.depot t.depot

namespace Follows

variable {s t u : State σ}

theorem of_same (asking : s.Asking) (depot : t.depot = s.depot) (waiting : t.waiting = s.waiting) :
    Follows backend s t := by
  constructor
  · intro entry entryMem
    rw [waiting] at entryMem
    exact asking entry entryMem
  · rw [depot]
    exact Leads.refl [] s.depot

theorem trans (start : Follows backend s t) (last : Follows backend t u) : Follows backend s u :=
  ⟨last.asking, start.leads.trans last.leads⟩

end Follows

end State

/-- What runs in the middle of a call follows from what was there. -/
def Interlude.Scheduled (backend : Backend σ) (interlude : Interlude σ) : Prop :=
  ∀ place s, s.Asking → State.Follows backend s (interlude place s).2

namespace State

variable {s : State σ}

theorem follows_replyTo (asking : s.Asking) (answer : Answer) :
    Follows backend s (s.replyTo answer).2 := by
  cases answer with
  | configured => exact Follows.of_same asking rfl rfl
  | buffer cache => cases cache <;> exact Follows.of_same asking rfl rfl
  | handles cache => cases cache <;> exact Follows.of_same asking rfl rfl

theorem follows_repliesTo (asking : s.Asking) (answers : List Answer) :
    Follows backend s (repliesTo answers s).2 := by
  induction answers generalizing s with
  | nil => exact Follows.of_same asking rfl rfl
  | cons answer rest ih =>
      have first : Follows backend s (s.replyTo answer).2 := follows_replyTo asking answer
      exact first.trans (ih first.asking)

theorem follows_refuse (asking : s.Asking) (settings : List (Place × Bool)) :
    Follows backend s (settings.foldl (fun state setting => state.setRefused setting) s) := by
  induction settings generalizing s with
  | nil => exact Follows.of_same asking rfl rfl
  | cons setting rest ih =>
      have first : Follows backend s (s.setRefused setting) := Follows.of_same asking rfl rfl
      exact first.trans (ih first.asking)

variable {interlude : Interlude σ} (scheduled : interlude.Scheduled backend)
include scheduled

theorem leads_advance (asking : s.Asking) (call : Call) :
    (s.advance backend interlude call).2.2.Asking ∧
      Leads backend [call] [(s.advance backend interlude call).1] s.depot
        (s.advance backend interlude call).2.2.depot := by
  unfold advance
  cases wanted : call.demand? with
  | none => exact ⟨asking, Leads.own _ call s.depot⟩
  | some demand =>
      have before := scheduled demand.place s asking
      exact ⟨before.asking, (before.leads.beside [call]).trans (Leads.own _ call _)⟩

theorem leads_finish (asking : s.Asking) (call : Call) :
    (s.finish backend interlude call).2.2.Asking ∧
      ∃ settled, Leads backend [call] [settled] s.depot
        (s.finish backend interlude call).2.2.depot := by
  fun_induction finish backend interlude call s with
  | case1 call s answer answered => exact ⟨asking, call, Leads.refl [call] s.depot⟩
  | case2 call s waiting moved answer later last finished ih =>
      obtain ⟨between, moves⟩ := leads_advance scheduled asking call
      obtain ⟨ended, settled, rest⟩ := ih between
      rw [finished] at ended rest
      exact ⟨ended, settled, moves.trans rest⟩

theorem leads_advanceAll (asking : s.Asking) (calls : List Call) :
    (advanceAll backend interlude calls s).2.2.Asking ∧
      Leads backend calls (advanceAll backend interlude calls s).1 s.depot
        (advanceAll backend interlude calls s).2.2.depot := by
  induction calls generalizing s with
  | nil => exact ⟨asking, Leads.refl [] s.depot⟩
  | cons call rest ih =>
      obtain ⟨between, moves⟩ := leads_advance scheduled asking call
      obtain ⟨last, others⟩ := ih between
      exact ⟨last, moves.append others⟩

theorem leads_rounds (asking : s.Asking) (number : Nat) (calls : List Call) :
    (rounds backend interlude number calls s).2.2.Asking ∧
      Leads backend calls (rounds backend interlude number calls s).1 s.depot
        (rounds backend interlude number calls s).2.2.depot := by
  induction number generalizing s calls with
  | zero => exact ⟨asking, Leads.refl calls s.depot⟩
  | succ number ih =>
      obtain ⟨between, moves⟩ := leads_advanceAll scheduled asking calls
      obtain ⟨last, others⟩ := ih between _
      exact ⟨last, moves.trans others⟩

theorem follows_perform (asking : s.Asking) (request : Request) :
    Follows backend s (s.perform backend interlude request).2.2 := by
  obtain ⟨last, settled, moves⟩ := leads_finish scheduled asking (Call.start request)
  have started : [request].map Call.start = [Call.start request] := rfl
  exact ⟨last, Leads.begun started moves⟩

theorem follows_race (asking : s.Asking) (request : Request) (calls : Nat) :
    Follows backend s (s.race backend interlude request calls).2.2 := by
  obtain ⟨last, moves⟩ := leads_rounds scheduled asking request.firstPhase.remaining
    (List.replicate calls (Call.start request))
  have started : (List.replicate calls request).map Call.start =
      List.replicate calls (Call.start request) := List.map_replicate
  exact ⟨last, Leads.begun started moves⟩

theorem follows_ask (asking : s.Asking) (request : Request) :
    Follows backend s (s.ask backend interlude request).2.2 := by
  have performed := follows_perform scheduled asking request
  exact performed.trans (follows_replyTo performed.asking _)

theorem follows_act (asking : s.Asking) {step : Step} (asks : asks step) :
    Follows backend s (s.act backend interlude step).2.2 := by
  cases step with
  | config => exact Follows.of_same asking rfl rfl
  | configure config => exact follows_ask scheduled asking _
  | buffer => exact follows_ask scheduled asking _
  | handles => exact follows_ask scheduled asking _
  | useBuffer batch => contradiction
  | refuse settings => exact follows_refuse asking settings
  | putOff place steps =>
      constructor
      · intro entry entryMem
        rcases List.mem_append.mp entryMem with old | new
        · exact asking entry old
        · rw [List.mem_singleton.mp new]
          exact asks
      · exact Leads.refl [] s.depot
  | observe => exact Follows.of_same asking rfl rfl
  | race request calls =>
      have raced := follows_race scheduled asking request calls
      exact raced.trans (follows_repliesTo raced.asking _)

theorem follows_runSteps (asking : s.Asking) {steps : List Step} (asks : allAsk steps) :
    Follows backend s (runSteps backend interlude steps s).2 := by
  induction steps generalizing s with
  | nil => exact Follows.of_same asking rfl rfl
  | cons step rest ih =>
      obtain ⟨first, others⟩ := Bool.and_eq_true_iff.mp asks
      have acted := follows_act scheduled asking first
      exact acted.trans (ih acted.asking others)

end State

/-! ## Interludes -/

theorem allAsk_of_takeFirst? {place : Place} {waiting others : List (Place × List Step)}
    {steps : List Step} (asking : ∀ entry ∈ waiting, allAsk entry.2)
    (taken : takeFirst? place waiting = some (steps, others)) :
    allAsk steps ∧ ∀ entry ∈ others, allAsk entry.2 := by
  induction waiting generalizing steps others with
  | nil => contradiction
  | cons first rest ih =>
      rcases first with ⟨other, firstSteps⟩
      obtain ⟨firstAsks, restAsk⟩ := List.forall_mem_cons.mp asking
      simp only [takeFirst?] at taken
      split at taken
      · cases taken
        exact ⟨firstAsks, restAsk⟩
      · obtain ⟨⟨found, left⟩, restTaken, same⟩ := Option.map_eq_some_iff.mp taken
        cases same
        obtain ⟨foundAsks, leftAsk⟩ := ih restAsk restTaken
        exact ⟨foundAsks, List.forall_mem_cons.mpr ⟨firstAsks, leftAsk⟩⟩

theorem interlude_scheduled (backend : Backend σ) (depth : Nat) :
    (interlude backend depth).Scheduled backend := by
  induction depth with
  | zero => exact fun _ _ asking => State.Follows.of_same asking rfl rfl
  | succ depth ih =>
      intro place s asking
      simp only [interlude]
      split
      · next steps others taken =>
          obtain ⟨stepsAsk, othersAsk⟩ := allAsk_of_takeFirst? asking taken
          have ready : State.Asking { s with waiting := others } := othersAsk
          have ran := State.follows_runSteps ih ready stepsAsk
          exact ⟨ran.asking, ran.leads⟩
      · exact State.Follows.of_same asking rfl rfl

/-- Whatever a script leaves behind in which no step uses a cache, some schedule leaves behind. What
holds of all schedules holds of calls that run in the middle of others, to any depth. -/
theorem exists_schedule (backend : Backend σ) (supply : σ) {steps : List Step}
    (asks : allAsk steps) :
    ∃ schedule, ((System.fresh supply).run backend schedule).depot =
      (run backend supply steps).2.depot := by
  have asking : (State.start supply).Asking := by simp [State.Asking, State.start]
  have ran := State.follows_runSteps (interlude_scheduled backend (Step.countAll steps)) asking asks
  obtain ⟨schedule, others, reached⟩ := ran.leads [] []
  exact ⟨schedule, congrArg System.depot reached⟩

end Script

end CacheDepot
