import CacheDepot.Proofs.Handles.Transparency
import Mathlib.Data.List.Induction

/-!
# What a handle cache hears

A handle cache is told three kinds of things: that a path is asked for, that a loan
comes back, and that all kept handles are to be closed. What a session tells its cache
makes a history, and the cache at any time is what the history until then has made of
it. A loan never comes back while its handle is kept, and a handle that had to make
place for one that came back is in no place afterwards.
-/

namespace CacheDepot.Handles

/-! ## Events -/

inductive Event where
  | asked (path : String)
  | returned (loan : Loan)
  | flushed
  deriving DecidableEq, Repr

namespace Event

def path? : Event → Option String
  | asked path => some path
  | _ => none

def loan? : Event → Option Loan
  | returned loan => some loan
  | _ => none

end Event

namespace Cache

/-- The handle of that number is kept. -/
def Keeps (number : Nat) (cache : Cache) : Prop :=
  ∃ kept ∈ cache.idle, kept.handle.number = number

/-- What asking for a path makes of a cache, whether or not a loan comes of it. -/
def asked (path : String) (cache : Cache) : Cache :=
  match takeLast? path cache.idle with
  | some (_, others) => { cache with idle := others, hits := cache.hits + 1 }
  | none => { cache with misses := cache.misses + 1 }

theorem snd_lend (files : Files.Tree) (path : String) (number : Nat) (cache : Cache) :
    (cache.lend files path number).2 = cache.asked path := by
  have lending := cache.lending files path number
  unfold asked
  generalize cache.lend files path number = answer at lending
  cases lending with
  | again found | lost found => rw [found]
  | opened absent | refused absent => rw [absent]

def hear (cache : Cache) : Event → Cache
  | .asked path => cache.asked path
  | .returned loan => cache.giveBack loan
  | .flushed => cache.flush

theorem maxHandles_hear (cache : Cache) (event : Event) :
    (cache.hear event).maxHandles = cache.maxHandles := by
  cases event with
  | asked path =>
      simp only [hear, asked]
      split <;> rfl
  | returned loan => exact maxHandles_giveBack loan cache
  | flushed => rfl

/-- A question is a hit if a handle of an equal path is kept, and a miss otherwise. -/
theorem counts_asked (path : String) (cache : Cache) :
    if ∃ kept ∈ cache.idle, Files.samePath kept.path path then
      (cache.asked path).hits = cache.hits + 1 ∧ (cache.asked path).misses = cache.misses
    else (cache.asked path).hits = cache.hits ∧
      (cache.asked path).misses = cache.misses + 1 := by
  unfold asked
  cases found : takeLast? path cache.idle with
  | none =>
      have absent := takeLast?_eq_none.mp found
      rw [if_neg (by simpa using absent)]
      exact ⟨rfl, rfl⟩
  | some taken =>
      rcases takeLast?_eq_some found with ⟨kept, -, same, perm⟩
      rw [if_pos ⟨kept, perm.mem_iff.mpr List.mem_cons_self, same⟩]
      exact ⟨rfl, rfl⟩

theorem counts_hear_of_unasked {event : Event} (unasked : event.path? = none) (cache : Cache) :
    (cache.hear event).hits = cache.hits ∧ (cache.hear event).misses = cache.misses := by
  cases event with
  | asked path => cases unasked
  | returned loan =>
      simp only [hear, giveBack]
      split <;> exact ⟨rfl, rfl⟩
  | flushed => exact ⟨rfl, rfl⟩

/-- Each question counts once, and nothing else counts. -/
theorem counts_hear (cache : Cache) (event : Event) :
    (cache.hear event).hits + (cache.hear event).misses =
      cache.hits + cache.misses + event.path?.toList.length := by
  cases asks : event.path? with
  | none =>
      rcases counts_hear_of_unasked asks cache with ⟨hits, misses⟩
      rw [hits, misses]
      rfl
  | some path =>
      cases event <;> cases asks
      have counts := cache.counts_asked path
      simp only [hear, Option.toList_some, List.length_singleton]
      split at counts <;> omega

end Cache

/-! ## Histories -/

/-- A cache and what it was told since. -/
structure History where
  start : Cache
  log : List Event := []

namespace History

/-- The cache after so many events. -/
def after (h : History) (time : Nat) : Cache :=
  (h.log.take time).foldl Cache.hear h.start

/-- The cache after all events. -/
def last (h : History) : Cache :=
  h.log.foldl Cache.hear h.start

def tell (events : List Event) (h : History) : History :=
  { h with log := h.log ++ events }

variable {h : History}

theorem after_length (h : History) : h.after h.log.length = h.last := by
  rw [after, List.take_length, last]

theorem after_succ {time : Nat} {event : Event} (happened : h.log[time]? = some event) :
    h.after (time + 1) = (h.after time).hear event := by
  rw [after, List.take_add_one, happened, List.foldl_append, ← after]
  rfl

theorem maxHandles_after (h : History) (time : Nat) :
    (h.after time).maxHandles = h.start.maxHandles := by
  unfold after
  generalize h.log.take time = events
  induction events using List.reverseRecOn with
  | nil => rfl
  | append_singleton events event ih =>
      rw [List.foldl_append, List.foldl_cons, List.foldl_nil, Cache.maxHandles_hear, ih]

/-- Every question is a hit or a miss. -/
theorem counts_last (h : History) :
    h.last.hits + h.last.misses =
      h.start.hits + h.start.misses + (h.log.filterMap Event.path?).length := by
  unfold last
  generalize h.log = events
  induction events using List.reverseRecOn with
  | nil => rfl
  | append_singleton events event ih =>
      rw [List.foldl_append, List.foldl_cons, List.foldl_nil, Cache.counts_hear, ih,
        List.filterMap_append, List.length_append, Nat.add_assoc]
      cases found : event.path? <;> simp [found]

theorem tell_nil (h : History) : h.tell [] = h := by
  rw [tell, List.append_nil]

theorem tell_tell (h : History) (events more : List Event) :
    (h.tell events).tell more = h.tell (events ++ more) := by
  simp only [tell, List.append_assoc]

theorem last_tell (h : History) (events : List Event) :
    (h.tell events).last = events.foldl Cache.hear h.last :=
  List.foldl_append

theorem after_tell (events : List Event) {time : Nat} (past : time ≤ h.log.length) :
    (h.tell events).after time = h.after time := by
  rw [after, tell, List.take_append_of_le_length past, after]

/-- What happened before one more event, and that event. -/
theorem getElem?_tell_eq_some_iff {event other : Event} {time : Nat} :
    (h.tell [event]).log[time]? = some other ↔
      h.log[time]? = some other ∨ time = h.log.length ∧ other = event := by
  change (h.log ++ [event])[time]? = _ ↔ _
  rcases Nat.lt_trichotomy time h.log.length with before | rfl | beyond
  · rw [List.getElem?_append_left before]
    exact ⟨Or.inl, fun either => either.resolve_right fun now => Nat.ne_of_lt before now.1⟩
  · simp [eq_comm]
  · have past : h.log[time]? = none := List.getElem?_eq_none (Nat.le_of_lt beyond)
    have pastAll : (h.log ++ [event])[time]? = none :=
      List.getElem?_eq_none (by rw [List.length_append]; exact beyond)
    rw [pastAll, past]
    simp [Nat.ne_of_gt beyond]

/-- No handle comes back while it is kept. -/
def Orderly (h : History) : Prop :=
  ∀ time loan, h.log[time]? = some (.returned loan) → ¬ (h.after time).Keeps loan.handle.number

/-- When a handle comes back at that time, another one is kept no longer. -/
def Expels (h : History) (time number : Nat) : Prop :=
  (∃ loan, h.log[time]? = some (.returned loan)) ∧
    (h.after time).Keeps number ∧ ¬ (h.after (time + 1)).Keeps number

/-- The handle had to make place for another one. -/
def Expelled (h : History) (number : Nat) : Prop :=
  ∃ time, h.Expels time number

theorem orderly_tell_iff {event : Event} :
    (h.tell [event]).Orderly ↔
      h.Orderly ∧ ∀ loan, event = .returned loan → ¬ h.last.Keeps loan.handle.number := by
  constructor
  · intro orderly
    constructor
    · intro time loan happened
      have before : time < h.log.length := (List.getElem?_eq_some_iff.mp happened).1
      rw [← after_tell [event] (Nat.le_of_lt before)]
      exact orderly time loan (getElem?_tell_eq_some_iff.mpr (Or.inl happened))
    · rintro loan rfl
      rw [← after_length, ← after_tell _ (Nat.le_refl _)]
      exact orderly _ loan (getElem?_tell_eq_some_iff.mpr (Or.inr ⟨rfl, rfl⟩))
  · rintro ⟨orderly, now⟩ time loan happened
    rcases getElem?_tell_eq_some_iff.mp happened with before | ⟨rfl, same⟩
    · have past : time < h.log.length := (List.getElem?_eq_some_iff.mp before).1
      rw [after_tell _ (Nat.le_of_lt past)]
      exact orderly time loan before
    · rw [after_tell _ (Nat.le_refl _), after_length]
      exact now loan same.symm

theorem expelled_tell_iff {event : Event} {number : Nat} :
    (h.tell [event]).Expelled number ↔
      h.Expelled number ∨ (∃ loan, event = .returned loan) ∧
        h.last.Keeps number ∧ ¬ (h.last.hear event).Keeps number := by
  have now : (h.tell [event]).after (h.log.length + 1) = h.last.hear event := by
    rw [after_succ (getElem?_tell_eq_some_iff.mpr (Or.inr ⟨rfl, rfl⟩)),
      after_tell _ (Nat.le_refl _), after_length]
  constructor
  · rintro ⟨time, ⟨loan, happened⟩, kept, gone⟩
    rcases getElem?_tell_eq_some_iff.mp happened with before | ⟨rfl, same⟩
    · have past : time < h.log.length := (List.getElem?_eq_some_iff.mp before).1
      rw [after_tell _ (Nat.le_of_lt past)] at kept
      rw [after_tell _ past] at gone
      exact Or.inl ⟨time, ⟨loan, before⟩, kept, gone⟩
    · rw [after_tell _ (Nat.le_refl _), after_length] at kept
      rw [now] at gone
      exact Or.inr ⟨⟨loan, same.symm⟩, kept, gone⟩
  · rintro (⟨time, ⟨loan, before⟩, kept, gone⟩ | ⟨⟨loan, rfl⟩, kept, gone⟩)
    · have past : time < h.log.length := (List.getElem?_eq_some_iff.mp before).1
      refine ⟨time, ⟨loan, getElem?_tell_eq_some_iff.mpr (Or.inl before)⟩, ?_, ?_⟩
      · rwa [after_tell _ (Nat.le_of_lt past)]
      · rwa [after_tell _ past]
    · refine ⟨h.log.length, ⟨loan, getElem?_tell_eq_some_iff.mpr (Or.inr ⟨rfl, rfl⟩)⟩, ?_, ?_⟩
      · rwa [after_tell _ (Nat.le_refl _), after_length]
      · rwa [now]

open Classical in
/-- How many places there are for a handle: one, and none after it was expelled. -/
noncomputable def places (h : History) (number : Nat) : Nat :=
  if h.Expelled number then 0 else 1

theorem places_start (start : Cache) : (History.mk start []).places = fun _ => 1 := by
  funext number
  refine if_neg ?_
  rintro ⟨time, ⟨loan, happened⟩, -⟩
  cases happened

theorem places_le_one (h : History) (number : Nat) : h.places number ≤ 1 := by
  unfold places
  split
  · exact Nat.zero_le 1
  · exact Nat.le_refl 1

theorem places_eq_zero {number : Nat} (expelled : h.Expelled number) : h.places number = 0 :=
  if_pos expelled

/-- An event that expels no handle leaves the places as they were. -/
theorem places_tell {event : Event} {number : Nat}
    (stays : (∃ loan, event = .returned loan) → h.last.Keeps number →
      (h.last.hear event).Keeps number) :
    (h.tell [event]).places number = h.places number := by
  have same : (h.tell [event]).Expelled number ↔ h.Expelled number := by
    rw [expelled_tell_iff, or_iff_left_iff_imp]
    rintro ⟨returned, kept, gone⟩
    exact absurd (stays returned kept) gone
  unfold places
  split_ifs with now before before
  · rfl
  · exact absurd (same.mp now) before
  · exact absurd (same.mpr before) now
  · rfl

variable {event : Event}

theorem places_tell_of_unreturned (unreturned : event.loan? = none) :
    (h.tell [event]).places = h.places := by
  funext number
  apply places_tell
  rintro ⟨loan, rfl⟩
  cases unreturned

theorem Orderly.tell_of_unreturned (orderly : h.Orderly) (unreturned : event.loan? = none) :
    (h.tell [event]).Orderly := by
  apply orderly_tell_iff.mpr
  refine ⟨orderly, ?_⟩
  rintro loan rfl
  cases unreturned

end History

/-! ## Sessions -/

namespace Session

/-- What an operation tells the cache, in order. What was in a slot comes back only after the path
was asked for, and only if something is put in its place. -/
def told (operation : Operation) (s : Session) : List Event :=
  match operation with
  | .borrow slot path =>
      match (s.borrow path).1 with
      | .ok _ => .asked path :: ((s.loan? slot).map Event.returned).toList
      | .error _ => [.asked path]
  | .touch path limit =>
      match s.borrow path with
      | (.ok loan, next) => [.asked path, .returned (next.readLoan loan limit).2.1]
      | (.error _, _) => [.asked path]
  | .giveBack slot => ((s.loan? slot).map Event.returned).toList
  | .flush => [.flushed]
  | _ => []

/-- What operations tell the cache, in order. -/
def log : List Operation → Session → List Event
  | [], _ => []
  | operation :: rest, s => s.told operation ++ log rest (s.perform operation).2

def history (operations : List Operation) (s : Session) : History :=
  ⟨s.cache, log operations s⟩

/-- Only who asks for a path makes the cache hear of it, and makes it hear of it once. -/
theorem filterMap_path?_told (operation : Operation) (s : Session) :
    (s.told operation).filterMap Event.path? = (asked? operation).toList := by
  cases operation with
  | borrow slot path =>
      simp only [told]
      split
      · cases s.loan? slot <;> rfl
      · rfl
  | touch path limit =>
      simp only [told]
      split <;> rfl
  | giveBack slot =>
      simp only [told]
      cases s.loan? slot <;> rfl
  | read | seek | length | flush | write | unlink => rfl

theorem filterMap_path?_log (operations : List Operation) (s : Session) :
    (log operations s).filterMap Event.path? = operations.filterMap asked? := by
  induction operations generalizing s with
  | nil => rfl
  | cons operation rest ih =>
      rw [log, List.filterMap_append, filterMap_path?_told, ih, List.filterMap_cons]
      cases asked? operation <;> rfl

theorem kept_eq_zero_iff {number : Nat} {s : Session} :
    s.kept number = 0 ↔ ¬ s.cache.Keeps number := by
  rw [kept, List.countP_eq_zero]
  simp [Cache.Keeps]

theorem cache_borrow (path : String) (s : Session) :
    (s.borrow path).2.cache = s.cache.asked path := by
  rw [← Cache.snd_lend s.files path s.opened]
  unfold borrow
  split <;> next answer => rw [answer]

theorem snd_perform_giveBack (slot : String) (s : Session) :
    (s.perform (.giveBack slot)).2 = s.giveBack slot := by
  simp only [perform, giveBack]
  split <;> rfl

/-- A session, with the loans in hand, whose cache has heard a history. -/
structure Follows (maxHandles : UInt64) (made : List Opening) (h : History) (hand : List Loan)
    (s : Session) : Prop where
  custody : Custody maxHandles h.places made hand s
  heard : s.cache = h.last
  orderly : h.Orderly

namespace Follows

variable {maxHandles : UInt64} {made : List Opening} {h : History} {hand : List Loan}
  {s next : Session}

theorem start (files : Files.Tree) (maxHandles : UInt64) (threadSafe : Bool)
    (arena : Memory.Arena) :
    Follows maxHandles [] ⟨(unused files maxHandles threadSafe arena).cache, []⟩ []
      (unused files maxHandles threadSafe arena) where
  custody := by
    rw [History.places_start]
    exact Custody.start files maxHandles threadSafe arena
  heard := rfl
  orderly := by
    rintro time loan ⟨⟩

/-- What the cache does not hear of. -/
theorem quietly (follows : Follows maxHandles made h hand s) {rest : List Loan}
    (custody : Custody maxHandles h.places made rest next) (same : next.cache = s.cache) :
    Follows maxHandles made h rest next where
  custody := custody
  heard := same.trans follows.heard
  orderly := follows.orderly

theorem asked (follows : Follows maxHandles made h [] s) (path : String) :
    Follows maxHandles (made ++ (s.opening? path).toList) (h.tell [.asked path])
      (s.borrow path).1.toOption.toList (s.borrow path).2 where
  custody := by
    rw [History.places_tell_of_unreturned rfl]
    exact follows.custody.borrow path
  heard := by
    rw [cache_borrow, follows.heard, History.last_tell]
    rfl
  orderly := follows.orderly.tell_of_unreturned rfl

/-- A handle in hand is not kept. -/
theorem not_keeps {loan : Loan} (follows : Follows maxHandles made h (loan :: hand) s) :
    ¬ s.cache.Keeps loan.handle.number := by
  have once := follows.custody.once loan.handle.number
  have place := h.places_le_one loan.handle.number
  rw [countP_handles, List.countP_cons_of_pos (by simp)] at once
  rw [← kept_eq_zero_iff]
  omega

/-- A handle that is expelled was kept, so it is nowhere else. -/
theorem returned {loan : Loan} (follows : Follows maxHandles made h (loan :: hand) s) :
    Follows maxHandles made (h.tell [.returned loan]) hand
      { s with cache := s.cache.giveBack loan } := by
  have kept := follows.custody.keep
  have heard : s.cache.giveBack loan = (h.tell [.returned loan]).last := by
    rw [History.last_tell, ← follows.heard]
    rfl
  have places (number : Nat) :
      (h.tell [.returned loan]).places number = h.places number ∨
        s.cache.Keeps number ∧ ¬ (s.cache.giveBack loan).Keeps number := by
    by_cases stays : s.cache.Keeps number → (s.cache.giveBack loan).Keeps number
    · refine Or.inl (History.places_tell fun _ => ?_)
      rw [← follows.heard]
      exact stays
    · exact Or.inr (Classical.not_imp.mp stays)
  refine ⟨{ kept with once := ?_, room := ?_ }, heard, ?_⟩
  · intro number
    rcases places number with same | ⟨before, gone⟩
    · exact same ▸ kept.once number
    · have once := follows.custody.once number
      have place := h.places_le_one number
      have present : s.kept number ≠ 0 := mt kept_eq_zero_iff.mp (not_not.mpr before)
      have absent : ({ s with cache := s.cache.giveBack loan } : Session).kept number = 0 :=
        kept_eq_zero_iff.mpr gone
      rw [countP_handles, List.countP_cons] at once
      rw [countP_handles, absent]
      change _ + (s.lent number + 0) ≤ _
      omega
  · intro number later
    rcases places number with same | ⟨before, -⟩
    · exact same ▸ kept.room number later
    · have unused := follows.custody.countP_eq_zero later
      rw [countP_handles] at unused
      exact absurd before (kept_eq_zero_iff.mp (by omega))
  · refine History.orderly_tell_iff.mpr ⟨follows.orderly, ?_⟩
    rintro loan ⟨⟩
    rw [← follows.heard]
    exact follows.not_keeps

/-- What is in a slot is handed back, whatever else is in hand. -/
theorem giveBack (follows : Follows maxHandles made h hand s) (slot : String) :
    Follows maxHandles made (h.tell ((s.loan? slot).map Event.returned).toList) hand
      (s.giveBack slot) := by
  unfold Session.giveBack
  cases found : s.loan? slot with
  | none =>
      rw [Option.map_none, Option.toList_none, History.tell_nil]
      exact follows
  | some loan =>
      have inHand := follows.quietly (follows.custody.take found) rfl
      exact inHand.returned

theorem flushed (follows : Follows maxHandles made h [] s) :
    Follows maxHandles made (h.tell [.flushed]) [] (s.perform .flush).2 where
  custody := by
    rw [History.places_tell_of_unreturned rfl]
    exact follows.custody.perform_of_unasked rfl
  heard := by
    rw [History.last_tell, ← follows.heard]
    rfl
  orderly := follows.orderly.tell_of_unreturned rfl

theorem perform (follows : Follows maxHandles made h [] s) (operation : Operation) :
    Follows maxHandles (made ++ (s.opened? operation).toList) (h.tell (s.told operation)) []
      (s.perform operation).2 := by
  have quiet (silent : s.told operation = []) (unasked : asked? operation = none)
      (same : (s.perform operation).2.cache = s.cache) :
      Follows maxHandles (made ++ (s.opened? operation).toList) (h.tell (s.told operation)) []
        (s.perform operation).2 := by
    have none : s.opened? operation = none := by
      rw [opened?, unasked]
      rfl
    rw [silent, none, History.tell_nil, Option.toList_none, List.append_nil]
    exact follows.quietly (follows.custody.perform_of_unasked unasked) same
  cases operation with
  | borrow slot path =>
      have asked := follows.asked path
      change Follows maxHandles (made ++ (s.opening? path).toList) _ [] _
      have borrowed : s.borrow path = ((s.borrow path).1, (s.borrow path).2) := rfl
      have loans : (s.borrow path).2.loan? slot = s.loan? slot :=
        congrArg (List.lookup slot) (loans_of_borrow borrowed)
      simp only [Session.perform, told]
      generalize s.borrow path = answer at asked loans ⊢
      rcases answer with ⟨error | loan, next⟩
      · exact asked
      · have returned := asked.giveBack slot
        rw [History.tell_tell] at returned
        change Follows maxHandles _ (h.tell ([.asked path] ++ _)) [] _
        rw [← loans]
        exact returned.quietly ((returned.custody.vacate slot).put returned.custody.slots) rfl
  | touch path limit =>
      have asked := follows.asked path
      change Follows maxHandles (made ++ (s.opening? path).toList) _ [] _
      simp only [Session.perform, told]
      generalize s.borrow path = answer at asked ⊢
      rcases answer with ⟨error | loan, next⟩
      · exact asked
      · rcases readLoan_eq loan limit next with ⟨outcome, read⟩
        rcases read_same_handle next.files loan.handle limit with ⟨number, node⟩
        simp only [read]
        have inHand := Custody.use asked.custody
          { loan with handle := (loan.handle.read next.files limit).2.1 } number node
          (samePath_self _)
        have used := inHand.files (loan.handle.read next.files limit).2.2
        have returned := (asked.quietly used rfl).returned
        rw [History.tell_tell] at returned
        exact returned
  | read slot limit =>
      apply quiet rfl rfl
      simp only [Session.perform]
      split
      · next loan found =>
          rcases readLoan_eq loan limit s with ⟨outcome, read⟩
          rw [read]
      · rfl
  | seek slot position =>
      apply quiet rfl rfl
      simp only [Session.perform]
      split
      · split <;> rfl
      · rfl
  | length slot =>
      apply quiet rfl rfl
      simp only [Session.perform]
      split <;> rfl
  | giveBack slot =>
      have returned := follows.giveBack slot
      rw [snd_perform_giveBack]
      change Follows maxHandles (made ++ []) _ [] _
      rw [List.append_nil]
      exact returned
  | flush =>
      change Follows maxHandles (made ++ []) _ [] _
      rw [List.append_nil]
      exact follows.flushed
  | write path content | unlink path => exact quiet rfl rfl rfl

theorem run (follows : Follows maxHandles made h [] s) (operations : List Operation) :
    Follows maxHandles (made ++ openings operations s) (h.tell (log operations s)) []
      (Session.run operations s).2 := by
  induction operations generalizing s made h with
  | nil =>
      rw [openings, log, List.append_nil, History.tell_nil]
      exact follows
  | cons operation rest ih =>
      rw [openings, log, ← List.append_assoc, ← History.tell_tell]
      exact ih (follows.perform operation)

end Follows

end Session

end CacheDepot.Handles
