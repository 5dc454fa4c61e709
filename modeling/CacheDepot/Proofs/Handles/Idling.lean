import CacheDepot.Proofs.Handles.History
import Mathlib.Data.Set.Card

/-!
# How long a handle is kept

A handle that comes back is kept until the first of three things: somebody asks for its
path, and no handle of that path came back later and is kept still; everything is
closed; or as many handles as are allowed came back later and are all kept. The last one
closes the handle, and no other. So the handles kept are those that came back and met
none of the three, in the order in which they came back.
-/

namespace CacheDepot.Handles

namespace History

open scoped List

variable {h : History} {time now : Nat} {times : List Nat}

/-- The loan that came back at that time. -/
def returned? (h : History) (time : Nat) : Option Loan :=
  h.log[time]?.bind Event.loan?

theorem returned?_eq_some_iff {loan : Loan} :
    h.returned? time = some loan ↔ h.log[time]? = some (.returned loan) := by
  unfold returned?
  rcases h.log[time]? with - | event
  · simp
  · cases event <;> simp [Event.loan?]

/-- The handle that came back at `time` has been kept until now. -/
def Rests (h : History) (time now : Nat) : Prop :=
  time < now ∧ ∃ loan, h.log[time]? = some (.returned loan) ∧
    ∀ moment, time < moment → moment ≤ now → (h.after moment).Keeps loan.handle.number

/-- Something happens at `now` that takes away the handle that came back at `time`. -/
inductive Leaves (h : History) (time now : Nat) : Prop
  /-- Its path is asked for, and it is the last one kept of that path. -/
  | lent {path : String} {loan : Loan} (asked : h.log[now]? = some (.asked path))
      (own : h.log[time]? = some (.returned loan)) (same : Files.samePath loan.path path)
      (latest : ∀ later other, time < later → h.Rests later now →
        h.log[later]? = some (.returned other) → ¬ Files.samePath other.path path)
  | flushed (all : h.log[now]? = some .flushed)
  /-- With the handle that comes back, as many are kept as are allowed that came back later. -/
  | expelled {loan : Loan} (returned : h.log[now]? = some (.returned loan))
      (full : {later | time < later ∧ h.Rests later (now + 1)}.ncard =
        h.start.maxHandles.toNat)

theorem leaves_iff_of_asked {path : String} (happened : h.log[now]? = some (.asked path)) :
    h.Leaves time now ↔
      ∃ loan, h.log[time]? = some (.returned loan) ∧ Files.samePath loan.path path ∧
        ∀ later other, time < later → h.Rests later now →
          h.log[later]? = some (.returned other) → ¬ Files.samePath other.path path := by
  constructor
  · rintro (⟨asked, own, same, latest⟩ | all | ⟨back, -⟩)
    · cases happened.symm.trans asked
      exact ⟨_, own, same, latest⟩
    · cases happened.symm.trans all
    · cases happened.symm.trans back
  · rintro ⟨loan, own, same, latest⟩
    exact Leaves.lent happened own same latest

theorem leaves_iff_of_returned {loan : Loan} (happened : h.log[now]? = some (.returned loan)) :
    h.Leaves time now ↔
      {later | time < later ∧ h.Rests later (now + 1)}.ncard = h.start.maxHandles.toNat := by
  constructor
  · rintro (⟨asked, -⟩ | all | ⟨-, full⟩)
    · cases happened.symm.trans asked
    · cases happened.symm.trans all
    · exact full
  · exact Leaves.expelled happened

theorem rests_succ_iff :
    h.Rests time (now + 1) ↔
      (h.Rests time now ∨ time = now) ∧ ∃ loan, h.log[time]? = some (.returned loan) ∧
        (h.after (now + 1)).Keeps loan.handle.number := by
  constructor
  · rintro ⟨before, loan, own, kept⟩
    refine ⟨?_, loan, own, kept (now + 1) before (Nat.le_refl _)⟩
    rcases Nat.eq_or_lt_of_le (Nat.le_of_lt_succ before) with same | earlier
    · exact Or.inr same
    · exact Or.inl ⟨earlier, loan, own,
        fun moment after soFar => kept moment after (Nat.le_succ_of_le soFar)⟩
  · rintro ⟨before, loan, own, here⟩
    have upTo : time ≤ now := by
      rcases before with ⟨earlier, -⟩ | rfl
      · exact Nat.le_of_lt earlier
      · exact Nat.le_refl _
    refine ⟨Nat.lt_succ_of_le upTo, loan, own, fun moment after within => ?_⟩
    rcases Nat.eq_or_lt_of_le within with rfl | earlier
    · exact here
    · rcases before with ⟨-, other, known, kept⟩ | rfl
      · cases own.symm.trans known
        exact kept moment after (Nat.le_of_lt_succ earlier)
      · omega

/-! ## The times of the handles kept -/

/-- The number of the handle that came back at that time. -/
def numberAt (h : History) (time : Nat) : Option Nat :=
  (h.returned? time).map fun loan => loan.handle.number

theorem numberAt_eq {loan : Loan} (own : h.log[time]? = some (.returned loan)) :
    h.numberAt time = some loan.handle.number := by
  rw [numberAt, returned?_eq_some_iff.mpr own]
  rfl

/-- The handles kept came back at these times, and in this order. -/
structure Pool (h : History) (now : Nat) (times : List Nat) : Prop where
  ascending : times.Pairwise (· < ·)
  rests : ∀ time, time ∈ times ↔ h.Rests time now
  kept : (h.after now).idle.map some = times.map h.returned?
  distinct : (times.map h.numberAt).Nodup
  bounded : times.length ≤ h.start.maxHandles.toNat

theorem keeps_iff (kept : (h.after now).idle.map some = times.map h.returned?) {number : Nat} :
    (h.after now).Keeps number ↔ some number ∈ times.map h.numberAt := by
  have numbers : times.map h.numberAt =
      ((h.after now).idle.map some).map (Option.map fun loan => loan.handle.number) := by
    rw [kept, List.map_map]
    rfl
  rw [numbers]
  simp [Cache.Keeps]

/-- The time of an event, if a handle comes back with it. -/
def arrivals (event : Event) (now : Nat) : List Nat :=
  (event.loan?.map fun _ => now).toList

theorem mem_arrivals_iff {event : Event} :
    time ∈ arrivals event now ↔ time = now ∧ ∃ loan, event = .returned loan := by
  cases event <;> simp [arrivals, Event.loan?]

/-- The history of a cache that may keep handles, from the time when it kept none. -/
structure Sound (h : History) : Prop where
  empty : h.start.idle = []
  allowed : 0 < h.start.maxHandles.toNat
  orderly : h.Orderly

namespace Pool

theorem start (sound : h.Sound) : h.Pool 0 [] where
  ascending := List.Pairwise.nil
  rests time := by
    refine iff_of_false List.not_mem_nil ?_
    rintro ⟨before, -⟩
    exact Nat.not_lt_zero time before
  kept := congrArg (List.map some) sound.empty
  distinct := List.nodup_nil
  bounded := Nat.zero_le _

theorem lt (pool : h.Pool now times) {time : Nat} (timeMem : time ∈ times) : time < now :=
  ((pool.rests time).mp timeMem).1

theorem length_idle (pool : h.Pool now times) : (h.after now).idle.length = times.length := by
  simpa using congrArg List.length pool.kept

theorem mem_idle (pool : h.Pool now times) {time : Nat} (timeMem : time ∈ times) {loan : Loan}
    (own : h.log[time]? = some (.returned loan)) : loan ∈ (h.after now).idle := by
  have listed : some loan ∈ (h.after now).idle.map some :=
    pool.kept ▸ List.mem_map.mpr ⟨time, timeMem, returned?_eq_some_iff.mpr own⟩
  simpa using listed

/-- A handle that comes back is none of those kept, so that all numbers stay different. -/
theorem distinct_append (pool : h.Pool now times) (sound : h.Sound) {event : Event}
    (happened : h.log[now]? = some event) :
    ((times ++ arrivals event now).map h.numberAt).Nodup := by
  unfold arrivals
  cases returned : event.loan? with
  | none => simpa using pool.distinct
  | some loan =>
      have own : h.log[now]? = some (.returned loan) := by
        cases event <;> cases returned
        exact happened
      rw [Option.map_some, Option.toList_some, List.map_append, List.map_singleton]
      refine List.Nodup.append pool.distinct (List.nodup_singleton _) ?_
      rw [List.disjoint_singleton, numberAt_eq own]
      exact mt (keeps_iff pool.kept).mpr (sound.orderly now loan own)

theorem ascending_append (pool : h.Pool now times) (event : Event) :
    (times ++ arrivals event now).Pairwise (· < ·) := by
  refine List.pairwise_append.mpr ⟨pool.ascending, ?_, ?_⟩
  · unfold arrivals
    cases event.loan? <;> simp
  · intro time timeMem later laterMem
    rw [(mem_arrivals_iff.mp laterMem).1]
    exact pool.lt timeMem

/-- The handles kept after an event are some of those kept before it and of the one that came back
with it. Only which of them these are has to be told apart by the kind of event. -/
theorem step (pool : h.Pool now times) (sound : h.Sound) {event : Event}
    (happened : h.log[now]? = some event) {next : List Nat}
    (fewer : next <+ times ++ arrivals event now)
    (kept : (h.after (now + 1)).idle.map some = next.map h.returned?)
    (bounded : next.length ≤ h.start.maxHandles.toNat) : h.Pool (now + 1) next := by
  have apart := pool.distinct_append sound happened
  have ascending := (pool.ascending_append event).sublist fewer
  refine ⟨ascending, fun time => ?_, kept, apart.sublist (fewer.map _), bounded⟩
  rw [rests_succ_iff]
  constructor
  · intro timeMem
    have listed : h.returned? time ∈ (h.after (now + 1)).idle.map some :=
      kept ▸ List.mem_map_of_mem timeMem
    rcases List.mem_map.mp listed with ⟨loan, loanMem, own⟩
    refine ⟨?_, loan, returned?_eq_some_iff.mp own.symm, loan, loanMem, rfl⟩
    rcases List.mem_append.mp (fewer.subset timeMem) with before | new
    · exact Or.inl ((pool.rests time).mp before)
    · exact Or.inr (mem_arrivals_iff.mp new).1
  · rintro ⟨before, loan, own, keeps⟩
    have timeMem : time ∈ times ++ arrivals event now := by
      refine List.mem_append.mpr (before.imp (pool.rests time).mpr ?_)
      rintro rfl
      cases happened.symm.trans own
      exact mem_arrivals_iff.mpr ⟨rfl, loan, rfl⟩
    -- A handle of that number is kept, and no other of these times has the number.
    rcases List.mem_map.mp ((keeps_iff kept).mp keeps) with ⟨other, otherMem, number⟩
    cases List.inj_on_of_nodup_map apart (fewer.subset otherMem) timeMem
      (number.trans (numberAt_eq own).symm)
    exact otherMem

theorem flushed (pool : h.Pool now times) (sound : h.Sound)
    (happened : h.log[now]? = some .flushed) : h.Pool (now + 1) [] := by
  refine pool.step sound happened (List.nil_sublist _) ?_ (Nat.zero_le _)
  rw [after_succ happened]
  rfl

/-- A question for a path of which none is kept takes nothing. -/
theorem missed (pool : h.Pool now times) (sound : h.Sound) {path : String}
    (happened : h.log[now]? = some (.asked path))
    (absent : takeLast? path (h.after now).idle = none) : h.Pool (now + 1) times := by
  refine pool.step sound happened (List.sublist_append_left _ _) ?_ pool.bounded
  rw [after_succ happened, ← pool.kept]
  simp only [Cache.hear, Cache.asked, absent]

/-- A question takes the handle that came back last of those of its path. -/
theorem hit (pool : h.Pool now times) (sound : h.Sound) {path : String}
    (happened : h.log[now]? = some (.asked path)) {handle : Files.Handle} {others : List Loan}
    (found : takeLast? path (h.after now).idle = some (handle, others)) :
    ∃ (before : List Nat) (time : Nat) (behind : List Nat) (loan : Loan),
      times = before ++ time :: behind ∧ h.Pool (now + 1) (before ++ behind) ∧
      h.log[time]? = some (.returned loan) ∧ Files.samePath loan.path path ∧
      ∀ later ∈ behind, ∀ other, h.log[later]? = some (.returned other) →
        ¬ Files.samePath other.path path := by
  rcases takeLast?_eq_some_split found with ⟨front, loan, rest, idle, rfl, -, same, latest⟩
  have kept := pool.kept
  rw [idle, List.map_append, List.map_cons, eq_comm, List.map_eq_append_iff] at kept
  rcases kept with ⟨before, tail, rfl, beforeKept, tailKept⟩
  rcases List.map_eq_cons_iff.mp tailKept with ⟨time, behind, rfl, own, behindKept⟩
  have fewer : before ++ behind <+ before ++ time :: behind :=
    (List.sublist_cons_self time behind).append_left before
  refine ⟨before, time, behind, loan, rfl, ?_, returned?_eq_some_iff.mp own, same, ?_⟩
  · refine pool.step sound happened (fewer.trans (List.sublist_append_left _ _)) ?_
      (Nat.le_trans fewer.length_le pool.bounded)
    rw [after_succ happened]
    simp only [Cache.hear, Cache.asked, found, List.map_append, beforeKept, behindKept]
  · intro later laterMem other otherOwn
    have listed : some other ∈ rest.map some := by
      rw [← behindKept]
      exact List.mem_map.mpr ⟨later, laterMem, returned?_eq_some_iff.mpr otherOwn⟩
    exact latest other (by simpa using listed)

/-- A handle that comes back is kept behind the others. If there was no place for it, the one in
front makes place. -/
theorem returned (pool : h.Pool now times) (sound : h.Sound) {loan : Loan}
    (happened : h.log[now]? = some (.returned loan)) :
    h.Pool (now + 1) (times ++ [now]) ∨
      ∃ first rest, times = first :: rest ∧ rest.length + 1 = h.start.maxHandles.toNat ∧
        h.Pool (now + 1) (rest ++ [now]) := by
  have next : h.Pool (now + 1)
      ((times ++ [now]).drop (times.length + 1 - h.start.maxHandles.toNat)) := by
    refine pool.step sound happened (List.drop_sublist _ _) ?_ ?_
    · have keeping : (h.after now).maxHandles ≠ 0 := by
        rw [maxHandles_after]
        intro nothing
        have allowed := sound.allowed
        rw [nothing] at allowed
        exact Nat.lt_irrefl 0 allowed
      have own : h.returned? now = some loan := returned?_eq_some_iff.mpr happened
      rw [after_succ happened, Cache.hear, Cache.giveBack, if_neg keeping, List.map_drop,
        List.map_drop, List.map_append, List.map_append, pool.kept, List.length_append,
        pool.length_idle, maxHandles_after, List.map_singleton, List.map_singleton, own,
        List.length_singleton]
    · rw [List.length_drop, List.length_append, List.length_singleton]
      omega
  -- No more were kept than allowed, so one at most is too many now.
  rcases Nat.lt_or_eq_of_le pool.bounded with few | full
  · rw [Nat.sub_eq_zero_of_le few, List.drop_zero] at next
    exact Or.inl next
  · rw [← full, Nat.add_sub_cancel_left] at next
    have allowed := sound.allowed
    rcases times with - | ⟨first, rest⟩
    · exact absurd allowed (full ▸ Nat.lt_irrefl 0)
    · exact Or.inr ⟨first, rest, rfl, full, next⟩

end Pool

/-- At any time the handles kept came back at some times. -/
theorem exists_pool (sound : h.Sound) (now : Nat) (past : now ≤ h.log.length) :
    ∃ times, h.Pool now times := by
  induction now with
  | zero => exact ⟨[], Pool.start sound⟩
  | succ now ih =>
      rcases ih (Nat.le_of_succ_le past) with ⟨times, pool⟩
      have happened : h.log[now]? = some h.log[now] := List.getElem?_eq_getElem past
      generalize h.log[now] = event at happened
      cases event with
      | asked path =>
          cases found : takeLast? path (h.after now).idle with
          | none => exact ⟨times, pool.missed sound happened found⟩
          | some taken =>
              rcases pool.hit sound happened found with ⟨before, time, behind, loan, -, next, -⟩
              exact ⟨_, next⟩
      | returned loan =>
          rcases pool.returned sound happened with next | ⟨first, rest, -, -, next⟩
          · exact ⟨_, next⟩
          · exact ⟨_, next⟩
      | flushed => exact ⟨[], pool.flushed sound happened⟩

/-! ## Leaving -/

namespace Pool

theorem ncard_later (pool : h.Pool now times) (time : Nat) :
    {later | time < later ∧ h.Rests later now}.ncard = times.countP (time < ·) := by
  have distinct : times.Nodup := pool.ascending.imp Nat.ne_of_lt
  have same : {later | time < later ∧ h.Rests later now} =
      ((times.filter (time < ·)).toFinset : Set Nat) := by
    ext later
    simp [pool.rests, and_comm]
  rw [same, Set.ncard_coe_finset, List.toFinset_card_of_nodup (distinct.filter _),
    List.countP_eq_length_filter]

/-- Fewer handles came back later than one that is kept than are kept. -/
theorem countP_later_lt {time : Nat} (timeMem : time ∈ times) :
    times.countP (time < ·) < times.length :=
  List.countP_lt_length_iff.mpr ⟨time, timeMem, by simp⟩

/-- Of the handles kept, the one that leaves is the last one of the path. -/
theorem leaves_iff_eq_taken {before behind : List Nat} {taken : Nat}
    (pool : h.Pool now (before ++ taken :: behind)) {path : String} {loan : Loan}
    (happened : h.log[now]? = some (.asked path)) (own : h.log[taken]? = some (.returned loan))
    (same : Files.samePath loan.path path)
    (latest : ∀ later ∈ behind, ∀ other, h.log[later]? = some (.returned other) →
      ¬ Files.samePath other.path path)
    (timeMem : time ∈ before ++ taken :: behind) : h.Leaves time now ↔ time = taken := by
  rcases List.pairwise_append.mp pool.ascending with ⟨-, -, across⟩
  rw [leaves_iff_of_asked happened]
  constructor
  · rintro ⟨loan, timeOwn, timeSame, timeLatest⟩
    rcases List.mem_append.mp timeMem with early | onward
    · have rests := (pool.rests taken).mp (List.mem_append_right before List.mem_cons_self)
      have order := across time early taken List.mem_cons_self
      exact absurd same (timeLatest taken _ order rests own)
    · rcases List.mem_cons.mp onward with here | late
      · exact here
      · exact absurd timeSame (latest time late loan timeOwn)
  · rintro rfl
    refine ⟨loan, own, same, fun later other after rests => latest later ?_ other⟩
    rcases List.mem_append.mp ((pool.rests later).mpr rests) with early | onward
    · have order := across later early time List.mem_cons_self
      exact absurd order (Nat.lt_asymm after)
    · exact (List.mem_cons.mp onward).resolve_left (Nat.ne_of_gt after)

/-- Whoever asks for a path takes away the last handle of it, and only that one. -/
theorem rests_succ_iff_of_hit (pool : h.Pool now times) (sound : h.Sound) {path : String}
    (happened : h.log[now]? = some (.asked path)) {handle : Files.Handle} {others : List Loan}
    (found : takeLast? path (h.after now).idle = some (handle, others)) {time : Nat}
    (timeMem : time ∈ times) : h.Rests time (now + 1) ↔ ¬ h.Leaves time now := by
  rcases pool.hit sound happened found with
    ⟨before, taken, behind, loan, rfl, next, own, same, latest⟩
  rw [← next.rests, pool.leaves_iff_eq_taken happened own same latest timeMem]
  rcases List.pairwise_append.mp pool.ascending with ⟨-, onward, across⟩
  constructor
  · rintro kept rfl
    rcases List.mem_append.mp kept with early | late
    · exact Nat.lt_irrefl _ (across time early time List.mem_cons_self)
    · exact Nat.lt_irrefl _ ((List.pairwise_cons.mp onward).1 time late)
  · intro different
    simpa [different] using timeMem

/-- Whoever comes back when all places are taken closes the handle that came back first. -/
theorem rests_succ_iff_of_returned (pool : h.Pool now times) (sound : h.Sound) {loan : Loan}
    (happened : h.log[now]? = some (.returned loan)) {time : Nat} (timeMem : time ∈ times) :
    h.Rests time (now + 1) ↔ ¬ h.Leaves time now := by
  have stays {next : List Nat} (nextPool : h.Pool (now + 1) next) (kept : time ∈ next) :
      h.Rests time (now + 1) ↔ ¬ h.Leaves time now := by
    refine iff_of_true ((nextPool.rests time).mp kept) ?_
    rw [leaves_iff_of_returned happened, nextPool.ncard_later]
    exact Nat.ne_of_lt (Nat.lt_of_lt_of_le (countP_later_lt kept) nextPool.bounded)
  rcases pool.returned sound happened with next | ⟨first, rest, rfl, full, next⟩
  · exact stays next (List.mem_append_left [now] timeMem)
  · rcases List.mem_cons.mp timeMem with rfl | later
    · have after : ∀ other ∈ rest ++ [now], time < other := by
        intro other otherMem
        rcases List.mem_append.mp otherMem with behind | last
        · exact (List.pairwise_cons.mp pool.ascending).1 other behind
        · exact List.mem_singleton.mp last ▸ pool.lt timeMem
      refine iff_of_false (fun rests => ?_) (not_not.mpr ?_)
      · exact Nat.lt_irrefl time (after time ((next.rests time).mpr rests))
      · rw [leaves_iff_of_returned happened, next.ncard_later, ← full,
          List.countP_eq_length.mpr]
        · exact List.length_append
        · exact fun other otherMem => decide_eq_true (after other otherMem)
    · exact stays next (List.mem_append_left [now] later)

/-- A handle that comes back closes one handle at most. -/
theorem rests_of_other_gone (pool : h.Pool now times) (sound : h.Sound) {loan : Loan}
    (happened : h.log[now]? = some (.returned loan)) {time other : Nat} (timeMem : time ∈ times)
    (otherMem : other ∈ times) (gone : ¬ h.Rests time (now + 1)) (different : other ≠ time) :
    h.Rests other (now + 1) := by
  rcases pool.returned sound happened with next | ⟨first, rest, rfl, -, next⟩
  · exact (next.rests other).mp (List.mem_append_left [now] otherMem)
  · have isFirst : time = first := by
      refine (List.mem_cons.mp timeMem).resolve_right fun later => ?_
      exact gone ((next.rests time).mp (List.mem_append_left [now] later))
    have later := (List.mem_cons.mp otherMem).resolve_left (isFirst ▸ different)
    exact (next.rests other).mp (List.mem_append_left [now] later)

/-- A handle that is kept leaves with an event or is kept after it. -/
theorem rests_succ_iff_not_leaves (pool : h.Pool now times) (sound : h.Sound) {event : Event}
    (happened : h.log[now]? = some event) {time : Nat} (timeMem : time ∈ times) :
    h.Rests time (now + 1) ↔ ¬ h.Leaves time now := by
  cases event with
  | asked path =>
      cases found : takeLast? path (h.after now).idle with
      | some taken => exact pool.rests_succ_iff_of_hit sound happened found timeMem
      | none =>
          have next := pool.missed sound happened found
          refine iff_of_true ((next.rests time).mp timeMem) ?_
          rw [leaves_iff_of_asked happened]
          rintro ⟨loan, own, same, -⟩
          exact takeLast?_eq_none.mp found loan (pool.mem_idle timeMem own) same
  | returned loan => exact pool.rests_succ_iff_of_returned sound happened timeMem
  | flushed =>
      have next := pool.flushed sound happened
      refine iff_of_false (fun rests => ?_) (not_not.mpr (Leaves.flushed happened))
      exact List.not_mem_nil ((next.rests time).mpr rests)

end Pool

/-! ## Runs -/

theorem Rests.earlier {moment : Nat} (rests : h.Rests time now) (after : time < moment)
    (within : moment ≤ now) : h.Rests time moment := by
  rcases rests with ⟨-, loan, own, kept⟩
  exact ⟨after, loan, own, fun between before upTo => kept between before (upTo.trans within)⟩

/-- A handle that comes back is kept. -/
theorem rests_of_returned (sound : h.Sound) {loan : Loan}
    (own : h.log[time]? = some (.returned loan)) : h.Rests time (time + 1) := by
  have past : time < h.log.length := (List.getElem?_eq_some_iff.mp own).1
  rcases exists_pool sound time (Nat.le_of_lt past) with ⟨times, pool⟩
  rcases pool.returned sound own with next | ⟨first, rest, -, -, next⟩
  · exact (next.rests time).mp (List.mem_append_right _ (List.mem_singleton_self time))
  · exact (next.rests time).mp (List.mem_append_right _ (List.mem_singleton_self time))

theorem rests_succ_iff_not_leaves (sound : h.Sound) (rests : h.Rests time now)
    (past : now < h.log.length) : h.Rests time (now + 1) ↔ ¬ h.Leaves time now := by
  rcases exists_pool sound now (Nat.le_of_lt past) with ⟨times, pool⟩
  exact pool.rests_succ_iff_not_leaves sound (List.getElem?_eq_getElem past)
    ((pool.rests time).mpr rests)

/-- A handle is kept until something takes it away. -/
theorem rests_iff (sound : h.Sound) {loan : Loan} (own : h.log[time]? = some (.returned loan))
    (after : time < now) (past : now ≤ h.log.length) :
    h.Rests time now ↔ ∀ moment, time < moment → moment < now → ¬ h.Leaves time moment := by
  constructor
  · intro rests moment later before
    have soFar := rests.earlier later (Nat.le_of_lt before)
    exact (rests_succ_iff_not_leaves sound soFar (Nat.lt_of_lt_of_le before past)).mp
      (rests.earlier (Nat.lt_succ_of_lt later) before)
  · induction now, after using Nat.le_induction with
    | base => exact fun _ => rests_of_returned sound own
    | succ now after ih =>
        intro stays
        have rests := ih (Nat.le_of_succ_le past)
          fun moment later before => stays moment later (Nat.lt_succ_of_lt before)
        exact (rests_succ_iff_not_leaves sound rests past).mpr
          (stays now after (Nat.lt_succ_self now))

/-- A handle that leaves when another one comes back was expelled by it. -/
theorem expelled_of_leaves (sound : h.Sound) {own back : Loan}
    (returned : h.log[time]? = some (.returned own))
    (happened : h.log[now]? = some (.returned back)) (rests : h.Rests time now)
    (leaves : h.Leaves time now) : h.Expelled own.handle.number := by
  have past : now < h.log.length := (List.getElem?_eq_some_iff.mp happened).1
  have gone : ¬ h.Rests time (now + 1) := fun stays =>
    (rests_succ_iff_not_leaves sound rests past).mp stays leaves
  refine ⟨now, ⟨back, happened⟩, ?_, ?_⟩
  · rcases rests with ⟨before, other, known, kept⟩
    cases returned.symm.trans known
    exact kept now before (Nat.le_refl _)
  · intro kept
    exact gone (rests_succ_iff.mpr ⟨Or.inl rests, own, returned, kept⟩)

/-- The others stay. -/
theorem rests_of_other_leaves (sound : h.Sound) {back : Loan}
    (happened : h.log[now]? = some (.returned back)) (rests : h.Rests time now)
    (leaves : h.Leaves time now) {other : Nat} (otherRests : h.Rests other now)
    (different : other ≠ time) : h.Rests other (now + 1) := by
  have past : now < h.log.length := (List.getElem?_eq_some_iff.mp happened).1
  rcases exists_pool sound now (Nat.le_of_lt past) with ⟨times, pool⟩
  refine pool.rests_of_other_gone sound happened ((pool.rests time).mpr rests)
    ((pool.rests other).mpr otherRests) ?_ different
  exact fun stays => (rests_succ_iff_not_leaves sound rests past).mp stays leaves

end History

namespace Session

/-- In a session that may keep handles, each one that comes back is kept until something takes it
away and no longer, and nothing else is kept. The handles kept stand in the order in which they came
back. One that comes back closes another one at most, and that one for good. Whoever asks for a path
makes a hit if a handle of an equal path is kept and a miss otherwise, whatever comes of it. -/
theorem run_keeps_until_taken (files : Files.Tree) {maxHandles : UInt64} (allowed : 0 < maxHandles)
    (threadSafe : Bool) (arena : Memory.Arena) (operations : List Operation) :
    let s := unused files maxHandles threadSafe arena
    let h := history operations s
    let last := (run operations s).2
    last.cache = h.after h.log.length ∧
    (∀ time loan, h.log[time]? = some (.returned loan) →
      h.Rests time (time + 1) ∧
      ∀ now, time < now → now ≤ h.log.length →
        (h.Rests time now ↔
          ∀ moment, time < moment → moment < now → ¬ h.Leaves time moment)) ∧
    (∀ now, now ≤ h.log.length → ∃ times : List Nat,
      times.Pairwise (· < ·) ∧ (∀ time, time ∈ times ↔ h.Rests time now) ∧
      (h.after now).idle.map some = times.map h.returned?) ∧
    (∀ time now own back, h.log[time]? = some (.returned own) →
      h.log[now]? = some (.returned back) → h.Rests time now → h.Leaves time now →
      (∀ other, h.Rests other now → other ≠ time → h.Rests other (now + 1)) ∧
      last.lent own.handle.number = 0 ∧ last.kept own.handle.number = 0) ∧
    (∀ now path, h.log[now]? = some (.asked path) →
      if ∃ kept ∈ (h.after now).idle, Files.samePath kept.path path then
        (h.after (now + 1)).hits = (h.after now).hits + 1 ∧
          (h.after (now + 1)).misses = (h.after now).misses
      else
        (h.after (now + 1)).hits = (h.after now).hits ∧
          (h.after (now + 1)).misses = (h.after now).misses + 1) ∧
    (∀ now event, h.log[now]? = some event → event.path? = none →
      (h.after (now + 1)).hits = (h.after now).hits ∧
        (h.after (now + 1)).misses = (h.after now).misses) ∧
    h.log.filterMap Event.path? = operations.filterMap asked? ∧
    last.cache.hits + last.cache.misses = (operations.filterMap asked?).length := by
  intro s h last
  have follows : Follows maxHandles (openings operations s) h [] last :=
    (Follows.start files maxHandles threadSafe arena).run operations
  have sound : h.Sound := ⟨rfl, UInt64.lt_iff_toNat_lt.mp allowed, follows.orderly⟩
  have questions : h.log.filterMap Event.path? = operations.filterMap asked? :=
    filterMap_path?_log operations s
  refine ⟨?_, ?_, ?_, ?_, ?_, ?_, questions, ?_⟩
  · rw [History.after_length]
    exact follows.heard
  · intro time loan returned
    exact ⟨History.rests_of_returned sound returned,
      fun now after past => History.rests_iff sound returned after past⟩
  · intro now past
    rcases History.exists_pool sound now past with ⟨times, pool⟩
    exact ⟨times, pool.ascending, pool.rests, pool.kept⟩
  · intro time now own back returned happened rests leaves
    constructor
    · intro other otherRests different
      exact History.rests_of_other_leaves sound happened rests leaves otherRests different
    · have expelled := History.expelled_of_leaves sound returned happened rests leaves
      have once := follows.custody.once own.handle.number
      rw [History.places_eq_zero expelled, countP_handles] at once
      omega
  · intro now path asked
    rw [History.after_succ asked]
    exact Cache.counts_asked path _
  · intro now event happened unasked
    rw [History.after_succ happened]
    exact Cache.counts_hear_of_unasked unasked _
  · rw [follows.heard, History.counts_last, questions]
    exact Nat.zero_add _

/-- Of two handles, one more than allowed, the one that came back first is closed. A question that
is answered and one that is not both count. -/
theorem run_keeps_until_taken_of_two :
    let files := Files.Tree.empty.place "f" (.bytes ⟨#[1]⟩)
    let operations : List Operation :=
      [.borrow "a" "f", .borrow "b" "f", .giveBack "a", .giveBack "b", .touch "f/." none,
        .borrow "a" "g"]
    let h := history operations (unused files 1 true ⟨0⟩)
    let last := (run operations (unused files 1 true ⟨0⟩)).2
    h.Rests 2 3 ∧ ¬ h.Rests 2 4 ∧ last.lent 0 = 0 ∧ last.kept 0 = 0 ∧
      last.cache.hits + last.cache.misses = 4 := by
  intro files operations h last
  have logged : h.log = [.asked "f", .asked "f", .returned ⟨"f", ⟨0, 2, 0⟩⟩,
      .returned ⟨"f", ⟨1, 2, 0⟩⟩, .asked "f/.", .returned ⟨"f/.", ⟨1, 2, 1⟩⟩, .asked "g"] := by
    decide +kernel
  rcases run_keeps_until_taken files (by decide : (0 : UInt64) < 1) true ⟨0⟩ operations with
    ⟨-, keeps, -, expels, -, -, -, counts⟩
  have first : h.log[2]? = some (.returned ⟨"f", ⟨0, 2, 0⟩⟩) := by
    rw [logged]
    rfl
  have second : h.log[3]? = some (.returned ⟨"f", ⟨1, 2, 0⟩⟩) := by
    rw [logged]
    rfl
  have rests : h.Rests 2 3 := (keeps 2 _ first).1
  have secondRests : h.Rests 3 4 := (keeps 3 _ second).1
  have leaves : h.Leaves 2 3 := by
    refine History.Leaves.expelled second ?_
    have only : {later | 2 < later ∧ h.Rests later 4} = {3} := by
      ext later
      constructor
      · rintro ⟨after, before, -⟩
        exact Nat.le_antisymm (Nat.le_of_lt_succ before) after
      · rintro rfl
        exact ⟨Nat.lt_succ_self 2, secondRests⟩
    exact (congrArg Set.ncard only).trans (Set.ncard_singleton 3)
  have past : 4 ≤ h.log.length := by
    rw [logged]
    decide
  have gone : ¬ h.Rests 2 4 := by
    intro stays
    exact ((keeps 2 _ first).2 4 (by decide) past).mp stays 3 (by decide) (by decide) leaves
  rcases (expels 2 3 _ _ first second rests leaves).2 with ⟨notLent, notKept⟩
  have questions : (operations.filterMap asked?).length = 4 := rfl
  refine ⟨rests, gone, notLent, notKept, ?_⟩
  -- Unfolded, because the sum would be computed otherwise.
  dsimp only [last]
  exact counts.trans questions

end Session

end CacheDepot.Handles
