import CacheDepot.Proofs.Buffer.Queueing

/-!
# Segments of different size

Two segments are put through the same accesses, one with room for more bytes and more
entries than the other. As long as the smaller one accepts every buffer, what it holds
is the young end of what the larger one holds. It is not enough that the larger segment
holds the same buffers: it must also have them in the same order behind all others, so
that whatever it evicts the smaller one has evicted before.
-/

namespace CacheDepot.Buffer

namespace Queue

variable {small large : Queue} {key : Key} {value : Value} {older : List (Key × Value)}

/-- The bounds of the smaller queue are those of the larger one or tighter, and its buffers are the
young end of those in the larger one. -/
structure Within (small large : Queue) : Prop where
  capacity : small.capacity ≤ large.capacity
  maxEntries : small.maxEntries ≤ large.maxEntries
  young : small.pairs <:+ large.pairs

/-- What fits beside some buffers under tighter bounds fits beside them under looser ones. -/
theorem admits_of_pairs_eq (same : small.pairs = large.pairs)
    (capacity : small.capacity ≤ large.capacity) (maxEntries : small.maxEntries ≤ large.maxEntries)
    {bytes : Nat} (admitted : small.admits bytes) : large.admits bytes := by
  unfold admits used size at admitted ⊢
  rw [Bool.and_eq_true, decide_eq_true_eq, decide_eq_true_eq] at admitted ⊢
  rw [← same]
  exact ⟨admitted.1.trans capacity, admitted.2.trans maxEntries⟩

theorem pairs_drop_older (split : older ++ small.pairs = large.pairs) (count : Nat) :
    (large.drop (older.length + count)).pairs = (small.drop count).pairs := by
  unfold drop
  rw [← split]
  exact List.drop_length_add_append count

namespace Within

theorem without (within : small.Within large) (key : Key) :
    (small.without key).Within (large.without key) where
  capacity := within.capacity
  maxEntries := within.maxEntries
  young := within.young.filter _

theorem push (within : small.Within large) (key : Key) (value : Value) :
    (small.push key value).Within (large.push key value) where
  capacity := within.capacity
  maxEntries := within.maxEntries
  young := by
    rcases within.young with ⟨older, split⟩
    refine ⟨older, ?_⟩
    change older ++ (small.pairs ++ [(key, value)]) = large.pairs ++ [(key, value)]
    rw [← split, List.append_assoc]

/-- The larger queue drops no more than its older part and what the smaller one drops: with as many
dropped, both hold the same. -/
theorem surplus_le (within : small.Within large) {bytes : Nat} (fits : bytes ≤ small.capacity)
    (room : 0 < small.maxEntries) (split : older ++ small.pairs = large.pairs) :
    large.surplus bytes ≤ older.length + small.surplus bytes := by
  have admitted : (small.drop (small.surplus bytes)).admits bytes := (isLeast_surplus fits room).1
  have least := isLeast_surplus (fits.trans within.capacity) (room.trans_le within.maxEntries)
  apply least.2
  exact admits_of_pairs_eq (pairs_drop_older split _).symm within.capacity within.maxEntries
    admitted

theorem makeRoom (within : small.Within large) {bytes : Nat} (fits : bytes ≤ small.capacity)
    (room : 0 < small.maxEntries) :
    (small.drop (small.surplus bytes)).Within (large.drop (large.surplus bytes)) where
  capacity := within.capacity
  maxEntries := within.maxEntries
  young := by
    rcases within.young with ⟨older, split⟩
    rw [← pairs_drop_older split]
    exact List.drop_suffix_drop_left large.pairs (within.surplus_le fits room split)

theorem insert (within : small.Within large) (fits : cost key value ≤ small.capacity)
    (room : 0 < small.maxEntries) :
    (small.insert key value).2.Within (large.insert key value).2 := by
  have fitsLarge : cost key value ≤ large.capacity := fits.trans within.capacity
  unfold Queue.insert
  rw [if_neg (Nat.not_lt.mpr fits), if_neg (Nat.not_lt.mpr fitsLarge)]
  apply push
  exact (within.without key).makeRoom fits room

theorem perform (within : small.Within large) (room : 0 < small.maxEntries) {access : Access}
    (fits : ∀ key value, access = .set key value → cost key value ≤ small.capacity) :
    (small.perform access).2.Within (large.perform access).2 := by
  cases access with
  | set key value => exact within.insert (fits key value rfl) room
  | get key | contains key => exact within
  | remove key => exact within.without key

end Within

end Queue

namespace Segment

variable {small large : Segment} {key : Key} {value : Value}

/-! ## Accepted buffers -/

/-- Every buffer is accepted that a segment is asked to store. -/
def Accepts (s : Segment) (accesses : List Access) : Prop :=
  ∀ key value answer, (Access.set key value, answer) ∈ accesses.zip (s.run accesses).1 →
    answer = .flag true

theorem cost_le_of_accepts {s : Segment} {accesses : List Access} (accepts : s.Accepts accesses) :
    ∀ key value, Access.set key value ∈ accesses → cost key value ≤ s.capacity := by
  induction accesses generalizing s with
  | nil =>
      intro key value setMem
      cases setMem
  | cons access rest ih =>
      intro key value setMem
      rcases List.mem_cons.mp setMem with rfl | later
      · have accepted : Answer.flag (s.insert key value).1 = .flag true :=
          accepts key value _ List.mem_cons_self
        rw [fst_insert] at accepted
        exact of_decide_eq_true (Answer.flag.inj accepted)
      · have restAccepts : (s.perform access).2.Accepts rest := fun key value answer answered =>
          accepts key value answer (List.mem_cons_of_mem _ answered)
        rw [← (bounds_perform access s).1]
        exact ih restAccepts key value later

/-! ## Segments that hold more -/

/-- The larger segment holds all that the smaller one holds, at the young end of its queue. -/
structure Within (small large : Segment) : Prop where
  room : 0 < small.maxEntries
  queues : ∃ q r : Queue, small.Mirrors q ∧ large.Mirrors r ∧ q.Within r

theorem within_empty {capacity larger maxEntries more : Nat} (bytes : capacity ≤ larger)
    (room : 1 ≤ maxEntries) (entries : maxEntries ≤ more) :
    (empty capacity maxEntries).Within (empty larger more) where
  room := room
  queues := ⟨_, _, mirrors_empty capacity maxEntries, mirrors_empty larger more, bytes, entries,
    List.suffix_rfl⟩

namespace Within

theorem order_suffix (within : small.Within large) : small.order <:+ large.order := by
  rcases within.queues with ⟨q, r, holds, holdsMore, young⟩
  rw [holds.order, holdsMore.order]
  exact young.young.map Prod.fst

/-- What is found in the smaller segment is found in the larger one. -/
theorem get?_eq_some (within : small.Within large) (found : small.get? key = some value) :
    large.get? key = some value := by
  rcases within.queues with ⟨q, r, holds, holdsMore, young⟩
  have distinct : (r.pairs.map Prod.fst).Nodup := by
    change r.keys.Nodup
    rw [← holdsMore.order]
    exact holdsMore.coherent.queued.nodup_iff.mpr holdsMore.coherent.distinct
  rw [holds.get?_eq, Queue.get?] at found
  rw [holdsMore.get?_eq, Queue.get?, Named.lookup_eq_some_iff_mem distinct]
  exact young.young.subset (Named.mem_of_lookup found)

/-- A read that is answered with a buffer gets the same answer from the larger segment. -/
theorem fst_perform_of_isHit (within : small.Within large) {access : Access}
    (hit : (small.perform access).1.isHit) :
    (large.perform access).1 = (small.perform access).1 := by
  cases access with
  | set key value | contains key | remove key => cases hit
  | get key =>
      change (Answer.buffer (small.get? key)).isHit at hit
      change Answer.buffer (large.get? key) = .buffer (small.get? key)
      cases found : small.get? key with
      | none =>
          rw [found] at hit
          cases hit
      | some value => rw [within.get?_eq_some found]

theorem perform (within : small.Within large) {access : Access}
    (fits : ∀ key value, access = .set key value → cost key value ≤ small.capacity) :
    (small.perform access).2.Within (large.perform access).2 := by
  rcases within.queues with ⟨q, r, holds, holdsMore, young⟩
  have room : 0 < q.maxEntries := holds.maxEntries ▸ within.room
  have roomMore : 0 < large.maxEntries :=
    holdsMore.maxEntries.symm ▸ room.trans_le young.maxEntries
  constructor
  · rw [(bounds_perform access small).2]
    exact within.room
  · refine ⟨_, _, (holds.perform within.room access).2, (holdsMore.perform roomMore access).2, ?_⟩
    rw [holds.capacity] at fits
    exact young.perform room fits

theorem run (within : small.Within large) {accesses : List Access}
    (fits : ∀ key value, Access.set key value ∈ accesses → cost key value ≤ small.capacity) :
    (small.run accesses).2.Within (large.run accesses).2 ∧
      List.Forall₂ (fun answer answerMore => answer.isHit → answerMore = answer)
        (small.run accesses).1 (large.run accesses).1 := by
  induction accesses generalizing small large with
  | nil => exact ⟨within, List.Forall₂.nil⟩
  | cons access rest ih =>
      have next : (small.perform access).2.Within (large.perform access).2 := by
        apply within.perform
        rintro key value rfl
        exact fits key value List.mem_cons_self
      have fitsLater : ∀ key value, Access.set key value ∈ rest →
          cost key value ≤ (small.perform access).2.capacity := by
        intro key value later
        rw [(bounds_perform access small).1]
        exact fits key value (List.mem_cons_of_mem access later)
      rcases ih next fitsLater with ⟨last, answers⟩
      exact ⟨last, List.Forall₂.cons within.fst_perform_of_isHit answers⟩

end Within

/-- As long as the smaller of two segments accepts every buffer, its queue is the young end of the
queue of the larger one, and every buffer it holds is held by the larger one. A read that finds
something in the smaller one finds the same in the larger one. -/
theorem run_keeps_young_end {capacity larger maxEntries more : Nat} (bytes : capacity ≤ larger)
    (room : 1 ≤ maxEntries) (entries : maxEntries ≤ more) {accesses : List Access}
    (accepts : (empty capacity maxEntries).Accepts accesses) :
    (∀ before, before <+: accesses →
      let small := ((empty capacity maxEntries).run before).2
      let large := ((empty larger more).run before).2
      small.order <:+ large.order ∧
        ∀ key value, small.get? key = some value → large.get? key = some value) ∧
    List.Forall₂ (fun answer answerMore => answer.isHit → answerMore = answer)
      ((empty capacity maxEntries).run accesses).1 ((empty larger more).run accesses).1 := by
  have start := within_empty bytes room entries
  have fits := cost_le_of_accepts accepts
  constructor
  · intro before early small large
    have fitsEarly : ∀ key value, Access.set key value ∈ before → cost key value ≤ capacity :=
      fun key value setMem => fits key value (early.subset setMem)
    have within : small.Within large := (start.run fitsEarly).1
    exact ⟨within.order_suffix, fun key value => within.get?_eq_some⟩
  · exact (start.run fits).2

/-- A buffer that was stored again outlives one that the larger segment still holds. -/
theorem run_keeps_young_end_of_rewritten :
    let accesses : List Access :=
      [.set ⟨#[1]⟩ ⟨#[1]⟩, .set ⟨#[2]⟩ ⟨#[2]⟩, .set ⟨#[1]⟩ ⟨#[3]⟩, .set ⟨#[4]⟩ ⟨#[4, 4]⟩,
        .get ⟨#[1]⟩]
    let small := (empty 5 2).run accesses
    let large := (empty 9 3).run accesses
    (5 ≤ 9 ∧ 1 ≤ 2 ∧ 2 ≤ 3 ∧ (empty 5 2).Accepts accesses) ∧
    small.2.order = [⟨#[1]⟩, ⟨#[4]⟩] ∧ small.2.order <:+ large.2.order ∧
    large.2.get? ⟨#[1]⟩ = some ⟨#[3]⟩ := by
  intro accesses small large
  have answers : small.1 =
      [.flag true, .flag true, .flag true, .flag true, .buffer (some ⟨#[3]⟩)] := by
    decide +kernel
  have accepts : (empty 5 2).Accepts accesses := by
    intro key value answer answered
    change (Access.set key value, answer) ∈ accesses.zip small.1 at answered
    rw [answers] at answered
    simp only [accesses, List.zip_cons_cons, List.zip_nil_right, List.mem_cons, Prod.mk.injEq,
      reduceCtorEq, false_and, List.not_mem_nil, or_false] at answered
    rcases answered with ⟨-, rfl⟩ | ⟨-, rfl⟩ | ⟨-, rfl⟩ | ⟨-, rfl⟩ <;> rfl
  have kept := (run_keeps_young_end (by decide : 5 ≤ 9) (by decide : 1 ≤ 2) (by decide : 2 ≤ 3)
    accepts).1 accesses List.prefix_rfl
  have order : small.2.order = [⟨#[1]⟩, ⟨#[4]⟩] := by decide +kernel
  have found : small.2.get? ⟨#[1]⟩ = some ⟨#[3]⟩ := by decide +kernel
  exact ⟨⟨by decide, by decide, by decide, accepts⟩, order, kept.1, kept.2 _ _ found⟩

end Segment

end CacheDepot.Buffer
