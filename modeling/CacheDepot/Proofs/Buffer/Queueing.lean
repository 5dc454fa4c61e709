import CacheDepot.Proofs.Buffer.Coherence
import Mathlib.Order.Bounds.Basic

/-!
# Segments as queues

What a segment does can be told with a single list of buffers, the one stored first in
front. A buffer that is stored goes to the end of the list, and the shortest stretch at
the front whose loss makes room for it is dropped. A segment keeps a dictionary, a queue
of keys and a count of bytes instead and evicts one key after the other; it answers as
the list does, and holds as much.
-/

namespace CacheDepot.Buffer

open scoped List

/-- Buffers in the order in which they were stored, the oldest in front. -/
structure Queue where
  /-- Most bytes of keys and values together. -/
  capacity : Nat
  maxEntries : Nat
  pairs : List (Key × Value) := []
  deriving DecidableEq

namespace Queue

def empty (capacity maxEntries : Nat) : Queue :=
  { capacity := capacity, maxEntries := maxEntries }

def keys (q : Queue) : List Key :=
  q.pairs.map Prod.fst

def size (q : Queue) : Nat :=
  q.pairs.length

def used (q : Queue) : Nat :=
  (q.pairs.map fun pair => cost pair.1 pair.2).sum

def get? (key : Key) (q : Queue) : Option Value :=
  q.pairs.lookup key

def contains (key : Key) (q : Queue) : Bool :=
  (q.get? key).isSome

/-- The buffers of other keys. -/
def without (key : Key) (q : Queue) : Queue :=
  { q with pairs := q.pairs.filter fun pair => pair.1 ≠ key }

/-- The buffers behind the oldest ones. -/
def drop (count : Nat) (q : Queue) : Queue :=
  { q with pairs := q.pairs.drop count }

/-- Whether an entry of that many bytes fits beside the ones present. -/
def admits (bytes : Nat) (q : Queue) : Bool :=
  q.used + bytes ≤ q.capacity && q.size + 1 ≤ q.maxEntries

/-- The least number of oldest buffers without which an entry of that many bytes fits. -/
def surplus (bytes : Nat) (q : Queue) : Nat :=
  ((List.range (q.size + 1)).find? fun count => (q.drop count).admits bytes).getD q.size

/-- Adds a buffer at the young end. -/
def push (key : Key) (value : Value) (q : Queue) : Queue :=
  { q with pairs := q.pairs ++ [(key, value)] }

/-- Forgets a key; tells whether it was present. -/
def remove (key : Key) (q : Queue) : Bool × Queue :=
  (q.contains key, q.without key)

/-- Stores a buffer at the young end, whether or not there was one under its key; tells whether it
fits at all. -/
def insert (key : Key) (value : Value) (q : Queue) : Bool × Queue :=
  let others := q.without key
  if q.capacity < cost key value then (false, others)
  else (true, (others.drop (others.surplus (cost key value))).push key value)

def perform (access : Access) (q : Queue) : Answer × Queue :=
  match access with
  | .set key value =>
      let (stored, next) := q.insert key value
      (.flag stored, next)
  | .get key => (.buffer (q.get? key), q)
  | .contains key => (.flag (q.contains key), q)
  | .remove key =>
      let (removed, next) := q.remove key
      (.flag removed, next)

/-- The answers to accesses in order, and the queue after them. -/
def run : List Access → Queue → List Answer × Queue
  | [], q => ([], q)
  | access :: rest, q =>
      let (answer, next) := q.perform access
      let (answers, last) := run rest next
      (answer :: answers, last)

theorem drop_zero (q : Queue) : q.drop 0 = q := rfl

theorem drop_drop (first count : Nat) (q : Queue) :
    (q.drop first).drop count = q.drop (first + count) := by
  simp only [drop, List.drop_drop]

theorem drop_size (q : Queue) : q.drop q.size = empty q.capacity q.maxEntries := by
  rw [drop, size, List.drop_length, empty]

theorem keys_without (key : Key) (q : Queue) :
    (q.without key).keys = q.keys.filter (· ≠ key) := by
  rw [keys, keys, without, List.filter_map]
  rfl

theorem keys_insert {key : Key} {value : Value} {q : Queue} (fits : cost key value ≤ q.capacity) :
    (q.insert key value).2.keys =
      ((q.without key).drop ((q.without key).surplus (cost key value))).keys ++ [key] := by
  rw [insert, if_neg (Nat.not_lt.mpr fits), keys, push, List.map_append]
  rfl

theorem isLeast_surplus {bytes : Nat} {q : Queue} (fits : bytes ≤ q.capacity)
    (room : 0 < q.maxEntries) :
    IsLeast {count | (q.drop count).admits bytes} (q.surplus bytes) := by
  have all : (q.drop q.size).admits bytes := by
    rw [drop_size, admits, Bool.and_eq_true, decide_eq_true_eq, decide_eq_true_eq]
    exact ⟨(Nat.zero_add bytes).symm ▸ fits, room⟩
  cases search : (List.range (q.size + 1)).find? fun count => (q.drop count).admits bytes with
  | none =>
      have never := List.find?_range_eq_none.mp search q.size (Nat.lt_succ_self _)
      rw [all] at never
      contradiction
  | some count =>
      obtain ⟨admitted, -, tooMany⟩ := List.find?_range_eq_some.mp search
      rw [surplus, search]
      refine ⟨admitted, ?_⟩
      intro other otherAdmitted
      by_contra fewer
      have refused := tooMany other (Nat.lt_of_not_le fewer)
      rw [show (q.drop other).admits bytes = true from otherAdmitted] at refused
      contradiction

end Queue

namespace Segment

variable {s : Segment} {q : Queue} {key : Key} {value : Value}

/-- A segment holds the buffers of a queue, in the same order and within the same bounds. -/
structure Mirrors (s : Segment) (q : Queue) : Prop where
  capacity : s.capacity = q.capacity
  maxEntries : s.maxEntries = q.maxEntries
  coherent : s.Coherent
  stored : s.entries.pairs ~ q.pairs
  order : s.order = q.keys

theorem mirrors_empty (capacity maxEntries : Nat) :
    (empty capacity maxEntries).Mirrors (Queue.empty capacity maxEntries) where
  capacity := rfl
  maxEntries := rfl
  coherent := coherent_empty capacity maxEntries
  stored := List.Perm.refl _
  order := rfl

namespace Mirrors

/-! ## Reading -/

section Reading

variable (mirrors : s.Mirrors q)
include mirrors

theorem size_eq : s.size = q.size :=
  mirrors.stored.length_eq

theorem used_eq : s.used = q.used := by
  have costs := mirrors.stored.map fun pair => cost pair.1 pair.2
  exact mirrors.coherent.counted.trans costs.sum_nat

theorem get?_eq (key : Key) : s.get? key = q.get? key :=
  Named.lookup_of_perm mirrors.coherent.distinct mirrors.stored

theorem contains_eq (key : Key) : s.contains key = q.contains key :=
  congrArg Option.isSome (mirrors.get?_eq key)

theorem admits_eq (bytes : Nat) : q.admits bytes = !s.isFull bytes := by
  rw [Queue.admits, isFull, ← mirrors.used_eq, ← mirrors.size_eq, ← mirrors.capacity,
    ← mirrors.maxEntries, Bool.not_or]
  simp only [← decide_not, Nat.not_lt, Nat.not_le]
  rfl

end Reading

/-! ## Forgetting -/

/-- A key that is present is forgotten by both. -/
theorem forget (mirrors : s.Mirrors q) (found : s.entries.get? key = some value)
    {order : List Key} (queue : order = (q.without key).keys) :
    Mirrors { s with
      entries := s.entries.erase key
      order := order
      used := s.used - cost key value } (q.without key) where
  capacity := mirrors.capacity
  maxEntries := mirrors.maxEntries
  coherent := mirrors.coherent.forget found (by rw [queue, Queue.keys_without, mirrors.order])
  stored := mirrors.stored.filter _
  order := queue

theorem remove (mirrors : s.Mirrors q) (key : Key) :
    (s.remove key).1 = (q.remove key).1 ∧ (s.remove key).2.Mirrors (q.remove key).2 := by
  have same : s.entries.get? key = q.get? key := mirrors.get?_eq key
  unfold Segment.remove Queue.remove Queue.contains
  rw [← same]
  cases found : s.entries.get? key with
  | none =>
      have absent : key ∉ q.pairs.map Prod.fst := by
        rw [← Named.lookup_eq_none_iff]
        exact same.symm.trans found
      have nothing : q.without key = q := by
        rw [Queue.without, Named.filter_ne_of_absent absent]
      rw [nothing]
      exact ⟨rfl, mirrors⟩
  | some value =>
      refine ⟨rfl, mirrors.forget found ?_⟩
      rw [Queue.keys_without, mirrors.order]

theorem evict (mirrors : s.Mirrors q) {oldest : Key} {rest : List Key}
    (front : s.order = oldest :: rest) : (s.evict oldest rest).Mirrors (q.drop 1) := by
  obtain ⟨value, found⟩ := mirrors.coherent.get?_front front
  have distinct : s.order.Nodup := mirrors.coherent.queued.nodup_iff.mpr mirrors.coherent.distinct
  have queue : q.keys = oldest :: rest := mirrors.order.symm.trans front
  obtain ⟨pair, younger, pairs, rfl, rest_eq⟩ := List.map_eq_cons_iff.mp queue
  rw [front] at distinct
  have dropped : q.drop 1 = q.without pair.1 := by
    rw [← rest_eq] at distinct
    rw [Queue.drop, Queue.without, pairs, List.filter_cons_of_neg (by simp),
      Named.filter_ne_of_absent (List.nodup_cons.mp distinct).1]
    rfl
  simp only [Segment.evict, found]
  rw [dropped]
  refine mirrors.forget found ?_
  rw [← dropped, Queue.keys, Queue.drop, pairs]
  exact rest_eq.symm

/-! ## Storing -/

/-- As many of the oldest buffers are evicted as have to be; with fewer evicted there would be no
room. -/
theorem exists_makeRoom (mirrors : s.Mirrors q) (bytes : Nat) {queue : List Key}
    (whole : s.order = queue) :
    ∃ count, (Segment.makeRoom bytes queue s).Mirrors (q.drop count) ∧
      ∀ fewer < count, (q.drop fewer).admits bytes = false := by
  induction queue generalizing s q with
  | nil => exact ⟨0, mirrors, fun _ none => absurd none (Nat.not_lt_zero _)⟩
  | cons oldest rest ih =>
      simp only [Segment.makeRoom]
      split
      · next full =>
          obtain ⟨count, rested, tooMany⟩ :=
            ih (mirrors.evict whole) (order_evict oldest rest s)
          refine ⟨1 + count, ?_, ?_⟩
          · rw [← Queue.drop_drop]
            exact rested
          · intro fewer fewerThan
            cases fewer with
            | zero => rw [Queue.drop_zero, mirrors.admits_eq, full, Bool.not_true]
            | succ fewer =>
                rw [Nat.add_comm fewer 1, ← Queue.drop_drop]
                exact tooMany fewer (by omega)
      · exact ⟨0, mirrors, fun _ none => absurd none (Nat.not_lt_zero _)⟩

theorem makeRoom (mirrors : s.Mirrors q) {bytes : Nat} (fits : bytes ≤ s.capacity)
    (room : 0 < s.maxEntries) :
    (Segment.makeRoom bytes s.order s).Mirrors (q.drop (q.surplus bytes)) := by
  obtain ⟨count, rested, tooMany⟩ := mirrors.exists_makeRoom bytes rfl
  have admitted : (q.drop count).admits bytes = true := by
    rw [rested.admits_eq, mirrors.coherent.isFull_makeRoom fits room rfl, Bool.not_false]
  have least : IsLeast {count | (q.drop count).admits bytes} count := by
    refine ⟨admitted, ?_⟩
    intro other otherAdmitted
    by_contra fewer
    rw [Set.mem_ofPred_eq, tooMany other (Nat.lt_of_not_le fewer)] at otherAdmitted
    contradiction
  have shortest := Queue.isLeast_surplus (mirrors.capacity ▸ fits) (mirrors.maxEntries ▸ room)
  rw [shortest.unique least]
  exact rested

theorem push (mirrors : s.Mirrors q) (absent : s.entries.get? key = none) (value : Value) :
    (s.push key value).Mirrors (q.push key value) where
  capacity := mirrors.capacity
  maxEntries := mirrors.maxEntries
  coherent := mirrors.coherent.push absent value
  stored := by
    change (s.entries.insert key value).pairs ~ q.pairs ++ [(key, value)]
    rw [Dictionary.insert, Dictionary.erase_of_absent absent]
    exact (mirrors.stored.cons _).trans (List.perm_append_singleton _ _).symm
  order := by
    change s.order ++ [key] = (q.pairs ++ [(key, value)]).map Prod.fst
    rw [List.map_append, mirrors.order]
    rfl

theorem insert (mirrors : s.Mirrors q) (room : 0 < s.maxEntries) (key : Key) (value : Value) :
    (s.insert key value).1 = (q.insert key value).1 ∧
      (s.insert key value).2.Mirrors (q.insert key value).2 := by
  have removed : (s.remove key).2.Mirrors (q.without key) := (mirrors.remove key).2
  have absent : (s.remove key).2.get? key = none := by rw [get?_remove, if_pos rfl]
  unfold Segment.insert Queue.insert
  rw [mirrors.capacity]
  dsimp only
  split
  · exact ⟨rfl, removed⟩
  · next fits =>
      have within : cost key value ≤ (s.remove key).2.capacity :=
        (Nat.le_of_not_lt fits).trans_eq removed.capacity.symm
      have bound : 0 < (s.remove key).2.maxEntries := by rwa [maxEntries_remove]
      exact ⟨rfl, (removed.makeRoom within bound).push (get?_makeRoom_eq_none absent _ _) value⟩

/-! ## Runs -/

theorem perform (mirrors : s.Mirrors q) (room : 0 < s.maxEntries) (access : Access) :
    (s.perform access).1 = (q.perform access).1 ∧
      (s.perform access).2.Mirrors (q.perform access).2 := by
  cases access with
  | set key value =>
      obtain ⟨answer, next⟩ := mirrors.insert room key value
      exact ⟨congrArg Answer.flag answer, next⟩
  | get key => exact ⟨congrArg Answer.buffer (mirrors.get?_eq key), mirrors⟩
  | contains key => exact ⟨congrArg Answer.flag (mirrors.contains_eq key), mirrors⟩
  | remove key =>
      obtain ⟨answer, next⟩ := mirrors.remove key
      exact ⟨congrArg Answer.flag answer, next⟩

theorem run (mirrors : s.Mirrors q) (room : 0 < s.maxEntries) (accesses : List Access) :
    (s.run accesses).1 = (q.run accesses).1 ∧
      (s.run accesses).2.Mirrors (q.run accesses).2 := by
  induction accesses generalizing s q with
  | nil => exact ⟨rfl, mirrors⟩
  | cons access rest ih =>
      obtain ⟨answer, next⟩ := mirrors.perform room access
      obtain ⟨answers, last⟩ := ih next ((bounds_perform access s).2 ▸ room)
      exact ⟨congrArg₂ List.cons answer answers, last⟩

end Mirrors

/-- A segment answers every access as the list of its buffers does, and counts as many entries and
bytes. What is evicted for a buffer is the shortest stretch of the oldest others without which it
fits, and the buffer goes to the young end. -/
theorem run_eq_queue_run (capacity : Nat) {maxEntries : Nat} (room : 1 ≤ maxEntries)
    (accesses : List Access) :
    let s := (empty capacity maxEntries).run accesses
    let q := (Queue.empty capacity maxEntries).run accesses
    s.1 = q.1 ∧ s.2.size = q.2.size ∧ s.2.used = q.2.used ∧ s.2.order = q.2.keys ∧
    (∀ key, s.2.get? key = q.2.get? key) ∧
    ∀ key value, cost key value ≤ capacity → ∃ count,
      IsLeast {count | ((q.2.without key).drop count).admits (cost key value)} count ∧
      (s.2.insert key value).2.order = ((q.2.without key).drop count).keys ++ [key] := by
  intro s q
  obtain ⟨answers, mirrors⟩ := (mirrors_empty capacity maxEntries).run room accesses
  obtain ⟨sameCapacity, sameEntries⟩ := bounds_run accesses (empty capacity maxEntries)
  refine ⟨answers, mirrors.size_eq, mirrors.used_eq, mirrors.order, mirrors.get?_eq, ?_⟩
  intro key value fits
  have within : cost key value ≤ q.2.capacity :=
    fits.trans_eq (sameCapacity.symm.trans mirrors.capacity)
  have entries : 0 < q.2.maxEntries :=
    room.trans_eq (sameEntries.symm.trans mirrors.maxEntries)
  refine ⟨(q.2.without key).surplus (cost key value), Queue.isLeast_surplus within entries, ?_⟩
  have stored := (mirrors.insert (room.trans_eq sameEntries.symm) key value).2.order
  exact stored.trans (Queue.keys_insert within)

/-- A buffer that is stored again is the last to be evicted, and its old bytes do not count. -/
theorem run_eq_queue_run_of_rewritten :
    let accesses : List Access :=
      [.set ⟨#[1]⟩ ⟨#[1, 1]⟩, .set ⟨#[2]⟩ ⟨#[2]⟩, .set ⟨#[1]⟩ ⟨#[3]⟩, .set ⟨#[4]⟩ ⟨#[4, 4]⟩,
        .get ⟨#[1]⟩, .contains ⟨#[2]⟩]
    1 ≤ 2 ∧ ((empty 6 2).run accesses).1 =
      [.flag true, .flag true, .flag true, .flag true, .buffer (some ⟨#[3]⟩), .flag false] := by
  intro accesses
  have room : 1 ≤ 2 := by decide
  obtain ⟨answers, -⟩ := run_eq_queue_run 6 room accesses
  exact ⟨room, answers.trans rfl⟩

end Segment

end CacheDepot.Buffer
