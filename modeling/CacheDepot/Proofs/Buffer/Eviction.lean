import CacheDepot.Proofs.Buffer.Coherence

/-!
# Making room

To make room a segment evicts one key after the other, and before each eviction it looks
whether it still has to. Its records agree every time it looks. As long as there is not
room enough, the queue therefore has a key in front, that key has a buffer, and the bytes
of the buffer are among those counted. An empty queue means an empty segment, in which
there is room: making room never ends for want of keys.
-/

namespace CacheDepot.Buffer.Segment

variable {s t : Segment} {key oldest : Key} {value : Value} {rest : List Key} {bytes : Nat}

/-! ## Every look at the segment -/

/-- The segments that making room goes through: the one it begins with, and each that is left after
a key was evicted because there was not room enough. -/
inductive MakingRoom (bytes : Nat) (s : Segment) : Segment → Prop
  | start : MakingRoom bytes s s
  | evict {t : Segment} {oldest : Key} {rest : List Key} (before : MakingRoom bytes s t)
      (full : t.isFull bytes = true) (front : t.order = oldest :: rest) :
      MakingRoom bytes s (t.evict oldest rest)

namespace MakingRoom

theorem capacity_eq (making : MakingRoom bytes s t) : t.capacity = s.capacity := by
  induction making with
  | start => rfl
  | evict _ _ _ ih => rw [capacity_evict, ih]

theorem maxEntries_eq (making : MakingRoom bytes s t) : t.maxEntries = s.maxEntries := by
  induction making with
  | start => rfl
  | evict _ _ _ ih => rw [maxEntries_evict, ih]

/-- The last of these segments is what making room leaves. -/
theorem makeRoom (making : MakingRoom bytes s t) {queue : List Key} (whole : t.order = queue) :
    MakingRoom bytes s (Segment.makeRoom bytes queue t) := by
  induction queue generalizing t with
  | nil => exact making
  | cons oldest rest ih =>
      rw [Segment.makeRoom]
      split
      · next full => exact ih (making.evict full whole) (order_evict oldest rest t)
      · exact making

end MakingRoom

/-! ## Bytes that are taken off -/

theorem Coherent.cost_le (coherent : s.Coherent) (found : s.get? key = some value) :
    cost key value ≤ s.used := by
  rw [coherent.counted, Dictionary.bytes_of_get? coherent.distinct found]
  exact Nat.le_add_right _ _

/-- A segment without room enough has a key to evict, with a buffer whose bytes are counted. -/
theorem Coherent.exists_front (coherent : s.Coherent) (fits : bytes ≤ s.capacity)
    (room : 0 < s.maxEntries) (full : s.isFull bytes = true) :
    ∃ oldest rest value, s.order = oldest :: rest ∧ s.get? oldest = some value ∧
      cost oldest value ≤ s.used := by
  cases front : s.order with
  | nil =>
      rw [coherent.isFull_of_nothing front fits room] at full
      contradiction
  | cons oldest rest =>
      rcases coherent.get?_front front with ⟨value, found⟩
      exact ⟨oldest, rest, value, rfl, found, coherent.cost_le found⟩

theorem Sound.makingRoom (sound : s.Sound) (making : MakingRoom bytes s t) : t.Sound := by
  induction making with
  | start => exact sound
  | evict _ _ front ih => exact ih.evict front

/-! ## Storing -/

/-- What fits is stored where making room comes to an end, and there is room there. -/
theorem exists_insert_eq (sound : s.Sound) (room : 0 < s.maxEntries)
    (fits : cost key value ≤ s.capacity) :
    ∃ last, MakingRoom (cost key value) (s.remove key).2 last ∧
      last.isFull (cost key value) = false ∧ s.insert key value = (true, last.push key value) := by
  have without : (s.remove key).2.Sound := sound.remove key
  refine ⟨_, MakingRoom.start.makeRoom rfl, ?_, ?_⟩
  · apply without.coherent.isFull_makeRoom
    · rwa [capacity_remove]
    · rwa [maxEntries_remove]
    · rfl
  · rw [insert, if_neg (Nat.not_lt.mpr fits)]

/-- Whatever was stored and forgotten, the queue of a segment lists each of its keys once, the bytes
counted are those of its buffers, and both are within their bounds. What is taken off the count is
never more than the count. While room is made, all this holds at every look at the segment; as long
as there is not room enough there is a key to evict, and it has a buffer. There is room enough at
the end, and the new buffer is stored there. -/
theorem run_keeps_records (capacity : Nat) {maxEntries : Nat} (room : 1 ≤ maxEntries)
    (accesses : List Access) :
    let s := ((empty capacity maxEntries).run accesses).2
    s.order.Nodup ∧ (∀ key, key ∈ s.order ↔ ∃ value, s.get? key = some value) ∧
    s.entries.keys.Nodup ∧
    s.used = (s.entries.pairs.map fun pair => pair.1.size + pair.2.size).sum ∧
    s.used ≤ capacity ∧ s.size ≤ maxEntries ∧
    (∀ key value, s.get? key = some value → cost key value ≤ s.used) ∧
    ∀ key value, cost key value ≤ capacity →
      (∀ t, MakingRoom (cost key value) (s.remove key).2 t →
        t.Sound ∧
        (t.isFull (cost key value) = true → ∃ oldest rest evicted, t.order = oldest :: rest ∧
          t.get? oldest = some evicted ∧ cost oldest evicted ≤ t.used)) ∧
      ∃ last, MakingRoom (cost key value) (s.remove key).2 last ∧
        last.isFull (cost key value) = false ∧
        s.insert key value = (true, last.push key value) := by
  intro s
  have sound : s.Sound := (sound_empty capacity maxEntries).run room accesses
  rcases bounds_run accesses (empty capacity maxEntries) with ⟨sameCapacity, sameEntries⟩
  have capacity_eq : s.capacity = capacity := sameCapacity
  have maxEntries_eq : s.maxEntries = maxEntries := sameEntries
  have coherent := sound.coherent
  refine ⟨coherent.queued.nodup_iff.mpr coherent.distinct, ?_, coherent.distinct,
    coherent.counted, capacity_eq ▸ sound.used_le, maxEntries_eq ▸ sound.size_le,
    fun key value => coherent.cost_le, ?_⟩
  · intro key
    rw [coherent.queued.mem_iff, ← Option.ne_none_iff_exists', ne_eq, get?,
      Dictionary.get?_eq_none_iff, not_not]
  · intro key value fits
    constructor
    · intro t making
      have within : t.Sound := (sound.remove key).makingRoom making
      refine ⟨within, within.coherent.exists_front ?_ ?_⟩
      · rwa [making.capacity_eq, capacity_remove, capacity_eq]
      · rwa [making.maxEntries_eq, maxEntries_remove, maxEntries_eq]
    · apply exists_insert_eq sound
      · rwa [maxEntries_eq]
      · rwa [capacity_eq]

/-- Room is made for a buffer that takes the place of one of its key and of all others. -/
theorem run_keeps_records_of_large_buffer :
    let accesses : List Access :=
      [.set ⟨#[1]⟩ ⟨#[1]⟩, .set ⟨#[2]⟩ ⟨#[2, 2]⟩, .set ⟨#[3]⟩ ⟨#[]⟩, .remove ⟨#[4]⟩]
    let s := ((empty 6 3).run accesses).2
    1 ≤ 3 ∧ s.order = [⟨#[1]⟩, ⟨#[2]⟩, ⟨#[3]⟩] ∧ s.used = 6 ∧ s.order.Nodup ∧
    cost ⟨#[2]⟩ ⟨#[5, 5, 5, 5, 5]⟩ ≤ 6 ∧
    ∃ last, MakingRoom 6 (s.remove ⟨#[2]⟩).2 last ∧ last.isFull 6 = false ∧
      s.insert ⟨#[2]⟩ ⟨#[5, 5, 5, 5, 5]⟩ = (true, last.push ⟨#[2]⟩ ⟨#[5, 5, 5, 5, 5]⟩) := by
  intro accesses s
  have room : 1 ≤ 3 := by decide
  have fits : cost ⟨#[2]⟩ ⟨#[5, 5, 5, 5, 5]⟩ ≤ 6 := by decide
  rcases run_keeps_records 6 room accesses with ⟨once, -, -, -, -, -, -, stores⟩
  exact ⟨room, by decide +kernel, by decide +kernel, once, fits, (stores _ _ fits).2⟩

end CacheDepot.Buffer.Segment
