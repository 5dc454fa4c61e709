import CacheDepot.Buffer.Cache
import CacheDepot.Proofs.Named

/-!
# What is found after a change

How storing and forgetting a buffer change what is found under a key, first among the
pairs of a dictionary, then in a segment and in a cache. A change under one key takes
nothing from another key's segment but what is evicted, and never puts anything there.
-/

namespace CacheDepot.Buffer

/-! ## Dictionaries -/

namespace Dictionary

theorem get?_erase (key other : Key) (d : Dictionary) :
    (d.erase other).get? key = if key = other then none else d.get? key := by
  unfold erase get?
  split
  · next same =>
      rw [Named.lookup_eq_none_iff]
      simp [same]
  · next apart => exact Named.lookup_filter_ne apart

theorem get?_insert (key other : Key) (value : Value) (d : Dictionary) :
    (d.insert other value).get? key = if key = other then some value else d.get? key := by
  have rest : (d.erase other).pairs.lookup key = if key = other then none else d.get? key :=
    get?_erase key other d
  rw [insert, get?, Named.lookup_cons, rest]
  split <;> rfl

end Dictionary

namespace Segment

/-! ## Segments -/

theorem get?_remove (key other : Key) (s : Segment) :
    (s.remove other).2.get? key = if key = other then none else s.get? key := by
  unfold remove
  cases present : s.entries.get? other with
  | none =>
      by_cases same : key = other
      · subst other
        rw [if_pos rfl]
        exact present
      · rw [if_neg same]
  | some value => exact Dictionary.get?_erase key other s.entries

theorem get?_push (key other : Key) (value : Value) (s : Segment) :
    (s.push other value).get? key = if key = other then some value else s.get? key :=
  Dictionary.get?_insert key other value s.entries

/-- Evicting a key makes nothing appear. -/
theorem get?_of_get?_evict {oldest key : Key} {rest : List Key} {s : Segment} {value : Value}
    (found : (s.evict oldest rest).get? key = some value) : s.get? key = some value := by
  unfold evict at found
  split at found
  · simp only [get?, Dictionary.get?_erase] at found
    split at found
    · contradiction
    · exact found
  · exact found

theorem get?_of_get?_makeRoom {bytes : Nat} {queue : List Key} {s : Segment} {key : Key}
    {value : Value} (found : (makeRoom bytes queue s).get? key = some value) :
    s.get? key = some value := by
  induction queue generalizing s with
  | nil => exact found
  | cons oldest rest ih =>
      simp only [makeRoom] at found
      split at found
      · exact get?_of_get?_evict (ih found)
      · exact found

theorem get?_makeRoom_eq_none {key : Key} {s : Segment} (absent : s.get? key = none) (bytes : Nat)
    (queue : List Key) : (makeRoom bytes queue s).get? key = none := by
  rw [Option.eq_none_iff_forall_ne_some]
  intro value found
  rw [get?_of_get?_makeRoom found] at absent
  contradiction

/-- A buffer that fits is found under its key afterwards; one that does not takes the place of what
was there all the same. -/
theorem get?_insert_self (key : Key) (value : Value) (s : Segment) :
    (s.insert key value).2.get? key =
      if cost key value ≤ s.capacity then some value else none := by
  unfold insert
  by_cases fits : cost key value ≤ s.capacity
  · rw [if_neg (Nat.not_lt.mpr fits), if_pos fits, get?_push, if_pos rfl]
  · rw [if_pos (Nat.lt_of_not_le fits), if_neg fits, get?_remove, if_pos rfl]

theorem get?_of_get?_insert {key other : Key} {stored value : Value} {s : Segment}
    (different : key ≠ other) (found : (s.insert other stored).2.get? key = some value) :
    s.get? key = some value := by
  have removed : ∀ value, (s.remove other).2.get? key = some value → s.get? key = some value := by
    intro value found
    rwa [get?_remove, if_neg different] at found
  unfold insert at found
  split at found
  · exact removed value found
  · rw [get?_push, if_neg different] at found
    exact removed value (get?_of_get?_makeRoom found)

/-! ### Capacities -/

@[simp]
theorem capacity_remove (key : Key) (s : Segment) : (s.remove key).2.capacity = s.capacity := by
  unfold remove
  split <;> rfl

@[simp]
theorem capacity_evict (oldest : Key) (rest : List Key) (s : Segment) :
    (s.evict oldest rest).capacity = s.capacity := by
  unfold evict
  split <;> rfl

@[simp]
theorem capacity_makeRoom (bytes : Nat) (queue : List Key) (s : Segment) :
    (makeRoom bytes queue s).capacity = s.capacity := by
  induction queue generalizing s with
  | nil => rfl
  | cons oldest rest ih =>
      simp only [makeRoom]
      split
      · rw [ih, capacity_evict]
      · rfl

@[simp]
theorem capacity_insert (key : Key) (value : Value) (s : Segment) :
    (s.insert key value).2.capacity = s.capacity := by
  unfold insert
  split
  · exact capacity_remove key s
  · exact (capacity_makeRoom _ _ _).trans (capacity_remove key s)

theorem fst_insert (key : Key) (value : Value) (s : Segment) :
    (s.insert key value).1 = decide (cost key value ≤ s.capacity) := by
  unfold insert
  split <;> simp_all

end Segment

namespace Cache

/-! ## Caches -/

/-- What is found under a key. -/
def find? (key : Key) (cache : Cache) : Option Value :=
  (cache.segment? key).bind (Segment.get? key)

theorem fst_get (key : Key) (cache : Cache) : (cache.get key).1 = cache.find? key := by
  unfold get find?
  split <;> simp [*]

theorem find?_get (key other : Key) (cache : Cache) :
    (cache.get other).2.find? key = cache.find? key := by
  unfold get
  split <;> rfl

/-- Where there are segments, the number of a key's segment is below theirs. -/
theorem segmentIndex_lt_size {cache : Cache} (nonempty : 0 < cache.segments.size) (key : Key) :
    cache.segmentIndex key < cache.segments.size :=
  Nat.lt_of_le_of_lt Nat.and_le_right (Nat.sub_one_lt_of_lt nonempty)

theorem segmentIndex_changeSegment (key other : Key) (act : Segment → Bool × Segment)
    (cache : Cache) :
    (cache.changeSegment other act).2.segmentIndex key = cache.segmentIndex key := by
  unfold changeSegment
  split <;> simp [segmentIndex]

/-- A change reaches the keys that share the segment. -/
theorem segment?_changeSegment (key other : Key) (act : Segment → Bool × Segment) (cache : Cache) :
    (cache.changeSegment other act).2.segment? key =
      if cache.segmentIndex key = cache.segmentIndex other then
        (cache.segment? key).map fun segment => (act segment).2
      else cache.segment? key := by
  unfold segment?
  rw [segmentIndex_changeSegment]
  unfold changeSegment segment?
  by_cases shared : cache.segmentIndex key = cache.segmentIndex other
  · rw [if_pos shared, shared]
    cases present : cache.segments[cache.segmentIndex other]? with
    | none => simp [present]
    | some segment =>
        have bound := (Array.getElem?_eq_some_iff.mp present).1
        simp [bound]
  · rw [if_neg shared]
    cases present : cache.segments[cache.segmentIndex other]? with
    | none => rfl
    | some segment => simp [Ne.symm shared]

theorem find?_changeSegment (key other : Key) (act : Segment → Bool × Segment) (cache : Cache) :
    (cache.changeSegment other act).2.find? key =
      if cache.segmentIndex key = cache.segmentIndex other then
        (cache.segment? key).bind fun segment => (act segment).2.get? key
      else cache.find? key := by
  unfold find?
  rw [segment?_changeSegment]
  split
  · rw [Option.bind_map]
    rfl
  · rfl

theorem find?_remove (key other : Key) (cache : Cache) :
    (cache.remove other).2.find? key = if key = other then none else cache.find? key := by
  unfold remove
  rw [find?_changeSegment]
  by_cases same : key = other
  · subst other
    simp [Segment.get?_remove]
  · simp only [Segment.get?_remove, if_neg same]
    exact ite_self _

theorem find?_of_find?_set {key other : Key} {stored value : Value} {cache : Cache}
    (different : key ≠ other) (found : (cache.set other stored).2.find? key = some value) :
    cache.find? key = some value := by
  unfold set at found
  rw [find?_changeSegment] at found
  split at found
  · obtain ⟨segment, present, inSegment⟩ := Option.bind_eq_some_iff.mp found
    unfold find?
    rw [present]
    exact Segment.get?_of_get?_insert different inSegment
  · exact found

/-! ### Caches of equal segments -/

/-- There are segments, and all have the same capacity. -/
structure Uniform (capacity : Nat) (cache : Cache) : Prop where
  nonempty : 0 < cache.segments.size
  capacity : ∀ segment ∈ cache.segments, segment.capacity = capacity

namespace Uniform

variable {capacity : Nat} {cache : Cache}

/-- Every key has a segment. -/
theorem segment?_eq_some (uniform : cache.Uniform capacity) (key : Key) :
    ∃ segment, cache.segment? key = some segment ∧ segment.capacity = capacity := by
  have bound := segmentIndex_lt_size uniform.nonempty key
  exact ⟨cache.segments[cache.segmentIndex key], Array.getElem?_eq_getElem bound,
    uniform.capacity _ (Array.getElem_mem bound)⟩

theorem fst_set (uniform : cache.Uniform capacity) (key : Key) (value : Value) :
    (cache.set key value).1 = decide (cost key value ≤ capacity) := by
  obtain ⟨segment, present, same⟩ := uniform.segment?_eq_some key
  simp only [set, changeSegment, present, Segment.fst_insert, same]

/-- What is found under a key right after a buffer was stored under it. -/
theorem find?_set_self (uniform : cache.Uniform capacity) (key : Key) (value : Value) :
    (cache.set key value).2.find? key = if cost key value ≤ capacity then some value else none := by
  obtain ⟨segment, present, same⟩ := uniform.segment?_eq_some key
  rw [set, find?_changeSegment, if_pos rfl, present, Option.bind_some, Segment.get?_insert_self,
    same]

theorem changeSegment (uniform : cache.Uniform capacity) (key : Key)
    {act : Segment → Bool × Segment}
    (keeps : ∀ segment, (act segment).2.capacity = segment.capacity) :
    (cache.changeSegment key act).2.Uniform capacity := by
  obtain ⟨segment, present, same⟩ := uniform.segment?_eq_some key
  simp only [Cache.changeSegment, present]
  constructor
  · simpa using uniform.nonempty
  · intro other otherMem
    rcases Array.mem_or_eq_of_mem_setIfInBounds otherMem with old | rfl
    · exact uniform.capacity other old
    · rw [keeps, same]

theorem perform (uniform : cache.Uniform capacity) (access : Access) :
    (cache.perform access).2.Uniform capacity := by
  cases access with
  | set key value => exact uniform.changeSegment key (Segment.capacity_insert key value)
  | get key =>
      simp only [Cache.perform, get]
      split <;> exact ⟨uniform.nonempty, uniform.capacity⟩
  | contains key => exact uniform
  | remove key => exact uniform.changeSegment key (Segment.capacity_remove key)

theorem run (uniform : cache.Uniform capacity) (accesses : List Access) :
    (cache.run accesses).2.Uniform capacity := by
  induction accesses generalizing cache with
  | nil => exact uniform
  | cons access rest ih => exact ih (uniform.perform access)

end Uniform

end Cache

end CacheDepot.Buffer
