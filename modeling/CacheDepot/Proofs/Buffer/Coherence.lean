import CacheDepot.Proofs.Buffer.Replay
import CacheDepot.Proofs.Named
import Mathlib.Algebra.GroupWithZero.Nat
import Mathlib.Data.List.Nodup

/-!
# The records of a segment

A segment keeps its buffers, the queue of their keys and the number of their bytes
side by side. Whatever is done with it, the three tell the same. The queue is
therefore never empty before the segment is, so that making room ends with room
enough, and the bytes and entries of a segment stay within its bounds.
-/

namespace CacheDepot.Buffer

open scoped List

/-! ## Dictionaries -/

namespace Dictionary

def keys (d : Dictionary) : List Key :=
  d.pairs.map Prod.fst

/-- The bytes of all pairs. -/
def bytes (d : Dictionary) : Nat :=
  (d.pairs.map fun pair => cost pair.1 pair.2).sum

variable {key : Key} {value : Value} {d : Dictionary}

theorem get?_eq_none_iff : d.get? key = none ↔ key ∉ d.keys :=
  Named.lookup_eq_none_iff

theorem keys_erase (key : Key) (d : Dictionary) :
    (d.erase key).keys = d.keys.filter (· ≠ key) := by
  rw [keys, keys, List.filter_map]
  rfl

theorem erase_of_absent (absent : d.get? key = none) : d.erase key = d := by
  rw [erase, Named.filter_ne_of_absent (get?_eq_none_iff.mp absent)]

/-- A pair that is found and the pairs of other keys are all there are. -/
theorem perm_of_get? (distinct : d.keys.Nodup) (found : d.get? key = some value) :
    d.pairs ~ (key, value) :: (d.erase key).pairs :=
  Named.perm_of_lookup distinct found

theorem size_of_get? (distinct : d.keys.Nodup) (found : d.get? key = some value) :
    d.size = (d.erase key).size + 1 :=
  (perm_of_get? distinct found).length_eq

theorem bytes_of_get? (distinct : d.keys.Nodup) (found : d.get? key = some value) :
    d.bytes = cost key value + (d.erase key).bytes := by
  have costs := (perm_of_get? distinct found).map fun pair => cost pair.1 pair.2
  exact costs.sum_nat

end Dictionary

namespace Segment

variable {s : Segment} {key : Key} {value : Value}

@[simp]
theorem maxEntries_remove (key : Key) (s : Segment) :
    (s.remove key).2.maxEntries = s.maxEntries := by
  unfold remove
  split <;> rfl

@[simp]
theorem maxEntries_evict (oldest : Key) (rest : List Key) (s : Segment) :
    (s.evict oldest rest).maxEntries = s.maxEntries := by
  unfold evict
  split <;> rfl

@[simp]
theorem order_evict (oldest : Key) (rest : List Key) (s : Segment) :
    (s.evict oldest rest).order = rest := by
  unfold evict
  split <;> rfl

@[simp]
theorem maxEntries_makeRoom (bytes : Nat) (queue : List Key) (s : Segment) :
    (makeRoom bytes queue s).maxEntries = s.maxEntries := by
  induction queue generalizing s with
  | nil => rfl
  | cons oldest rest ih =>
      simp only [makeRoom]
      split
      · rw [ih, maxEntries_evict]
      · rfl

/-! ## Records that agree -/

/-- The queue holds the keys of the buffers, each once, and the bytes are those of the buffers. -/
structure Coherent (s : Segment) : Prop where
  distinct : s.entries.keys.Nodup
  queued : s.order ~ s.entries.keys
  counted : s.used = s.entries.bytes

theorem coherent_empty (capacity maxEntries : Nat) : (empty capacity maxEntries).Coherent where
  distinct := List.nodup_nil
  queued := List.Perm.refl _
  counted := rfl

namespace Coherent

/-- A key that is present is forgotten in all three records. -/
theorem forget (coherent : s.Coherent) (found : s.entries.get? key = some value)
    {order : List Key} (queue : order ~ s.order.filter (· ≠ key)) :
    Coherent { s with
      entries := s.entries.erase key
      order := order
      used := s.used - cost key value } where
  distinct := by
    rw [Dictionary.keys_erase]
    exact coherent.distinct.filter _
  queued := by
    rw [Dictionary.keys_erase]
    exact queue.trans (coherent.queued.filter _)
  counted := by
    have bytes := Dictionary.bytes_of_get? coherent.distinct found
    have counted := coherent.counted
    change s.used - cost key value = (s.entries.erase key).bytes
    omega

/-- The key in front of the queue is present. -/
theorem get?_front (coherent : s.Coherent) {oldest : Key} {rest : List Key}
    (front : s.order = oldest :: rest) : ∃ value, s.entries.get? oldest = some value := by
  have queuedMem : oldest ∈ s.entries.keys :=
    coherent.queued.subset (front ▸ List.mem_cons_self)
  rw [← Option.ne_none_iff_exists']
  exact fun absent => Dictionary.get?_eq_none_iff.mp absent queuedMem

theorem filter_front (coherent : s.Coherent) {oldest : Key} {rest : List Key}
    (front : s.order = oldest :: rest) : s.order.filter (· ≠ oldest) = rest := by
  have distinct : (oldest :: rest).Nodup := by
    rw [← front]
    exact coherent.queued.nodup_iff.mpr coherent.distinct
  have apart : ∀ other ∈ rest, other ≠ oldest := by
    rintro other otherMem rfl
    exact (List.nodup_cons.mp distinct).1 otherMem
  rw [front, List.filter_cons_of_neg (by simp), List.filter_eq_self.mpr]
  intro other otherMem
  exact decide_eq_true (apart other otherMem)

theorem evict (coherent : s.Coherent) {oldest : Key} {rest : List Key}
    (front : s.order = oldest :: rest) : (s.evict oldest rest).Coherent := by
  obtain ⟨value, found⟩ := coherent.get?_front front
  simp only [Segment.evict, found]
  exact coherent.forget found (List.Perm.of_eq (coherent.filter_front front).symm)

theorem makeRoom (coherent : s.Coherent) (bytes : Nat) {queue : List Key}
    (whole : s.order = queue) : (makeRoom bytes queue s).Coherent := by
  induction queue generalizing s with
  | nil => exact coherent
  | cons oldest rest ih =>
      simp only [Segment.makeRoom]
      split
      · exact ih (coherent.evict whole) (order_evict oldest rest s)
      · exact coherent

/-- A segment whose queue is empty is empty, so that a buffer fits if it fits at all. -/
theorem isFull_of_nothing (coherent : s.Coherent) (nothing : s.order = []) {bytes : Nat}
    (fits : bytes ≤ s.capacity) (room : 0 < s.maxEntries) : s.isFull bytes = false := by
  have noKeys : s.entries.keys = [] := (nothing ▸ coherent.queued).nil_eq.symm
  have noPairs : s.entries.pairs = [] := List.map_eq_nil_iff.mp noKeys
  have unused : s.used = 0 := by
    rw [coherent.counted, Dictionary.bytes, noPairs]
    rfl
  simp [isFull, Dictionary.size, noPairs, unused]
  omega

/-- A buffer that fits an empty segment fits after room was made for it. -/
theorem isFull_makeRoom (coherent : s.Coherent) {bytes : Nat} (fits : bytes ≤ s.capacity)
    (room : 0 < s.maxEntries) {queue : List Key} (whole : s.order = queue) :
    (Segment.makeRoom bytes queue s).isFull bytes = false := by
  induction queue generalizing s with
  | nil => exact coherent.isFull_of_nothing whole fits room
  | cons oldest rest ih =>
      simp only [Segment.makeRoom]
      split
      · exact ih (coherent.evict whole) (by simpa using fits) (by simpa using room)
          (order_evict oldest rest s)
      · next notFull => simpa using notFull

theorem push (coherent : s.Coherent) (absent : s.entries.get? key = none) (value : Value) :
    (s.push key value).Coherent := by
  have keys : (s.entries.insert key value).keys = key :: s.entries.keys := by
    rw [Dictionary.insert, Dictionary.erase_of_absent absent]
    rfl
  have bytes : (s.entries.insert key value).bytes = cost key value + s.entries.bytes := by
    rw [Dictionary.insert, Dictionary.erase_of_absent absent]
    rfl
  refine ⟨?_, ?_, ?_⟩
  · change (s.entries.insert key value).keys.Nodup
    rw [keys]
    exact coherent.distinct.cons (Dictionary.get?_eq_none_iff.mp absent)
  · change s.order ++ [key] ~ (s.entries.insert key value).keys
    rw [keys]
    exact (List.perm_append_singleton key s.order).trans (coherent.queued.cons key)
  · change s.used + cost key value = (s.entries.insert key value).bytes
    rw [bytes, coherent.counted, Nat.add_comm]

end Coherent

/-! ## Bounds -/

/-- The records agree, and the segment is within its bounds. -/
structure Sound (s : Segment) : Prop where
  coherent : s.Coherent
  used_le : s.used ≤ s.capacity
  size_le : s.size ≤ s.maxEntries

theorem sound_empty (capacity maxEntries : Nat) : (empty capacity maxEntries).Sound where
  coherent := coherent_empty capacity maxEntries
  used_le := Nat.zero_le _
  size_le := Nat.zero_le _

namespace Sound

/-- A key that is present is forgotten, and the segment is smaller. -/
theorem forget (sound : s.Sound) (found : s.entries.get? key = some value) {order : List Key}
    (queue : order ~ s.order.filter (· ≠ key)) :
    Sound { s with
      entries := s.entries.erase key
      order := order
      used := s.used - cost key value } where
  coherent := sound.coherent.forget found queue
  used_le := Nat.le_trans (Nat.sub_le _ _) sound.used_le
  size_le := by
    have one : s.size = (s.entries.erase key).size + 1 :=
      Dictionary.size_of_get? sound.coherent.distinct found
    have before := sound.size_le
    rw [one] at before
    exact Nat.le_of_succ_le before

theorem remove (sound : s.Sound) (key : Key) : (s.remove key).2.Sound := by
  unfold Segment.remove
  split
  · next found => exact sound.forget found (List.Perm.refl _)
  · exact sound

theorem evict (sound : s.Sound) {oldest : Key} {rest : List Key}
    (front : s.order = oldest :: rest) : (s.evict oldest rest).Sound := by
  rcases sound.coherent.get?_front front with ⟨value, found⟩
  simp only [Segment.evict, found]
  exact sound.forget found (List.Perm.of_eq (sound.coherent.filter_front front).symm)

/-- What is added where it fits leaves the segment within its bounds. -/
theorem push (coherent : s.Coherent) (absent : s.entries.get? key = none)
    (notFull : s.isFull (cost key value) = false) : (s.push key value).Sound where
  coherent := coherent.push absent value
  used_le := by
    simp only [isFull, Bool.or_eq_false_iff, decide_eq_false_iff_not] at notFull
    change s.used + cost key value ≤ s.capacity
    omega
  size_le := by
    simp only [isFull, Bool.or_eq_false_iff, decide_eq_false_iff_not] at notFull
    have one : (s.push key value).size = s.entries.size + 1 := by
      unfold Segment.push size
      rw [Dictionary.insert, Dictionary.erase_of_absent absent]
      rfl
    rw [one]
    change s.entries.size + 1 ≤ s.maxEntries
    omega

theorem insert (sound : s.Sound) (room : 0 < s.maxEntries) (key : Key) (value : Value) :
    (s.insert key value).2.Sound := by
  have removed := sound.remove key
  have absent : (s.remove key).2.get? key = none := by rw [get?_remove, if_pos rfl]
  have bound : 0 < (s.remove key).2.maxEntries := by rwa [maxEntries_remove]
  unfold Segment.insert
  dsimp only
  split
  · exact removed
  · next fits =>
      apply push (removed.coherent.makeRoom _ rfl)
      · exact get?_makeRoom_eq_none absent _ _
      · exact removed.coherent.isFull_makeRoom (by simpa using fits) bound rfl

end Sound

@[simp]
theorem maxEntries_insert (key : Key) (value : Value) (s : Segment) :
    (s.insert key value).2.maxEntries = s.maxEntries := by
  unfold insert
  split
  · exact maxEntries_remove key s
  · exact (maxEntries_makeRoom _ _ _).trans (maxEntries_remove key s)

/-! ## Runs -/

theorem bounds_perform (access : Access) (s : Segment) :
    (s.perform access).2.capacity = s.capacity ∧
      (s.perform access).2.maxEntries = s.maxEntries := by
  cases access with
  | set key value => exact ⟨capacity_insert key value s, maxEntries_insert key value s⟩
  | get key | contains key => exact ⟨rfl, rfl⟩
  | remove key => exact ⟨capacity_remove key s, maxEntries_remove key s⟩

theorem bounds_run (accesses : List Access) (s : Segment) :
    (s.run accesses).2.capacity = s.capacity ∧ (s.run accesses).2.maxEntries = s.maxEntries := by
  induction accesses generalizing s with
  | nil => exact ⟨rfl, rfl⟩
  | cons access rest ih =>
      obtain ⟨capacity, maxEntries⟩ := bounds_perform access s
      rw [snd_run_cons, ← capacity, ← maxEntries]
      exact ih _

theorem Sound.perform (sound : s.Sound) (room : 0 < s.maxEntries) (access : Access) :
    (s.perform access).2.Sound := by
  cases access with
  | set key value => exact sound.insert room key value
  | get key | contains key => exact sound
  | remove key => exact sound.remove key

theorem Sound.run (sound : s.Sound) (room : 0 < s.maxEntries) (accesses : List Access) :
    (s.run accesses).2.Sound := by
  induction accesses generalizing s with
  | nil => exact sound
  | cons access rest ih =>
      rw [snd_run_cons]
      apply ih (sound.perform room access)
      rwa [(bounds_perform access s).2]

end Segment

end CacheDepot.Buffer
