import CacheDepot.Proofs.Buffer.Lookup

/-!
# Segments on their own

What becomes of a segment while a cache is in use is what becomes of it when it is
put through the accesses to its own keys alone, in the same order. Accesses to the
keys of other segments leave no trace in it. The counts of reads are shared by all
segments; they count the answers to reads, wherever the keys belong.
-/

namespace CacheDepot.Buffer

namespace Answer

/-- A read that found something. Nothing but a read is answered with a buffer. -/
def isHit : Answer → Bool
  | .buffer (some _) => true
  | _ => false

/-- A read that found nothing. -/
def isMiss : Answer → Bool
  | .buffer none => true
  | _ => false

end Answer

namespace Segment

/-- An access to a segment that is no part of a cache. -/
def perform (access : Access) (s : Segment) : Answer × Segment :=
  match access with
  | .set key value =>
      let (stored, next) := s.insert key value
      (.flag stored, next)
  | .get key => (.buffer (s.get? key), s)
  | .contains key => (.flag (s.contains key), s)
  | .remove key =>
      let (removed, next) := s.remove key
      (.flag removed, next)

/-- The answers to accesses in order, and the segment after them. -/
def run : List Access → Segment → List Answer × Segment
  | [], s => ([], s)
  | access :: rest, s =>
      let (answer, next) := s.perform access
      let (answers, last) := run rest next
      (answer :: answers, last)

@[simp]
theorem run_nil (s : Segment) : s.run [] = ([], s) := rfl

theorem snd_run_cons (access : Access) (rest : List Access) (s : Segment) :
    (s.run (access :: rest)).2 = ((s.perform access).2.run rest).2 := rfl

/-- Nothing is found under a key unless it was there or something was stored under it. -/
theorem get?_perform_eq_none {key : Key} {s : Segment} {access : Access}
    (absent : s.get? key = none) (unwritten : ∀ value, access ≠ .set key value) :
    (s.perform access).2.get? key = none := by
  cases access with
  | set other stored =>
      have different : key ≠ other := by
        rintro rfl
        exact unwritten stored rfl
      rw [Option.eq_none_iff_forall_not_mem]
      intro value found
      have before : s.get? key = some value := get?_of_get?_insert different found
      rw [absent] at before
      contradiction
  | get other => exact absent
  | contains other => exact absent
  | remove other =>
      change (s.remove other).2.get? key = none
      rw [get?_remove, absent, ite_self]

theorem get?_run_eq_none {key : Key} {s : Segment} {accesses : List Access}
    (absent : s.get? key = none) (unwritten : ∀ value, Access.set key value ∉ accesses) :
    (s.run accesses).2.get? key = none := by
  induction accesses generalizing s with
  | nil => exact absent
  | cons access rest ih =>
      rw [snd_run_cons]
      apply ih
      · apply get?_perform_eq_none absent
        rintro value rfl
        exact unwritten value List.mem_cons_self
      · intro value setMem
        exact unwritten value (List.mem_cons_of_mem access setMem)

end Segment

namespace Cache

/-! ## One access -/

/-- An access is answered by the segment of its key. -/
theorem fst_perform {access : Access} {cache : Cache} {segment : Segment}
    (present : cache.segment? access.key = some segment) :
    (cache.perform access).1 = (segment.perform access).1 := by
  cases access with
  | set key value | remove key =>
      change cache.segment? key = some segment at present
      simp only [perform, set, remove, changeSegment, present, Segment.perform]
  | get key =>
      change cache.segment? key = some segment at present
      simp only [perform, fst_get, find?, present, Option.bind_some, Segment.perform]
  | contains key =>
      change cache.segment? key = some segment at present
      simp only [perform, contains, present, Segment.perform]

theorem getElem?_segments_changeSegment (key : Key) (act : Segment → Bool × Segment)
    (cache : Cache) (number : Nat) :
    (cache.changeSegment key act).2.segments[number]? =
      if cache.segmentIndex key = number then
        cache.segments[number]?.map fun segment => (act segment).2
      else cache.segments[number]? := by
  unfold changeSegment segment?
  by_cases own : cache.segmentIndex key = number
  · subst own
    rw [if_pos rfl]
    cases present : cache.segments[cache.segmentIndex key]? with
    | none => simp [present]
    | some segment =>
        have bound := (Array.getElem?_eq_some_iff.mp present).1
        simp [bound]
  · rw [if_neg own]
    cases present : cache.segments[cache.segmentIndex key]? with
    | none => rfl
    | some segment => simp [own]

/-- An access changes the segment of its key, and no other. -/
theorem getElem?_segments_perform (access : Access) (cache : Cache) (number : Nat) :
    (cache.perform access).2.segments[number]? =
      if cache.segmentIndex access.key = number then
        cache.segments[number]?.map fun segment => (segment.perform access).2
      else cache.segments[number]? := by
  cases access with
  | set key value => exact getElem?_segments_changeSegment key _ cache number
  | remove key => exact getElem?_segments_changeSegment key _ cache number
  | get key =>
      have same : (cache.get key).2.segments = cache.segments := by
        unfold get
        split <;> rfl
      simp [perform, same, Segment.perform]
  | contains key => simp [perform, Segment.perform]

theorem size_segments_perform (access : Access) (cache : Cache) :
    (cache.perform access).2.segments.size = cache.segments.size := by
  cases access with
  | set key value | remove key =>
      simp only [perform, set, remove, changeSegment]
      split <;> simp
  | get key =>
      simp only [perform, get]
      split <;> rfl
  | contains key => rfl

theorem segmentIndex_perform (key : Key) (access : Access) (cache : Cache) :
    (cache.perform access).2.segmentIndex key = cache.segmentIndex key := by
  unfold segmentIndex
  rw [size_segments_perform]

/-- An access changes segments, and an answer to a read is counted. -/
theorem snd_perform_counting (access : Access) (cache : Cache) :
    (cache.perform access).2 =
      { cache with
        segments := (cache.perform access).2.segments
        hits := cache.hits + (cache.perform access).1.isHit.toNat
        misses := cache.misses + (cache.perform access).1.isMiss.toNat } := by
  cases access with
  | set key value | remove key =>
      simp only [perform, set, remove, changeSegment]
      split <;> rfl
  | get key =>
      simp only [perform, get]
      split <;> rfl
  | contains key => rfl

theorem hits_perform (access : Access) (cache : Cache) :
    (cache.perform access).2.hits = cache.hits + (cache.perform access).1.isHit.toNat :=
  congrArg Cache.hits (snd_perform_counting access cache)

theorem misses_perform (access : Access) (cache : Cache) :
    (cache.perform access).2.misses = cache.misses + (cache.perform access).1.isMiss.toNat :=
  congrArg Cache.misses (snd_perform_counting access cache)

/-- An access changes segments and counts, and nothing else. -/
theorem snd_perform_eq (access : Access) (cache : Cache) :
    (cache.perform access).2 =
      { cache with
        segments := (cache.perform access).2.segments
        hits := (cache.perform access).2.hits
        misses := (cache.perform access).2.misses } := by
  rw [hits_perform, misses_perform]
  exact snd_perform_counting access cache

/-! ## Runs -/

theorem size_segments_run (accesses : List Access) (cache : Cache) :
    (cache.run accesses).2.segments.size = cache.segments.size := by
  induction accesses generalizing cache with
  | nil => rfl
  | cons access rest ih => exact (ih _).trans (size_segments_perform access cache)

theorem segmentIndex_run (key : Key) (accesses : List Access) (cache : Cache) :
    (cache.run accesses).2.segmentIndex key = cache.segmentIndex key := by
  unfold segmentIndex
  rw [size_segments_run]

/-- A segment of a cache in use is that segment after the accesses to its own keys. -/
theorem getElem?_segments_run (accesses : List Access) (cache : Cache) (number : Nat) :
    (cache.run accesses).2.segments[number]? =
      cache.segments[number]?.map fun segment =>
        (segment.run (accesses.filter fun access => cache.segmentIndex access.key = number)).2 := by
  induction accesses generalizing cache with
  | nil => simp [run]
  | cons access rest ih =>
      change ((cache.perform access).2.run rest).2.segments[number]? = _
      rw [ih, getElem?_segments_perform]
      simp only [segmentIndex_perform]
      split
      · next own =>
          rw [List.filter_cons_of_pos (by simpa using own), Option.map_map]
          rfl
      · next other => rw [List.filter_cons_of_neg (by simpa using other)]

/-- What goes up by one with every answer of a kind counts the answers of that kind. -/
theorem counter_run {counter : Cache → Nat} {counted : Answer → Bool}
    (counts : ∀ access cache, counter (cache.perform access).2 =
      counter cache + (counted (cache.perform access).1).toNat)
    (accesses : List Access) (cache : Cache) :
    counter (cache.run accesses).2 =
      counter cache + (cache.run accesses).1.countP counted := by
  induction accesses generalizing cache with
  | nil => rfl
  | cons access rest ih =>
      simp only [run]
      rw [ih, counts, List.countP_cons]
      cases counted (cache.perform access).1 with
      | false => rfl
      | true =>
          rw [if_pos rfl, Bool.toNat_true]
          omega

theorem hits_run (accesses : List Access) (cache : Cache) :
    (cache.run accesses).2.hits = cache.hits + (cache.run accesses).1.countP Answer.isHit :=
  counter_run hits_perform accesses cache

theorem misses_run (accesses : List Access) (cache : Cache) :
    (cache.run accesses).2.misses =
      cache.misses + (cache.run accesses).1.countP Answer.isMiss :=
  counter_run misses_perform accesses cache

end Cache

end CacheDepot.Buffer
