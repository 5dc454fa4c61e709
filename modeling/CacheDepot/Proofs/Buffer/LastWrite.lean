import CacheDepot.Proofs.Buffer.Construction
import CacheDepot.Proofs.Buffer.Lookup
import Mathlib.Data.List.Induction

/-!
# Reads and the last write

What a cache answers to a read is what was stored last under that very key: not a
value from before it was forgotten, replaced or refused, and not the value of
another key. Reads may find nothing, since buffers are evicted; they never find
anything else.
-/

namespace CacheDepot.Buffer

open Memory (Allocator Arena)

/-- The access stores something under a key or forgets it. -/
def Access.writes (key : Key) : Access → Bool
  | .set other _ => other = key
  | .remove other => other = key
  | .get _ => false
  | .contains _ => false

/-- The last access to store something under a key or to forget it, with the answer to it. -/
def lastWrite? (key : Key) (history : List (Access × Answer)) : Option (Access × Answer) :=
  (history.filter fun entry => entry.1.writes key).getLast?

theorem lastWrite?_concat (key : Key) (history : List (Access × Answer))
    (entry : Access × Answer) :
    lastWrite? key (history ++ [entry]) =
      if entry.1.writes key then some entry else lastWrite? key history := by
  unfold lastWrite?
  rw [List.filter_append]
  by_cases writes : entry.1.writes key
  · simp [writes]
  · simp [writes]

namespace Cache

/-- Accesses in order, each with the answer to it. -/
def record (accesses : List Access) (cache : Cache) : List (Access × Answer) :=
  accesses.zip (cache.run accesses).1

theorem run_append (first second : List Access) (cache : Cache) :
    cache.run (first ++ second) =
      ((cache.run first).1 ++ ((cache.run first).2.run second).1,
        ((cache.run first).2.run second).2) := by
  induction first generalizing cache with
  | nil => rfl
  | cons access rest ih => simp only [List.cons_append, run, ih]

theorem length_fst_run (accesses : List Access) (cache : Cache) :
    (cache.run accesses).1.length = accesses.length := by
  induction accesses generalizing cache with
  | nil => rfl
  | cons access rest ih => simp only [run, List.length_cons, ih]

theorem record_concat (accesses : List Access) (access : Access) (cache : Cache) :
    cache.record (accesses ++ [access]) =
      cache.record accesses ++ [(access, ((cache.run accesses).2.perform access).1)] := by
  unfold record
  rw [run_append, List.zip_append (length_fst_run accesses cache).symm]
  rfl

theorem snd_run_concat (accesses : List Access) (access : Access) (cache : Cache) :
    (cache.run (accesses ++ [access])).2 = ((cache.run accesses).2.perform access).2 := by
  rw [run_append]
  rfl

variable {capacity : Nat} {cache : Cache}

/-- The invariant of the runs of a cache that starts without buffers. -/
theorem lastWrite?_of_find? (uniform : cache.Uniform capacity)
    (vacant : ∀ key, cache.find? key = none) (accesses : List Access) {key : Key} {value : Value}
    (found : (cache.run accesses).2.find? key = some value) :
    lastWrite? key (cache.record accesses) = some (.set key value, .flag true) := by
  induction accesses using List.reverseRecOn with
  | nil =>
      have nothing : cache.find? key = none := vacant key
      exact absurd (nothing.symm.trans found) (by simp)
  | append_singleton earlier access ih =>
      have between : ((cache.run earlier).2).Uniform capacity := uniform.run earlier
      rw [record_concat, lastWrite?_concat]
      rw [snd_run_concat] at found
      cases access with
      | set other stored =>
          by_cases same : other = key
          · subst other
            have kept : (if cost key stored ≤ capacity then some stored else none) = some value :=
              (between.find?_set_self key stored).symm.trans found
            split at kept
            · next fits =>
                obtain rfl : stored = value := Option.some.inj kept
                simp [Access.writes, perform, between.fst_set, fits]
            · contradiction
          · simp only [Access.writes, same, decide_false, Bool.false_eq_true, if_false]
            exact ih (find?_of_find?_set (Ne.symm same) found)
      | get other =>
          simp only [Access.writes, Bool.false_eq_true, if_false]
          exact ih ((find?_get key other _).symm.trans found)
      | contains other =>
          simp only [Access.writes, Bool.false_eq_true, if_false]
          exact ih found
      | remove other =>
          have kept : (if key = other then none else (cache.run earlier).2.find? key) =
              some value := (find?_remove key other _).symm.trans found
          split at kept
          · contradiction
          · next different =>
              simp only [Access.writes, Ne.symm different, decide_false, Bool.false_eq_true,
                if_false]
              exact ih kept

/-- What is found under a key was there before, as long as nothing is stored under it. -/
theorem find?_of_find?_run {cache : Cache} {key : Key} {later : List Access}
    (unwritten : ∀ value, Access.set key value ∉ later) {value : Value}
    (found : (cache.run later).2.find? key = some value) : cache.find? key = some value := by
  induction later generalizing cache with
  | nil => exact found
  | cons access rest ih =>
      have after : (cache.perform access).2.find? key = some value :=
        ih (fun other otherMem => unwritten other (List.mem_cons_of_mem access otherMem)) found
      cases access with
      | set other stored =>
          have different : key ≠ other := by
            rintro rfl
            exact unwritten stored List.mem_cons_self
          exact find?_of_find?_set different after
      | get other => exact (find?_get key other cache).symm.trans after
      | contains other => exact after
      | remove other =>
          have kept : (if key = other then none else cache.find? key) = some value :=
            (find?_remove key other cache).symm.trans after
          split at kept
          · contradiction
          · exact kept

theorem fst_perform_get (key : Key) (cache : Cache) :
    (cache.perform (.get key)).1 = .buffer (cache.find? key) :=
  congrArg Answer.buffer (fst_get key cache)

namespace Built

variable {arena : Arena} {total directory : UInt64} {threadSafe : Bool} {cache : Cache}
  (built : cache.Built arena total directory threadSafe)
include built

theorem uniform : cache.Uniform cache.layout.dataPerSegment where
  nonempty := by
    rw [built.size_segments]
    exact cache.layout_segments_pos
  capacity segment segmentMem := by
    rw [built.eq_of_mem_segments segmentMem]
    rfl

theorem find?_eq_none (key : Key) : cache.find? key = none := by
  obtain ⟨segment, present, -⟩ := built.uniform.segment?_eq_some key
  have blank := built.eq_of_mem_segments (Array.mem_of_getElem? present)
  unfold find?
  rw [present, blank]
  rfl

end Built

/-- A read finds what the last write under its key stored, and that write was accepted. What was
evicted stays away until something is stored again. A buffer is accepted if and only if it fits the
data of one segment, and is found right afterwards. -/
theorem get_finds_last_write {arena : Arena} {total directory : UInt64} {threadSafe : Bool}
    {a next : Allocator} {cache : Cache}
    (created : create arena total directory threadSafe a = (.ok cache, next))
    (earlier : List Access) (key : Key) :
    (∀ value, ((cache.run earlier).2.perform (.get key)).1 = .buffer (some value) →
      lastWrite? key (cache.record earlier) = some (.set key value, .flag true)) ∧
    (∀ later, (∀ value, Access.set key value ∉ later) →
      ((cache.run earlier).2.perform (.get key)).1 = .buffer none →
      ((cache.run (earlier ++ later)).2.perform (.get key)).1 = .buffer none) ∧
    (∀ value, ((cache.run earlier).2.perform (.set key value)).1 = .flag true ↔
      key.size + value.size ≤
        (Layout.divide total.toNat directory.toNat threadSafe).dataPerSegment) ∧
    ∀ value, ((cache.run earlier).2.perform (.set key value)).1 = .flag true →
      ((cache.run (earlier ++ [.set key value])).2.perform (.get key)).1 =
        .buffer (some value) := by
  have built := built_of_create created
  have uniform := built.uniform.run earlier
  have accepted : ∀ value, ((cache.run earlier).2.perform (.set key value)).1 = .flag true ↔
      cost key value ≤ cache.layout.dataPerSegment := by
    intro value
    simp [perform, uniform.fst_set]
  refine ⟨?_, ?_, ?_, ?_⟩
  · intro value found
    rw [fst_perform_get] at found
    exact lastWrite?_of_find? built.uniform built.find?_eq_none earlier (Answer.buffer.inj found)
  · intro later unwritten missing
    rw [fst_perform_get] at missing ⊢
    rw [run_append]
    cases found : ((cache.run earlier).2.run later).2.find? key with
    | none => rfl
    | some value =>
        have before := find?_of_find?_run unwritten found
        rw [Answer.buffer.inj missing] at before
        contradiction
  · intro value
    rw [accepted value, ← built.layout_eq]
    rfl
  · intro value stored
    have fits := (accepted value).mp stored
    rw [fst_perform_get, snd_run_concat]
    exact congrArg Answer.buffer ((uniform.find?_set_self key value).trans (if_pos fits))

/-- In a cache of one segment for one entry, the second key drives out the first. -/
theorem get_finds_last_write_of_two_keys :
    let cache : Cache :=
      { segments := #[Segment.empty 936 1], totalSize := 1000, directorySize := 62,
        threadSafe := true, arena := ⟨320⟩ }
    let first : Key := ⟨#[97]⟩
    let second : Key := ⟨#[98]⟩
    let history := [Access.set first ⟨#[1]⟩, .set second ⟨#[2]⟩]
    create ⟨0⟩ 1000 62 true { inUse := 8192 } = (.ok cache, { inUse := 8512 }) ∧
    lastWrite? second (cache.record history) = some (.set second ⟨#[2]⟩, .flag true) ∧
    ((cache.run history).2.perform (.get first)).1 = .buffer none := by
  intro cache first second history
  have created : create ⟨0⟩ 1000 62 true { inUse := 8192 } = (.ok cache, { inUse := 8512 }) := rfl
  refine ⟨created, ?_, by decide +kernel⟩
  exact (get_finds_last_write created history second).1 ⟨#[2]⟩ (by decide +kernel)

end Cache

end CacheDepot.Buffer
