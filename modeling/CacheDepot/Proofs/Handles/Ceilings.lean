import CacheDepot.Proofs.Handles.History

/-!
# Caches of different size

Two handle caches are told the same, one of which may keep more handles than the other.
As long as every path that is asked for can be opened, the smaller one keeps handles of
the paths at the young end of what the larger one keeps. The handles themselves differ,
since the larger cache lends again what the smaller one has to open anew; but both lend
for the same paths, so what comes back to them is alike.
-/

namespace CacheDepot.Handles

open Files (Tree)

/-! ## What a cache hears of paths -/

/-- An event without the handle in it. -/
inductive Cue where
  | asked (path : String)
  | returned (path : String)
  | flushed
  deriving DecidableEq, Repr

def Event.cue : Event → Cue
  | asked path => .asked path
  | returned loan => .returned loan.path
  | flushed => .flushed

/-- Paths without the last one that is the same as a path. -/
def withoutLast (path : String) (paths : List String) : List String :=
  (paths.reverse.eraseP (Files.samePath · path)).reverse

theorem withoutLast_split {path kept : String} {before behind : List String}
    (same : Files.samePath kept path) (last : ∀ other ∈ behind, ¬ Files.samePath other path) :
    withoutLast path (before ++ kept :: behind) = before ++ behind := by
  have absent : ∀ other ∈ behind.reverse, ¬ Files.samePath other path := by simpa using last
  rw [withoutLast, List.reverse_append, List.reverse_cons, List.append_assoc,
    List.eraseP_append_right _ absent, List.singleton_append,
    List.eraseP_cons_of_pos (p := (Files.samePath · path)) same, List.reverse_append,
    List.reverse_reverse, List.reverse_reverse]

theorem withoutLast_of_absent {path : String} {paths : List String}
    (absent : ∀ other ∈ paths, ¬ Files.samePath other path) : withoutLast path paths = paths := by
  rw [withoutLast, List.eraseP_of_forall_not (by simpa using absent), List.reverse_reverse]

/-- What is taken is taken from the young end if there is something to take. -/
theorem withoutLast_suffix {young all : List String} (suffix : young <:+ all) (path : String) :
    withoutLast path young <:+ withoutLast path all := by
  rcases suffix with ⟨older, rfl⟩
  rw [withoutLast, withoutLast, List.reverse_append, List.reverse_suffix]
  by_cases present : ∃ kept ∈ young.reverse, Files.samePath kept path
  · rcases present with ⟨kept, keptMem, same⟩
    rw [List.eraseP_append_left (p := (Files.samePath · path)) same _ keptMem]
    exact List.prefix_append _ _
  · have absent : ∀ kept ∈ young.reverse, ¬ Files.samePath kept path :=
      fun kept keptMem same => present ⟨kept, keptMem, same⟩
    rw [List.eraseP_append_right _ absent, List.eraseP_of_forall_not absent]
    exact List.prefix_append _ _

namespace Cache

/-- The paths of the handles kept, in order. -/
def keptPaths (cache : Cache) : List String :=
  cache.idle.map Loan.path

theorem keptPaths_asked (path : String) (cache : Cache) :
    (cache.asked path).keptPaths = withoutLast path cache.keptPaths := by
  unfold asked keptPaths
  cases found : takeLast? path cache.idle with
  | none =>
      have absent := takeLast?_eq_none.mp found
      rw [withoutLast_of_absent (by simpa using absent)]
  | some taken =>
      rcases takeLast?_eq_some_split found with ⟨before, kept, behind, split, others, -, same, last⟩
      dsimp only
      rw [split, others, List.map_append, List.map_append, List.map_cons,
        withoutLast_split same (by simpa using last)]

/-- No more handles are kept than allowed. -/
def Bounded (cache : Cache) : Prop :=
  cache.idle.length ≤ cache.maxHandles.toNat

theorem Bounded.hear {cache : Cache} (bounded : cache.Bounded) (event : Event) :
    (cache.hear event).Bounded := by
  unfold Bounded at bounded ⊢
  rw [maxHandles_hear]
  cases event with
  | asked path =>
      simp only [Cache.hear, asked]
      split
      · next found =>
          rcases takeLast?_eq_some found with ⟨kept, -, -, perm⟩
          rw [perm.length_eq] at bounded
          exact Nat.le_of_succ_le bounded
      · exact bounded
  | returned loan => exact length_idle_giveBack loan bounded
  | flushed => exact Nat.zero_le _

theorem keptPaths_giveBack {cache : Cache} (bounded : cache.Bounded) (loan : Loan) :
    (cache.giveBack loan).keptPaths =
      (cache.keptPaths ++ [loan.path]).drop
        (cache.keptPaths.length + 1 - cache.maxHandles.toNat) := by
  unfold giveBack keptPaths
  split
  · next none =>
      unfold Bounded at bounded
      rw [none, UInt64.toNat_zero, Nat.le_zero] at bounded
      rw [List.eq_nil_of_length_eq_zero bounded, none]
      rfl
  · rw [List.map_drop, List.map_append, List.length_append, List.length_map]
    rfl

/-- The smaller cache keeps handles of the paths at the young end of the larger one, and has had no
more hits. -/
structure Within (small large : Cache) : Prop where
  fewer : small.maxHandles ≤ large.maxHandles
  bounded : small.Bounded
  largeBounded : large.Bounded
  young : small.keptPaths <:+ large.keptPaths
  hits : small.hits ≤ large.hits

namespace Within

variable {small large : Cache} (within : small.Within large)
include within

/-- What is a hit in the smaller cache is one in the larger cache. -/
theorem hits_asked (path : String) :
    (small.asked path).hits = small.hits ∨
      (small.asked path).hits = small.hits + 1 ∧ (large.asked path).hits = large.hits + 1 := by
  have counts := small.counts_asked path
  have largeCounts := large.counts_asked path
  by_cases hit : ∃ kept ∈ small.idle, Files.samePath kept.path path
  · rw [if_pos hit] at counts
    rcases hit with ⟨kept, keptMem, same⟩
    rcases List.mem_map.mp (within.young.subset (List.mem_map_of_mem keptMem)) with
      ⟨other, otherMem, samePath⟩
    rw [if_pos ⟨other, otherMem, samePath ▸ same⟩] at largeCounts
    exact Or.inr ⟨counts.1, largeCounts.1⟩
  · rw [if_neg hit] at counts
    exact Or.inl counts.1

theorem hits_asked_le (path : String) : (small.asked path).hits ≤ (large.asked path).hits := by
  have before := within.hits
  rcases within.hits_asked path with missed | ⟨hit, largeHit⟩
  · have counts := large.counts_asked path
    split at counts <;> omega
  · omega

/-- Either cache keeps the young end of what it kept with the path that came back behind it, and the
larger one keeps at least as much. -/
theorem young_giveBack {loan other : Loan} (same : loan.path = other.path) :
    (small.giveBack loan).keptPaths <:+ (large.giveBack other).keptPaths := by
  rw [keptPaths_giveBack within.bounded, keptPaths_giveBack within.largeBounded, same]
  have fewer := UInt64.le_iff_toNat_le.mp within.fewer
  have shorter := within.young.length_le
  rcases within.young with ⟨older, split⟩
  have joined : older ++ (small.keptPaths ++ [other.path]) = large.keptPaths ++ [other.path] := by
    rw [← split, List.append_assoc]
  apply List.suffix_of_suffix_length_le ((List.drop_suffix _ _).trans ⟨older, joined⟩)
    (List.drop_suffix _ _)
  simp only [List.length_drop, List.length_append, List.length_singleton]
  omega

theorem young_hear : ∀ {event other : Event}, event.cue = other.cue →
    (small.hear event).keptPaths <:+ (large.hear other).keptPaths
  | .asked path, .asked _, rfl => by
      rw [Cache.hear, Cache.hear, keptPaths_asked, keptPaths_asked]
      exact withoutLast_suffix within.young path
  | .returned _, .returned _, same => within.young_giveBack (Cue.returned.inj same)
  | .flushed, .flushed, _ => List.nil_suffix

theorem hits_hear_le : ∀ {event other : Event}, event.cue = other.cue →
    (small.hear event).hits ≤ (large.hear other).hits
  | .asked path, .asked _, rfl => within.hits_asked_le path
  | .returned loan, .returned other, _ => by
      have same := (counts_hear_of_unasked (rfl : (Event.returned loan).path? = none) small).1
      have largeSame := (counts_hear_of_unasked (rfl : (Event.returned other).path? = none) large).1
      rw [same, largeSame]
      exact within.hits
  | .flushed, .flushed, _ => within.hits

theorem hear {event other : Event} (same : event.cue = other.cue) :
    (small.hear event).Within (large.hear other) where
  fewer := by
    rw [maxHandles_hear, maxHandles_hear]
    exact within.fewer
  bounded := within.bounded.hear event
  largeBounded := within.largeBounded.hear other
  young := within.young_hear same
  hits := within.hits_hear_le same

omit within in
theorem foldl_hear {events others : List Event} (within : small.Within large)
    (same : events.map Event.cue = others.map Event.cue) :
    (events.foldl Cache.hear small).Within (others.foldl Cache.hear large) := by
  induction events generalizing others small large with
  | nil =>
      rw [List.map_eq_nil_iff.mp same.symm]
      exact within
  | cons event rest ih =>
      cases others with
      | nil => cases same
      | cons other more =>
          rcases List.cons.inj same with ⟨first, later⟩
          rw [List.foldl_cons, List.foldl_cons]
          exact ih (within.hear first) later

end Within

end Cache

/-! ## What sessions tell their caches -/

/-- Whether a path could not be opened. -/
def Outcome.isRefused : Outcome → Bool
  | .refused _ => true
  | _ => false

namespace Session

variable {operation : Operation} {s t : Session}

/-- The path of the loan in each slot. -/
def lentPaths (s : Session) (slot : String) : Option String :=
  (s.loan? slot).map Loan.path

/-- What a cache hears of an operation that is not refused, if loans of those paths are out. -/
def cues (lent : String → Option String) : Operation → List Cue
  | .borrow slot path => .asked path :: ((lent slot).map Cue.returned).toList
  | .touch path _ => [.asked path, .returned path]
  | .giveBack slot => ((lent slot).map Cue.returned).toList
  | .flush => [.flushed]
  | _ => []

/-- The paths of the loans that are out after an operation that is not refused. -/
def lentAfter (lent : String → Option String) : Operation → String → Option String
  | .borrow slot path => Function.update lent slot (some path)
  | .giveBack slot => Function.update lent slot none
  | _ => lent

theorem exists_loan {path : String} (asks : asked? operation = some path)
    (opens : (s.perform operation).1.isRefused = false) :
    ∃ loan next, s.borrow path = (.ok loan, next) ∧ loan.path = path := by
  cases answered : s.borrow path with
  | mk answer next =>
      cases answer with
      | ok loan => exact ⟨loan, next, rfl, (start_of_borrow answered).1⟩
      | error error =>
          cases operation with
          | borrow | touch =>
              cases asks
              rw [perform, answered] at opens
              cases opens
          | _ => cases asks

theorem map_cue_returned (slot : String) (s : Session) :
    ((s.loan? slot).map Event.returned).toList.map Event.cue =
      ((s.lentPaths slot).map Cue.returned).toList := by
  unfold lentPaths
  cases s.loan? slot <;> rfl

theorem map_cue_told (opens : (s.perform operation).1.isRefused = false) :
    (s.told operation).map Event.cue = cues s.lentPaths operation := by
  cases operation with
  | borrow slot path =>
      rcases exists_loan rfl opens with ⟨loan, next, borrowed, -⟩
      simp only [told, borrowed, cues, List.map_cons, map_cue_returned, Event.cue]
  | touch path limit =>
      rcases exists_loan rfl opens with ⟨loan, next, borrowed, same⟩
      rcases readLoan_eq loan limit next with ⟨outcome, read⟩
      simp only [told, borrowed, read, cues, List.map_cons, List.map_nil, Event.cue, same]
  | giveBack slot => exact map_cue_returned slot s
  | read | seek | length | flush | write | unlink => rfl

theorem loan?_giveBack_self (slot : String) (s : Session) :
    (s.giveBack slot).loan? slot = none := by
  unfold giveBack
  split
  · rw [loan?, Named.lookup_eq_none_iff]
    intro present
    rcases List.mem_map.mp present with ⟨entry, entryMem, here⟩
    simp [withoutLoan, here] at entryMem
  · next absent => exact absent

/-- A loan that is used stays in its slot, under its path. -/
theorem lentPaths_putLoan {slot : String} {loan : Loan} {loans : List (String × Loan)}
    (found : loans.lookup slot = some loan) (used : Files.Handle) (other : String) :
    ((putLoan slot { loan with handle := used } loans).lookup other).map Loan.path =
      (loans.lookup other).map Loan.path := by
  rw [lookup_putLoan]
  split
  · next here =>
      rw [here, found]
      rfl
  · rfl

theorem lentPaths_perform (opens : (s.perform operation).1.isRefused = false) :
    (s.perform operation).2.lentPaths = lentAfter s.lentPaths operation := by
  funext slot
  cases operation with
  | borrow other path =>
      rcases exists_loan rfl opens with ⟨loan, next, borrowed, same⟩
      by_cases here : slot = other
      · subst here
        rw [lentAfter, Function.update_self, lentPaths, loan?_perform_borrow borrowed]
        exact congrArg some same
      · rw [lentAfter, Function.update_of_ne here, lentPaths,
          loan?_perform_borrow_of_ne (Ne.symm here), lentPaths]
  | touch path limit => exact congrArg _ (loan?_perform_touch slot path limit s)
  | read other limit =>
      simp only [perform]
      split
      · next loan found =>
          rcases readLoan_eq loan limit s with ⟨outcome, read⟩
          rw [read]
          exact lentPaths_putLoan found _ slot
      · rfl
  | seek other position =>
      simp only [perform]
      split
      · next loan found =>
          split
          · exact lentPaths_putLoan found _ slot
          · rfl
      · rfl
  | length other =>
      simp only [perform]
      split <;> rfl
  | giveBack other =>
      rw [snd_perform_giveBack, lentAfter, lentPaths]
      by_cases here : slot = other
      · subst here
        rw [Function.update_self, loan?_giveBack_self]
        rfl
      · rw [Function.update_of_ne here, loan?_giveBack (Ne.symm here)]
        rfl
  | flush | write | unlink => rfl

/-- Two sessions in which nothing is refused tell their caches the same of all paths. -/
theorem map_cue_log {operations : List Operation} (same : s.lentPaths = t.lentPaths)
    (opens : ∀ outcome ∈ (run operations s).1, outcome.isRefused = false)
    (opensToo : ∀ outcome ∈ (run operations t).1, outcome.isRefused = false) :
    (log operations s).map Event.cue = (log operations t).map Event.cue := by
  induction operations generalizing s t with
  | nil => rfl
  | cons operation rest ih =>
      rcases List.forall_mem_cons.mp opens with ⟨first, later⟩
      rcases List.forall_mem_cons.mp opensToo with ⟨firstToo, laterToo⟩
      have next : (s.perform operation).2.lentPaths = (t.perform operation).2.lentPaths := by
        rw [lentPaths_perform first, lentPaths_perform firstToo, same]
      rw [log, log, List.map_append, List.map_append, map_cue_told first, map_cue_told firstToo,
        same, ih next later laterToo]

theorem cache_run (files : Tree) (maxHandles : UInt64) (threadSafe : Bool) (arena : Memory.Arena)
    (operations : List Operation) :
    (run operations (unused files maxHandles threadSafe arena)).2.cache =
      (log operations (unused files maxHandles threadSafe arena)).foldl Cache.hear
        (unused files maxHandles threadSafe arena).cache :=
  ((Follows.start files maxHandles threadSafe arena).run operations).heard

/-- Of two caches the larger one loses no hit. After operations none of which was refused, the
smaller one keeps handles of the paths at the young end of what the larger one keeps, in the same
order, and has had no more hits. So a path that is asked for next is a hit in the larger cache if it
is one in the smaller cache. The files may be different, and the smaller cache may keep none. -/
theorem run_loses_no_hit (files others : Tree) {fewer more : UInt64} (raised : fewer ≤ more)
    (threadSafe shared : Bool) (arena place : Memory.Arena) (operations : List Operation) :
    let small := run operations (unused files fewer threadSafe arena)
    let large := run operations (unused others more shared place)
    (∀ outcome ∈ small.1, outcome.isRefused = false) →
    (∀ outcome ∈ large.1, outcome.isRefused = false) →
    small.2.cache.idle.map Loan.path <:+ large.2.cache.idle.map Loan.path ∧
    small.2.cache.hits ≤ large.2.cache.hits ∧
    ∀ path, (small.2.borrow path).2.cache.hits = small.2.cache.hits + 1 →
      (large.2.borrow path).2.cache.hits = large.2.cache.hits + 1 := by
  intro small large opens opensToo
  have heard : (log operations (unused files fewer threadSafe arena)).map Event.cue =
      (log operations (unused others more shared place)).map Event.cue :=
    map_cue_log rfl opens opensToo
  have start : (unused files fewer threadSafe arena).cache.Within
      (unused others more shared place).cache :=
    ⟨raised, Nat.zero_le _, Nat.zero_le _, List.nil_suffix, Nat.le_refl 0⟩
  have within : small.2.cache.Within large.2.cache := by
    rw [cache_run, cache_run]
    exact start.foldl_hear heard
  refine ⟨within.young, within.hits, ?_⟩
  intro path hit
  rw [cache_borrow] at hit ⊢
  rcases within.hits_asked path with missed | ⟨-, largeHit⟩
  · omega
  · exact largeHit

/-- The file that came back first is closed only by the smaller cache, which opens it anew. -/
theorem run_loses_no_hit_of_two_files :
    let files := (Tree.empty.place "f" (.bytes ⟨#[1]⟩)).place "g" (.bytes ⟨#[2]⟩)
    let operations : List Operation :=
      [.borrow "a" "f", .borrow "b" "g", .giveBack "a", .giveBack "b", .touch "f" none,
        .touch "./f" none, .touch "f" none]
    let small := run operations (unused files 1 true ⟨0⟩)
    let large := run operations (unused files 2 true ⟨0⟩)
    small.2.cache.idle.map Loan.path <:+ large.2.cache.idle.map Loan.path ∧
      small.2.cache.hits ≤ large.2.cache.hits ∧ large.2.cache.hits = 2 := by
  intro files operations small large
  have opens : ∀ outcome ∈ small.1, outcome.isRefused = false := by decide +kernel
  have opensToo : ∀ outcome ∈ large.1, outcome.isRefused = false := by decide +kernel
  have counted : large.2.cache.hits = 2 := by decide +kernel
  rcases run_loses_no_hit files files (by decide : (1 : UInt64) ≤ 2) true true ⟨0⟩ ⟨0⟩ operations
    opens opensToo with ⟨young, hits, -⟩
  -- Unfolded, because the counters would be computed otherwise.
  dsimp only [small, large] at counted ⊢
  exact ⟨young, hits, counted⟩

end Session

end CacheDepot.Handles
