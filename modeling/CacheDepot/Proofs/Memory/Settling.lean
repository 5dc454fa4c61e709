import CacheDepot.Proofs.Memory.Conservation

/-!
# Orders of release

Arenas may be cleared and ended in any order, and the bound on the bytes kept may be
lowered before, between or after. Once no byte is in use it makes no difference: what
goes to the system early exceeds a bound that the last one does not exceed, so that it
would have gone there in the end. Among the bytes kept, those that are in use, and those
that the system has, none is lost on the way, apart from what the count of the last of
them loses when it runs over.
-/

namespace CacheDepot.Memory

theorem getLast?_getD_le {old : UInt64} {bounds : List UInt64}
    (descending : (old :: bounds).Pairwise (· ≥ ·)) : bounds.getLast?.getD old ≤ old := by
  cases last : bounds.getLast? with
  | none => exact UInt64.le_refl old
  | some fewer => exact (List.pairwise_cons.mp descending).1 fewer (List.mem_of_getLast? last)

namespace Allocator

/-- The allocator once nothing is in use, under a bound. -/
def settled (bound : UInt64) (a : Allocator) : Allocator :=
  { a with
    maxFree := bound
    inUse := 0
    retained := .ofNat (min bound.toNat (a.retained.toNat + a.inUse.toNat))
    released := a.released + .ofNat (a.retained.toNat + a.inUse.toNat - bound.toNat) }

theorem retrieve_inUse {a : Allocator} (within : a.Within) :
    a.retrieve a.inUse.toNat = a.settled a.maxFree := by
  have before := within.maxFree
  have keeps : a.retained.toNat + min a.inUse.toNat a.room =
      min a.maxFree.toNat (a.retained.toNat + a.inUse.toNat) := by
    unfold room
    omega
  have gone : a.inUse.toNat - a.room = a.retained.toNat + a.inUse.toNat - a.maxFree.toNat := by
    unfold room
    omega
  rw [retrieve, settled, Nat.sub_self, gone, ← keeps, UInt64.ofNat_add, UInt64.ofNat_toNat]
  rfl

/-! ## What goes to the system early -/

/-- Some bytes go to the system, and only while a bound is exceeded or met. -/
structure Overflows (bound : UInt64) (a b : Allocator) : Prop where
  limit : b.limit = a.limit
  sheds : ∃ gone, a.Sheds gone b ∧ (0 < gone → bound.toNat ≤ b.retained.toNat + b.inUse.toNat)

namespace Overflows

variable {bound : UInt64} {a b c : Allocator}

theorem refl (bound : UInt64) (a : Allocator) : a.Overflows bound a where
  limit := rfl
  sheds := ⟨0, .refl a, fun some => absurd some (Nat.lt_irrefl 0)⟩

theorem trans (first : a.Overflows bound b) (second : b.Overflows bound c) :
    a.Overflows bound c where
  limit := second.limit.trans first.limit
  sheds := by
    obtain ⟨early, firstSheds, firstMet⟩ := first.sheds
    obtain ⟨late, secondSheds, secondMet⟩ := second.sheds
    have balance := secondSheds.balance
    exact ⟨early + late, firstSheds.trans secondSheds, by omega⟩

/-- The system gets early what it would have got in the end. -/
theorem settled_eq (overflows : a.Overflows bound b) : b.settled bound = a.settled bound := by
  obtain ⟨gone, sheds, met⟩ := overflows.sheds
  have balance := sheds.balance
  have kept : min bound.toNat (b.retained.toNat + b.inUse.toNat) =
      min bound.toNat (a.retained.toNat + a.inUse.toNat) := by
    omega
  have rest : gone + (b.retained.toNat + b.inUse.toNat - bound.toNat) =
      a.retained.toNat + a.inUse.toNat - bound.toNat := by
    omega
  rw [settled, settled, overflows.limit, sheds.released, add_ofNat_add_ofNat, kept, rest]

end Overflows

/-- Freed bytes go to the system only when no more of them can be kept. -/
theorem Within.overflows_retrieve {bound : UInt64} {bytes : Nat} {a : Allocator} (within : a.Within)
    (tightens : bound ≤ a.maxFree) (covered : bytes ≤ a.inUse.toNat) :
    a.Overflows bound (a.retrieve bytes) where
  limit := limit_retrieve bytes a
  sheds := by
    have before := within.maxFree
    rw [UInt64.le_iff_toNat_le] at tightens
    refine ⟨_, sheds_retrieve covered, ?_⟩
    rw [retained_retrieve, room]
    omega

/-- A lower bound lets go only of the bytes kept beyond it. -/
theorem overflows_setMaxFree {bound bytes : UInt64} (tightens : bound ≤ bytes) (a : Allocator) :
    a.Overflows bound (a.setMaxFree bytes) where
  limit := rfl
  sheds := by
    rw [UInt64.le_iff_toNat_le] at tightens
    refine ⟨_, sheds_setMaxFree bytes a, ?_⟩
    rw [retained_setMaxFree]
    omega

end Allocator

namespace Operation

/-- The operation asks for no bytes: it clears or ends an arena, or sets the bound. -/
def Releases : Operation → Prop
  | .acquire _ => False
  | .reserve _ _ => False
  | .clear _ => True
  | .drop _ => True
  | .setMaxFree _ => True

def bound? : Operation → Option UInt64
  | .setMaxFree bytes => some bytes
  | _ => none

end Operation

/-- The bounds that are set, in order. -/
def bounds (operations : List Operation) : List UInt64 :=
  operations.filterMap Operation.bound?

theorem bounds_cons (operation : Operation) (rest : List Operation) :
    bounds (operation :: rest) = operation.bound?.toList ++ bounds rest := by
  unfold bounds
  cases set : operation.bound? with
  | none => rw [List.filterMap_cons_none set, Option.toList_none, List.nil_append]
  | some bytes => rw [List.filterMap_cons_some set, Option.toList_some, List.singleton_append]

/-- The bounds go on descending from the one that is set first. -/
theorem descending_rest {old : UInt64} {operation : Operation} {rest : List Operation}
    (descending : (old :: bounds (operation :: rest)).Pairwise (· ≥ ·)) :
    (operation.bound?.getD old :: bounds rest).Pairwise (· ≥ ·) := by
  rw [bounds_cons] at descending
  cases set : operation.bound? with
  | none =>
      rw [set] at descending
      exact descending
  | some bytes =>
      rw [set] at descending
      exact (List.pairwise_cons.mp descending).2

namespace Workspace

variable {w : Workspace} {operation : Operation}

/-! ## Bounds -/

/-- An operation that releases is granted nothing. -/
theorem granted_of_releases (releases : operation.Releases) : w.granted operation = 0 := by
  apply granted_of_undemanding
  cases operation with
  | acquire name => exact releases.elim
  | reserve name bytes => exact releases.elim
  | _ => rfl

theorem moves_of_releases (accounted : w.Accounted) (releases : operation.Releases) :
    Moves w.allocator operation 0 (perform operation w).2.allocator := by
  have nothing := granted_of_releases (w := w) releases
  have moves := moves_perform accounted operation (by
    rw [nothing]
    exact w.allocator.inUse.toNat_lt)
  rwa [nothing] at moves

/-- One release lets go of bytes only beyond its own bound and the one before. -/
theorem Moves.overflows {a b : Allocator} (moves : Moves a operation 0 b) (within : a.Within)
    {bound : UInt64} (tightens : bound ≤ a.maxFree)
    (tightensNext : bound ≤ operation.bound?.getD a.maxFree) :
    a.Overflows bound b := by
  cases moves with
  | bound bytes => exact Allocator.overflows_setMaxFree tightensNext a
  | serve covered =>
      rw [Allocator.serve_zero] at covered ⊢
      exact within.overflows_retrieve tightens covered

theorem Moves.maxFree_eq {a b : Allocator} (moves : Moves a operation 0 b)
    (noBound : operation.bound? = none) : b.maxFree = a.maxFree := by
  cases moves with
  | bound bytes => cases noBound
  | serve => rw [Allocator.maxFree_retrieve, Allocator.maxFree_serve]

theorem maxFree_perform (accounted : w.Accounted) (releases : operation.Releases) :
    (perform operation w).2.allocator.maxFree =
      operation.bound?.getD w.allocator.maxFree := by
  cases set : operation.bound? with
  | none => exact (moves_of_releases accounted releases).maxFree_eq set
  | some bytes =>
      cases operation with
      | setMaxFree bound =>
          cases set
          rfl
      | _ => cases set

theorem accounted_of_releases (accounted : w.Accounted) (releases : operation.Releases) :
    (perform operation w).2.Accounted := by
  apply accounted.perform
  rw [granted_of_releases releases]
  exact w.allocator.inUse.toNat_lt

/-! ## Runs -/

/-- The bound after releases: the last one set, or the one before. -/
def lastBound (releases : List Operation) (w : Workspace) : UInt64 :=
  (bounds releases).getLast?.getD w.allocator.maxFree

theorem lastBound_cons (accounted : w.Accounted) (releases : operation.Releases)
    {rest : List Operation} :
    lastBound (operation :: rest) w = lastBound rest (perform operation w).2 := by
  unfold lastBound
  rw [maxFree_perform accounted releases, bounds_cons, List.getLast?_append]
  cases operation.bound? <;> cases (bounds rest).getLast? <;> rfl

theorem run_overflows (accounted : w.Accounted) {releases : List Operation}
    (onlyReleases : ∀ operation ∈ releases, operation.Releases)
    (descending : (w.allocator.maxFree :: bounds releases).Pairwise (· ≥ ·)) :
    w.allocator.Overflows (lastBound releases w) (run releases w).allocator ∧
      (run releases w).allocator.maxFree = lastBound releases w ∧
      (run releases w).Accounted := by
  induction releases generalizing w with
  | nil => exact ⟨.refl _ _, rfl, accounted⟩
  | cons operation rest ih =>
      rcases List.forall_mem_cons.mp onlyReleases with ⟨firstReleases, laterReleases⟩
      have next := maxFree_perform accounted firstReleases
      have descendingLater := descending_rest descending
      have tightens : lastBound (operation :: rest) w ≤ w.allocator.maxFree :=
        getLast?_getD_le descending
      have tightensNext : lastBound rest (perform operation w).2 ≤
          operation.bound?.getD w.allocator.maxFree := by
        rw [lastBound, next]
        exact getLast?_getD_le descendingLater
      -- All bytes are shed against the last bound of the run, which no bound before it is below.
      rw [lastBound_cons accounted firstReleases] at tightens ⊢
      rw [← next] at descendingLater
      have first := (moves_of_releases accounted firstReleases).overflows accounted.within
        tightens tightensNext
      rcases ih (accounted_of_releases accounted firstReleases) laterReleases descendingLater with
        ⟨later, last⟩
      exact ⟨first.trans later, last⟩

/-! ## When all arenas have ended -/

theorem mem_names_perform {name : String} (releases : operation.Releases)
    (present : name ∈ (perform operation w).2.names) :
    name ∈ w.names ∧ operation ≠ .drop name := by
  have kept : ∀ other, name ∈ (w.others other).map Prod.fst → name ∈ w.names :=
    fun other mem => (List.filter_sublist.map Prod.fst).subset mem
  cases operation with
  | acquire other => exact releases.elim
  | reserve other bytes => exact releases.elim
  | clear other =>
      simp only [perform] at present
      refine ⟨?_, Operation.noConfusion⟩
      split at present
      · exact present
      · next arena found =>
          rcases List.mem_cons.mp present with rfl | mem
          · exact List.mem_map_of_mem (Named.mem_of_lookup found)
          · exact kept other mem
  | drop other =>
      have gone : name ∈ (w.others other).map Prod.fst := by
        simp only [perform] at present
        split at present
        · next absent =>
            rw [others_of_absent absent]
            exact present
        · rw [names, arenas_drop] at present
          exact present
      constructor
      · exact kept other gone
      · rintro ⟨⟩
        exact w.not_mem_names_others name gone
  | setMaxFree bytes => exact ⟨present, Operation.noConfusion⟩

theorem mem_names_run {name : String} {releases : List Operation}
    (onlyReleases : ∀ operation ∈ releases, operation.Releases)
    (present : name ∈ (run releases w).names) : name ∈ w.names ∧ .drop name ∉ releases := by
  induction releases generalizing w with
  | nil => exact ⟨present, List.not_mem_nil⟩
  | cons operation rest ih =>
      rcases List.forall_mem_cons.mp onlyReleases with ⟨firstReleases, laterReleases⟩
      rcases ih laterReleases present with ⟨stays, notLater⟩
      rcases mem_names_perform firstReleases stays with ⟨before, notFirst⟩
      exact ⟨before, List.not_mem_cons_of_ne_of_not_mem (Ne.symm notFirst) notLater⟩

theorem arenas_run_of_dropped {releases : List Operation}
    (onlyReleases : ∀ operation ∈ releases, operation.Releases)
    (dropped : ∀ name ∈ w.names, .drop name ∈ releases) : (run releases w).arenas = [] := by
  rw [← List.map_eq_nil_iff (f := Prod.fst), List.eq_nil_iff_forall_not_mem]
  intro name present
  rcases mem_names_run onlyReleases present with ⟨before, notDropped⟩
  exact notDropped (dropped name before)

theorem foldl_dropped (arenas : List (String × Arena)) (a : Allocator) :
    arenas.foldl (fun a entry => entry.2.dropped a) a = a.retrieve (totalFootprint arenas) := by
  induction arenas generalizing a with
  | nil => exact a.retrieve_zero.symm
  | cons entry rest ih =>
      rw [List.foldl_cons, ih, Arena.dropped_eq_retrieve, Allocator.retrieve_retrieve]
      rfl

theorem close_eq_settled (accounted : w.Accounted) :
    w.close = w.allocator.settled w.allocator.maxFree := by
  rw [close, foldl_dropped, ← accounted.inUse]
  exact Allocator.retrieve_inUse accounted.within

end Workspace

end CacheDepot.Memory
