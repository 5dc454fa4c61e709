import CacheDepot.Proofs.Memory.Balance

/-!
# Limits and bounds

When an allocator refuses bytes, and that it stays within its limit and its bound
whatever is asked of it. The bound may be lowered or raised at any time, since what
exceeds a new bound is given back to the system at once. A limit is a word, so under
a limit the bytes in use never run over.
-/

namespace CacheDepot.Memory

theorem monus_of_le {a b : UInt64} (le : b.toNat ≤ a.toNat) : monus a b = a - b := by
  rw [← UInt64.toNat_inj, toNat_monus, UInt64.toNat_sub_of_le _ _ (UInt64.le_iff_toNat_le.mpr le)]

namespace Allocator

/-- No more bytes are in use than the limit allows, and no more are kept than the bound allows. -/
structure Within (a : Allocator) : Prop where
  limit : ∀ most, a.limit = some most → a.inUse.toNat ≤ most.toNat
  maxFree : a.retained.toNat ≤ a.maxFree.toNat

/-- The limit leaves that many bytes. -/
def Affords (bytes : Nat) (a : Allocator) : Prop :=
  ∀ most, a.limit = some most → bytes ≤ most.toNat - a.inUse.toNat

section

variable {a next : Allocator} {bytes : Nat} {most : UInt64}

theorem affords_iff (limited : a.limit = some most) :
    a.Affords bytes ↔ bytes ≤ most.toNat - a.inUse.toNat := by
  constructor
  · exact fun affords => affords most limited
  · intro room limit limitedTo
    rw [Option.some.inj (limitedTo.symm.trans limited)]
    exact room

theorem affords_of_unlimited (unlimited : a.limit = none) (bytes : Nat) : a.Affords bytes := by
  intro most limited
  rw [unlimited] at limited
  contradiction

theorem affords_zero (a : Allocator) : a.Affords 0 :=
  fun _ _ => Nat.zero_le _

theorem exists_of_not_affords (short : ¬a.Affords bytes) :
    ∃ most, a.limit = some most ∧ most.toNat - a.inUse.toNat < bytes := by
  cases limited : a.limit with
  | none => exact absurd (affords_of_unlimited limited bytes) short
  | some most =>
      rw [affords_iff limited] at short
      exact ⟨most, rfl, Nat.lt_of_not_le short⟩

/-- What a limit leaves fits a word beside the bytes in use. -/
theorem Affords.fits_of_limited (affords : a.Affords bytes) (limited : a.limit = some most) :
    a.inUse.toNat + bytes < 2 ^ 64 := by
  have room := affords most limited
  have word := most.toNat_lt
  have used := a.inUse.toNat_lt
  omega

theorem Affords.fits (affords : a.Affords bytes)
    (unlimited : a.limit = none → a.inUse.toNat + bytes < 2 ^ 64) :
    a.inUse.toNat + bytes < 2 ^ 64 := by
  cases limited : a.limit with
  | none => exact unlimited limited
  | some most => exact affords.fits_of_limited limited

theorem affords_add_iff {first second : Nat} :
    a.Affords (first + second) ↔ a.Affords first ∧ (a.serve first).Affords second := by
  cases limited : a.limit with
  | none =>
      have unlimited : (a.serve first).limit = none := (limit_serve first a).trans limited
      exact iff_of_true (affords_of_unlimited limited _)
        ⟨affords_of_unlimited limited _, affords_of_unlimited unlimited _⟩
  | some most =>
      have limitedThen : (a.serve first).limit = some most := (limit_serve first a).trans limited
      rw [affords_iff limited, affords_iff limited, affords_iff limitedThen]
      have served : first ≤ most.toNat - a.inUse.toNat →
          (a.serve first).inUse.toNat = a.inUse.toNat + first := fun room =>
        inUse_serve (((affords_iff limited).mpr room).fits_of_limited limited)
      constructor
      · intro room
        rw [served (by omega)]
        omega
      · rintro ⟨room, rest⟩
        rw [served room] at rest
        omega

end

/-! ## Requests -/

section

variable {a next : Allocator} {bytes most : UInt64}

theorem allocate_of_affords (affords : a.Affords bytes.toNat) :
    a.allocate bytes = .ok (a.serve bytes.toNat) := by
  rw [← grant_eq_serve]
  unfold allocate
  split
  · next most limited =>
      have room := affords most limited
      rw [← toNat_monus] at room
      exact if_neg fun less => Nat.not_lt.mpr room (UInt64.lt_iff_toNat_lt.mp less)
  · rfl

theorem allocate_of_short (limited : a.limit = some most)
    (short : most.toNat - a.inUse.toNat < bytes.toNat) :
    a.allocate bytes = .error ⟨bytes, monus most a.inUse⟩ := by
  rw [← toNat_monus] at short
  unfold allocate
  rw [limited]
  exact if_pos (UInt64.lt_iff_toNat_lt.mpr short)

theorem allocate_eq_ok_iff :
    a.allocate bytes = .ok next ↔ a.Affords bytes.toNat ∧ next = a.serve bytes.toNat := by
  constructor
  · intro allocated
    have affords : a.Affords bytes.toNat := by
      intro most limited
      rcases Nat.lt_or_ge (most.toNat - a.inUse.toNat) bytes.toNat with short | room
      · rw [allocate_of_short limited short] at allocated
        contradiction
      · exact room
    rw [allocate_of_affords affords] at allocated
    cases allocated
    exact ⟨affords, rfl⟩
  · rintro ⟨affords, rfl⟩
    exact allocate_of_affords affords

end

/-! ## What keeps an allocator within its limit and its bound -/

namespace Within

variable {a : Allocator} (within : a.Within)
include within

theorem serve {bytes : Nat} (affords : a.Affords bytes) : (a.serve bytes).Within where
  limit most limited := by
    rw [limit_serve] at limited
    have before := within.limit most limited
    have room := affords most limited
    rw [inUse_serve (affords.fits_of_limited limited)]
    omega
  maxFree := by
    have before := within.maxFree
    rw [retained_serve, maxFree_serve]
    omega

theorem retrieve (bytes : Nat) : (a.retrieve bytes).Within where
  limit most limited := by
    rw [limit_retrieve] at limited
    rw [inUse_retrieve]
    exact Nat.le_trans (Nat.sub_le _ _) (within.limit most limited)
  maxFree := by
    have before := within.maxFree
    rw [retained_retrieve, maxFree_retrieve, room]
    omega

theorem setMaxFree (bound : UInt64) : (a.setMaxFree bound).Within where
  limit := within.limit
  maxFree := by
    rw [retained_setMaxFree]
    exact Nat.min_le_right _ _

end Within

/-! ## Bytes handed out and taken back -/

section

variable {a : Allocator} {bytes : Nat}

theorem inUse_retrieve_serve (fits : a.inUse.toNat + bytes < 2 ^ 64) :
    ((a.serve bytes).retrieve bytes).inUse = a.inUse := by
  rw [← UInt64.toNat_inj, inUse_retrieve, inUse_serve fits, Nat.add_sub_cancel]

theorem retained_retrieve_serve (within : a.Within) (bytes : Nat) :
    ((a.serve bytes).retrieve bytes).retained.toNat =
      min a.maxFree.toNat (max a.retained.toNat bytes) := by
  have kept := within.maxFree
  rw [retained_retrieve, retained_serve, room, retained_serve, maxFree_serve]
  omega

/-- What is not kept goes to the system. -/
theorem released_retrieve_serve (within : a.Within) (bytes : Nat) :
    ((a.serve bytes).retrieve bytes).released =
      a.released + .ofNat (max a.retained.toNat bytes - a.maxFree.toNat) := by
  have kept := within.maxFree
  have gone : bytes - (a.serve bytes).room = max a.retained.toNat bytes - a.maxFree.toNat := by
    rw [room, retained_serve, maxFree_serve]
    omega
  rw [released_retrieve, released_serve, gone]

end

/-- Bytes that the limit allows are handed out; those kept and those given back are left open. -/
structure HandsOut (bytes : Nat) (a b : Allocator) : Prop where
  limit : b.limit = a.limit
  affords : a.Affords bytes
  inUse : b.inUse = a.inUse + .ofNat bytes

/-- Bytes are taken back; those kept and those given back are left open. -/
structure TakesBack (bytes : Nat) (a b : Allocator) : Prop where
  limit : b.limit = a.limit
  inUse : b.inUse.toNat = a.inUse.toNat - bytes

section

variable {a b : Allocator} {bytes : Nat}

theorem handsOut_serve (affords : a.Affords bytes) : a.HandsOut bytes (a.serve bytes) where
  limit := limit_serve bytes a
  affords := affords
  inUse := by rw [serve]

theorem HandsOut.toNat_inUse (handsOut : a.HandsOut bytes b)
    (unlimited : a.limit = none → a.inUse.toNat + bytes < 2 ^ 64) :
    b.inUse.toNat = a.inUse.toNat + bytes := by
  rw [handsOut.inUse, toNat_add_ofNat_of_fits (handsOut.affords.fits unlimited)]

theorem takesBack_retrieve (bytes : Nat) (a : Allocator) :
    a.TakesBack bytes (a.retrieve bytes) where
  limit := limit_retrieve bytes a
  inUse := inUse_retrieve bytes a

/-- What was handed out under a limit and is taken back together with older bytes leaves the older
ones to be counted. -/
theorem takesBack_retrieve_serve {more : Nat} (affords : a.Affords more)
    (limited : a.limit ≠ none) :
    a.TakesBack bytes ((a.serve more).retrieve (bytes + more)) where
  limit := by rw [limit_retrieve, limit_serve]
  inUse := by
    rw [inUse_retrieve, inUse_serve (affords.fits (absurd · limited))]
    omega

end

end Allocator

/-! ## Arenas -/

namespace Arena

variable {a next : Allocator} {arena made : Arena} {bytes : UInt64}

theorem acquire_eq_ok_iff :
    acquire a = .ok (made, next) ↔
      made = ⟨0⟩ ∧ a.Affords header.toNat ∧ next = a.serve header.toNat := by
  rw [← Allocator.allocate_eq_ok_iff]
  unfold acquire
  split
  · next after allocated => simp [allocated, eq_comm]
  · next error refused => simp [refused]

theorem acquire_of_affords (affords : a.Affords header.toNat) :
    acquire a = .ok (⟨0⟩, a.serve header.toNat) :=
  acquire_eq_ok_iff.mpr ⟨rfl, affords, rfl⟩

theorem reserve_eq_ok_iff :
    arena.reserve bytes a = .ok (made, next) ↔
      made = arena.enlarge bytes.toNat ∧ a.Affords bytes.toNat ∧ next = a.serve bytes.toNat := by
  rw [← Allocator.allocate_eq_ok_iff, enlarge, UInt64.ofNat_toNat]
  unfold reserve
  split
  · next after allocated => simp [allocated, eq_comm]
  · next error refused => simp [refused]

theorem reserve_of_affords (affords : a.Affords bytes.toNat) (arena : Arena) :
    arena.reserve bytes a = .ok (arena.enlarge bytes.toNat, a.serve bytes.toNat) :=
  reserve_eq_ok_iff.mpr ⟨rfl, affords, rfl⟩

/-- Without a limit nothing is refused. -/
theorem limit_ne_none_of_refused {error : Exhausted}
    (refused : arena.reserve bytes a = .error error) : a.limit ≠ none := by
  intro unlimited
  rw [reserve_of_affords (Allocator.affords_of_unlimited unlimited _)] at refused
  contradiction

end Arena

end CacheDepot.Memory
