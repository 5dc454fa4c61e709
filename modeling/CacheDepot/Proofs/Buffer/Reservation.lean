import CacheDepot.Proofs.Buffer.Construction

/-!
# Reserving segments

The segments of a cache are reserved one after the other. Either the limit of the
allocator leaves enough for all of them, or the reservations end with the first segment
that does not fit, and everything is given back. Which segment that is, what it is told
and what becomes of the bytes follow from what the limit leaves.
-/

namespace CacheDepot.Buffer

open Memory (Allocator Arena monus)

variable {bytes most : UInt64} {count : Nat} {a : Allocator}

/-- Segments that fit are reserved, and the reservations go on behind them. -/
theorem reserveSegments_add (affords : a.Affords (count * bytes.toNat)) (rest index : Nat)
    (arena : Arena) :
    reserveSegments bytes (count + rest) index arena a =
      reserveSegments bytes rest (index + count) (arena.enlarge (count * bytes.toNat))
        (a.serve (count * bytes.toNat)) := by
  induction count generalizing index arena a with
  | zero =>
      rw [Nat.zero_mul, Nat.zero_add, Nat.add_zero, Arena.enlarge_zero, Allocator.serve_zero]
  | succ count ih =>
      have bytesOf : (count + 1) * bytes.toNat = bytes.toNat + count * bytes.toNat := by
        rw [Nat.succ_mul, Nat.add_comm]
      rw [bytesOf] at affords
      obtain ⟨one, others⟩ := Allocator.affords_add_iff.mp affords
      rw [Nat.add_right_comm, reserveSegments, Arena.reserve_of_affords one]
      dsimp only
      rw [ih others, Allocator.serve_serve, Arena.enlarge_enlarge, Nat.add_assoc,
        Nat.add_comm 1 count, bytesOf]

/-- All segments are reserved if and only if the allocator affords them together. -/
theorem reserveSegments_eq_none_iff {index : Nat} {arena full : Arena} {next : Allocator} :
    reserveSegments bytes count index arena a = (none, full, next) ↔
      a.Affords (count * bytes.toNat) ∧ full = arena.enlarge (count * bytes.toNat) ∧
        next = a.serve (count * bytes.toNat) := by
  constructor
  · intro ended
    obtain ⟨reserved, affords, rfl, rfl, all, -⟩ := exists_reserved ended
    cases all rfl
    exact ⟨affords, rfl, rfl⟩
  · rintro ⟨affords, rfl, rfl⟩
    exact reserveSegments_add affords 0 index arena

/-- What a limit leaves beside bytes that it allows. -/
theorem monus_inUse_serve {bytes : Nat} (limited : a.limit = some most)
    (fits : bytes ≤ most.toNat - a.inUse.toNat) :
    monus most (a.serve bytes).inUse = .ofNat (most.toNat - a.inUse.toNat - bytes) := by
  have affords : a.Affords bytes := (Allocator.affords_iff limited).mpr fits
  have served := Allocator.inUse_serve (affords.fits_of_limited limited)
  rw [← UInt64.ofNat_toNat (x := monus _ _), Memory.toNat_monus, served, Nat.sub_sub]

/-- The reservations end with the first segment that does not fit beside the ones before it. -/
theorem reserveSegments_of_short {remaining : Nat} (limited : a.limit = some most)
    (fits : count * bytes.toNat ≤ most.toNat - a.inUse.toNat)
    (short : most.toNat - a.inUse.toNat < count * bytes.toNat + bytes.toNat)
    (fewer : count < remaining) (index : Nat) (arena : Arena) :
    reserveSegments bytes remaining index arena a =
      (some ⟨index + count,
          ⟨bytes, .ofNat (most.toNat - a.inUse.toNat - count * bytes.toNat)⟩⟩,
        arena.enlarge (count * bytes.toNat), a.serve (count * bytes.toNat)) := by
  have affords : a.Affords (count * bytes.toNat) := (Allocator.affords_iff limited).mpr fits
  have served := Allocator.inUse_serve (affords.fits_of_limited limited)
  have limitedThen : (a.serve (count * bytes.toNat)).limit = some most :=
    (Allocator.limit_serve _ a).trans limited
  obtain ⟨rest, rfl⟩ := Nat.exists_eq_add_of_lt fewer
  have shortThen : most.toNat - (a.serve (count * bytes.toNat)).inUse.toNat < bytes.toNat := by
    omega
  have refused := Allocator.allocate_of_short limitedThen shortThen
  rw [monus_inUse_serve limited fits] at refused
  rw [Nat.add_assoc, reserveSegments_add affords, reserveSegments, Arena.reserve, refused]

theorem Layout.reservation_pos (layout : Layout) : 0 < layout.reservation :=
  Nat.lt_of_lt_of_le (by decide) (Nat.le_add_right segmentHeader _)

namespace Cache

variable {total directory : UInt64} {threadSafe : Bool} {layout : Layout} {arena : Arena}

/-- A cache is built if and only if the allocator affords all of its segments. -/
theorem create_ok_iff (division : Layout.divide total.toNat directory.toNat threadSafe = layout)
    (word : layout.reservation < 2 ^ 64) {next : Allocator} :
    (∃ cache, create arena total directory threadSafe a = (.ok cache, next)) ↔
      a.Affords (layout.segments * layout.reservation) ∧
        next = a.serve (layout.segments * layout.reservation) := by
  have bytes : (UInt64.ofNat layout.reservation).toNat = layout.reservation :=
    UInt64.toNat_ofNat_of_lt' word
  rw [← bytes]
  constructor
  · rintro ⟨cache, created⟩
    obtain ⟨full, reserved, -⟩ := (create_eq_ok_iff division).mp created
    obtain ⟨affords, -, served⟩ := reserveSegments_eq_none_iff.mp reserved
    exact ⟨affords, served⟩
  · rintro ⟨affords, rfl⟩
    exact ⟨_, (create_eq_ok_iff division).mpr
      ⟨_, reserveSegments_eq_none_iff.mpr ⟨affords, rfl, rfl⟩, rfl⟩⟩

/-- A cache that cannot be built gives back what was reserved for it, and its arena. -/
theorem create_of_short (division : Layout.divide total.toNat directory.toNat threadSafe = layout)
    (word : layout.reservation < 2 ^ 64) (limited : a.limit = some most)
    (short : most.toNat - a.inUse.toNat < layout.segments * layout.reservation) :
    let room := most.toNat - a.inUse.toNat
    let count := room / layout.reservation
    count < layout.segments ∧
      create ⟨0⟩ total directory threadSafe a =
        (.error ⟨count,
            ⟨.ofNat layout.reservation, .ofNat (room - count * layout.reservation)⟩⟩,
          (a.serve (count * layout.reservation)).retrieve
            (Arena.header.toNat + count * layout.reservation)) := by
  intro room count
  have bytes : (UInt64.ofNat layout.reservation).toNat = layout.reservation :=
    UInt64.toNat_ofNat_of_lt' word
  have positive : 0 < layout.reservation := layout.reservation_pos
  have fewer : count < layout.segments := (Nat.div_lt_iff_lt_mul positive).mpr short
  have fits : count * layout.reservation ≤ room := Nat.div_mul_le_self _ _
  have next : room < count * layout.reservation + layout.reservation :=
    Nat.lt_div_mul_add positive
  have word : (⟨0⟩ : Arena).reserved.toNat + count * layout.reservation < 2 ^ 64 := by
    have limit := most.toNat_lt
    change 0 + count * layout.reservation < 2 ^ 64
    omega
  rw [← bytes] at fits next
  have stopped := reserveSegments_of_short limited fits next fewer 0 ⟨0⟩
  rw [Nat.zero_add, bytes] at stopped
  refine ⟨fewer, (create_eq_error_iff division).mpr ⟨_, _, stopped, ?_⟩⟩
  rw [Arena.dropped_cleared, Arena.footprint_enlarge word]
  rfl

/-- An arena and then a cache in it are built if and only if the allocator affords both. -/
theorem acquire_create_iff
    (division : Layout.divide total.toNat directory.toNat threadSafe = layout)
    (word : layout.reservation < 2 ^ 64) {next : Allocator} :
    (∃ arena between cache, Arena.acquire a = .ok (arena, between) ∧
        create arena total directory threadSafe between = (.ok cache, next)) ↔
      a.Affords (Arena.header.toNat + layout.segments * layout.reservation) ∧
        next = a.serve (Arena.header.toNat + layout.segments * layout.reservation) := by
  rw [Allocator.affords_add_iff, ← Allocator.serve_serve]
  constructor
  · rintro ⟨arena, between, cache, acquired, created⟩
    obtain ⟨-, affords, rfl⟩ := Arena.acquire_eq_ok_iff.mp acquired
    obtain ⟨rest, rfl⟩ := (create_ok_iff division word).mp ⟨cache, created⟩
    exact ⟨⟨affords, rest⟩, rfl⟩
  · rintro ⟨⟨affords, rest⟩, rfl⟩
    obtain ⟨cache, created⟩ := (create_ok_iff division word).mpr ⟨rest, rfl⟩
    exact ⟨⟨0⟩, _, cache, Arena.acquire_of_affords affords, created⟩

/-- An arena and a cache in it are built under a limit exactly if the limit leaves room for the
arena and all segments. If it leaves room for the arena alone, the first segment that does not
fit is reported, with the bytes that were left for it, and all bytes are given back: as many of
them are kept as the bound allows, and the rest goes to the system, which is counted as long as the
count fits a word. -/
theorem create_under_limit {a : Allocator} {most : UInt64} (limited : a.limit = some most)
    (within : a.Within) (total directory : UInt64) (threadSafe : Bool) :
    let n := segmentCount total.toNat threadSafe
    let b := 256 + 64 * max 1 (directory.toNat / 64 / n)
    let room := most.toNat - a.inUse.toNat
    let i := (room - 8192) / b
    let freed := max a.retained.toNat (8192 + i * b)
    b < 2 ^ 64 →
    ((∃ arena between cache next, Arena.acquire a = .ok (arena, between) ∧
        create arena total directory threadSafe between = (.ok cache, next)) ↔
      8192 + n * b ≤ room) ∧
    (∀ arena between cache next, Arena.acquire a = .ok (arena, between) →
      create arena total directory threadSafe between = (.ok cache, next) →
      next.inUse.toNat = a.inUse.toNat + (8192 + n * b)) ∧
    (8192 ≤ room → room < 8192 + n * b → i < n ∧ ∃ between next,
      Arena.acquire a = .ok (⟨0⟩, between) ∧
      create ⟨0⟩ total directory threadSafe between =
        (.error ⟨i, ⟨.ofNat b, .ofNat (room - 8192 - i * b)⟩⟩, next) ∧
      next.inUse = a.inUse ∧
      next.retained.toNat = min a.maxFree.toNat freed ∧
      next.released = a.released + .ofNat (freed - a.maxFree.toNat) ∧
      (a.released.toNat + (freed - a.maxFree.toNat) < 2 ^ 64 →
        next.retained.toNat + next.released.toNat = freed + a.released.toNat)) := by
  intro n b room i freed word
  obtain ⟨layout, division⟩ : ∃ layout,
    Layout.divide total.toNat directory.toNat threadSafe = layout := ⟨_, rfl⟩
  have segments : layout.segments = n := by rw [← division]; rfl
  have reservation : layout.reservation = b := by
    rw [← division]
    exact congrArg (256 + ·) (Nat.mul_comm _ _)
  have header : Arena.header.toNat = 8192 := rfl
  have built : ∀ next, (∃ arena between cache, Arena.acquire a = .ok (arena, between) ∧
      create arena total directory threadSafe between = (.ok cache, next)) ↔
      a.Affords (8192 + n * b) ∧ next = a.serve (8192 + n * b) := by
    intro next
    rw [← header, ← segments, ← reservation]
    exact acquire_create_iff division (reservation ▸ word)
  refine ⟨?_, ?_, ?_⟩
  · constructor
    · rintro ⟨arena, between, cache, next, acquired, created⟩
      obtain ⟨affords, -⟩ := (built next).mp ⟨arena, between, cache, acquired, created⟩
      exact affords most limited
    · intro fits
      obtain ⟨arena, between, cache, acquired, created⟩ :=
        (built _).mpr ⟨(Allocator.affords_iff limited).mpr fits, rfl⟩
      exact ⟨arena, between, cache, _, acquired, created⟩
  · intro arena between cache next acquired created
    obtain ⟨affords, rfl⟩ := (built next).mp ⟨arena, between, cache, acquired, created⟩
    exact Allocator.inUse_serve (affords.fits_of_limited limited)
  · intro first short
    have affords : a.Affords Arena.header.toNat := (Allocator.affords_iff limited).mpr first
    have taken := Allocator.inUse_serve (affords.fits_of_limited limited)
    have limitedThen : (a.serve Arena.header.toNat).limit = some most :=
      (Allocator.limit_serve _ a).trans limited
    have left : most.toNat - (a.serve Arena.header.toNat).inUse.toNat = room - 8192 := by
      rw [taken, header, Nat.sub_sub]
    have few : most.toNat - (a.serve Arena.header.toNat).inUse.toNat <
        layout.segments * layout.reservation := by
      rw [left, segments, reservation]
      omega
    obtain ⟨fewer, created⟩ := create_of_short division (reservation ▸ word) limitedThen few
    rw [left, reservation, segments] at fewer
    rw [left, reservation, Allocator.serve_serve, header] at created
    have fits : a.inUse.toNat + (8192 + i * b) < 2 ^ 64 := by
      have limit := most.toNat_lt
      have some : i * b ≤ room - 8192 := Nat.div_mul_le_self _ _
      omega
    have retained := Allocator.retained_retrieve_serve within (8192 + i * b)
    have released := Allocator.released_retrieve_serve within (8192 + i * b)
    refine ⟨fewer, _, _, Arena.acquire_of_affords affords, created,
      Allocator.inUse_retrieve_serve fits, retained, released, ?_⟩
    intro counted
    rw [retained, released, Memory.toNat_add_ofNat_of_fits counted]
    omega

/-- The limit leaves room for one segment and a half of four; of the bytes given back one is
kept. -/
theorem create_under_limit_of_half_segment :
    let a : Allocator :=
      { limit := some 33252, maxFree := 1, inUse := 100, retained := 1, released := 7 }
    a.limit = some 33252 ∧ a.Within ∧ ∃ between next,
      Arena.acquire a = .ok (⟨0⟩, between) ∧
      create ⟨0⟩ 4194304 65536 true between = (.error ⟨1, ⟨16640, 8320⟩⟩, next) ∧
      next.inUse = 100 ∧ next.retained.toNat = 1 ∧ next.released.toNat = 24838 := by
  intro a
  have limited : a.limit = some 33252 := rfl
  have within : a.Within := by
    constructor
    · intro most limitedTo
      cases limitedTo
      decide
    · decide
  obtain ⟨-, -, short⟩ := create_under_limit limited within 4194304 65536 true (by decide)
  obtain ⟨-, between, next, acquired, created, inUse, retained, -, balance⟩ :=
    short (by decide) (by decide)
  have bytes :
      256 + 64 * max 1 (UInt64.toNat 65536 / 64 / segmentCount (UInt64.toNat 4194304) true) =
        16640 := by decide
  have index : (UInt64.toNat 33252 - a.inUse.toNat - 8192) / 16640 = 1 := by decide
  have left : UInt64.toNat 33252 - a.inUse.toNat - 8192 - 1 * 16640 = 8320 := by decide
  rw [bytes, index] at created retained balance
  rw [left] at created
  have one : next.retained.toNat = 1 := retained
  have sum : next.retained.toNat + next.released.toNat = 24832 + 7 := balance (by decide)
  exact ⟨limited, within, between, next, acquired, created, inUse, one, by omega⟩

end Cache

end CacheDepot.Buffer
