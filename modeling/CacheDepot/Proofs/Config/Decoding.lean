import CacheDepot.Config.Decode
import CacheDepot.Proofs.Json.Merging

/-!
# What a configuration is read from

A value gives a setting if it has the type of the setting, or is the text of a size
where a size is asked for. An object is read as a configuration if and only if each
of its keys names a setting and its value gives that setting; settings without a key
stay what they were.
-/

namespace CacheDepot.Config

open Json (Fields)

/-! ## Settings -/

namespace Field

/-- The value, read as the setting, gives what the configuration has. -/
inductive Gives (config : CacheConfig) : Field → Json → Prop
  | value (field : Field) : Gives config field (field.value config)
  | size {text : String} (read : Size.ofText text = .ok config.cacheSize) :
      Gives config .cacheSize (.text text)

@[simp]
theorem ofName?_name (field : Field) : ofName? field.name = some field := by
  cases field <;> rfl

theorem name_of_ofName? {name : String} {field : Field} (named : ofName? name = some field) :
    field.name = name := by
  simpa using List.find?_some named

theorem name_injective {field other : Field} (same : field.name = other.name) : field = other := by
  have named := ofName?_name field
  rw [same, ofName?_name] at named
  exact (Option.some.inj named).symm

/-- The settings make up the configuration. -/
theorem config_ext {a b : CacheConfig} (same : ∀ field : Field, field.value a = field.value b) :
    a = b := by
  rcases a with ⟨cacheSize, fileHandleCount, cacheFulltexts, cacheDeltas, singleThreaded⟩
  have size := same .cacheSize
  have count := same .fileHandleCount
  have fulltexts := same .cacheFulltexts
  have deltas := same .cacheDeltas
  have single := same .singleThreaded
  simp only [value, Json.int.injEq, Json.bool.injEq, Int.natCast_inj, UInt64.toNat_inj]
    at size count fulltexts deltas single
  subst size count fulltexts deltas single
  rfl

/-- What a value gives depends on its setting alone. -/
theorem Gives.congr {a b : CacheConfig} {field : Field} {given : Json}
    (gives : field.Gives a given) (same : field.value a = field.value b) : field.Gives b given := by
  cases gives with
  | value => exact same ▸ Gives.value field
  | size read =>
      simp only [Field.value, Json.int.injEq, Int.natCast_inj, UInt64.toNat_inj] at same
      exact Gives.size (same ▸ read)

/-- No object gives a setting. -/
theorem Gives.isObject_eq_false {config : CacheConfig} {field : Field} {given : Json}
    (gives : field.Gives config given) : given.isObject = false := by
  cases gives with
  | value => cases field <;> rfl
  | size read => rfl

end Field

/-! ## Single values -/

theorem wordOfInt?_eq_some_iff {n : Int} {word : UInt64} :
    wordOfInt? n = some word ↔ n = word.toNat := by
  unfold wordOfInt?
  have bound : word.toNat < UInt64.size := word.toNat_lt_size
  split
  · next inRange =>
      rw [Option.some.injEq, ← UInt64.toNat_inj, UInt64.toNat_ofNat_of_lt' inRange.2]
      omega
  · next outOfRange =>
      simp only [reduceCtorEq, false_iff]
      rintro rfl
      refine outOfRange ⟨Int.natCast_nonneg _, ?_⟩
      rw [Int.toNat_natCast]
      exact bound

theorem decodeSize_eq_ok_iff {given : Json} {size : UInt64} :
    decodeSize given = .ok size ↔
      given = .int size.toNat ∨ ∃ text, given = .text text ∧ Size.ofText text = .ok size := by
  -- Not `unfold`: the equations of the definition take very long to derive.
  delta decodeSize
  cases given with
  | int n =>
      dsimp only
      rw [Json.int.injEq, ← wordOfInt?_eq_some_iff]
      cases wordOfInt? n <;> simp
  | text text =>
      simp only [reduceCtorEq, Json.text.injEq, false_or, exists_eq_left']
      cases Size.ofText text <;> simp
  | _ => simp

theorem decodeCount_eq_ok_iff {given : Json} {count : UInt64} :
    decodeCount given = .ok count ↔ given = .int count.toNat := by
  cases given with
  | int n =>
      simp only [decodeCount]
      rw [Json.int.injEq, ← wordOfInt?_eq_some_iff]
      cases wordOfInt? n <;> simp
  | _ => simp [decodeCount]

theorem decodeSwitch_eq_ok_iff {given : Json} {on : Bool} :
    decodeSwitch given = .ok on ↔ given = .bool on := by
  cases given <;> simp [decodeSwitch]

namespace Field

variable {config : CacheConfig} {given : Json}

/-- Only a size can be given in another way than by its own value. -/
theorem gives_iff_eq {field : Field} (plain : field ≠ cacheSize) :
    field.Gives config given ↔ given = field.value config := by
  constructor
  · intro gives
    cases gives with
    | value => rfl
    | size read => exact absurd rfl plain
  · rintro rfl
    exact Gives.value field

theorem gives_cacheSize_iff :
    cacheSize.Gives config given ↔ decodeSize given = .ok config.cacheSize := by
  rw [decodeSize_eq_ok_iff]
  constructor
  · intro gives
    cases gives with
    | value => exact Or.inl rfl
    | size read => exact Or.inr ⟨_, rfl, read⟩
  · rintro (rfl | ⟨text, rfl, read⟩)
    · exact Gives.value cacheSize
    · exact Gives.size read

/-- What a value gives is what the decoder of the setting makes of it. -/
theorem gives_iff_decoded {field : Field} :
    field.Gives config given ↔
      match field with
      | cacheSize => decodeSize given = .ok config.cacheSize
      | fileHandleCount => decodeCount given = .ok config.fileHandleCount
      | cacheFulltexts => decodeSwitch given = .ok config.cacheFulltexts
      | cacheDeltas => decodeSwitch given = .ok config.cacheDeltas
      | singleThreaded => decodeSwitch given = .ok config.singleThreaded := by
  cases field with
  | cacheSize => exact gives_cacheSize_iff
  | fileHandleCount => exact (gives_iff_eq (by decide)).trans decodeCount_eq_ok_iff.symm
  | cacheFulltexts | cacheDeltas | singleThreaded =>
      exact (gives_iff_eq (by decide)).trans decodeSwitch_eq_ok_iff.symm

end Field

theorem map_eq_ok_iff {α β ε : Type} {f : α → β} {result : Except ε α} {b : β} :
    result.map f = .ok b ↔ ∃ a, result = .ok a ∧ f a = b := by
  cases result <;> simp [Except.map]

/-- Reading a setting changes that setting alone. -/
theorem decodeField_eq_ok_iff {config next : CacheConfig} {given : Json} {field : Field} :
    decodeField config given field = .ok next ↔
      field.Gives next given ∧
        ∀ other : Field, other ≠ field → other.value next = other.value config := by
  cases field
  all_goals
    simp only [decodeField, map_eq_ok_iff, Field.gives_iff_decoded]
    constructor
    · rintro ⟨read, decoded, rfl⟩
      refine ⟨decoded, ?_⟩
      intro other different
      cases other <;> first | rfl | contradiction
    · rintro ⟨decoded, same⟩
      refine ⟨_, decoded, Field.config_ext ?_⟩
      intro other
      have kept := same other
      cases other <;> first | rfl | exact (kept (by decide)).symm

theorem exists_decodeField {config : CacheConfig} {given : Json} {field : Field}
    (gives : field.Gives config given) (base : CacheConfig) :
    ∃ next, decodeField base given field = .ok next ∧ field.value next = field.value config := by
  cases field
  all_goals
    simp only [Field.gives_iff_decoded] at gives
    simp only [decodeField, gives]
    exact ⟨_, rfl, rfl⟩

/-! ## Objects -/

/-- What stands under the name of a setting gives the setting; otherwise it stays what it was. -/
def Settled (base config : CacheConfig) (fields : Fields) : Prop :=
  ∀ field : Field,
    match Fields.get? field.name fields with
    | some given => field.Gives config given
    | none => field.value config = field.value base

theorem settled_nil_iff {base config : CacheConfig} : Settled base config [] ↔ config = base := by
  constructor
  · exact Field.config_ext
  · rintro rfl field
    rfl

/-- The first field is read before the others, which do not speak of its setting again. -/
theorem settled_cons_iff {base config : CacheConfig} {field : Field} {given : Json} {rest : Fields}
    (fresh : field.name ∉ Fields.keys rest) :
    Settled base config ((field.name, given) :: rest) ↔
      ∃ next, decodeField base given field = .ok next ∧ Settled next config rest := by
  have absent := Fields.get?_eq_none_iff.mpr fresh
  constructor
  · intro settled
    have gives : field.Gives config given := by
      simpa [Fields.get?_cons] using settled field
    obtain ⟨next, decoded, same⟩ := exists_decodeField gives base
    have kept := (decodeField_eq_ok_iff.mp decoded).2
    refine ⟨next, decoded, ?_⟩
    intro other
    have before := settled other
    rw [Fields.get?_cons] at before
    by_cases again : other = field
    · subst again
      rw [absent]
      exact same.symm
    · have apart : other.name ≠ field.name := fun names => again (Field.name_injective names)
      rw [if_neg apart, ← kept other again] at before
      exact before
  · rintro ⟨next, decoded, settled⟩ other
    obtain ⟨gives, kept⟩ := decodeField_eq_ok_iff.mp decoded
    have after := settled other
    rw [Fields.get?_cons]
    by_cases again : other = field
    · subst again
      rw [absent] at after
      simpa using gives.congr after.symm
    · have apart : other.name ≠ field.name := fun names => again (Field.name_injective names)
      rw [if_neg apart, ← kept other again]
      exact after

theorem decodeFields_eq_ok_iff_of_distinct {fields : Fields} (distinct : (Fields.keys fields).Nodup)
    {base config : CacheConfig} :
    decodeFields base fields = .ok config ↔
      (∀ key ∈ Fields.keys fields, ∃ field : Field, field.name = key) ∧
        Settled base config fields := by
  induction fields generalizing base with
  | nil =>
      rw [settled_nil_iff]
      simp [decodeFields, Fields.keys, eq_comm]
  | cons entry rest ih =>
      obtain ⟨name, given⟩ := entry
      obtain ⟨fresh, restDistinct⟩ := List.nodup_cons.mp distinct
      have allNamed : (∀ key ∈ Fields.keys ((name, given) :: rest),
            ∃ field : Field, field.name = key) ↔
          (∃ field : Field, field.name = name) ∧
            ∀ key ∈ Fields.keys rest, ∃ field : Field, field.name = key :=
        List.forall_mem_cons
      rw [allNamed]
      cases named : Field.ofName? name with
      | none =>
          simp only [decodeFields, named, reduceCtorEq, false_iff]
          rintro ⟨⟨⟨field, rfl⟩, -⟩, -⟩
          rw [Field.ofName?_name] at named
          contradiction
      | some field =>
          obtain rfl := Field.name_of_ofName? named
          simp only [decodeFields, named]
          rw [settled_cons_iff fresh]
          cases decodeField base given field with
          | error error => simp
          | ok next => simp [ih restDistinct]

theorem decodeFields_eq_ok_iff {fields : Fields} (ascending : fields.Ascending)
    {base config : CacheConfig} :
    decodeFields base fields = .ok config ↔
      (∀ key ∈ Fields.keys fields, ∃ field : Field, field.name = key) ∧
        Settled base config fields :=
  decodeFields_eq_ok_iff_of_distinct ascending.distinct

end CacheDepot.Config
