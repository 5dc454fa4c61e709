import CacheDepot.Proofs.Config.Decoding
import Mathlib.Algebra.GroupWithZero.Nat

/-!
# The format of configurations

A configuration is read from an object of settings or from an array of settings in the
order of declaration. Both are lists of named entries, which are read one by one: all of
them must be settings with a value of their type, and otherwise the first entry that is
not one is reported, in the words that the entry would be refused with if it stood alone.
-/

namespace CacheDepot.Config

open Json (Fields)
open Json.Fields (get? keys Ascending)

/-! ## Single entries -/

/-- The setting can be read from the value: a size from a 64-bit word or from the text of a size, a
count from a 64-bit word, and a switch from a truth value. -/
def Field.Admits (given : Json) : Field → Prop
  | .cacheSize =>
      (∃ n : Nat, n < 2 ^ 64 ∧ given = .int n) ∨
        ∃ text size, given = .text text ∧ Size.ofText text = .ok size
  | .fileHandleCount => ∃ n : Nat, n < 2 ^ 64 ∧ given = .int n
  | .cacheFulltexts | .cacheDeltas | .singleThreaded => ∃ on, given = .bool on

/-- The key names a setting that can be read from the value. -/
def IsSetting (entry : String × Json) : Prop :=
  ∃ field : Field, field.name = entry.1 ∧ field.Admits entry.2

section

variable {field : Field} {given : Json}

theorem exists_word_iff :
    (∃ word : UInt64, given = .int word.toNat) ↔ ∃ n : Nat, n < 2 ^ 64 ∧ given = .int n := by
  constructor
  · rintro ⟨word, rfl⟩
    exact ⟨word.toNat, word.toNat_lt, rfl⟩
  · rintro ⟨n, small, rfl⟩
    refine ⟨UInt64.ofNat n, ?_⟩
    rw [UInt64.toNat_ofNat_of_lt' small]

theorem exists_map_eq_ok_iff {α β ε : Type} {f : α → β} {result : Except ε α} :
    (∃ b, result.map f = .ok b) ↔ ∃ a, result = .ok a := by
  cases result <;> simp [Except.map]

theorem exists_decodeField_iff (base : CacheConfig) :
    (∃ next, decodeField base given field = .ok next) ↔ field.Admits given := by
  cases field with
  | cacheSize =>
      rw [decodeField, exists_map_eq_ok_iff]
      simp only [decodeSize_eq_ok_iff, exists_or, exists_word_iff, Field.Admits]
      refine or_congr_right ?_
      rw [exists_comm]
  | fileHandleCount =>
      rw [decodeField, exists_map_eq_ok_iff]
      simp only [decodeCount_eq_ok_iff, exists_word_iff, Field.Admits]
  | cacheFulltexts | cacheDeltas | singleThreaded =>
      rw [decodeField, exists_map_eq_ok_iff]
      simp only [decodeSwitch_eq_ok_iff, Field.Admits]

theorem map_eq_error_iff {α β ε : Type} {f : α → β} {result : Except ε α} {error : ε} :
    result.map f = .error error ↔ result = .error error := by
  cases result <;> simp [Except.map]

/-- What is wrong with a value does not hang on the other settings. -/
theorem decodeField_eq_error_iff (base other : CacheConfig) {error : DecodeError} :
    decodeField base given field = .error error ↔ decodeField other given field = .error error := by
  cases field <;> simp only [decodeField, map_eq_error_iff]

theorem exists_decode_entry_iff {entry : String × Json} :
    (∃ config, decode (.object [entry]) = .ok config) ↔ IsSetting entry := by
  rcases entry with ⟨key, given⟩
  change (∃ config, decodeFields CacheConfig.builtin [(key, given)] = .ok config) ↔
    ∃ field : Field, field.name = key ∧ field.Admits given
  cases named : Field.ofName? key with
  | none =>
      simp only [decodeFields, named, reduceCtorEq, exists_false, false_iff]
      rintro ⟨field, rfl, -⟩
      rw [Field.ofName?_name] at named
      contradiction
  | some field =>
      obtain rfl := Field.name_of_ofName? named
      have own : ∀ other : Field, other.name = field.name ↔ other = field := by
        intro other
        exact ⟨Field.name_injective, congrArg Field.name⟩
      simp only [own, exists_eq_left, ← exists_decodeField_iff CacheConfig.builtin]
      simp only [decodeFields, named]
      cases decodeField CacheConfig.builtin given field <;> simp

end

/-! ## Entries one after the other -/

variable {entry : String × Json} {entries : Fields} {error : DecodeError}

/-- The rest is not looked at after an entry that is refused. -/
theorem decodeFields_cons_of_error (refused : decode (.object [entry]) = .error error)
    (base : CacheConfig) (rest : Fields) :
    decodeFields base (entry :: rest) = .error error := by
  rcases entry with ⟨key, given⟩
  change decodeFields CacheConfig.builtin [(key, given)] = .error error at refused
  cases named : Field.ofName? key with
  | none =>
      simp only [decodeFields, named] at refused ⊢
      exact refused
  | some field =>
      have bad : decodeField CacheConfig.builtin given field = .error error := by
        simp only [decodeFields, named] at refused
        cases decoded : decodeField CacheConfig.builtin given field with
        | error other =>
            rw [decoded] at refused
            exact refused
        | ok next =>
            rw [decoded] at refused
            cases refused
      simp only [decodeFields, named, (decodeField_eq_error_iff _ base).mp bad]

theorem decodeFields_cons_of_ok {config : CacheConfig}
    (read : decode (.object [entry]) = .ok config) (base : CacheConfig) (rest : Fields) :
    ∃ next, decodeFields base (entry :: rest) = decodeFields next rest := by
  rcases exists_decode_entry_iff.mp ⟨config, read⟩ with ⟨field, named, admits⟩
  rcases (exists_decodeField_iff base).mpr admits with ⟨next, decoded⟩
  rcases entry with ⟨key, given⟩
  obtain rfl : field.name = key := named
  refine ⟨next, ?_⟩
  simp only [decodeFields, Field.ofName?_name]
  rw [decoded]

theorem exists_decodeFields_iff (base : CacheConfig) :
    (∃ config, decodeFields base entries = .ok config) ↔ ∀ entry ∈ entries, IsSetting entry := by
  induction entries generalizing base with
  | nil => simp [decodeFields]
  | cons entry rest ih =>
      rw [List.forall_mem_cons, ← exists_decode_entry_iff]
      cases alone : decode (.object [entry]) with
      | error error => simp [decodeFields_cons_of_error alone]
      | ok config =>
          rcases decodeFields_cons_of_ok alone base rest with ⟨next, later⟩
          rw [later, ih]
          simp

/-- The first entry that is refused is the one reported. -/
theorem decodeFields_eq_error_iff (base : CacheConfig) :
    decodeFields base entries = .error error ↔
      ∃ before entry after, entries = before ++ entry :: after ∧
        (∀ other ∈ before, IsSetting other) ∧ decode (.object [entry]) = .error error := by
  induction entries generalizing base with
  | nil => simp [decodeFields]
  | cons first rest ih =>
      cases alone : decode (.object [first]) with
      | error other =>
          rw [decodeFields_cons_of_error alone]
          constructor
          · rintro ⟨⟩
            exact ⟨[], first, rest, rfl, fun _ none => absurd none List.not_mem_nil, alone⟩
          · rintro ⟨before, entry, after, split, read, refused⟩
            rcases List.cons_eq_append_iff.mp split with ⟨rfl, same⟩ | ⟨more, rfl, -⟩
            · cases same
              exact alone.symm.trans refused
            · rcases exists_decode_entry_iff.mpr (read first List.mem_cons_self) with
                ⟨config, wellRead⟩
              cases alone.symm.trans wellRead
      | ok config =>
          rcases decodeFields_cons_of_ok alone base rest with ⟨next, later⟩
          rw [later, ih]
          constructor
          · rintro ⟨before, entry, after, rfl, read, refused⟩
            have firstRead : IsSetting first := exists_decode_entry_iff.mp ⟨config, alone⟩
            exact ⟨first :: before, entry, after, rfl,
              List.forall_mem_cons.mpr ⟨firstRead, read⟩, refused⟩
          · rintro ⟨before, entry, after, split, read, refused⟩
            rcases List.cons_eq_append_iff.mp split with ⟨rfl, same⟩ | ⟨more, rfl, same⟩
            · cases same
              cases alone.symm.trans refused
            · exact ⟨more, entry, after, same, (List.forall_mem_cons.mp read).2, refused⟩

/-! ## Objects and arrays -/

/-- The entries of a value: those of an object, or the items of an array under the names of the
settings in the order of declaration. -/
def entriesOf : Json → Fields
  | .object fields => fields
  | .array items => (Field.declared.map Field.name).zip items
  | _ => []

theorem decodeItems_eq (base : CacheConfig) (fields : List Field) (items : List Json) :
    decodeItems base fields items =
      (decodeFields base ((fields.map Field.name).zip items)).map fun config =>
        (config, items.drop fields.length) := by
  induction fields generalizing base items with
  | nil => rfl
  | cons field fields ih =>
      cases items with
      | nil => rfl
      | cons item rest =>
          simp only [decodeItems, List.map_cons, List.zip_cons_cons, decodeFields,
            Field.ofName?_name]
          cases decodeField base item field with
          | error error => rfl
          | ok next => exact ih next rest

variable {items : List Json}

theorem decode_array_of_error
    (refused : decodeFields CacheConfig.builtin (entriesOf (.array items)) = .error error) :
    decode (.array items) = .error error := by
  change decodeFields _ ((Field.declared.map Field.name).zip items) = _ at refused
  simp only [decode, decodeItems_eq, refused]
  rfl

/-- Items are counted after the ones that stand for settings were read. -/
theorem decode_array_of_ok {config : CacheConfig}
    (read : decodeFields CacheConfig.builtin (entriesOf (.array items)) = .ok config) :
    decode (.array items) =
      if items.length ≤ Field.declared.length then .ok config
      else .error (.tooManyItems items.length) := by
  change decodeFields _ ((Field.declared.map Field.name).zip items) = _ at read
  simp only [decode, decodeItems_eq, read, Except.map]
  split_ifs with few
  · rw [List.drop_of_length_le few]
  · cases left : items.drop Field.declared.length with
    | nil => exact absurd (List.drop_eq_nil_iff.mp left) few
    | cons item rest => rfl

theorem decode_array_eq_ok {config : CacheConfig} (decoded : decode (.array items) = .ok config) :
    decodeFields CacheConfig.builtin (entriesOf (.array items)) = .ok config := by
  cases read : decodeFields CacheConfig.builtin (entriesOf (.array items)) with
  | error error => cases (decode_array_of_error read).symm.trans decoded
  | ok other =>
      rw [decode_array_of_ok read] at decoded
      split_ifs at decoded
      exact decoded

theorem distinct_entriesOf_array (items : List Json) :
    (keys (entriesOf (.array items))).Nodup := by
  have names : (Field.declared.map Field.name).Nodup := by decide
  suffices sublist : ∀ (names : List String) (items : List Json),
      ((names.zip items).map Prod.fst).Sublist names from
    names.sublist (sublist _ items)
  intro names
  induction names with
  | nil => exact fun items => List.Sublist.refl []
  | cons name rest ih =>
      intro items
      cases items with
      | nil => exact List.nil_sublist _
      | cons item more => exact (ih more).cons_cons name

/-- An array that is not too long is read as the object of the same entries. -/
theorem decode_array_eq_ok_iff (few : items.length ≤ Field.declared.length) {config : CacheConfig} :
    decode (.array items) = .ok config ↔
      decode (.object (Fields.ofPairs (entriesOf (.array items)))) = .ok config := by
  have distinct := distinct_entriesOf_array items
  have same : ∀ key, get? key (Fields.ofPairs (entriesOf (.array items))) =
      get? key (entriesOf (.array items)) := by
    intro key
    rw [Fields.get?_ofPairs]
    exact (Named.lookup_of_perm distinct (List.reverse_perm _).symm).symm
  have onward : decode (.array items) = .ok config ↔
      decodeFields CacheConfig.builtin (entriesOf (.array items)) = .ok config := by
    refine ⟨decode_array_eq_ok, fun read => ?_⟩
    rw [decode_array_of_ok read, if_pos few]
  change _ ↔ decodeFields CacheConfig.builtin _ = .ok config
  rw [onward, decodeFields_eq_ok_iff_of_distinct distinct,
    decodeFields_eq_ok_iff (Fields.ascending_ofPairs _)]
  simp only [Settled, same, Fields.mem_keys_ofPairs]
  rfl

theorem settled_of_decode {given : Json} (ascending : Ascending given.fields) {config : CacheConfig}
    (decoded : decode given = .ok config) :
    Settled CacheConfig.builtin config (entriesOf given) := by
  cases given with
  | object fields => exact ((decodeFields_eq_ok_iff ascending).mp decoded).2
  | array items =>
      have distinct := distinct_entriesOf_array items
      exact ((decodeFields_eq_ok_iff_of_distinct distinct).mp (decode_array_eq_ok decoded)).2
  | _ => cases decoded

theorem exists_decode_array_iff :
    (∃ config, decode (.array items) = .ok config) ↔
      items.length ≤ Field.declared.length ∧
        ∀ entry ∈ entriesOf (.array items), IsSetting entry := by
  rw [← exists_decodeFields_iff CacheConfig.builtin]
  cases read : decodeFields CacheConfig.builtin (entriesOf (.array items)) with
  | error error => simp [decode_array_of_error read]
  | ok config =>
      rw [decode_array_of_ok read]
      split_ifs with few <;> simp [few]

/-- The keys before an entry are those that are less. -/
theorem decode_object_eq_error_iff {fields : Fields} (ascending : Ascending fields) :
    decode (.object fields) = .error error ↔
      ∃ entry ∈ fields, decode (.object [entry]) = .error error ∧
        ∀ other ∈ fields, other.1 < entry.1 → IsSetting other := by
  change decodeFields CacheConfig.builtin fields = .error error ↔ _
  rw [decodeFields_eq_error_iff]
  constructor
  · rintro ⟨before, entry, after, rfl, read, refused⟩
    refine ⟨entry, List.mem_append_right before List.mem_cons_self, refused, ?_⟩
    intro other otherMem less
    rcases List.mem_append.mp otherMem with early | notEarly
    · exact read other early
    · rcases List.mem_cons.mp notEarly with rfl | late
      · exact absurd less (String.lt_irrefl _)
      · exact absurd (String.lt_trans less (ascending.around.2 other late)) (String.lt_irrefl _)
  · rintro ⟨entry, entryMem, refused, read⟩
    rcases List.append_of_mem entryMem with ⟨before, after, rfl⟩
    refine ⟨before, entry, after, rfl, ?_, refused⟩
    intro other early
    exact read other (List.mem_append_left _ early) (ascending.around.1 other early)

theorem decode_array_eq_error_iff :
    decode (.array items) = .error error ↔
      (∃ before entry after, entriesOf (.array items) = before ++ entry :: after ∧
        (∀ other ∈ before, IsSetting other) ∧ decode (.object [entry]) = .error error) ∨
      ((∀ entry ∈ entriesOf (.array items), IsSetting entry) ∧
        Field.declared.length < items.length ∧ error = .tooManyItems items.length) := by
  rw [← decodeFields_eq_error_iff CacheConfig.builtin,
    ← exists_decodeFields_iff CacheConfig.builtin]
  cases read : decodeFields CacheConfig.builtin (entriesOf (.array items)) with
  | error other => simp [decode_array_of_error read]
  | ok config =>
      rw [decode_array_of_ok read]
      split_ifs with few
      · simp [Nat.not_lt.mpr few]
      · simp [Nat.lt_of_not_le few, eq_comm]

theorem decode_unknown {key : String} (unknown : ∀ field : Field, field.name ≠ key) (given : Json) :
    decode (.object [(key, given)]) = .error (.unknownField key) := by
  have unnamed : Field.ofName? key = none := by
    rw [Option.eq_none_iff_forall_ne_some]
    intro field named
    exact unknown field (Field.name_of_ofName? named)
  change decodeFields CacheConfig.builtin [(key, given)] = _
  simp only [decodeFields, unnamed]

/-- A value is read as a configuration if it is an object all of whose entries are settings, or an
array of no more items than there are settings, each of them a value of the setting in its place.
Settings that it does not have are those of the built-in configuration, and an array says the same
as the object of its entries. Of an object, the entry with the least key that is no setting is
reported, and of an array the first one, or else that it is too long. -/
theorem decode_reads_format {given : Json} (canonical : given.Canonical) :
    ((∃ config, decode given = .ok config) ↔
      ((∃ fields, given = .object fields) ∨ ∃ items, given = .array items ∧ items.length ≤ 5) ∧
        ∀ entry ∈ entriesOf given, IsSetting entry) ∧
    (∀ config, decode given = .ok config →
      Settled CacheConfig.builtin config (entriesOf given)) ∧
    (∀ items, given = .array items → items.length ≤ 5 → ∀ config, decode given = .ok config ↔
      decode (.object (Fields.ofPairs (entriesOf given))) = .ok config) ∧
    (∀ fields error, given = .object fields → (decode given = .error error ↔
      ∃ entry ∈ fields, decode (.object [entry]) = .error error ∧
        ∀ other ∈ fields, other.1 < entry.1 → IsSetting other)) ∧
    (∀ items error, given = .array items → (decode given = .error error ↔
      (∃ before entry after, entriesOf given = before ++ entry :: after ∧
        (∀ other ∈ before, IsSetting other) ∧ decode (.object [entry]) = .error error) ∨
      ((∀ entry ∈ entriesOf given, IsSetting entry) ∧ 5 < items.length ∧
        error = .tooManyItems items.length))) ∧
    ∀ key, (∀ field : Field, field.name ≠ key) → ∀ value,
      decode (.object [(key, value)]) = .error (.unknownField key) := by
  refine ⟨?_, ?_, ?_, ?_, ?_, fun key unknown => decode_unknown unknown⟩
  · cases given with
    | object fields =>
        simp [exists_decodeFields_iff, decode, entriesOf]
    | array items =>
        rw [exists_decode_array_iff]
        simp [Field.declared]
    | _ => simp [decode]
  · intro config
    exact settled_of_decode (Json.ascending_of_canonical canonical)
  · rintro items rfl few config
    exact decode_array_eq_ok_iff few
  · rintro fields error rfl
    exact decode_object_eq_error_iff (Json.ascending_of_canonical canonical)
  · rintro items error rfl
    exact decode_array_eq_error_iff

/-- A misspelt key is reported before a value of the wrong type under a greater one. -/
theorem decode_reads_format_of_misspelt :
    let given : Json := .object
      [("cache_deltas", .bool true), ("cache_sise", .text "1G"), ("file_handle_count", .null)]
    given.Canonical ∧ decode given = .error (.unknownField "cache_sise") := by
  intro given
  have ordered : (["cache_deltas", "cache_sise", "file_handle_count"] : List String).Pairwise
      (· < ·) := by decide
  have canonical : given.Canonical := ⟨ordered, trivial, trivial, trivial, trivial⟩
  have misspelt : ∀ field : Field, field.name ≠ "cache_sise" := by
    intro field
    cases field <;> decide
  obtain ⟨-, -, -, reported, -, unknown⟩ := decode_reads_format canonical
  refine ⟨canonical, (reported _ _ rfl).mpr ⟨("cache_sise", .text "1G"), ?_, ?_, ?_⟩⟩
  · exact List.mem_cons_of_mem _ List.mem_cons_self
  · exact unknown _ misspelt _
  · intro other otherMem less
    rcases List.mem_cons.mp otherMem with rfl | otherMem
    · exact ⟨.cacheDeltas, rfl, true, rfl⟩
    · have notLess : ∀ key ∈ ["cache_sise", "file_handle_count"], ¬ key < "cache_sise" := by decide
      exact absurd less (notLess other.1 (List.mem_map_of_mem otherMem))

end CacheDepot.Config
