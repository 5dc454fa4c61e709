import CacheDepot.Command.Execution
import CacheDepot.Proofs.Config.SizeForms
import CacheDepot.Proofs.Config.Topmost

/-!
# Settings on the command line

A setting is a text with an equals sign: the key before the first one, without white
space around it, and the value after it. What counts of several settings with one key
is the last, and the order of settings matters within a key only. A size is accepted on
the command line if and only if its text is accepted as a size, even though the command
line reads truth values and numerals on its own.
-/

namespace CacheDepot.Command

open Config (Field)
open Json (Fields)
open Json.Fields (get? keys Ascending)

/-! ## Single settings -/

/-- The text before the first equals sign, without white space around it. -/
def keyOf (setting : String) : String :=
  String.ofList (Text.trim (setting.toList.takeWhile (· ≠ '=')))

/-- The text after the first equals sign. -/
def rawOf (setting : String) : String :=
  String.ofList (setting.toList.dropWhile (· ≠ '=')).tail

/-- The setting of a key that has no equals sign in it. -/
theorem keyOf_rawOf_append {key : String} (plain : '=' ∉ key.toList) (raw : String) :
    keyOf (key ++ "=" ++ raw) = String.ofList (Text.trim key.toList) ∧
      rawOf (key ++ "=" ++ raw) = raw := by
  have apart : ∀ c ∈ key.toList, decide (c ≠ '=') = true := by
    intro c within
    exact decide_eq_true fun same => plain (same ▸ within)
  have text : (key ++ "=" ++ raw).toList = key.toList ++ '=' :: raw.toList := by
    simp
  constructor
  · rw [keyOf, text, List.takeWhile_append_of_pos apart, List.takeWhile_cons_of_neg (by simp),
      List.append_nil]
  · rw [rawOf, text, List.dropWhile_append_of_pos apart, List.dropWhile_cons_of_neg (by simp),
      List.tail_cons, String.ofList_toList]

namespace Overrides

theorem pairOf_eq {setting : String} (assigns : '=' ∈ setting.toList) :
    pairOf setting = .ok (keyOf setting, valueOf (rawOf setting)) := by
  unfold pairOf Form.splitAtEquals
  cases rest : setting.toList.dropWhile (· ≠ '=') with
  | nil =>
      have never := List.dropWhile_eq_nil_iff.mp rest '=' assigns
      simp at never
  | cons equals raw =>
      unfold keyOf rawOf
      rw [rest]
      rfl

theorem pairsOf_eq {settings : List String} (assign : ∀ setting ∈ settings, '=' ∈ setting.toList) :
    pairsOf settings =
      .ok (settings.map fun setting => (keyOf setting, valueOf (rawOf setting))) := by
  induction settings with
  | nil => rfl
  | cons setting rest ih =>
      rcases List.forall_mem_cons.mp assign with ⟨first, later⟩
      simp only [pairsOf, pairOf_eq first, ih later, List.map_cons]

/-! ## Layers -/

/-- The fields that settings make. -/
def fieldsOf (settings : List String) : Fields :=
  Fields.ofPairs (settings.map fun setting => (keyOf setting, valueOf (rawOf setting)))

theorem layer_eq {settings : List String} (assign : ∀ setting ∈ settings, '=' ∈ setting.toList) :
    layer settings = .ok (.object [(Config.tableName, .object (fieldsOf settings))]) := by
  simp only [layer, pairsOf_eq assign]
  rfl

/-- Of the settings with a key the last one counts. -/
theorem get?_fieldsOf (key : String) (settings : List String) :
    get? key (fieldsOf settings) =
      ((settings.filter fun setting => keyOf setting = key).getLast?).map fun setting =>
        valueOf (rawOf setting) := by
  rw [fieldsOf, Fields.get?_ofPairs]
  induction settings using List.reverseRecOn with
  | nil => rfl
  | append_singleton settings last ih =>
      rw [List.map_append, List.reverse_append, List.filter_append, List.map_singleton,
        List.reverse_singleton, List.singleton_append, Fields.get?_cons, ih]
      by_cases same : key = keyOf last
      · simp [same]
      · simp [same, Ne.symm same]

theorem fieldsOf_congr {settings others : List String}
    (same : ∀ key, (settings.filter fun setting => keyOf setting = key).getLast? =
      (others.filter fun setting => keyOf setting = key).getLast?) :
    fieldsOf settings = fieldsOf others := by
  apply (Fields.ascending_ofPairs _).ext (Fields.ascending_ofPairs _)
  intro key
  change get? key (fieldsOf settings) = get? key (fieldsOf others)
  rw [get?_fieldsOf, get?_fieldsOf, same key]

theorem layer?_eq {settings : List String} (given : settings ≠ [])
    (assign : ∀ setting ∈ settings, '=' ∈ setting.toList) :
    layer? settings = .ok (some (.object [(Config.tableName, .object (fieldsOf settings))])) := by
  rw [layer?, if_neg given, layer_eq assign]

theorem eq_nil_iff_getLast?_eq_none {settings : List String} :
    settings = [] ↔
      ∀ key, (settings.filter fun setting => keyOf setting = key).getLast? = none := by
  constructor
  · rintro rfl key
    rfl
  · intro none
    rw [List.eq_nil_iff_forall_not_mem]
    intro setting settingMem
    have empty := List.getLast?_eq_none_iff.mp (none (keyOf setting))
    exact List.filter_eq_nil_iff.mp empty setting settingMem (decide_eq_true rfl)

/-- The layer is told by the last setting of each key. -/
theorem layer?_congr {settings others : List String}
    (assign : ∀ setting ∈ settings, '=' ∈ setting.toList)
    (othersAssign : ∀ setting ∈ others, '=' ∈ setting.toList)
    (same : ∀ key, (settings.filter fun setting => keyOf setting = key).getLast? =
      (others.filter fun setting => keyOf setting = key).getLast?) :
    layer? settings = layer? others := by
  have alsoNone : settings = [] ↔ others = [] := by
    simp only [eq_nil_iff_getLast?_eq_none, same]
  by_cases none : settings = []
  · rw [none, alsoNone.mp none]
  · rw [layer?_eq none assign, layer?_eq (mt alsoNone.mpr none) othersAssign, fieldsOf_congr same]

/-- A setting that a later one of its key supersedes is not the last of any key. -/
theorem getLast?_filter_of_superseded {before after : List String} {superseded later : String}
    (laterMem : later ∈ after) (sameKey : keyOf later = keyOf superseded) (key : String) :
    ((before ++ superseded :: after).filter fun setting => keyOf setting = key).getLast? =
      ((before ++ after).filter fun setting => keyOf setting = key).getLast? := by
  rw [List.filter_append, List.filter_append]
  by_cases own : keyOf superseded = key
  · have kept : after.filter (fun setting => keyOf setting = key) ≠ [] :=
      List.ne_nil_of_mem (List.mem_filter.mpr ⟨laterMem, decide_eq_true (sameKey.trans own)⟩)
    rw [List.filter_cons_of_pos (by simpa using own), List.getLast?_append_of_ne_nil _ kept,
      List.getLast?_append_of_ne_nil _ (List.cons_ne_nil _ _), List.getLast?_cons_of_ne_nil kept]
  · rw [List.filter_cons_of_neg (by simpa using own)]

end Overrides

/-! ## Sizes -/

/-- A numeral is a size without unit. -/
theorem ofText_of_word? {raw : String} {word : UInt64}
    (numeral : Text.word? raw.toList = some word) :
    Config.Size.ofText raw = .ok word := by
  rcases Text.word?_eq_some_iff.mp numeral with
    ⟨sign, digits, known, nonempty, allDigits, spelled, value⟩
  let form : Config.Size.Form :=
    { before := [], sign := sign, digits := digits, between := [], unit := [], bits := 0, mark := []
      after := [], before_blank := by simp, sign_mem := known, digits_ne_nil := nonempty
      digits_isDigit := allDigits, between_blank := by simp, unit_mem := by decide
      mark_mem := by decide, after_blank := by simp }
  apply Config.Size.ofText_eq_ok_iff.mpr
  refine ⟨form, ?_, ?_⟩
  · rw [spelled]
    simp [form, Config.Size.Form.text, Config.Size.Form.number, Config.Size.Form.ending]
  · rw [← value]
    exact Nat.mul_one _

/-- A text is read as a size whatever the command line takes it for. -/
theorem decodeSize_valueOf {raw : String} {size : UInt64} :
    Config.decodeSize (Overrides.valueOf raw) = .ok size ↔ Config.Size.ofText raw = .ok size := by
  have noSize : ∀ on, Config.decodeSize (.bool on) ≠ .ok size := by
    rintro on ⟨⟩
  unfold Overrides.valueOf
  split_ifs with isTrue isFalse
  · subst isTrue
    have refused : Config.Size.ofText "true" = .error (.malformed "true") := rfl
    rw [refused]
    exact iff_of_false (noSize true) (by simp)
  · subst isFalse
    have refused : Config.Size.ofText "false" = .error (.malformed "false") := rfl
    rw [refused]
    exact iff_of_false (noSize false) (by simp)
  · cases numeral : Text.word? raw.toList with
    | some word =>
        rw [Config.decodeSize_eq_ok_iff, ofText_of_word? numeral]
        simp [UInt64.toNat_inj]
    | none => simp [Config.decodeSize_eq_ok_iff]

/-! ## Loading -/

section

variable {read : Files.Reader} {options : Options}

theorem load_eq_ok_iff {settings : List String} {overrides : Option Json}
    (layered : Overrides.layer? settings = .ok overrides) {loaded : Config.Loaded} :
    { options with settings := settings }.load read = .ok loaded ↔
      Config.load read options.file overrides = .ok loaded := by
  unfold Options.load
  simp only [layered]
  cases Config.load read options.file overrides <;> simp

/-- Without a file and without settings there is nothing that could fail. -/
theorem load_nothing :
    ∃ loaded, { options with file := none, settings := [] }.load read = .ok loaded :=
  ⟨⟨.builtin, [⟨.builtin, none⟩]⟩, rfl⟩

theorem load_congr {settings others : List String}
    (same : Overrides.layer? settings = Overrides.layer? others) :
    { options with settings := settings }.load read =
      { options with settings := others }.load read := by
  unfold Options.load
  rw [same]

theorem layer?_size (raw : String) :
    Overrides.layer? ["cache_size=" ++ raw] =
      .ok (some (Config.overriding .cacheSize (Overrides.valueOf raw))) := by
  have assigns : ∀ setting ∈ ["cache_size=" ++ raw], '=' ∈ setting.toList := by
    simp
  rcases keyOf_rawOf_append (by decide : '=' ∉ "cache_size".toList) raw with ⟨key, value⟩
  have pair : Overrides.fieldsOf ["cache_size" ++ "=" ++ raw] =
      [(String.ofList (Text.trim "cache_size".toList), Overrides.valueOf raw)] := by
    rw [← key]
    nth_rewrite 3 [← value]
    rfl
  have fields : Overrides.fieldsOf ["cache_size=" ++ raw] =
      [(Field.cacheSize.name, Overrides.valueOf raw)] := pair
  rw [Overrides.layer?_eq (List.cons_ne_nil _ _) assigns, fields]
  rfl

/-- Where a load succeeds without settings, a size is all that decides about one with a size. -/
theorem load_size_eq_ok_iff {base : Config.Loaded}
    (loads : { options with settings := [] }.load read = .ok base) (raw : String) :
    ∃ (under : CacheConfig) (sources : List Config.Source), ∀ loaded : Config.Loaded,
      { options with settings := ["cache_size=" ++ raw] }.load read = .ok loaded ↔
        ∃ size, Config.Size.ofText raw = .ok size ∧
          loaded = ⟨{ under with cacheSize := size }, sources⟩ := by
  have without : Config.load read options.file none = .ok base := (load_eq_ok_iff rfl).mp loads
  rcases Config.load_overriding_eq_ok_iff without .cacheSize (Overrides.valueOf raw) with
    ⟨under, sources, decides⟩
  refine ⟨under, sources, ?_⟩
  rintro ⟨config, found⟩
  rw [load_eq_ok_iff (layer?_size raw), decides, Field.gives_cacheSize_iff, decodeSize_valueOf]
  constructor
  · rintro ⟨⟨size, rest⟩, same⟩
    refine ⟨config.cacheSize, size, ?_⟩
    rw [Config.Loaded.mk.injEq]
    refine ⟨Field.config_ext fun field => ?_, same⟩
    cases field with
    | cacheSize => rfl
    | _ => exact rest _ (by decide)
  · rintro ⟨size, text, ⟨⟩⟩
    refine ⟨⟨text, ?_⟩, rfl⟩
    intro other different
    cases other with
    | cacheSize => exact absurd rfl different
    | _ => rfl

/-- Settings of different keys can change places. -/
theorem load_of_same_filters {settings others : List String}
    (assign : ∀ setting ∈ settings, '=' ∈ setting.toList)
    (same : ∀ key, settings.filter (fun setting => keyOf setting = key) =
      others.filter fun setting => keyOf setting = key) :
    { options with settings := settings }.load read =
      { options with settings := others }.load read := by
  have othersAssign : ∀ setting ∈ others, '=' ∈ setting.toList := by
    intro setting settingMem
    have ofKey : setting ∈ others.filter fun other => keyOf other = keyOf setting :=
      List.mem_filter.mpr ⟨settingMem, decide_eq_true rfl⟩
    rw [← same] at ofKey
    exact assign setting (List.mem_filter.mp ofKey).1
  apply load_congr
  apply Overrides.layer?_congr assign othersAssign
  intro key
  rw [same key]

/-- A setting that is superseded can go. -/
theorem load_of_superseded {before after : List String} {superseded later : String}
    (assign : ∀ setting ∈ before ++ superseded :: after, '=' ∈ setting.toList)
    (laterMem : later ∈ after) (sameKey : keyOf later = keyOf superseded) :
    { options with settings := before ++ superseded :: after }.load read =
      { options with settings := before ++ after }.load read := by
  have fewer : (before ++ after).Sublist (before ++ superseded :: after) :=
    (List.sublist_cons_self superseded after).append_left before
  apply load_congr
  apply Overrides.layer?_congr assign fun setting settingMem =>
    assign setting (fewer.subset settingMem)
  exact Overrides.getLast?_filter_of_superseded laterMem sameKey

/-- Settings that all assign something are told by the last one of each key: nothing else of them is
in their layer, and two lists that agree on it load alike, or fail alike. So settings of different
keys can change places, and one that is superseded can go, whatever its value. Without a file, or
over one that can be loaded by itself, a single size is loaded if and only if it is one, whatever
the command line takes its text for. -/
theorem load_takes_last_settings (read : Files.Reader) (options : Options) :
    (∀ key raw : String, '=' ∉ key.toList →
      keyOf (key ++ "=" ++ raw) = String.ofList (Text.trim key.toList) ∧
        rawOf (key ++ "=" ++ raw) = raw) ∧
    (∀ settings : List String, (∀ setting ∈ settings, '=' ∈ setting.toList) →
      ∃ fields, Overrides.layer settings = .ok (.object [("cache", .object fields)]) ∧
        Ascending fields ∧
        ∀ key, get? key fields =
          ((settings.filter fun setting => keyOf setting = key).getLast?).map fun setting =>
            Overrides.valueOf (rawOf setting)) ∧
    (∀ settings others : List String, (∀ setting ∈ settings, '=' ∈ setting.toList) →
      (∀ key, settings.filter (fun setting => keyOf setting = key) =
        others.filter fun setting => keyOf setting = key) →
      { options with settings := settings }.load read =
        { options with settings := others }.load read) ∧
    (∀ (before after : List String) (superseded later : String),
      (∀ setting ∈ before ++ superseded :: after, '=' ∈ setting.toList) →
      later ∈ after → keyOf later = keyOf superseded →
      { options with settings := before ++ superseded :: after }.load read =
        { options with settings := before ++ after }.load read) ∧
    (options.file = none ∨ (∃ base, { options with settings := [] }.load read = .ok base) →
      ∀ raw : String,
        ((∃ loaded, { options with settings := ["cache_size=" ++ raw] }.load read = .ok loaded) ↔
          ∃ size, Config.Size.ofText raw = .ok size) ∧
        ∀ loaded, { options with settings := ["cache_size=" ++ raw] }.load read = .ok loaded →
          Config.Size.ofText raw = .ok loaded.config.cacheSize) := by
  refine ⟨fun key raw plain => keyOf_rawOf_append plain raw, ?_, ?_, ?_, ?_⟩
  · intro settings assign
    exact ⟨_, Overrides.layer_eq assign, Fields.ascending_ofPairs _,
      fun key => Overrides.get?_fieldsOf key settings⟩
  · exact fun settings others assign same => load_of_same_filters assign same
  · exact fun before after superseded later assign laterMem sameKey =>
      load_of_superseded assign laterMem sameKey
  · intro possible raw
    have without : ∃ base, { options with settings := [] }.load read = .ok base := by
      rcases possible with noFile | loads
      · rcases options with ⟨file, settings⟩
        cases noFile
        exact load_nothing
      · exact loads
    rcases without with ⟨base, loads⟩
    rcases load_size_eq_ok_iff loads raw with ⟨under, sources, decides⟩
    constructor
    · constructor
      · rintro ⟨loaded, withSize⟩
        rcases (decides loaded).mp withSize with ⟨size, text, -⟩
        exact ⟨size, text⟩
      · rintro ⟨size, text⟩
        exact ⟨_, (decides _).mpr ⟨size, text, rfl⟩⟩
    · intro loaded withSize
      rcases (decides loaded).mp withSize with ⟨size, text, rfl⟩
      exact text

end

/-- A size that is none goes before it is read, and what is left can change places. The sign of a
numeral does no harm, and a truth value is no size. -/
theorem load_takes_last_settings_of_misspelt :
    let read : Files.Reader := fun _ => .ok none
    let load (settings : List String) := { settings := settings : Options }.load read
    load ["cache_size=much", "single_threaded=true", " cache_size =64K"] =
        load [" cache_size =64K", "single_threaded=true"] ∧
      (∃ loaded, load ["cache_size=+5"] = .ok loaded ∧ loaded.config.cacheSize = 5) ∧
      ∀ loaded, load ["cache_size=true"] ≠ .ok loaded := by
  intro read load
  rcases load_takes_last_settings read {} with ⟨-, -, reorder, supersede, sizes⟩
  have switch : keyOf "single_threaded=true" = "single_threaded" := by decide
  have size : keyOf " cache_size =64K" = "cache_size" := by decide
  have gone : load ["cache_size=much", "single_threaded=true", " cache_size =64K"] =
      load ["single_threaded=true", " cache_size =64K"] :=
    supersede [] ["single_threaded=true", " cache_size =64K"] "cache_size=much" " cache_size =64K"
      (by decide) (by decide) (by decide)
  have swapped : load ["single_threaded=true", " cache_size =64K"] =
      load [" cache_size =64K", "single_threaded=true"] := by
    apply reorder _ _ (by decide)
    intro key
    simp only [List.filter_cons, List.filter_nil, switch, size]
    by_cases own : "cache_size" = key
    · subst own
      rfl
    · simp [own]
  refine ⟨gone.trans swapped, ?_, ?_⟩
  · have five : Config.Size.ofText "+5" = .ok 5 := rfl
    rcases (sizes (Or.inl rfl) "+5").1.mpr ⟨5, five⟩ with ⟨loaded, loads⟩
    have read := (sizes (Or.inl rfl) "+5").2 loaded loads
    exact ⟨loaded, loads, (Except.ok.inj (five.symm.trans read)).symm⟩
  · intro loaded loads
    rcases (sizes (Or.inl rfl) "true").1.mp ⟨loaded, loads⟩ with ⟨size, text⟩
    cases text

end CacheDepot.Command
