import CacheDepot.Proofs.Config.Loading

/-!
# A configuration as overrides

The layer of a configuration defines every setting, and none of its values is an
object. Laid over other layers it hides whatever they say of a setting, of any type
and however deeply nested; only their keys still count. A load with such overrides
gives back the configuration, or no configuration at all if a key is unknown.
-/

namespace CacheDepot

open Json (Fields)
open Json.Fields (get? keys Ascending)

namespace Config

/-! ## The merged table of settings -/

/-- The table of settings in the built-in layer with layers on top. -/
def mergedTable (layers : List Json) : Json :=
  (layers.filterMap fun layer => get? tableName layer.fields).foldl Json.merge
    CacheConfig.builtin.settings

theorem mergedTable_append_toLayer (layers : List Json) (config : CacheConfig) :
    mergedTable (layers ++ [config.toLayer]) = Json.merge (mergedTable layers) config.settings := by
  unfold mergedTable
  rw [List.filterMap_append, List.foldl_append]
  rfl

theorem ascending_fields_settings (config : CacheConfig) : Ascending config.settings.fields := by
  rw [fields_settings]
  exact Fields.ascending_ofPairs config.declaredPairs

theorem Orderly.table {layer table : Json} (orderly : Orderly layer)
    (found : get? tableName layer.fields = some table) : Ascending table.fields := by
  simpa [settingsOf, found] using orderly.settings

theorem ascending_mergedTable {layers : List Json} (orderly : ∀ layer ∈ layers, Orderly layer) :
    Ascending (mergedTable layers).fields := by
  suffices kept : ∀ base : Json, Ascending base.fields →
      Ascending ((layers.filterMap fun layer => get? tableName layer.fields).foldl
        Json.merge base).fields from
    kept _ (ascending_fields_settings CacheConfig.builtin)
  induction layers with
  | nil => exact fun _ ascending => ascending
  | cons layer rest ih =>
      intro base ascending
      have later := ih fun other otherMem => orderly other (List.mem_cons_of_mem layer otherMem)
      rw [List.filterMap_cons]
      cases found : get? tableName layer.fields with
      | none => exact later base ascending
      | some table =>
          exact later _ (Json.ascending_fields_merge ascending
            ((orderly layer List.mem_cons_self).table found))

/-- Merged objects are a configuration if and only if no table in any of them is unknown and the
merged table of settings is one. -/
theorem extract_mergeLayers_eq_ok_iff_decode {layers : List Json}
    (objects : ∀ layer ∈ layers, layer.isObject) (orderly : ∀ layer ∈ layers, Orderly layer)
    {config : CacheConfig} :
    extract (Json.mergeLayers (CacheConfig.builtin.toLayer :: layers)) = .ok config ↔
      (∀ layer ∈ layers, ∀ key ∈ keys layer.fields, key = tableName) ∧
        decode (mergedTable layers) = .ok config := by
  have tables : ∀ tables ∈ layers.map Json.fields, Ascending tables :=
    List.forall_mem_map.mpr fun layer layerMem => (orderly layer layerMem).tables
  have merged := Json.getD_get?_foldl_mergeFields tables
    [(tableName, CacheConfig.builtin.settings)] tableName
  rw [List.filterMap_map] at merged
  change extract (Json.mergeLayers
    (.object [(tableName, CacheConfig.builtin.settings)] :: layers)) = .ok config ↔ _
  rw [mergeLayers_objects objects, extract_object_eq_ok_iff, merged,
    Json.forall_keys_foldl_mergeFields tables fun key => List.mem_singleton.mp,
    List.forall_mem_map]
  rfl

/-! ## Settings on top of others -/

/-- The value of a setting gives that setting and no other value of it. -/
theorem Field.gives_value_iff {config other : CacheConfig} {field : Field} :
    field.Gives other (field.value config) ↔ field.value other = field.value config := by
  constructor
  · intro gives
    generalize same : field.value config = given at gives ⊢
    cases gives with
    | value => rfl
    | size read => cases same
  · intro same
    exact same ▸ Field.Gives.value field

theorem settled_iff_eq {base config other : CacheConfig} {fields : Fields}
    (defined : ∀ field : Field, get? field.name fields = some (field.value config)) :
    Settled base other fields ↔ other = config := by
  constructor
  · intro settled
    refine Field.config_ext fun field => Field.gives_value_iff.mp ?_
    simpa [defined field] using settled field
  · rintro rfl field
    rw [defined field]
    exact Field.Gives.value field

theorem decode_eq_ok_known {table : Json} (ascending : Ascending table.fields)
    {config : CacheConfig} (decodes : decode table = .ok config) :
    ∀ key ∈ keys table.fields, ∃ field : Field, field.name = key := by
  cases table with
  | object fields => exact ((decodeFields_eq_ok_iff ascending).mp decodes).1
  | _ => exact fun key keyMem => absurd keyMem List.not_mem_nil

/-- Settings laid over a table of known keys are read as they are. -/
theorem decode_merge_settings {base : Json} (ascending : Ascending base.fields)
    (config other : CacheConfig) :
    decode (Json.merge base config.settings) = .ok other ↔
      (∀ key ∈ keys base.fields, ∃ field : Field, field.name = key) ∧ other = config := by
  have settings := ascending_fields_settings config
  have mergedAscending := Json.ascending_fields_merge ascending settings
  have mergedKeys : ∀ key, key ∈ keys (Json.merge base config.settings).fields ↔
      key ∈ keys base.fields ∨ ∃ field : Field, field.name = key := by
    intro key
    rw [← mem_keys_settings, ← fields_settings, Json.mem_keys_merge rfl settings]
  obtain ⟨fields, merged, found⟩ := Json.merge_object_eq base settings
  have whole : Json.object config.settings.fields = config.settings := by
    rw [fields_settings, CacheConfig.settings]
  rw [whole] at merged
  -- The values of settings are no objects, so nothing below shows through them.
  have defined : ∀ field : Field, get? field.name fields = some (field.value config) := by
    intro field
    have onTop : get? field.name config.settings.fields = some (field.value config) := by
      rw [fields_settings]
      exact get?_settings config field
    rw [found, onTop]
    exact congrArg some
      (Json.merge_of_not_object (Field.Gives.value field).isObject_eq_false _)
  rw [merged] at mergedAscending mergedKeys ⊢
  change Ascending fields at mergedAscending
  change decodeFields CacheConfig.builtin fields = .ok other ↔ _
  rw [decodeFields_eq_ok_iff mergedAscending, settled_iff_eq defined]
  refine and_congr_left fun _ => ?_
  constructor
  · exact fun known key keyMem => known key ((mergedKeys key).mpr (Or.inl keyMem))
  · exact fun known key keyMem => ((mergedKeys key).mp keyMem).elim (known key) id

theorem decode_settings (config : CacheConfig) : decode config.settings = .ok config := by
  have ascending : Ascending Json.null.fields := Ascending.nil
  have known : ∀ key ∈ keys Json.null.fields, ∃ field : Field, field.name = key :=
    fun key keyMem => absurd keyMem List.not_mem_nil
  have laid := (decode_merge_settings ascending config config).mpr ⟨known, rfl⟩
  rwa [Json.merge_null] at laid

/-! ## Layers of known keys -/

/-- All keys of a layer are known: it has no table but the one of settings, and the keys in there
are names of settings. Nothing is asked of the values, and what stands in the place of the table
may be no table at all. -/
structure Familiar (layer : Json) : Prop where
  tables : ∀ key ∈ keys layer.fields, key = tableName
  settings : ∀ key ∈ keys (settingsOf layer), ∃ field : Field, field.name = key

theorem familiar_toLayer (config : CacheConfig) : Familiar config.toLayer where
  tables := fun _ keyMem => List.mem_singleton.mp keyMem
  settings := by
    intro key keyMem
    have same : settingsOf config.toLayer = config.settings.fields := rfl
    rw [same, fields_settings] at keyMem
    exact mem_keys_settings.mp keyMem

/-- The merged table has the keys of the built-in settings and those of the layer. -/
theorem known_mergedTable_iff {file : Option Json} (orderly : ∀ layer ∈ file, Orderly layer) :
    (∀ key ∈ keys (mergedTable file.toList).fields, ∃ field : Field, field.name = key) ↔
      ∀ layer ∈ file, ∀ key ∈ keys (settingsOf layer), ∃ field : Field, field.name = key := by
  have builtin : ∀ key ∈ keys CacheConfig.builtin.settings.fields,
      ∃ field : Field, field.name = key := by
    intro key keyMem
    rw [fields_settings] at keyMem
    exact mem_keys_settings.mp keyMem
  cases file with
  | none => exact iff_of_true builtin (by simp)
  | some layer =>
      simp only [Option.toList_some, Option.mem_some_iff, forall_eq']
      cases found : get? tableName layer.fields with
      | none =>
          have merged : mergedTable [layer] = CacheConfig.builtin.settings := by
            simp [mergedTable, found]
          have empty : settingsOf layer = [] := by
            rw [settingsOf, found]
            rfl
          rw [merged, empty]
          exact iff_of_true builtin fun key keyMem => absurd keyMem List.not_mem_nil
      | some table =>
          have merged : mergedTable [layer] = Json.merge CacheConfig.builtin.settings table := by
            simp [mergedTable, found]
          have same : settingsOf layer = table.fields := by
            simp [settingsOf, found]
          rw [merged, same]
          exact Json.forall_keys_merge ((orderly layer rfl).table found) builtin

theorem orderly_toLayer (config : CacheConfig) : Orderly config.toLayer where
  tables := List.pairwise_singleton _ _
  settings := ascending_fields_settings config

theorem forall_mem_layers {file overrides : Option Json} {holds : Json → Prop} :
    (∀ layer ∈ file.toList ++ overrides.toList, holds layer) ↔
      (∀ layer ∈ file, holds layer) ∧ ∀ layer ∈ overrides, holds layer := by
  cases file <;> cases overrides <;> simp

/-- A configuration as overrides is loaded over a layer of known keys, and over no other. -/
theorem combine_toLayer_eq_ok_iff {file : Option Json}
    (objects : ∀ layer ∈ file, layer.isObject) (orderly : ∀ layer ∈ file, Orderly layer)
    (config other : CacheConfig) :
    combine file (some config.toLayer) = .ok other ↔
      (∀ layer ∈ file, Familiar layer) ∧ other = config := by
  have top {holds : Json → Prop} (atTop : holds config.toLayer) :
      ∀ layer ∈ some config.toLayer, holds layer := by
    rintro layer ⟨⟩
    exact atTop
  have allObjects := forall_mem_layers.mpr ⟨objects, top rfl⟩
  have allOrderly := forall_mem_layers.mpr ⟨orderly, top (orderly_toLayer config)⟩
  have ascending : Ascending (mergedTable file.toList).fields :=
    ascending_mergedTable fun layer layerMem => orderly layer (Option.mem_toList.mp layerMem)
  calc combine file (some config.toLayer) = .ok other
    _ ↔ (∀ layer ∈ file.toList ++ (some config.toLayer).toList,
          ∀ key ∈ keys layer.fields, key = tableName) ∧
        decode (mergedTable (file.toList ++ [config.toLayer])) = .ok other :=
      extract_mergeLayers_eq_ok_iff_decode allObjects allOrderly
    _ ↔ (∀ layer ∈ file, ∀ key ∈ keys layer.fields, key = tableName) ∧
        (∀ layer ∈ file, ∀ key ∈ keys (settingsOf layer), ∃ field : Field, field.name = key) ∧
          other = config := by
      rw [forall_mem_layers, and_iff_left (top (familiar_toLayer config).tables),
        mergedTable_append_toLayer, decode_merge_settings ascending, known_mergedTable_iff orderly]
    _ ↔ (∀ layer ∈ file, Familiar layer) ∧ other = config := by
      rw [← and_assoc]
      refine and_congr_left fun _ => ?_
      constructor
      · rintro ⟨tables, settings⟩ layer layerMem
        exact ⟨tables layer layerMem, settings layer layerMem⟩
      · intro familiar
        exact ⟨fun layer layerMem => (familiar layer layerMem).tables,
          fun layer layerMem => (familiar layer layerMem).settings⟩

/-- Keys stay in the merged table if a table comes on top. -/
theorem mem_keys_mergedTable_append {layers : List Json} {top : Json} (orderly : Orderly top)
    (tabular : Tabular top) {key : String} (keyMem : key ∈ keys (mergedTable layers).fields) :
    key ∈ keys (mergedTable (layers ++ [top])).fields := by
  cases found : get? tableName top.fields with
  | none => simpa [mergedTable, found] using keyMem
  | some table =>
      have merged : mergedTable (layers ++ [top]) = Json.merge (mergedTable layers) table := by
        simp [mergedTable, found]
      rw [merged, Json.mem_keys_merge (tabular table found) (orderly.table found)]
      exact Or.inl keyMem

/-- A configuration comes from a layer of known keys, unless overrides hide its table behind
something that is no table. -/
theorem familiar_of_combine {file overrides : Option Json}
    (objects : ∀ layer ∈ file, layer.isObject) (orderly : ∀ layer ∈ file, Orderly layer)
    (topOrderly : ∀ layer ∈ overrides, Orderly layer) (tabular : ∀ layer ∈ overrides, Tabular layer)
    {config : CacheConfig} (combines : combine file overrides = .ok config) :
    ∀ layer ∈ file, Familiar layer := by
  have topObjects : ∀ layer ∈ overrides, layer.isObject := by
    rintro layer rfl
    by_contra plain
    rw [combine_of_not_object (Bool.eq_false_iff.mpr plain)] at combines
    cases combines
  have allOrderly := forall_mem_layers.mpr ⟨orderly, topOrderly⟩
  obtain ⟨tables, decodes⟩ := (extract_mergeLayers_eq_ok_iff_decode
    (forall_mem_layers.mpr ⟨objects, topObjects⟩) allOrderly).mp combines
  have known := decode_eq_ok_known (ascending_mergedTable allOrderly) decodes
  have kept : ∀ key ∈ keys (mergedTable file.toList).fields,
      key ∈ keys (mergedTable (file.toList ++ overrides.toList)).fields := by
    intro key keyMem
    cases overrides with
    | none => simpa using keyMem
    | some top => exact mem_keys_mergedTable_append (topOrderly top rfl) (tabular top rfl) keyMem
  have settings := (known_mergedTable_iff orderly).mp fun key keyMem => known key (kept key keyMem)
  intro layer layerMem
  exact ⟨(forall_mem_layers.mp tables).1 layer layerMem, settings layer layerMem⟩

/-! ## Loading -/

/-- A configuration is read back from its layer. Over a file, as overrides, it is loaded if and only
if all keys of the file are known, whatever the values, and nothing else can be loaded then. So
what was loaded from a file, with overrides or without, is loaded again from that file if its layer
takes the place of the overrides. Only overrides that hide the table of the file behind something
else can have hidden a key of it that is unknown; they are left out here. -/
theorem load_toLayer {read : Files.Reader} {path : Option String}
    {file : Option (Json × String)} (given : fileAt read path = .ok file) (config : CacheConfig) :
    decode ((get? tableName config.toLayer.fields).getD .null) = .ok config ∧
    (∀ loaded, load read path (some config.toLayer) = .ok loaded ↔
      (∀ layer digest, file = some (layer, digest) → Familiar layer) ∧
        loaded = ⟨config, sourcesOf path file (some config.toLayer)⟩) ∧
    ∀ overrides, (∀ layer, overrides = some layer → Orderly layer ∧ Tabular layer) →
      ∀ loaded, load read path overrides = .ok loaded →
        load read path (some loaded.config.toLayer) =
          .ok ⟨loaded.config, sourcesOf path file (some loaded.config.toLayer)⟩ := by
  have shape : ∀ layer ∈ file.map Prod.fst, layer.isObject ∧ Orderly layer := by
    intro layer layerMem
    obtain ⟨⟨layer, digest⟩, rfl, rfl⟩ := Option.map_eq_some_iff.mp layerMem
    exact (fileAt_eq_ok given).2
  have objects : ∀ layer ∈ file.map Prod.fst, layer.isObject :=
    fun layer layerMem => (shape layer layerMem).1
  have orderly : ∀ layer ∈ file.map Prod.fst, Orderly layer :=
    fun layer layerMem => (shape layer layerMem).2
  have familiar : (∀ layer ∈ file.map Prod.fst, Familiar layer) ↔
      ∀ layer digest, file = some (layer, digest) → Familiar layer := by
    rcases file with - | ⟨layer, digest⟩ <;> simp
  have dominates (config : CacheConfig) (loaded : Loaded) :
      load read path (some config.toLayer) = .ok loaded ↔
        (∀ layer digest, file = some (layer, digest) → Familiar layer) ∧
          loaded = ⟨config, sourcesOf path file (some config.toLayer)⟩ := by
    rw [load_eq_ok_iff given, combine_toLayer_eq_ok_iff objects orderly, familiar, and_assoc]
    cases loaded
    simp
  refine ⟨decode_settings config, dominates config, ?_⟩
  intro overrides topShape loaded loads
  have combines := ((load_eq_ok_iff given).mp loads).1
  refine (dominates loaded.config _).mpr ⟨familiar.mp ?_, rfl⟩
  exact familiar_of_combine objects orderly (fun layer layerMem => (topShape layer layerMem).1)
    (fun layer layerMem => (topShape layer layerMem).2) combines

/-- A table in the place of a size does no harm in a file, and nothing of it is left; the greatest
size is loaded in its place, twice. -/
theorem load_toLayer_over_nested_table :
    let read : Files.Reader := fun _ => .ok (some "[cache.cache_size]\nsize = 1\n".toUTF8)
    let config : CacheConfig :=
      { cacheSize := 18446744073709551615, fileHandleCount := 0, singleThreaded := true }
    ∃ loaded, load read (some "depot.toml") (some config.toLayer) = .ok loaded ∧
      loaded.config = config ∧
      load read (some "depot.toml") (some loaded.config.toLayer) = .ok loaded := by
  intro read config
  let layer : Json := .object [("cache", .object [("cache_size", .object [("size", .int 1)])])]
  have parsed : fileLayer "[cache.cache_size]\nsize = 1\n".toUTF8.toList = .ok layer := by
    decide +kernel
  have given : fileAt read (some "depot.toml") = .ok (some (layer,
      Digest.hexText (Digest.sha256 "[cache.cache_size]\nsize = 1\n".toUTF8.toList))) := by
    simp only [fileAt, readLayer, read, parsed]
  have familiar : Familiar layer :=
    ⟨fun key keyMem => List.mem_singleton.mp keyMem,
      fun key keyMem => ⟨.cacheSize, (List.mem_singleton.mp keyMem).symm⟩⟩
  obtain ⟨-, dominates, again⟩ := load_toLayer given config
  have loads := (dominates _).mpr ⟨fun found digest same => by cases same; exact familiar, rfl⟩
  refine ⟨_, loads, rfl, again (some config.toLayer) ?_ _ loads⟩
  rintro top ⟨⟩
  refine ⟨orderly_toLayer config, ?_⟩
  rintro table ⟨⟩
  rfl

end Config

end CacheDepot
