import CacheDepot.Config.Load
import CacheDepot.Proofs.Config.Decoding

/-!
# Settings in layers

Layers are merged before anything is checked. Still, the outcome can be told setting
by setting: the last layer that defines a setting decides about it, and what lower
layers say of it does not count. Keys count in every layer.
-/

namespace CacheDepot

open Json (Fields)
open Json.Fields (get? keys Ascending)

namespace Config

/-- The settings that a layer defines. -/
def settingsOf (layer : Json) : Fields :=
  ((get? tableName layer.fields).getD .null).fields

/-- What the last layer to define a setting says of it; the built-in value if none does. -/
def lastValue (layers : List Json) (field : Field) : Json :=
  ((layers.filterMap fun layer => get? field.name (settingsOf layer)).getLast?).getD
    (field.value CacheConfig.builtin)

/-- The keys of a layer and those of its table of settings are in ascending order. -/
structure Orderly (layer : Json) : Prop where
  tables : Ascending layer.fields
  settings : Ascending (settingsOf layer)

/-- A layer has a table where it has settings. -/
def Tabular (layer : Json) : Prop :=
  ∀ table, get? tableName layer.fields = some table → table.isObject

/-! ## Merged settings -/

theorem merge_object {overlay : Json} (object : overlay.isObject) (below : Fields) :
    Json.merge (.object below) overlay = .object (Json.mergeFields below overlay.fields) := by
  cases overlay <;> first | rfl | contradiction

theorem mergeLayers_objects {layers : List Json} (objects : ∀ layer ∈ layers, layer.isObject)
    (bottom : Fields) :
    Json.mergeLayers (.object bottom :: layers) =
      .object ((layers.map Json.fields).foldl Json.mergeFields bottom) := by
  change layers.foldl Json.merge (.object bottom) = _
  induction layers generalizing bottom with
  | nil => rfl
  | cons layer rest ih =>
      rw [List.foldl_cons, merge_object (objects layer List.mem_cons_self)]
      exact ih (fun other otherMem => objects other (List.mem_cons_of_mem layer otherMem)) _

/-- The tables of settings are merged as the layers are. -/
theorem get?_tableName_foldl {layers : List Json} (orderly : ∀ layer ∈ layers, Orderly layer)
    (tabular : ∀ layer ∈ layers, Tabular layer) {bottom settings : Fields}
    (present : get? tableName bottom = some (.object settings)) :
    get? tableName ((layers.map Json.fields).foldl Json.mergeFields bottom) =
      some (.object ((layers.map settingsOf).foldl Json.mergeFields settings)) := by
  induction layers generalizing bottom settings with
  | nil => exact present
  | cons layer rest ih =>
      have laid : get? tableName (Json.mergeFields bottom layer.fields) =
          some (.object (Json.mergeFields settings (settingsOf layer))) := by
        rw [Json.get?_mergeFields (orderly layer List.mem_cons_self).tables, present]
        unfold settingsOf
        cases found : get? tableName layer.fields with
        | none => rfl
        | some table =>
            simp only [Option.getD_some]
            rw [merge_object (tabular layer List.mem_cons_self table found)]
      exact ih (fun other otherMem => orderly other (List.mem_cons_of_mem layer otherMem))
        (fun other otherMem => tabular other (List.mem_cons_of_mem layer otherMem)) laid

/-- The table of a configuration, without evaluating the order of its keys. -/
theorem fields_settings (config : CacheConfig) :
    config.settings.fields = Fields.ofPairs config.declaredPairs := by
  rw [CacheConfig.settings, Json.fields_object]

theorem get?_settings (config : CacheConfig) (field : Field) :
    get? field.name (Fields.ofPairs config.declaredPairs) = some (field.value config) := by
  cases field <;> simp [CacheConfig.declaredPairs, Field.declared, Fields.ofPairs,
    Fields.get?_put, Field.name]

theorem mem_keys_settings {config : CacheConfig} {key : String} :
    key ∈ keys (Fields.ofPairs config.declaredPairs) ↔ ∃ field : Field, field.name = key := by
  rw [Fields.mem_keys_ofPairs, CacheConfig.declaredPairs, List.map_map]
  constructor
  · intro keyMem
    obtain ⟨field, -, rfl⟩ := List.mem_map.mp keyMem
    exact ⟨field, rfl⟩
  · rintro ⟨field, rfl⟩
    refine List.mem_map.mpr ⟨field, ?_, rfl⟩
    cases field <;> decide

/-- What lies below does not change what a value gives. -/
theorem gives_merge_iff {config : CacheConfig} {field : Field} {base given : Json} :
    field.Gives config (Json.merge base given) ↔ field.Gives config given := by
  cases object : given.isObject with
  | false => rw [Json.merge_of_not_object object]
  | true =>
      constructor
      · intro gives
        have plain := gives.isObject_eq_false
        rw [Json.isObject_merge, object] at plain
        contradiction
      · intro gives
        have plain := gives.isObject_eq_false
        rw [object] at plain
        contradiction

theorem settled_builtin_iff {layers : List Json} (orderly : ∀ layer ∈ layers, Orderly layer)
    {config : CacheConfig} :
    Settled CacheConfig.builtin config ((layers.map settingsOf).foldl Json.mergeFields
        (Fields.ofPairs CacheConfig.builtin.declaredPairs)) ↔
      ∀ field : Field, field.Gives config (lastValue layers field) := by
  refine forall_congr' fun field => ?_
  have ascending : ∀ settings ∈ layers.map settingsOf, Ascending settings :=
    List.forall_mem_map.mpr fun layer layerMem => (orderly layer layerMem).settings
  have last := Json.get?_foldl_mergeFields ascending
    (Fields.ofPairs CacheConfig.builtin.declaredPairs) field.name
  rw [List.filterMap_map, Function.comp_def] at last
  unfold lastValue
  cases found : (layers.filterMap fun layer => get? field.name (settingsOf layer)).getLast? with
  | none =>
      rw [found] at last
      rw [last, get?_settings]
      rfl
  | some value =>
      rw [found] at last
      obtain ⟨base, merged⟩ := last
      rw [merged]
      exact gives_merge_iff

/-! ## Loading -/

theorem extract_object_eq_ok_iff {tables : Fields} {config : CacheConfig} :
    extract (.object tables) = .ok config ↔
      (∀ key ∈ keys tables, key = tableName) ∧
        decode ((get? tableName tables).getD .null) = .ok config := by
  have noOther : (∀ key ∈ keys tables, key = tableName) ↔
      tables.find? (fun table => table.1 ≠ tableName) = none := by
    simp [keys, List.find?_eq_none]
  rw [noOther]
  simp only [extract]
  cases tables.find? fun table => table.1 ≠ tableName with
  | some table => simp
  | none =>
      cases decode ((get? tableName tables).getD .null) <;> simp

/-- Merged objects are a configuration if and only if no key in any of them is unknown and the last
value of each setting gives it. -/
theorem extract_mergeLayers_eq_ok_iff {layers : List Json}
    (objects : ∀ layer ∈ layers, layer.isObject) (orderly : ∀ layer ∈ layers, Orderly layer)
    (tabular : ∀ layer ∈ layers, Tabular layer) {config : CacheConfig} :
    extract (Json.mergeLayers (CacheConfig.builtin.toLayer :: layers)) = .ok config ↔
      (∀ layer ∈ layers, ∀ key ∈ keys layer.fields, key = tableName) ∧
      (∀ layer ∈ layers, ∀ key ∈ keys (settingsOf layer), ∃ field : Field, field.name = key) ∧
      ∀ field : Field, field.Gives config (lastValue layers field) := by
  have tables : ∀ tables ∈ layers.map Json.fields, Ascending tables :=
    List.forall_mem_map.mpr fun layer layerMem => (orderly layer layerMem).tables
  have settings : ∀ settings ∈ layers.map settingsOf, Ascending settings :=
    List.forall_mem_map.mpr fun layer layerMem => (orderly layer layerMem).settings
  have bottom : get? tableName [(tableName, CacheConfig.builtin.settings)] =
      some (.object (Fields.ofPairs CacheConfig.builtin.declaredPairs)) := rfl
  have mergedAscending := Json.ascending_foldl_mergeFields
    (Fields.ascending_ofPairs CacheConfig.builtin.declaredPairs) (layers.map settingsOf)
  change extract (Json.mergeLayers
    (.object [(tableName, CacheConfig.builtin.settings)] :: layers)) = .ok config ↔ _
  rw [mergeLayers_objects objects, extract_object_eq_ok_iff,
    get?_tableName_foldl orderly tabular bottom, Option.getD_some]
  change _ ∧ decodeFields CacheConfig.builtin _ = .ok config ↔ _
  rw [decodeFields_eq_ok_iff mergedAscending, settled_builtin_iff orderly]
  rw [Json.forall_keys_foldl_mergeFields tables fun key => List.mem_singleton.mp,
    Json.forall_keys_foldl_mergeFields settings fun key => mem_keys_settings.mp,
    List.forall_mem_map, List.forall_mem_map]

end Config

end CacheDepot
