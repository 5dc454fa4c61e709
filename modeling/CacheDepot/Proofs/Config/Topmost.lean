import CacheDepot.Proofs.Config.Dominance

/-!
# One setting on top

Overrides with a single setting, over layers that make up a configuration: the setting
is read from the overrides, and every other stays what it was. Only a table that was
written as an array is not merged but hidden, and what it said is lost.
-/

namespace CacheDepot.Config

open Json (Fields)
open Json.Fields (get? keys Ascending)

/-! ## Over a table -/

/-- A value does not give two values of a setting. -/
theorem Field.Gives.value_eq {field : Field} {given : Json} {a b : CacheConfig}
    (first : field.Gives a given) (second : field.Gives b given) :
    field.value a = field.value b := by
  rw [gives_iff_decoded] at first second
  cases field <;>
  · have same := Except.ok.inj (first.symm.trans second)
    simp only [Field.value, same]

/-- The configuration below a setting on top of a table: the one that the table stands for, or the
built-in one if the table is hidden. -/
def underlay (table : Json) (config : CacheConfig) : CacheConfig :=
  if table.isObject then config else .builtin

theorem settled_underlay {table : Json} (ascending : Ascending table.fields) {config : CacheConfig}
    (decodes : decode table = .ok config) :
    Settled .builtin (underlay table config) table.fields := by
  cases table with
  | object fields => exact ((decodeFields_eq_ok_iff ascending).mp decodes).2
  | _ => exact fun _ => rfl

/-- The fields of a table with one more setting settle that one by its value and all others as the
table does. -/
theorem settled_merge_iff {fields merged : Fields} {base under config : CacheConfig} {field : Field}
    {given : Json} (settled : Settled base under fields)
    (found : ∀ key, get? key merged =
      if key = field.name then some (Json.merge ((get? key fields).getD .null) given)
      else get? key fields) :
    Settled base config merged ↔
      field.Gives config given ∧
        ∀ other : Field, other ≠ field → other.value config = other.value under := by
  constructor
  · intro onTop
    constructor
    · have own := onTop field
      rw [found, if_pos rfl] at own
      exact gives_merge_iff.mp own
    · intro other different
      have before := settled other
      have after := onTop other
      rw [found, if_neg (mt Field.name_injective different)] at after
      cases entry : get? other.name fields with
      | none =>
          rw [entry] at before after
          exact after.trans before.symm
      | some value =>
          rw [entry] at before after
          exact after.value_eq before
  · rintro ⟨own, rest⟩ other
    rw [found]
    by_cases same : other = field
    · subst same
      rw [if_pos rfl]
      exact gives_merge_iff.mpr own
    · have before := settled other
      rw [if_neg (mt Field.name_injective same)]
      cases entry : get? other.name fields with
      | none =>
          rw [entry] at before
          exact (rest other same).trans before
      | some value =>
          rw [entry] at before
          exact before.congr (rest other same).symm

theorem decode_merge_single {table : Json} (ascending : Ascending table.fields) {base : CacheConfig}
    (decodes : decode table = .ok base) {field : Field} {given : Json} {config : CacheConfig} :
    decode (Json.merge table (.object [(field.name, given)])) = .ok config ↔
      field.Gives config given ∧ ∀ other : Field, other ≠ field →
        other.value config = other.value (underlay table base) := by
  have single : Ascending (Json.object [(field.name, given)]).fields := List.pairwise_singleton _ _
  have known : ∀ key ∈ keys (Json.merge table (.object [(field.name, given)])).fields,
      ∃ field : Field, field.name = key :=
    (Json.forall_keys_merge single (decode_eq_ok_known ascending decodes)).mpr
      fun key keyMem => ⟨field, (List.mem_singleton.mp keyMem).symm⟩
  have mergedAscending := Json.ascending_fields_merge ascending single
  rcases Json.merge_object_eq table single with ⟨fields, merged, found⟩
  change Json.merge table (.object [(field.name, given)]) = .object fields at merged
  rw [merged] at known mergedAscending ⊢
  refine (decodeFields_eq_ok_iff mergedAscending).trans ((and_iff_right known).trans ?_)
  apply settled_merge_iff (settled_underlay ascending decodes)
  intro key
  refine (found key).trans ?_
  by_cases same : key = field.name
  · simp [Json.fields, Fields.get?_cons, same]
  · simp [Json.fields, Fields.get?_cons, same]

/-! ## Over a file -/

/-- Overrides with one setting. -/
def overriding (field : Field) (given : Json) : Json :=
  .object [(tableName, .object [(field.name, given)])]

theorem orderly_overriding (field : Field) (given : Json) : Orderly (overriding field given) where
  tables := List.pairwise_singleton _ _
  settings := List.pairwise_singleton _ _

theorem combine_overriding_eq_ok_iff {file : Option Json}
    (objects : ∀ layer ∈ file, layer.isObject) (orderly : ∀ layer ∈ file, Orderly layer)
    {base : CacheConfig} (combines : combine file none = .ok base) {field : Field} {given : Json}
    {config : CacheConfig} :
    combine file (some (overriding field given)) = .ok config ↔
      field.Gives config given ∧ ∀ other : Field, other ≠ field →
        other.value config = other.value (underlay (mergedTable file.toList) base) := by
  have noneOnTop {holds : Json → Prop} : ∀ layer ∈ (none : Option Json), holds layer := by
    rintro layer ⟨⟩
  have onTop {holds : Json → Prop} (atTop : holds (overriding field given)) :
      ∀ layer ∈ some (overriding field given), holds layer := by
    rintro layer ⟨⟩
    exact atTop
  have below := (extract_mergeLayers_eq_ok_iff_decode
    (forall_mem_layers.mpr ⟨objects, noneOnTop⟩)
    (forall_mem_layers.mpr ⟨orderly, noneOnTop⟩)).mp combines
  rw [Option.toList_none, List.append_nil] at below
  have tables : ∀ layer ∈ file.toList ++ (some (overriding field given)).toList,
      ∀ key ∈ keys layer.fields, key = tableName := by
    refine forall_mem_layers.mpr ⟨?_, onTop fun key => List.mem_singleton.mp⟩
    exact fun layer layerMem => below.1 layer (Option.mem_toList.mpr layerMem)
  have merged : mergedTable (file.toList ++ [overriding field given]) =
      Json.merge (mergedTable file.toList) (.object [(field.name, given)]) := by
    unfold mergedTable
    rw [List.filterMap_append, List.foldl_append]
    rfl
  have ascending : Ascending (mergedTable file.toList).fields :=
    ascending_mergedTable fun layer layerMem => orderly layer (Option.mem_toList.mp layerMem)
  calc combine file (some (overriding field given)) = .ok config
    _ ↔ decode (mergedTable (file.toList ++ [overriding field given])) = .ok config :=
      (extract_mergeLayers_eq_ok_iff_decode (forall_mem_layers.mpr ⟨objects, onTop rfl⟩)
        (forall_mem_layers.mpr ⟨orderly, onTop (orderly_overriding field given)⟩)).trans
          (and_iff_right tables)
    _ ↔ _ := by
      rw [merged, decode_merge_single ascending below.2]

/-- Where a load succeeds without overrides, one setting decides about it, and about its own value
only. -/
theorem load_overriding_eq_ok_iff {read : Files.Reader} {path : Option String} {base : Loaded}
    (loads : load read path none = .ok base) (field : Field) (given : Json) :
    ∃ (under : CacheConfig) (sources : List Source), ∀ loaded : Loaded,
      load read path (some (overriding field given)) = .ok loaded ↔
        (field.Gives loaded.config given ∧
          ∀ other : Field, other ≠ field → other.value loaded.config = other.value under) ∧
        loaded.sources = sources := by
  cases opened : fileAt read path with
  | error error =>
      rw [load_eq, opened] at loads
      cases loads
  | ok file =>
      have shape : ∀ layer ∈ file.map Prod.fst, layer.isObject ∧ Orderly layer := by
        intro layer layerMem
        rcases Option.map_eq_some_iff.mp layerMem with ⟨⟨layer, digest⟩, rfl, rfl⟩
        exact (fileAt_eq_ok opened).2
      have combines := ((load_eq_ok_iff opened).mp loads).1
      refine ⟨underlay (mergedTable (file.map Prod.fst).toList) base.config, sourcesOf path file _,
        fun loaded => (load_eq_ok_iff opened).trans (and_congr_left' ?_)⟩
      exact combine_overriding_eq_ok_iff (fun layer layerMem => (shape layer layerMem).1)
        (fun layer layerMem => (shape layer layerMem).2) combines

end CacheDepot.Config
