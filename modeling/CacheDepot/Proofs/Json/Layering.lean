import CacheDepot.Proofs.Json.Merging
import Mathlib.Data.List.DropRight

/-!
# What merged layers show

Merging lays one layer over the other; what comes of it can be told for all layers at
once. The last layer that is not an object hides all layers below it. Of the objects
above it, each key shows what the values under it show when they are merged as layers in
their turn; so the same holds at every place inside a value.
-/

namespace CacheDepot.Json

open Fields (get? keys put Ascending)

/-! ## Canonical values -/

theorem canonicalFields_put {key : String} {value : Json} {fields : Fields}
    (canonical : CanonicalFields fields) (valueCanonical : value.Canonical) :
    CanonicalFields (put key value fields) := by
  induction fields with
  | nil => exact ⟨valueCanonical, trivial⟩
  | cons field rest ih =>
      obtain ⟨other, old⟩ := field
      obtain ⟨oldCanonical, restCanonical⟩ := canonical
      unfold put
      split
      · exact ⟨valueCanonical, restCanonical⟩
      · split
        · exact ⟨valueCanonical, oldCanonical, restCanonical⟩
        · exact ⟨oldCanonical, ih restCanonical⟩

mutual

theorem canonical_merge {base : Json} (bottom : base.Canonical) :
    ∀ {overlay : Json}, overlay.Canonical → (merge base overlay).Canonical
  | .object fields, top => by
      cases base with
      | object below =>
          exact ⟨ascending_mergeFields bottom.1 fields, canonical_mergeFields bottom.2 top.2⟩
      | _ => exact top
  | .null, top | .bool _, top | .int _, top | .float _, top | .text _, top | .array _, top => top
termination_by structural overlay => overlay

theorem canonical_mergeFields {below : Fields} (bottom : CanonicalFields below) :
    ∀ {fields : List (String × Json)}, CanonicalFields fields →
      CanonicalFields (mergeFields below fields)
  | [], _ => bottom
  | (key, value) :: rest, top => by
      have old : ((get? key below).getD .null).Canonical := by
        cases found : get? key below with
        | none => exact trivial
        | some old => exact canonical_of_get? bottom found
      rw [mergeFields_cons]
      exact canonical_mergeFields (canonicalFields_put bottom (canonical_merge old top.1)) top.2
termination_by structural fields => fields

end

theorem canonical_mergeLayers {layers : List Json} (canonical : ∀ layer ∈ layers, layer.Canonical) :
    (mergeLayers layers).Canonical := by
  suffices kept : ∀ {base : Json}, base.Canonical → (layers.foldl merge base).Canonical from
    kept trivial
  induction layers with
  | nil => exact fun bottom => bottom
  | cons layer rest ih =>
      intro base bottom
      exact ih (fun other otherMem => canonical other (List.mem_cons_of_mem layer otherMem))
        (canonical_merge bottom (canonical layer List.mem_cons_self))

/-! ## One layer more -/

/-- The fields of the layers above the last one that is not an object. -/
def tables (layers : List Json) : List Fields :=
  (layers.rtakeWhile isObject).map fields

/-- The values under a key in those layers, in order. -/
def under (key : String) (layers : List Json) : List Json :=
  (tables layers).filterMap (get? key)

/-- What layers show; nothing if there are none. -/
def shown? (layers : List Json) : Option Json :=
  if layers.isEmpty then none else some (mergeLayers layers)

variable {layers : List Json} {layer : Json} {fields : Fields} {key : String}

@[simp]
theorem mergeLayers_concat (layers : List Json) (layer : Json) :
    mergeLayers (layers ++ [layer]) = merge (mergeLayers layers) layer := by
  rw [mergeLayers, mergeLayers, List.foldl_append]
  rfl

@[simp]
theorem shown?_concat (layers : List Json) (layer : Json) :
    shown? (layers ++ [layer]) = some (merge (mergeLayers layers) layer) := by
  rw [shown?, mergeLayers_concat]
  simp

theorem shown?_eq_some_iff {value : Json} :
    shown? layers = some value ↔ layers ≠ [] ∧ value = mergeLayers layers := by
  cases layers with
  | nil => simp [shown?]
  | cons layer rest => simp [shown?, eq_comm]

theorem getD_shown? (layers : List Json) : (shown? layers).getD .null = mergeLayers layers := by
  cases layers <;> rfl

theorem tables_concat_object (layers : List Json) (fields : Fields) :
    tables (layers ++ [.object fields]) = tables layers ++ [fields] := by
  rw [tables, List.rtakeWhile_concat_pos _ _ _ rfl, List.map_append]
  rfl

theorem tables_concat_plain (plain : layer.isObject = false) (layers : List Json) :
    tables (layers ++ [layer]) = [] := by
  rw [tables, List.rtakeWhile_concat_neg _ _ _ (by simp [plain])]
  rfl

theorem under_concat_object (key : String) (layers : List Json) (fields : Fields) :
    under key (layers ++ [.object fields]) = under key layers ++ (get? key fields).toList := by
  rw [under, tables_concat_object, List.filterMap_append, under]
  cases found : get? key fields <;> simp [found]

theorem exists_object {value : Json} (object : value.isObject = true) :
    ∃ fields, value = .object fields := by
  cases value <;> first | exact ⟨_, rfl⟩ | contradiction

theorem isObject_mergeLayers_concat (layers : List Json) (layer : Json) :
    (mergeLayers (layers ++ [layer])).isObject = layer.isObject := by
  rw [mergeLayers_concat, isObject_merge]

/-- A layer that is not an object hides what is below it. -/
theorem mergeLayers_above_plain (plain : layer.isObject = false) (below above : List Json) :
    mergeLayers (below ++ layer :: above) = mergeLayers (layer :: above) := by
  simp only [mergeLayers, List.foldl_append, List.foldl_cons, merge_of_not_object plain]

/-! ## All layers at once -/

/-- Under a key merged layers show what the values under that key show. -/
theorem get?_mergeLayers (canonical : ∀ layer ∈ layers, layer.Canonical) (key : String) :
    get? key (mergeLayers layers).fields = shown? (under key layers) := by
  induction layers using List.reverseRecOn with
  | nil => rfl
  | append_singleton layers layer ih =>
      have before := ih fun other otherMem => canonical other (by simp [otherMem])
      rw [mergeLayers_concat]
      cases object : layer.isObject with
      | false =>
          rw [merge_of_not_object object, under, tables_concat_plain object]
          cases layer <;> first | rfl | contradiction
      | true =>
          have ascending : Ascending layer.fields :=
            ascending_of_canonical (canonical layer (by simp))
          obtain ⟨fields, rfl⟩ := exists_object object
          rw [get?_merge rfl ascending, under_concat_object, before, getD_shown?]
          simp only [Json.fields]
          cases get? key fields with
          | none => simp
          | some value => simp

theorem mem_keys_mergeLayers (canonical : ∀ layer ∈ layers, layer.Canonical) :
    key ∈ Fields.keys (mergeLayers layers).fields ↔
      ∃ table ∈ tables layers, key ∈ Fields.keys table := by
  rw [Fields.mem_keys_iff, get?_mergeLayers canonical]
  constructor
  · rintro ⟨value, shown⟩
    obtain ⟨present, -⟩ := shown?_eq_some_iff.mp shown
    obtain ⟨top, topMem⟩ := List.exists_mem_of_ne_nil _ present
    obtain ⟨table, tableMem, found⟩ := List.mem_filterMap.mp topMem
    exact ⟨table, tableMem, Fields.mem_keys_iff.mpr ⟨top, found⟩⟩
  · rintro ⟨table, tableMem, keyMem⟩
    obtain ⟨value, found⟩ := Fields.mem_keys_iff.mp keyMem
    have valueMem : value ∈ under key layers := List.mem_filterMap.mpr ⟨table, tableMem, found⟩
    exact ⟨_, shown?_eq_some_iff.mpr ⟨List.ne_nil_of_mem valueMem, rfl⟩⟩

theorem canonical_under (canonical : ∀ layer ∈ layers, layer.Canonical) (key : String) :
    ∀ value ∈ under key layers, value.Canonical := by
  intro value valueMem
  obtain ⟨table, tableMem, found⟩ := List.mem_filterMap.mp valueMem
  obtain ⟨layer, layerMem, rfl⟩ := List.mem_map.mp tableMem
  have layerCanonical := canonical layer ((List.rtakeWhile_suffix _ _).subset layerMem)
  exact canonical_part layerCanonical found

/-! ## Places inside values -/

/-- The value at a place, which is told by the keys on the way to it. -/
def at? : List String → Json → Option Json
  | [], value => some value
  | key :: rest, value => (get? key value.fields).bind (at? rest)

/-- The values of layers at a place, without those that a layer above hides. -/
def seenAt : List String → List Json → List Json
  | [], layers => layers
  | key :: rest, layers => seenAt rest (under key layers)

theorem seenAt_nil (path : List String) : seenAt path [] = [] := by
  induction path with
  | nil => rfl
  | cons key rest ih => exact ih

/-- At every place merged layers show what the values at that place show. -/
theorem bind_at?_shown? (canonical : ∀ layer ∈ layers, layer.Canonical) (path : List String) :
    (shown? layers).bind (at? path) = shown? (seenAt path layers) := by
  induction path generalizing layers with
  | nil =>
      change (shown? layers).bind some = shown? layers
      exact Option.bind_fun_some _
  | cons key rest ih =>
      have entered : (shown? layers).bind (at? (key :: rest)) =
          (get? key (mergeLayers layers).fields).bind (at? rest) := by
        cases layers <;> rfl
      rw [entered, get?_mergeLayers canonical]
      exact ih (canonical_under canonical key)

/-- A value that is not an object hides what is below it at its place. -/
theorem shown?_above_plain {value : Json} (plain : value.isObject = false)
    (below above : List Json) :
    shown? (below ++ value :: above) = some (mergeLayers (value :: above)) := by
  rw [shown?_eq_some_iff, mergeLayers_above_plain plain]
  exact ⟨by simp, rfl⟩

/-- Without layers the result is `null`, and a last layer that is not an object is the result.
The result of other layers is an object that has the keys of all objects above the last layer
that is not one; under each key stands the result of merging the values under it. So at every
place, however deep, the values that no layer above hides are merged, and nothing below a value
that is not an object counts. -/
theorem mergeLayers_meaning {layers : List Json}
    (canonical : ∀ layer ∈ layers, layer.Canonical) :
    (layers = [] → mergeLayers layers = .null) ∧
    (∀ last, layers.getLast? = some last → last.isObject = false → mergeLayers layers = last) ∧
    (∀ last, layers.getLast? = some last → last.isObject = true →
      ∃ merged, mergeLayers layers = .object merged ∧ (mergeLayers layers).Canonical ∧
        (∀ key, key ∈ Fields.keys merged ↔ ∃ table ∈ tables layers, key ∈ Fields.keys table) ∧
        ∀ key ∈ Fields.keys merged,
          get? key merged = some (mergeLayers ((tables layers).filterMap (get? key)))) ∧
    ∀ path, (layers ≠ [] → at? path (mergeLayers layers) = shown? (seenAt path layers)) ∧
      ∀ below value above, seenAt path layers = below ++ value :: above → value.isObject = false →
        at? path (mergeLayers layers) = some (mergeLayers (value :: above)) := by
  refine ⟨?_, ?_, ?_, ?_⟩
  · rintro rfl
    rfl
  · intro last top plain
    obtain ⟨below, rfl⟩ := List.getLast?_eq_some_iff.mp top
    rw [mergeLayers_concat, merge_of_not_object plain]
  · intro last top object
    obtain ⟨below, rfl⟩ := List.getLast?_eq_some_iff.mp top
    have merges := isObject_mergeLayers_concat below last
    rw [object] at merges
    obtain ⟨merged, same⟩ := exists_object merges
    have found := get?_mergeLayers canonical
    have present : ∀ key, key ∈ Fields.keys (mergeLayers (below ++ [last])).fields ↔
        ∃ table ∈ tables (below ++ [last]), key ∈ Fields.keys table :=
      fun key => mem_keys_mergeLayers canonical
    rw [same] at found present
    refine ⟨merged, same, canonical_mergeLayers canonical, present, ?_⟩
    intro key keyMem
    obtain ⟨value, stands⟩ := Fields.mem_keys_iff.mp keyMem
    have shown := (found key).symm.trans stands
    rw [stands, (shown?_eq_some_iff.mp shown).2]
    rfl
  · intro path
    have shows : layers ≠ [] → at? path (mergeLayers layers) = shown? (seenAt path layers) := by
      intro several
      rw [← bind_at?_shown? canonical, shown?_eq_some_iff.mpr ⟨several, rfl⟩, Option.bind_some]
    refine ⟨shows, ?_⟩
    intro below value above seen plain
    have several : layers ≠ [] := by
      rintro rfl
      rw [seenAt_nil] at seen
      simp at seen
    rw [shows several, seen, shown?_above_plain plain]

/-- Under `a` a number hides the object of the lowest layer but not the one of the top layer. -/
theorem mergeLayers_meaning_of_hidden_table :
    let layers : List Json :=
      [.object [("a", .object [("x", .int 1)]), ("b", .int 2)], .object [("a", .int 3)],
        .object [("a", .object [("y", .null)])]]
    (∀ layer ∈ layers, layer.Canonical) ∧
      at? ["a"] (mergeLayers layers) = some (.object [("y", .null)]) ∧
      at? ["a", "x"] (mergeLayers layers) = none ∧
      at? ["b"] (mergeLayers layers) = some (.int 2) := by
  intro layers
  have ordered : "a" < "b" := by decide
  have canonical : ∀ layer ∈ layers, layer.Canonical := by
    simp only [layers, Canonical, CanonicalFields, Fields.keys, List.forall_mem_cons,
      List.map_cons, List.map_nil, List.pairwise_cons, List.mem_singleton, forall_eq, ordered]
    simp
  obtain ⟨-, -, -, places⟩ := mergeLayers_meaning canonical
  have several : layers ≠ [] := List.cons_ne_nil _ _
  exact ⟨canonical, (places ["a"]).1 several, (places ["a", "x"]).1 several,
    (places ["b"]).1 several⟩

end CacheDepot.Json
