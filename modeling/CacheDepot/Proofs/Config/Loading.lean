import CacheDepot.Proofs.Config.Layers
import CacheDepot.Proofs.Json.Equality
import CacheDepot.Proofs.Toml.Ordered

/-!
# Loading, setting by setting

What a load comes to when the layer of the file, if there is one, and the overrides
have their settings in a table. The layer of a file needs no assumption on the order
of its keys; overrides are taken to be canonical, as all values are that come from a
JSON document.
-/

namespace CacheDepot

open Json (Fields)
open Json.Fields (get? keys Ascending)

namespace Config

/-- The layer and the digest of the file at a path; nothing if no path is given. -/
def fileAt (read : Files.Reader) : Option String → Except LoadError (Option (Json × String))
  | none => .ok none
  | some path => readLayer read path

/-- The layers above the built-in one. -/
def givenLayers (file : Option (Json × String)) (overrides : Option Json) : List Json :=
  (file.map Prod.fst).toList ++ overrides.toList

/-- The layers that take part in a load, the one of the file with its path and digest. -/
def sourcesOf (path : Option String) (file : Option (Json × String)) (overrides : Option Json) :
    List Source :=
  let fileSource : Option Source := match path, file with
    | some path, some (_, digest) => some ⟨.file, some (path, digest)⟩
    | _, _ => none
  let overrideSource : Option Source := overrides.map fun _ => ⟨.override, none⟩
  ⟨.builtin, none⟩ :: (fileSource.toList ++ overrideSource.toList)

/-! ## Layers in order -/

theorem orderly_of_tables {layer : Json} (tables : Ascending layer.fields)
    (inner : ∀ key value, get? key layer.fields = some value → Ascending value.fields) :
    Orderly layer where
  tables := tables
  settings := by
    unfold settingsOf
    cases found : get? tableName layer.fields with
    | none => exact Ascending.nil
    | some table => exact inner tableName table found

theorem orderly_of_canonical {layer : Json} (canonical : layer.Canonical) : Orderly layer := by
  apply orderly_of_tables (Json.ascending_of_canonical canonical)
  intro key value found
  exact Json.ascending_of_canonical (Json.canonical_part canonical found)

theorem fileLayer_eq_ok {content : List UInt8} {layer : Json}
    (given : fileLayer content = .ok layer) : layer.isObject ∧ Orderly layer := by
  unfold fileLayer at given
  split at given
  · contradiction
  · split at given
    · next document =>
        cases given
        obtain ⟨object, tables, inner⟩ := Toml.ofText?_eq_some document
        exact ⟨object, orderly_of_tables tables inner⟩
    · contradiction

/-- A file has a layer only if there is a path, and the layer is a table in order. -/
theorem fileAt_eq_ok {read : Files.Reader} {path : Option String} {layer : Json} {digest : String}
    (given : fileAt read path = .ok (some (layer, digest))) :
    path.isSome ∧ layer.isObject ∧ Orderly layer := by
  cases path with
  | none => cases given
  | some path =>
      refine ⟨rfl, ?_⟩
      change readLayer read path = _ at given
      unfold readLayer at given
      split at given
      · contradiction
      · cases given
      · split at given
        · contradiction
        · next present =>
            cases given
            exact fileLayer_eq_ok present

/-! ## Loading -/

theorem load_eq (read : Files.Reader) (path : Option String) (overrides : Option Json) :
    load read path overrides =
      (fileAt read path).bind fun file =>
        (combine (file.map Prod.fst) overrides).bind fun config =>
          .ok ⟨config, sourcesOf path file overrides⟩ := by
  cases path <;> rfl

theorem load_eq_ok_iff {read : Files.Reader} {path : Option String}
    {file : Option (Json × String)} (given : fileAt read path = .ok file) {overrides : Option Json}
    {loaded : Loaded} :
    load read path overrides = .ok loaded ↔
      combine (file.map Prod.fst) overrides = .ok loaded.config ∧
        loaded.sources = sourcesOf path file overrides := by
  obtain ⟨config, sources⟩ := loaded
  rw [load_eq, given]
  change (combine (file.map Prod.fst) overrides).bind _ = _ ↔ _
  cases combine (file.map Prod.fst) overrides with
  | error error =>
      constructor
      · intro loads
        cases loads
      · rintro ⟨combines, -⟩
        cases combines
  | ok combined =>
      constructor
      · intro loads
        cases loads
        exact ⟨rfl, rfl⟩
      · rintro ⟨combines, rfl⟩
        cases combines
        rfl

/-- The layers come in the order built-in values, file, overrides. -/
theorem origins_sourcesOf {read : Files.Reader} {path : Option String}
    {file : Option (Json × String)} (given : fileAt read path = .ok file)
    (overrides : Option Json) :
    (sourcesOf path file overrides).map Source.origin =
      .builtin :: ((file.map fun _ => Origin.file).toList ++
        (overrides.map fun _ => Origin.override).toList) := by
  rcases file with - | ⟨layer, digest⟩
  · cases path <;> cases overrides <;> rfl
  · obtain ⟨path, rfl⟩ := Option.isSome_iff_exists.mp (fileAt_eq_ok given).1
    cases overrides <;> rfl

/-- Overrides that are no table make up no configuration. -/
theorem combine_of_not_object {overrides : Json} (plain : overrides.isObject = false)
    (file : Option Json) : combine file (some overrides) = .error .notATable := by
  unfold combine
  rw [Json.mergeLayers, Option.toList_some, ← List.cons_append, List.foldl_append,
    List.foldl_cons, List.foldl_nil, Json.merge_of_not_object plain]
  cases overrides <;> first | rfl | contradiction

/-- Settings that can be read one by one make up a configuration. -/
theorem exists_gives {given : Field → Json}
    (gives : ∀ field : Field, ∃ config, field.Gives config (given field)) :
    ∃ config, ∀ field : Field, field.Gives config (given field) := by
  choose source gives using gives
  refine ⟨{
    cacheSize := (source .cacheSize).cacheSize
    fileHandleCount := (source .fileHandleCount).fileHandleCount
    cacheFulltexts := (source .cacheFulltexts).cacheFulltexts
    cacheDeltas := (source .cacheDeltas).cacheDeltas
    singleThreaded := (source .singleThreaded).singleThreaded }, fun field => ?_⟩
  apply (gives field).congr
  cases field <;> rfl

theorem forall_mem_givenLayers {file : Option (Json × String)} {overrides : Option Json}
    {holds : Json → Prop} :
    (∀ layer ∈ givenLayers file overrides, holds layer) ↔
      (∀ layer digest, file = some (layer, digest) → holds layer) ∧
        ∀ layer, overrides = some layer → holds layer := by
  unfold givenLayers
  rcases file with - | ⟨layer, digest⟩ <;> cases overrides <;> simp

theorem orderly_givenLayers {read : Files.Reader} {path : Option String}
    {file : Option (Json × String)} (given : fileAt read path = .ok file)
    {overrides : Option Json} (canonical : ∀ layer, overrides = some layer → layer.Canonical) :
    ∀ layer ∈ givenLayers file overrides, Orderly layer := by
  refine forall_mem_givenLayers.mpr ?_
  constructor
  · rintro layer digest rfl
    exact (fileAt_eq_ok given).2.2
  · intro layer same
    exact orderly_of_canonical (canonical layer same)

/-- Overrides have to be a table, and then so are all layers. -/
theorem combine_eq_ok_iff {read : Files.Reader} {path : Option String}
    {file : Option (Json × String)} (given : fileAt read path = .ok file)
    {overrides : Option Json} (canonical : ∀ layer, overrides = some layer → layer.Canonical)
    (tabular : ∀ layer ∈ givenLayers file overrides, Tabular layer) (config : CacheConfig) :
    combine (file.map Prod.fst) overrides = .ok config ↔
      (∀ layer, overrides = some layer → layer.isObject) ∧
      (∀ layer ∈ givenLayers file overrides, ∀ key ∈ keys layer.fields, key = tableName) ∧
      (∀ layer ∈ givenLayers file overrides, ∀ key ∈ keys (settingsOf layer),
        ∃ field : Field, field.name = key) ∧
      ∀ field : Field, field.Gives config (lastValue (givenLayers file overrides) field) := by
  by_cases objects : ∀ layer, overrides = some layer → layer.isObject
  · have allObjects : ∀ layer ∈ givenLayers file overrides, layer.isObject := by
      refine forall_mem_givenLayers.mpr ?_
      constructor
      · rintro layer digest rfl
        exact (fileAt_eq_ok given).2.1
      · exact objects
    rw [and_iff_right objects]
    exact extract_mergeLayers_eq_ok_iff allObjects (orderly_givenLayers given canonical) tabular
  · constructor
    · intro combines
      obtain ⟨layer, rfl, plain⟩ : ∃ layer, overrides = some layer ∧ layer.isObject = false := by
        simpa using objects
      rw [combine_of_not_object plain] at combines
      cases combines
    · rintro ⟨objects', -⟩
      exact absurd objects' objects

/-- A load succeeds if and only if overrides are a table, no key of a layer is unknown, and each
setting can be read from the last layer that defines it. The configuration is what is read there,
and the sources are the layers that took part. -/
theorem load_takes_last_values {read : Files.Reader} {path : Option String}
    {file : Option (Json × String)} (given : fileAt read path = .ok file)
    {overrides : Option Json} (canonical : ∀ layer, overrides = some layer → layer.Canonical)
    (tabular : ∀ layer ∈ givenLayers file overrides, Tabular layer) :
    ((∃ loaded, load read path overrides = .ok loaded) ↔
      (∀ layer, overrides = some layer → layer.isObject) ∧
      (∀ layer ∈ givenLayers file overrides, ∀ key ∈ keys layer.fields, key = tableName) ∧
      (∀ layer ∈ givenLayers file overrides, ∀ key ∈ keys (settingsOf layer),
        ∃ field : Field, field.name = key) ∧
      ∀ field : Field, ∃ config,
        field.Gives config (lastValue (givenLayers file overrides) field)) ∧
    ∀ loaded, load read path overrides = .ok loaded →
      (∀ field : Field,
        field.Gives loaded.config (lastValue (givenLayers file overrides) field)) ∧
      loaded.sources.map Source.origin =
        .builtin :: ((file.map fun _ => Origin.file).toList ++
          (overrides.map fun _ => Origin.override).toList) := by
  have combines := combine_eq_ok_iff given canonical tabular
  refine ⟨⟨?_, ?_⟩, ?_⟩
  · rintro ⟨loaded, loads⟩
    obtain ⟨objects, tables, settings, gives⟩ :=
      (combines loaded.config).mp ((load_eq_ok_iff given).mp loads).1
    exact ⟨objects, tables, settings, fun field => ⟨loaded.config, gives field⟩⟩
  · rintro ⟨objects, tables, settings, gives⟩
    obtain ⟨config, allGive⟩ := exists_gives gives
    exact ⟨⟨config, sourcesOf path file overrides⟩, (load_eq_ok_iff given).mpr
      ⟨(combines config).mpr ⟨objects, tables, settings, allGive⟩, rfl⟩⟩
  · intro loaded loads
    obtain ⟨combined, sources⟩ := (load_eq_ok_iff given).mp loads
    obtain ⟨-, -, -, gives⟩ := (combines loaded.config).mp combined
    refine ⟨gives, ?_⟩
    rw [sources, origins_sourcesOf given]

/-- A switch in the place of a size does no harm in a file if overrides give the size. -/
theorem load_takes_last_values_over_bad_size :
    ∃ loaded, load (fun _ => .ok (some "[cache]\ncache_size = true\n".toUTF8)) (some "depot.toml")
        (some (.object [("cache", .object [("cache_size", .text "64K")])])) = .ok loaded ∧
      loaded.config.cacheSize = 65536 ∧
      loaded.sources.map Source.origin = [.builtin, .file, .override] := by
  have layer : fileLayer "[cache]\ncache_size = true\n".toUTF8.toList =
      .ok (.object [("cache", .object [("cache_size", .bool true)])]) := by
    decide +kernel
  have given : fileAt (fun _ => .ok (some "[cache]\ncache_size = true\n".toUTF8))
      (some "depot.toml") = .ok (some (.object [("cache", .object [("cache_size", .bool true)])],
        Digest.hexText (Digest.sha256 "[cache]\ncache_size = true\n".toUTF8.toList))) := by
    simp only [fileAt, readLayer, layer]
  have size : Size.ofText "64K" = .ok 65536 := rfl
  have canonical : ∀ layer, some (Json.object [("cache", .object [("cache_size", .text "64K")])]) =
      some layer → layer.Canonical := by
    rintro layer ⟨⟩
    simp [Json.Canonical, Json.CanonicalFields, keys]
  obtain ⟨loads, outcome⟩ := load_takes_last_values given canonical
    (by
      refine forall_mem_givenLayers.mpr ⟨?_, ?_⟩
      · rintro layer digest ⟨⟩ table ⟨⟩
        rfl
      · rintro layer ⟨⟩ table ⟨⟩
        rfl)
  have known : ∃ field : Field, field.name = "cache_size" := ⟨.cacheSize, rfl⟩
  obtain ⟨loaded, loadedOk⟩ := loads.mpr (by
    refine ⟨?_, ?_, ?_, ?_⟩
    · rintro layer ⟨⟩
      rfl
    · simp [givenLayers, Json.fields, keys, tableName]
    · simpa [givenLayers, settingsOf, Json.fields, keys, tableName, get?] using known
    · intro field
      cases field with
      | cacheSize => exact ⟨{ cacheSize := 65536 }, .size size⟩
      | _ => exact ⟨.builtin, .value _⟩)
  obtain ⟨gives, sources⟩ := outcome loaded loadedOk
  refine ⟨loaded, loadedOk, ?_, sources⟩
  cases gives .cacheSize with
  | size read => exact (Except.ok.inj (size.symm.trans read)).symm

end Config

end CacheDepot
