import CacheDepot.Json.Merge
import CacheDepot.Proofs.Named
import Mathlib.Data.List.Induction
import Mathlib.Data.List.Nodup

/-!
# Fields of merged objects

What stands under a key after fields are laid over fields: the value on top, laid
over the one below if there is one. The keys are those of either side, and they stay
in ascending order. The same is said of any number of layers.
-/

namespace CacheDepot.Json

/-- The fields of an object; none of any other value. -/
def fields : Json → Fields
  | .object fields => fields
  | _ => []

/-! ## Fields in ascending order -/

namespace Fields

/-- The keys are listed once each and in ascending order. -/
def Ascending (fields : Fields) : Prop :=
  (keys fields).Pairwise (· < ·)

theorem get?_eq_none_iff {key : String} {fields : Fields} :
    get? key fields = none ↔ key ∉ keys fields :=
  Named.lookup_eq_none_iff

theorem mem_keys_iff {key : String} {fields : Fields} :
    key ∈ keys fields ↔ ∃ value, get? key fields = some value := by
  rw [← Option.ne_none_iff_exists', ne_eq, get?_eq_none_iff, not_not]

theorem mem_keys_put {key other : String} {value : Json} {fields : Fields} :
    key ∈ keys (put other value fields) ↔ key = other ∨ key ∈ keys fields := by
  rw [mem_keys_iff, mem_keys_iff]
  by_cases same : key = other
  · simp [get?_put, same]
  · simp [get?_put, same]

namespace Ascending

variable {key : String} {value : Json} {fields : Fields}

theorem nil : Ascending [] :=
  List.Pairwise.nil

theorem cons_iff : Ascending ((key, value) :: fields) ↔
    (∀ other ∈ keys fields, key < other) ∧ Ascending fields :=
  List.pairwise_cons

theorem not_mem_keys (ascending : Ascending ((key, value) :: fields)) : key ∉ keys fields :=
  fun keyMem => String.lt_irrefl key ((cons_iff.mp ascending).1 key keyMem)

theorem distinct (ascending : Ascending fields) : (keys fields).Nodup := by
  refine ascending.imp ?_
  rintro key other before rfl
  exact String.lt_irrefl key before

/-- Fields in ascending order are told by what is found under each key. -/
theorem ext {others : Fields} (ascending : Ascending fields) (othersAscending : Ascending others)
    (same : ∀ key, get? key fields = get? key others) : fields = others := by
  have perm : List.Perm fields others := by
    rw [List.perm_ext_iff_of_nodup (List.Nodup.of_map Prod.fst ascending.distinct)
      (List.Nodup.of_map Prod.fst othersAscending.distinct)]
    rintro ⟨key, value⟩
    rw [← Named.lookup_eq_some_iff_mem ascending.distinct,
      ← Named.lookup_eq_some_iff_mem othersAscending.distinct]
    exact Eq.congr_left (same key)
  refine perm.eq_of_pairwise ?_ (List.pairwise_map.mp ascending)
    (List.pairwise_map.mp othersAscending)
  intro one other _ _ less greater
  exact absurd (String.lt_trans less greater) (String.lt_irrefl _)

/-- The keys before a field are less and those after it greater. -/
theorem around {field : String × Json} {before after : Fields}
    (ascending : Ascending (before ++ field :: after)) :
    (∀ other ∈ before, other.1 < field.1) ∧ ∀ other ∈ after, field.1 < other.1 := by
  have ordered : (before ++ field :: after).Pairwise fun one other => one.1 < other.1 :=
    List.pairwise_map.mp ascending
  rcases List.pairwise_append.mp ordered with ⟨-, later, across⟩
  constructor
  · exact fun other early => across other early field List.mem_cons_self
  · exact (List.pairwise_cons.mp later).1

theorem put (ascending : Ascending fields) (key : String) (value : Json) :
    Ascending (Fields.put key value fields) := by
  induction fields with
  | nil => exact List.pairwise_singleton _ _
  | cons field rest ih =>
      obtain ⟨other, old⟩ := field
      obtain ⟨least, restAscending⟩ := cons_iff.mp ascending
      unfold Fields.put
      split
      · next same =>
          subst same
          exact cons_iff.mpr ⟨least, restAscending⟩
      · next different =>
          split
          · next before =>
              refine cons_iff.mpr ⟨?_, ascending⟩
              intro later laterMem
              rcases List.mem_cons.mp laterMem with rfl | laterMem
              · exact before
              · exact String.lt_trans before (least later laterMem)
          · next notBefore =>
              refine cons_iff.mpr ⟨?_, ih restAscending⟩
              intro later laterMem
              rcases mem_keys_put.mp laterMem with rfl | laterMem
              · by_contra notAfter
                exact different
                  (String.le_antisymm (String.not_lt.mp notBefore) (String.not_lt.mp notAfter))
              · exact least later laterMem

end Ascending

theorem ascending_ofPairs (pairs : List (String × Json)) : Ascending (ofPairs pairs) := by
  suffices kept : ∀ fields, Ascending fields →
      Ascending (pairs.foldl (fun fields pair => put pair.1 pair.2 fields) fields) from
    kept [] Ascending.nil
  induction pairs with
  | nil => exact fun _ ascending => ascending
  | cons pair rest ih => exact fun fields ascending => ih _ (ascending.put pair.1 pair.2)

theorem mem_keys_ofPairs {pairs : List (String × Json)} {key : String} :
    key ∈ keys (ofPairs pairs) ↔ key ∈ pairs.map Prod.fst := by
  suffices general : ∀ fields,
      key ∈ keys (pairs.foldl (fun fields pair => put pair.1 pair.2 fields) fields) ↔
        key ∈ keys fields ∨ key ∈ pairs.map Prod.fst from
    (general []).trans (or_iff_right List.not_mem_nil)
  induction pairs with
  | nil => simp
  | cons pair rest ih =>
      intro fields
      rw [List.foldl_cons, ih, mem_keys_put, List.map_cons, List.mem_cons, or_assoc, or_left_comm]

/-- Of several pairs with a key the last one counts. -/
theorem get?_ofPairs (key : String) (pairs : List (String × Json)) :
    get? key (ofPairs pairs) = get? key pairs.reverse := by
  induction pairs using List.reverseRecOn with
  | nil => rfl
  | append_singleton pairs pair ih =>
      rw [ofPairs, List.foldl_append, List.foldl_cons, List.foldl_nil, get?_put, ← ofPairs, ih,
        List.reverse_append, List.reverse_singleton, List.singleton_append, get?_cons]

theorem mem_put {field : String × Json} {key : String} {value : Json} {fields : Fields}
    (fieldMem : field ∈ put key value fields) : field = (key, value) ∨ field ∈ fields := by
  induction fields with
  | nil => exact Or.inl (List.mem_singleton.mp fieldMem)
  | cons other rest ih =>
      obtain ⟨present, old⟩ := other
      unfold put at fieldMem
      split at fieldMem
      · exact (List.mem_cons.mp fieldMem).imp_right (List.mem_cons_of_mem _)
      · split at fieldMem
        · exact List.mem_cons.mp fieldMem
        · rcases List.mem_cons.mp fieldMem with rfl | later
          · exact Or.inr List.mem_cons_self
          · exact (ih later).imp_right (List.mem_cons_of_mem _)

theorem mem_ofPairs {field : String × Json} {pairs : List (String × Json)}
    (fieldMem : field ∈ ofPairs pairs) : field ∈ pairs := by
  suffices general : ∀ fields,
      field ∈ pairs.foldl (fun fields pair => put pair.1 pair.2 fields) fields →
        field ∈ fields ∨ field ∈ pairs from
    (general [] fieldMem).resolve_left List.not_mem_nil
  clear fieldMem
  induction pairs with
  | nil => exact fun _ present => Or.inl present
  | cons pair rest ih =>
      intro fields present
      rcases ih _ present with put | later
      · exact (mem_put put).elim (fun same => Or.inr (same ▸ List.mem_cons_self)) Or.inl
      · exact Or.inr (List.mem_cons_of_mem pair later)

end Fields

open Fields (get? keys put Ascending)

theorem ascending_of_canonical {value : Json} (canonical : value.Canonical) :
    Ascending value.fields := by
  cases value with
  | object fields => exact canonical.1
  | _ => exact Ascending.nil

theorem canonical_of_get? {key : String} {value : Json} {fields : Fields}
    (canonical : CanonicalFields fields) (found : get? key fields = some value) :
    value.Canonical := by
  induction fields with
  | nil => cases found
  | cons field rest ih =>
      obtain ⟨other, present⟩ := field
      rw [Fields.get?_cons] at found
      split at found
      · cases found
        exact canonical.1
      · exact ih canonical.2 found

theorem canonical_part {key : String} {value part : Json} (canonical : value.Canonical)
    (found : get? key value.fields = some part) : part.Canonical := by
  cases value with
  | object fields => exact canonical_of_get? canonical.2 found
  | _ => cases found

/-! ## Two layers -/

theorem fields_object (fields : Fields) : (Json.object fields).fields = fields := rfl

theorem merge_null (overlay : Json) : merge .null overlay = overlay := by
  cases overlay <;> rfl

theorem merge_of_not_object {overlay : Json} (plain : overlay.isObject = false) (base : Json) :
    merge base overlay = overlay := by
  cases overlay <;> first | rfl | contradiction

theorem isObject_merge (base overlay : Json) :
    (merge base overlay).isObject = overlay.isObject := by
  cases overlay with
  | object fields => cases base <;> rfl
  | _ => rfl

theorem mergeFields_cons (below : Fields) (key : String) (value : Json) (rest : Fields) :
    mergeFields below ((key, value) :: rest) =
      mergeFields (put key (merge ((get? key below).getD .null) value) below) rest := by
  rw [mergeFields]
  cases get? key below with
  | none => rw [Option.getD_none, merge_null]
  | some old => rfl

/-- A value on top is laid over the one below, or over nothing. -/
theorem get?_mergeFields {fields : Fields} (ascending : Ascending fields) (below : Fields)
    (key : String) :
    get? key (mergeFields below fields) =
      match get? key fields with
      | some value => some (merge ((get? key below).getD .null) value)
      | none => get? key below := by
  induction fields generalizing below with
  | nil => rfl
  | cons field rest ih =>
      obtain ⟨other, value⟩ := field
      rw [mergeFields_cons, ih (Ascending.cons_iff.mp ascending).2, Fields.get?_cons]
      by_cases same : key = other
      · subst same
        rw [Fields.get?_eq_none_iff.mpr ascending.not_mem_keys, Fields.get?_put]
        simp only [if_true]
      · rw [Fields.get?_put]
        simp only [same, if_false]

theorem mem_keys_mergeFields {fields : Fields} (ascending : Ascending fields) (below : Fields)
    (key : String) :
    key ∈ keys (mergeFields below fields) ↔ key ∈ keys below ∨ key ∈ keys fields := by
  rw [Fields.mem_keys_iff, get?_mergeFields ascending, Fields.mem_keys_iff, Fields.mem_keys_iff]
  cases get? key fields with
  | none => simp
  | some value => simp

theorem ascending_mergeFields {below : Fields} (ascending : Ascending below) (fields : Fields) :
    Ascending (mergeFields below fields) := by
  induction fields generalizing below with
  | nil => exact ascending
  | cons field rest ih =>
      rw [mergeFields_cons]
      exact ih (ascending.put _ _)

/-- An object laid over a value is an object with the fields of both. -/
theorem merge_object_eq (base : Json) {fields : Fields} (ascending : Ascending fields) :
    ∃ merged, merge base (.object fields) = .object merged ∧
      ∀ key, get? key merged =
        match get? key fields with
        | some value => some (merge ((get? key base.fields).getD .null) value)
        | none => get? key base.fields := by
  cases base with
  | object below => exact ⟨_, rfl, get?_mergeFields ascending below⟩
  | _ =>
      refine ⟨fields, rfl, fun key => ?_⟩
      cases found : get? key fields with
      | none => rfl
      | some value => exact congrArg some (merge_null value).symm

/-- In an object laid over a value, what stands under a key is laid over what stood there. -/
theorem get?_merge {base overlay : Json} (object : overlay.isObject)
    (ascending : Ascending overlay.fields) (key : String) :
    get? key (merge base overlay).fields =
      match get? key overlay.fields with
      | some value => some (merge ((get? key base.fields).getD .null) value)
      | none => get? key base.fields := by
  cases overlay with
  | object fields =>
      obtain ⟨merged, same, found⟩ := merge_object_eq base ascending
      change merge base (.object fields) = .object merged at same
      rw [same]
      exact found key
  | _ => contradiction

theorem mem_keys_merge {base overlay : Json} (object : overlay.isObject)
    (ascending : Ascending overlay.fields) {key : String} :
    key ∈ keys (merge base overlay).fields ↔
      key ∈ keys base.fields ∨ key ∈ keys overlay.fields := by
  rw [Fields.mem_keys_iff, Fields.mem_keys_iff, Fields.mem_keys_iff, get?_merge object ascending]
  cases get? key overlay.fields <;> simp

theorem forall_keys_merge {base overlay : Json} (ascending : Ascending overlay.fields)
    {allowed : String → Prop} (bottom : ∀ key ∈ keys base.fields, allowed key) :
    (∀ key ∈ keys (merge base overlay).fields, allowed key) ↔
      ∀ key ∈ keys overlay.fields, allowed key := by
  cases object : overlay.isObject with
  | false => rw [merge_of_not_object object]
  | true =>
      simp only [mem_keys_merge object ascending]
      exact ⟨fun all key keyMem => all key (Or.inr keyMem),
        fun onTop key keyMem => keyMem.elim (bottom key) (onTop key)⟩

theorem ascending_fields_merge {base overlay : Json} (bottom : Ascending base.fields)
    (top : Ascending overlay.fields) : Ascending (merge base overlay).fields := by
  cases overlay with
  | object fields =>
      cases base with
      | object below => exact ascending_mergeFields bottom fields
      | _ => exact top
  | _ => exact Ascending.nil

/-! ## Any number of layers -/

/-- Values that stand under one key in several layers are merged as the layers are. -/
theorem getD_get?_foldl_mergeFields {layers : List Fields}
    (ascending : ∀ layer ∈ layers, Ascending layer) (below : Fields) (key : String) :
    (get? key (layers.foldl mergeFields below)).getD .null =
      (layers.filterMap (get? key)).foldl merge ((get? key below).getD .null) := by
  induction layers generalizing below with
  | nil => rfl
  | cons layer rest ih =>
      have restAscending : ∀ other ∈ rest, Ascending other :=
        fun other otherMem => ascending other (List.mem_cons_of_mem layer otherMem)
      rw [List.foldl_cons, ih restAscending, get?_mergeFields (ascending layer List.mem_cons_self),
        List.filterMap_cons]
      cases get? key layer <;> rfl

theorem ascending_foldl_mergeFields {below : Fields} (ascending : Ascending below)
    (layers : List Fields) : Ascending (layers.foldl mergeFields below) := by
  induction layers generalizing below with
  | nil => exact ascending
  | cons layer rest ih => exact ih (ascending_mergeFields ascending layer)

theorem mem_keys_foldl_mergeFields {layers : List Fields}
    (ascending : ∀ layer ∈ layers, Ascending layer) (below : Fields) (key : String) :
    key ∈ keys (layers.foldl mergeFields below) ↔
      key ∈ keys below ∨ ∃ layer ∈ layers, key ∈ keys layer := by
  induction layers generalizing below with
  | nil => simp
  | cons layer rest ih =>
      have layerAscending := ascending layer List.mem_cons_self
      have restAscending : ∀ other ∈ rest, Ascending other :=
        fun other otherMem => ascending other (List.mem_cons_of_mem layer otherMem)
      rw [List.foldl_cons, ih restAscending, mem_keys_mergeFields layerAscending, or_assoc]
      simp only [List.mem_cons, exists_eq_or_imp]

theorem forall_keys_foldl_mergeFields {layers : List Fields}
    (ascending : ∀ layer ∈ layers, Ascending layer) {below : Fields} {allowed : String → Prop}
    (bottom : ∀ key ∈ keys below, allowed key) :
    (∀ key ∈ keys (layers.foldl mergeFields below), allowed key) ↔
      ∀ layer ∈ layers, ∀ key ∈ keys layer, allowed key := by
  simp only [mem_keys_foldl_mergeFields ascending]
  constructor
  · intro allAllowed layer layerMem key keyMem
    exact allAllowed key (Or.inr ⟨layer, layerMem, keyMem⟩)
  · rintro allAllowed key (keyMem | ⟨layer, layerMem, keyMem⟩)
    · exact bottom key keyMem
    · exact allAllowed layer layerMem key keyMem

/-- The value of the last layer that has the key is laid over something. -/
theorem get?_foldl_mergeFields {layers : List Fields}
    (ascending : ∀ layer ∈ layers, Ascending layer) (below : Fields) (key : String) :
    match (layers.filterMap (get? key)).getLast? with
    | some value => ∃ base, get? key (layers.foldl mergeFields below) = some (merge base value)
    | none => get? key (layers.foldl mergeFields below) = get? key below := by
  induction layers using List.reverseRecOn with
  | nil => rfl
  | append_singleton earlier layer ih =>
      have layerAscending := ascending layer (by simp)
      have before := ih fun other otherMem => ascending other (by simp [otherMem])
      rw [List.foldl_append, List.foldl_cons, List.foldl_nil, List.filterMap_append,
        get?_mergeFields layerAscending]
      cases found : get? key layer with
      | none => simpa [found] using before
      | some value =>
          simp only [List.filterMap_cons, List.filterMap_nil, found, List.getLast?_append,
            List.getLast?_singleton, Option.some_or]
          exact ⟨_, rfl⟩

end CacheDepot.Json
