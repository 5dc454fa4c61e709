import CacheDepot.Proofs.Json.Layering

/-!
# Layers that are laid again, and layers in groups

A layer that is laid over a value a second time changes nothing. Of three layers it does
not matter which two are merged first, except at places where the outer two hold objects
and the one between them does not: there it hides the lowest layer from the result only
if it is laid over that layer before the top one is laid over it.
-/

namespace CacheDepot.Json

open Fields (get? Ascending)

/-! ## Objects as what they hold -/

/-- What is found in a value is smaller than the value. -/
theorem sizeOf_lt_of_get? {key : String} {value part : Json}
    (found : get? key value.fields = some part) : sizeOf part < sizeOf value := by
  cases value with
  | object fields =>
      have smaller : sizeOf (key, part) < sizeOf fields :=
        List.sizeOf_lt_of_mem (Named.mem_of_lookup found)
      rw [Prod.mk.sizeOf_spec] at smaller
      rw [object.sizeOf_spec]
      omega
  | _ => cases found

/-- What holds of a value whenever it holds of all that stands under its keys holds of every
value. -/
@[elab_as_elim]
theorem fields_induction {motive : Json → Prop} (value : Json)
    (step : ∀ value : Json,
      (∀ key part, get? key value.fields = some part → motive part) → motive value) :
    motive value :=
  step value fun _ part found =>
    have := sizeOf_lt_of_get? found
    fields_induction part step
termination_by sizeOf value

variable {a b c : Json} {key : String}

/-- Objects are the same if the same is found in them. -/
theorem eq_of_get? (canonical : a.Canonical) (otherCanonical : b.Canonical)
    (object : a.isObject) (otherObject : b.isObject)
    (same : ∀ key, get? key a.fields = get? key b.fields) : a = b := by
  obtain ⟨fields, rfl⟩ := exists_object object
  obtain ⟨others, rfl⟩ := exists_object otherObject
  exact congrArg Json.object (Ascending.ext canonical.1 otherCanonical.1 same)

/-! ## Two layers -/

theorem merge_over_plain (plain : a.isObject = false) (overlay : Json) :
    merge a overlay = overlay := by
  cases overlay with
  | object fields => cases a <;> first | rfl | contradiction
  | _ => rfl

theorem merge_self (canonical : a.Canonical) : merge a a = a := by
  induction a using fields_induction with
  | step a ih =>
      cases object : a.isObject with
      | false => exact merge_of_not_object object a
      | true =>
          apply eq_of_get? (canonical_merge canonical canonical) canonical
            ((isObject_merge a a).trans object) object
          intro key
          rw [get?_merge object (ascending_of_canonical canonical)]
          cases found : get? key a.fields with
          | none => rfl
          | some part => exact congrArg some (ih key part found (canonical_part canonical found))

/-- At a place that both layers have, merged layers hold what is merged there. -/
theorem at?_merge {path : List String} {x y : Json} (canonical : b.Canonical)
    (below : at? path a = some x) (above : at? path b = some y) :
    at? path (merge a b) = some (merge x y) := by
  induction path generalizing a b with
  | nil =>
      cases below
      cases above
      rfl
  | cons key rest ih =>
      obtain ⟨lower, lowerFound, lowerAt⟩ := Option.bind_eq_some_iff.mp below
      obtain ⟨upper, upperFound, upperAt⟩ := Option.bind_eq_some_iff.mp above
      have object : b.isObject := by
        cases b with
        | object fields => rfl
        | _ => cases upperFound
      have merged : get? key (merge a b).fields = some (merge lower upper) := by
        rw [get?_merge object (ascending_of_canonical canonical), upperFound, lowerFound]
        rfl
      rw [at?, merged]
      exact ih (canonical_part canonical upperFound) lowerAt upperAt

/-! ## Three layers -/

/-- At a place the outer layers hold objects, and the one between them holds another value. -/
structure PartsAt (path : List String) (a b c x y z : Json) : Prop where
  below : at? path a = some x
  between : at? path b = some y
  above : at? path c = some z
  belowObject : x.isObject
  plain : y.isObject = false
  aboveObject : z.isObject

theorem PartsAt.enter {path : List String} {x y z p q r : Json} (parts : PartsAt path p q r x y z)
    (below : get? key a.fields = some p) (between : get? key b.fields = some q)
    (above : get? key c.fields = some r) : PartsAt (key :: path) a b c x y z where
  below := Option.bind_eq_some_iff.mpr ⟨p, below, parts.below⟩
  between := Option.bind_eq_some_iff.mpr ⟨q, between, parts.between⟩
  above := Option.bind_eq_some_iff.mpr ⟨r, above, parts.above⟩
  belowObject := parts.belowObject
  plain := parts.plain
  aboveObject := parts.aboveObject

/-- If the two lower layers are merged first the lowest one is hidden. -/
theorem PartsAt.at?_left {path : List String} {x y z : Json} (parts : PartsAt path a b c x y z)
    (canonical : b.Canonical) (topCanonical : c.Canonical) :
    at? path (merge (merge a b) c) = some z := by
  have hidden := at?_merge canonical parts.below parts.between
  rw [merge_of_not_object parts.plain] at hidden
  rw [at?_merge topCanonical hidden parts.above, merge_over_plain parts.plain]

/-- If the two upper layers are merged first the one between is hidden. -/
theorem PartsAt.at?_right {path : List String} {x y z : Json} (parts : PartsAt path a b c x y z)
    (canonical : b.Canonical) (topCanonical : c.Canonical) :
    at? path (merge a (merge b c)) = some (merge x z) := by
  have upper := at?_merge topCanonical parts.between parts.above
  rw [merge_over_plain parts.plain] at upper
  exact at?_merge (canonical_merge canonical topCanonical) parts.below upper

/-- The groups of three layers do not matter if the lowest layer adds nothing to the top one
wherever the one between them parts them. -/
theorem merge_merge (canonical : a.Canonical) (between : b.Canonical) (top : c.Canonical)
    (addsNothing : ∀ path x y z, PartsAt path a b c x y z → merge x z = z) :
    merge (merge a b) c = merge a (merge b c) := by
  induction c using fields_induction generalizing a b with
  | step c ih =>
      cases topObject : c.isObject with
      | false => rw [merge_of_not_object topObject, merge_of_not_object topObject,
          merge_of_not_object topObject]
      | true =>
          cases betweenObject : b.isObject with
          | false =>
              rw [merge_of_not_object betweenObject, merge_over_plain betweenObject]
              cases object : a.isObject with
              | false => exact (merge_over_plain object c).symm
              | true =>
                  have parts : PartsAt [] a b c a b c :=
                    ⟨rfl, rfl, rfl, object, betweenObject, topObject⟩
                  exact (addsNothing [] a b c parts).symm
          | true =>
              have upperObject : (merge b c).isObject := (isObject_merge b c).trans topObject
              have upperCanonical : (merge b c).Canonical := canonical_merge between top
              apply eq_of_get? (canonical_merge (canonical_merge canonical between) top)
                (canonical_merge canonical upperCanonical)
                ((isObject_merge _ c).trans topObject) ((isObject_merge a _).trans upperObject)
              intro key
              have ascending : Ascending c.fields := ascending_of_canonical top
              rw [get?_merge topObject ascending,
                get?_merge betweenObject (ascending_of_canonical between),
                get?_merge upperObject (ascending_of_canonical upperCanonical),
                get?_merge topObject ascending]
              cases topFound : get? key c.fields with
              | none => rfl
              | some z =>
                  cases betweenFound : get? key b.fields with
                  | none => exact congrArg some (congrArg _ (merge_null z).symm)
                  | some y =>
                      cases found : get? key a.fields with
                      | none => simp only [Option.getD_none, Option.getD_some, merge_null]
                      | some x =>
                          apply congrArg some
                          apply ih key z topFound (canonical_part canonical found)
                            (canonical_part between betweenFound) (canonical_part top topFound)
                          intro path p q r parts
                          exact addsNothing (key :: path) p q r
                            (parts.enter found betweenFound topFound)

/-- A layer laid over itself, or a second time over another value, changes nothing. Of three layers
the lower two or the upper two may be merged first, unless at some place the outer ones hold objects
and the one between does not. Even so the two results are the same if, at all such places, the
object of the top layer does not change when it is laid over the one of the lowest layer; and
otherwise they are not. -/
theorem merge_again_and_in_groups (canonical : a.Canonical) (between : b.Canonical)
    (top : c.Canonical) :
    merge a a = a ∧
    merge (merge a b) b = merge a b ∧
    ((¬ ∃ path x y z, at? path a = some x ∧ at? path b = some y ∧ at? path c = some z ∧
        x.isObject ∧ y.isObject = false ∧ z.isObject) →
      merge (merge a b) c = merge a (merge b c)) ∧
    (merge (merge a b) c = merge a (merge b c) ↔
      ∀ path x y z, at? path a = some x → at? path b = some y → at? path c = some z →
        x.isObject → y.isObject = false → z.isObject → merge x z = z) := by
  constructor
  · exact merge_self canonical
  constructor
  · calc merge (merge a b) b
        = merge a (merge b b) := by
          apply merge_merge canonical between between
          intro path x y z parts
          have same : y = z := Option.some.inj (parts.between.symm.trans parts.above)
          have plain := parts.plain
          rw [same, parts.aboveObject] at plain
          contradiction
      _ = merge a b := by rw [merge_self between]
  constructor
  · intro undivided
    apply merge_merge canonical between top
    intro path x y z parts
    exact absurd ⟨path, x, y, z, parts.below, parts.between, parts.above, parts.belowObject,
      parts.plain, parts.aboveObject⟩ undivided
  · constructor
    · intro same path x y z below middle above belowObject plain aboveObject
      have parts : PartsAt path a b c x y z :=
        ⟨below, middle, above, belowObject, plain, aboveObject⟩
      have left := parts.at?_left between top
      rw [same, parts.at?_right between top] at left
      exact Option.some.inj left
    · intro addsNothing
      apply merge_merge canonical between top
      intro path x y z parts
      exact addsNothing path x y z parts.below parts.between parts.above parts.belowObject
        parts.plain parts.aboveObject

/-- A number between two tables hides the lower table or not, as the layers are grouped. -/
theorem merge_again_and_in_groups_of_number_between_tables :
    let a : Json := .object [("t", .object [("x", .int 1)])]
    let b : Json := .object [("t", .int 2)]
    let c : Json := .object [("t", .object [("y", .int 3)])]
    merge (merge a b) b = merge a b ∧ merge (merge a b) c ≠ merge a (merge b c) := by
  intro a b c
  have single : ∀ {key value}, value.Canonical → (Json.object [(key, value)]).Canonical :=
    fun inner => ⟨List.pairwise_singleton _ _, inner, trivial⟩
  obtain ⟨-, again, -, groups⟩ := merge_again_and_in_groups (a := a) (b := b) (c := c)
    (single (single trivial)) (single trivial) (single (single trivial))
  refine ⟨again, fun same => ?_⟩
  have added := groups.mp same ["t"] _ _ _ rfl rfl rfl rfl rfl rfl
  have found := congrArg (fun value => get? "x" value.fields) added
  contradiction

end CacheDepot.Json
