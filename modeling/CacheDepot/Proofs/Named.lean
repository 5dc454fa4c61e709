import Mathlib.Data.List.Perm.Basic

/-!
# Lists of named entries

Look-up in lists whose entries carry names, as the fields of an object, the slots of
loans, the arenas of a workspace and the buffers of a segment do. If no name occurs
twice, an entry that is found and the entries of other names are together all there
are.
-/

namespace CacheDepot.Named

open scoped List

variable {κ α : Type} [DecidableEq κ] {entries : List (κ × α)} {name : κ} {value : α}

theorem lookup_cons (present : κ) (old : α) :
    ((present, old) :: entries).lookup name =
      if name = present then some old else entries.lookup name := by
  by_cases same : name = present
  · simp [same]
  · have differs : (name == present) = false := by simpa using same
    simp [List.lookup_cons, same, differs]

theorem mem_of_lookup (found : entries.lookup name = some value) : (name, value) ∈ entries := by
  obtain ⟨before, rest, rfl, -⟩ := List.lookup_eq_some_iff.mp found
  exact List.mem_append_right before List.mem_cons_self

theorem lookup_eq_none_iff : entries.lookup name = none ↔ name ∉ entries.map Prod.fst := by
  induction entries with
  | nil => simp
  | cons entry rest ih =>
      obtain ⟨present, old⟩ := entry
      rw [lookup_cons]
      by_cases same : name = present
      · simp [same]
      · rw [if_neg same, ih]
        simp [same]

theorem filter_ne_of_absent (absent : name ∉ entries.map Prod.fst) :
    entries.filter (fun entry => entry.1 ≠ name) = entries := by
  rw [List.filter_eq_self]
  intro entry entryMem
  have apart : entry.1 ≠ name := by
    rintro rfl
    exact absent (List.mem_map_of_mem entryMem)
  exact decide_eq_true apart

/-- Entries of other names are found as before. -/
theorem lookup_filter_ne {other : κ} (apart : name ≠ other) :
    (entries.filter fun entry => entry.1 ≠ other).lookup name = entries.lookup name := by
  induction entries with
  | nil => rfl
  | cons entry rest ih =>
      obtain ⟨present, old⟩ := entry
      by_cases same : present = other
      · subst same
        rw [List.filter_cons_of_neg (by simp), lookup_cons, if_neg apart, ih]
      · rw [List.filter_cons_of_pos (by simpa using same), lookup_cons, lookup_cons, ih]

/-- An entry that is found is the only one of its name. -/
theorem perm_of_lookup (distinct : (entries.map Prod.fst).Nodup)
    (found : entries.lookup name = some value) :
    entries ~ (name, value) :: entries.filter fun entry => entry.1 ≠ name := by
  induction entries with
  | nil => cases found
  | cons entry rest ih =>
      obtain ⟨present, old⟩ := entry
      obtain ⟨fresh, restDistinct⟩ := List.nodup_cons.mp distinct
      by_cases same : present = name
      · subst same
        obtain rfl : old = value := by simpa [lookup_cons] using found
        rw [List.filter_cons_of_neg (by simp), filter_ne_of_absent fresh]
      · rw [lookup_cons, if_neg (Ne.symm same)] at found
        rw [List.filter_cons_of_pos (by simpa using same)]
        exact ((ih restDistinct found).cons _).trans (.swap _ _ _)

theorem lookup_eq_some_iff_mem (distinct : (entries.map Prod.fst).Nodup) :
    entries.lookup name = some value ↔ (name, value) ∈ entries := by
  refine ⟨mem_of_lookup, fun entryMem => ?_⟩
  cases found : entries.lookup name with
  | none => exact absurd (List.mem_map_of_mem entryMem) (lookup_eq_none_iff.mp found)
  | some other =>
      rcases List.mem_cons.mp ((perm_of_lookup distinct found).subset entryMem) with same | apart
      · rw [(Prod.mk.inj same).2]
      · simp at apart

/-- The order of entries does not matter to what is found. -/
theorem lookup_of_perm {others : List (κ × α)} (distinct : (entries.map Prod.fst).Nodup)
    (same : entries ~ others) : entries.lookup name = others.lookup name := by
  have distinctOthers : (others.map Prod.fst).Nodup := (same.map Prod.fst).nodup_iff.mp distinct
  ext value
  rw [lookup_eq_some_iff_mem distinct, lookup_eq_some_iff_mem distinctOthers, same.mem_iff]

end CacheDepot.Named
