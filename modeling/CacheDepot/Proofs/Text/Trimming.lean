import CacheDepot.Text.Blank
import Mathlib.Data.List.DropRight
import Mathlib.Data.List.TakeWhile

/-!
# What trimming leaves

Trimming takes white space from both ends of a text and nothing else. It finds a core
that neither starts nor ends with white space again, however much white space stands
around it.
-/

namespace CacheDepot.Text

variable {before core after text : List Char}

theorem trimEnd_eq_rdropWhile (text : List Char) : trimEnd text = text.rdropWhile isBlank :=
  rfl

/-- What trimming takes away is white space on either side. -/
theorem exists_trim (text : List Char) :
    ∃ before after, text = before ++ trim text ++ after ∧
      (∀ c ∈ before, isBlank c) ∧ ∀ c ∈ after, isBlank c := by
  refine ⟨text.takeWhile isBlank, (trimStart text).rtakeWhile isBlank, ?_,
    fun c within => List.mem_takeWhile_imp within, fun c within => List.mem_rtakeWhile_imp within⟩
  rw [trim, trimEnd_eq_rdropWhile, List.append_assoc, List.rdropWhile_append_rtakeWhile, trimStart,
    List.takeWhile_append_dropWhile]

/-- White space at the end does not matter. -/
theorem trimEnd_append (blank : ∀ c ∈ after, isBlank c) :
    trimEnd (text ++ after) = trimEnd text := by
  unfold trimEnd
  rw [List.reverse_append,
    List.dropWhile_append_of_pos fun c within => blank c (List.mem_reverse.mp within)]

/-- A core that neither starts nor ends with white space is what trimming leaves of it. -/
theorem trim_surrounded (blankBefore : ∀ c ∈ before, isBlank c)
    (blankAfter : ∀ c ∈ after, isBlank c) (starts : ∀ c ∈ core.head?, isBlank c = false)
    (ends : ∀ c ∈ core.getLast?, isBlank c = false) :
    trim (before ++ core ++ after) = core := by
  have start : trimStart (before ++ core ++ after) = trimStart (core ++ after) := by
    rw [trimStart, List.append_assoc, List.dropWhile_append_of_pos blankBefore, trimStart]
  rw [trim, start]
  cases core with
  | nil =>
      have nothing : trimStart ([] ++ after) = [] := List.dropWhile_eq_nil_iff.mpr blankAfter
      rw [nothing, trimEnd_eq_rdropWhile, List.rdropWhile_nil]
  | cons first rest =>
      have kept : trimStart (first :: rest ++ after) = first :: rest ++ after :=
        List.dropWhile_cons_of_neg (by simpa using starts first (by simp))
      rw [kept, trimEnd_append blankAfter, trimEnd_eq_rdropWhile, List.rdropWhile_eq_self_iff]
      intro nonempty
      simpa using ends _ (List.getLast?_eq_some_getLast nonempty)

end CacheDepot.Text
