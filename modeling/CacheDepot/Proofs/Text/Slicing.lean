import CacheDepot.Proofs.Text.Trimming
import Mathlib.Data.String.Basic
import Mathlib.Tactic.Common

/-!
# Slices at character boundaries

A text is cut at byte offsets. The offsets at which its parts begin and end are
boundaries of characters, and the bytes between them are those of the part. A part
followed by characters of one byte each ends that many bytes before the end.
-/

namespace CacheDepot.Text

variable {before kept after ending : List Char}

/-- The bytes of `whole` from `start` to `stop` are those of `kept`, and neither offset
falls inside a character. -/
structure Slices (whole : List Char) (start stop : Nat) (kept : List Char) : Prop where
  start_valid : String.Pos.Raw.IsValid (String.ofList whole) ⟨start⟩
  stop_valid : String.Pos.Raw.IsValid (String.ofList whole) ⟨stop⟩
  bytes_eq :
    (String.ofList whole).toByteArray.extract start stop = (String.ofList kept).toByteArray

theorem isValid_utf8Len (before after : List Char) :
    String.Pos.Raw.IsValid (String.ofList (before ++ after)) ⟨String.utf8Len before⟩ :=
  String.Pos.Raw.isValid_iff_exists_append.mpr ⟨String.ofList before, String.ofList after,
    String.ofList_append, by rw [String.rawEndPos, String.utf8ByteSize_ofList]⟩

/-- A part is the slice between the ends of what stands before it and of itself. -/
theorem slices_part (before kept after : List Char) :
    Slices (before ++ kept ++ after) (String.utf8Len before) (String.utf8Len (before ++ kept))
      kept where
  start_valid := by
    rw [List.append_assoc]
    exact isValid_utf8Len before (kept ++ after)
  stop_valid := isValid_utf8Len (before ++ kept) after
  bytes_eq := by
    have size (text : List Char) : (String.ofList text).toByteArray.size = String.utf8Len text := by
      rw [String.size_toByteArray, String.utf8ByteSize_ofList]
    rw [List.append_assoc, String.ofList_append, String.ofList_append, String.toByteArray_append,
      String.toByteArray_append, String.utf8Len_append, ← size before, ← size kept]
    conv_lhs => rw [← Nat.add_zero (String.ofList before).toByteArray.size]
    rw [Nat.add_assoc, ByteArray.extract_append_size_add, Nat.zero_add,
      ByteArray.extract_append_eq_left rfl]

theorem utf8Len_of_single_bytes (single : ∀ c ∈ ending, c.utf8Size = 1) :
    String.utf8Len ending = ending.length := by
  induction ending with
  | nil => rfl
  | cons c ending ih =>
      rw [String.utf8Len_cons, single c List.mem_cons_self, List.length_cons,
        ih fun d within => single d (List.mem_cons_of_mem c within)]

/-- Characters of one byte each are cut off by counting them. -/
theorem slices_before {whole : List Char} (parts : whole = kept ++ ending)
    (single : ∀ c ∈ ending, c.utf8Size = 1) :
    Slices whole 0 (String.utf8Len whole - (whole.length - kept.length)) kept := by
  have stop : String.utf8Len whole - (whole.length - kept.length) = String.utf8Len kept := by
    rw [parts, String.utf8Len_append, utf8Len_of_single_bytes single, List.length_append,
      Nat.add_sub_cancel_left, Nat.add_sub_cancel]
  rw [stop, parts]
  exact slices_part [] kept ending

theorem exists_slices_trim (text : List Char) :
    ∃ start stop, Slices text start stop (trim text) := by
  obtain ⟨before, after, whole, -, -⟩ := exists_trim text
  refine ⟨String.utf8Len before, String.utf8Len (before ++ trim text), ?_⟩
  have part := slices_part before (trim text) after
  rwa [← whole] at part

end CacheDepot.Text
