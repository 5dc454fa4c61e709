import CacheDepot.Proofs.Text.Numerals
import CacheDepot.Text.Blank

/-!
# Letters among numerals and white space

Numerals and white space have no letters, and only letters change with upper case. So a
text in upper case shows its numerals and its white space as they were written.
-/

namespace CacheDepot.Text

variable {text upper : List Char}

theorem isAlpha_iff {c : Char} :
    c.isAlpha ↔ 65 ≤ c.toNat ∧ c.toNat ≤ 90 ∨ 97 ≤ c.toNat ∧ c.toNat ≤ 122 := by
  change (decide (65 ≤ c.val ∧ c.val ≤ 90) || (decide (97 ≤ c.val) && decide (c.val ≤ 122))) =
    true ↔ _
  simp [UInt32.le_iff_toNat_le]

/-- Small letters move down to their capitals, and nothing else moves. -/
theorem toNat_toUpper (c : Char) :
    c.toUpper.toNat =
      if 97 ≤ c.toNat ∧ c.toNat ≤ 122 then c.toNat - 32 else c.toNat := by
  unfold Char.toUpper
  simp only [UInt32.le_iff_toNat_le]
  split
  · next small =>
      have range : 97 ≤ c.toNat ∧ c.toNat ≤ 122 := small
      have down : ('A'.val - 'a'.val).toNat = 2 ^ 32 - 32 := rfl
      have code : c.val.toNat = c.toNat := rfl
      rw [if_pos range]
      change (c.val + ('A'.val - 'a'.val)).toNat = c.toNat - 32
      rw [UInt32.toNat_add, down, code]
      omega
  · next other => exact (if_neg other).symm

theorem toUpper_of_not_isAlpha {c : Char} (other : c.isAlpha = false) : c.toUpper = c := by
  rw [Bool.eq_false_iff, Ne, isAlpha_iff] at other
  rw [← Char.toNat_inj, toNat_toUpper, if_neg (by omega)]

theorem isAlpha_toUpper (c : Char) : c.toUpper.isAlpha = c.isAlpha := by
  rw [Bool.eq_iff_iff, isAlpha_iff, isAlpha_iff, toNat_toUpper]
  split <;> omega

theorem map_toUpper_of_no_letters (others : ∀ c ∈ text, c.isAlpha = false) :
    text.map Char.toUpper = text := by
  rw [List.map_congr_left fun c within => toUpper_of_not_isAlpha (others c within), List.map_id']

/-- Only letters become letters. -/
theorem eq_of_map_toUpper (changed : text.map Char.toUpper = upper)
    (others : ∀ c ∈ upper, c.isAlpha = false) : text = upper := by
  rw [← changed, map_toUpper_of_no_letters]
  intro c within
  rw [← isAlpha_toUpper]
  exact others c.toUpper (changed ▸ List.mem_map_of_mem within)

theorem isDigit_iff {c : Char} : c.isDigit ↔ 48 ≤ c.toNat ∧ c.toNat ≤ 57 := by
  simp [Char.isDigit, UInt32.le_iff_toNat_le]

theorem not_isAlpha_of_isBlank {c : Char} (blank : isBlank c) : c.isAlpha = false := by
  rw [Bool.eq_false_iff, Ne, isAlpha_iff]
  simp only [isBlank, Bool.or_eq_true, Bool.and_eq_true, decide_eq_true_eq, beq_iff_eq] at blank
  omega

theorem no_letters_of_blank (blank : ∀ c ∈ text, isBlank c) : ∀ c ∈ text, c.isAlpha = false :=
  fun c within => not_isAlpha_of_isBlank (blank c within)

theorem not_isAlpha_of_isDigit {c : Char} (digit : c.isDigit) : c.isAlpha = false := by
  rw [Bool.eq_false_iff, Ne, isAlpha_iff]
  have range := isDigit_iff.mp digit
  omega

theorem no_letters_of_numeral {sign digits : List Char} (known : sign ∈ signs)
    (allDigits : ∀ c ∈ digits, c.isDigit) : ∀ c ∈ sign ++ digits, c.isAlpha = false := by
  refine List.forall_mem_append.mpr ⟨?_, ?_⟩
  · intro c within
    rw [eq_plus_of_mem known c within]
    rfl
  · intro c within
    exact not_isAlpha_of_isDigit (allDigits c within)

theorem not_isBlank_of_isDigit {c : Char} (digit : c.isDigit) : isBlank c = false := by
  have range := isDigit_iff.mp digit
  rw [Bool.eq_false_iff]
  simp only [isBlank, ne_eq, Bool.or_eq_true, Bool.and_eq_true, decide_eq_true_eq, beq_iff_eq]
  omega

theorem not_isBlank_of_isAlpha {c : Char} (letter : c.isAlpha) : isBlank c = false := by
  rw [Bool.eq_false_iff]
  intro blank
  rw [not_isAlpha_of_isBlank blank] at letter
  cases letter

theorem utf8Size_of_isAlpha {c : Char} (letter : c.isAlpha) : c.utf8Size = 1 := by
  have range := isAlpha_iff.mp letter
  rw [Char.utf8Size_eq_one_iff, UInt32.le_iff_toNat_le]
  exact range.elim (fun low => low.2.trans (by decide)) fun high => high.2.trans (by decide)

end CacheDepot.Text
