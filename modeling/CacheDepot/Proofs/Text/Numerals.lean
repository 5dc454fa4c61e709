import CacheDepot.Text.Digits
import Mathlib.Data.List.Induction
import Mathlib.Data.Nat.Digits.Defs
import Mathlib.Tactic.Common

/-!
# Decimal numerals

The words that `word?` reads are written by a run of digits, after a plus sign or not,
whose value fits 64 bits. The value is the number with those digits, each worth its
distance from `0`.
-/

namespace CacheDepot.Text

variable {digits sign : List Char}

theorem digitValue_of_isDigit {c : Char} (digit : c.isDigit) :
    digitValue c = c.toNat - '0'.toNat := by
  obtain ⟨low, high⟩ := Bool.and_eq_true_iff.mp digit
  rw [digitValue, if_pos ⟨of_decide_eq_true low, of_decide_eq_true high⟩]
  rfl

/-- The number that a run of decimal digits stands for, most significant digit first. -/
def decimal (digits : List Char) : Nat :=
  Nat.ofDigits 10 (digits.reverse.map fun c => c.toNat - '0'.toNat)

theorem decimal_concat (digits : List Char) (c : Char) :
    decimal (digits ++ [c]) = decimal digits * 10 + (c.toNat - '0'.toNat) := by
  simp only [decimal, List.reverse_append, List.reverse_singleton, List.singleton_append,
    List.map_cons, Nat.ofDigits_cons]
  exact (Nat.add_comm _ _).trans (congrArg (· + _) (Nat.mul_comm _ _))

theorem digitsValue_concat (base : Nat) (digits : List Char) (c : Char) :
    digitsValue base (digits ++ [c]) = digitsValue base digits * base + digitValue c := by
  simp [digitsValue]

theorem digitsValue_eq_decimal (allDigits : ∀ c ∈ digits, c.isDigit) :
    digitsValue 10 digits = decimal digits := by
  induction digits using List.reverseRecOn with
  | nil => rfl
  | append_singleton digits c ih =>
      rw [digitsValue_concat, decimal_concat, ih fun d within => allDigits d (by simp [within]),
        digitValue_of_isDigit (allDigits c (by simp))]

/-- The signs that may stand before a numeral: none, or a plus sign. -/
def signs : List (List Char) := [[], ['+']]

theorem eq_plus_of_mem (known : sign ∈ signs) : ∀ c ∈ sign, c = '+' := by
  obtain rfl | rfl : sign = [] ∨ sign = ['+'] := by simpa [signs] using known
  · exact fun c within => absurd within List.not_mem_nil
  · exact fun c within => List.mem_singleton.mp within

theorem exists_dropPlus (text : List Char) : ∃ sign ∈ signs, text = sign ++ dropPlus text := by
  unfold dropPlus
  split
  · exact ⟨['+'], by simp [signs], rfl⟩
  · exact ⟨[], by simp [signs], rfl⟩

/-- Digits are no signs, so that what is dropped before them is the sign. -/
theorem dropPlus_append (known : sign ∈ signs) (allDigits : ∀ c ∈ digits, c.isDigit) :
    dropPlus (sign ++ digits) = digits := by
  obtain rfl | rfl : sign = [] ∨ sign = ['+'] := by simpa [signs] using known
  · unfold dropPlus
    split
    · next rest plus =>
        obtain rfl : digits = '+' :: rest := plus
        exact absurd (allDigits '+' List.mem_cons_self) (by decide)
    · rfl
  · rfl

/-- The texts that are read as a word are its numerals. -/
theorem word?_eq_some_iff {text : List Char} {word : UInt64} :
    word? text = some word ↔
      ∃ sign digits, sign ∈ signs ∧ digits ≠ [] ∧ (∀ c ∈ digits, c.isDigit) ∧
        text = sign ++ digits ∧ decimal digits = word.toNat := by
  constructor
  · intro read
    simp only [word?] at read
    split at read
    · next wellFormed =>
        obtain ⟨nonempty, digitsOnly, fits⟩ := wellFormed
        have allDigits : ∀ c ∈ dropPlus text, c.isDigit := by simpa using digitsOnly
        obtain ⟨sign, known, spelled⟩ := exists_dropPlus text
        refine ⟨sign, dropPlus text, known, nonempty, allDigits, spelled, ?_⟩
        rw [← digitsValue_eq_decimal allDigits, ← Option.some.inj read,
          UInt64.toNat_ofNat_of_lt' fits]
    · cases read
  · rintro ⟨sign, digits, known, nonempty, allDigits, rfl, value⟩
    have fits : digitsValue 10 digits < UInt64.size := by
      rw [digitsValue_eq_decimal allDigits, value]
      exact word.toNat_lt_size
    simp only [word?, dropPlus_append known allDigits]
    rw [if_pos ⟨nonempty, by simpa using allDigits, fits⟩, digitsValue_eq_decimal allDigits, value,
      UInt64.ofNat_toNat]

end CacheDepot.Text
