import CacheDepot.Config.Size
import CacheDepot.Proofs.Text.Letters
import CacheDepot.Proofs.Text.Slicing
import Mathlib.Tactic.Common

/-!
# The forms of a size

A size is written as a decimal numeral, a unit letter or none, and a byte mark or none,
with white space around the whole and after the numeral. The texts of this form are the
ones that are read, and each gives the number that it writes, or the complaint that
this number is out of range; every other text is malformed.

White space, signs and digits keep their place when the letters change their case. A unit
letter is never the end of a byte mark, so taking the ending off piece by piece, longest
byte mark first, finds the pieces that the text was put together from.
-/

namespace CacheDepot.Config.Size

open Text

/-! ## Unit letters and byte marks -/

section Endings

variable {text unit mark : List Char} {bits : Nat}

/-- The units in upper case, with their binary orders of magnitude. -/
def units : List (List Char × Nat) := [([], 0), (['K'], 10), (['M'], 20), (['G'], 30), (['T'], 40)]

/-- The byte marks in upper case. -/
def byteMarks : List (List Char) := [[], ['B'], ['I', 'B']]

theorem isAlpha_of_unit (known : (unit, bits) ∈ units) : ∀ c ∈ unit, c.isAlpha := by
  simp only [units, List.mem_cons, Prod.mk.injEq, List.not_mem_nil, or_false] at known
  obtain ⟨rfl, -⟩ | ⟨rfl, -⟩ | ⟨rfl, -⟩ | ⟨rfl, -⟩ | ⟨rfl, -⟩ := known <;> simp [isAlpha_iff]

theorem isAlpha_of_byteMark (known : mark ∈ byteMarks) : ∀ c ∈ mark, c.isAlpha := by
  simp only [byteMarks, List.mem_cons, List.not_mem_nil, or_false] at known
  obtain rfl | rfl | rfl := known <;> simp [isAlpha_iff]

theorem beforeEnding?_append (start ending : List Char) :
    beforeEnding? ending (start ++ ending) = some start := by
  rw [beforeEnding?, if_pos (List.isSuffixOf_iff_suffix.mpr (List.suffix_append start ending))]
  simp

theorem beforeEnding?_eq_some_iff {ending start : List Char} :
    beforeEnding? ending text = some start ↔ text = start ++ ending := by
  constructor
  · intro found
    rw [beforeEnding?] at found
    split at found
    · next ends =>
        obtain ⟨before, rfl⟩ := List.isSuffixOf_iff_suffix.mp ends
        simpa using Option.some.inj found
    · cases found
  · rintro rfl
    exact beforeEnding?_append start ending

theorem beforeEnding?_eq_none (start : List Char) {c : Char} (other : c ∉ text.getLast?) :
    beforeEnding? (start ++ [c]) text = none := by
  rw [Option.eq_none_iff_forall_ne_some]
  intro before found
  rw [beforeEnding?_eq_some_iff.mp found] at other
  simp at other

/-- A common last character does not matter. -/
theorem beforeEnding?_concat (ending text : List Char) (c : Char) :
    beforeEnding? (ending ++ [c]) (text ++ [c]) = beforeEnding? ending text := by
  ext start
  rw [beforeEnding?_eq_some_iff, beforeEnding?_eq_some_iff, ← List.append_assoc,
    List.append_left_inj]

/-- What is dropped at the end is a byte mark. -/
theorem exists_dropByteMark (text : List Char) :
    ∃ mark ∈ byteMarks, text = dropByteMark text ++ mark := by
  cases long : beforeEnding? ['I', 'B'] text with
  | some start =>
      refine ⟨['I', 'B'], by decide, ?_⟩
      simpa [dropByteMark, long] using beforeEnding?_eq_some_iff.mp long
  | none =>
      cases short : beforeEnding? ['B'] text with
      | some start =>
          refine ⟨['B'], by decide, ?_⟩
          simpa [dropByteMark, long, short] using beforeEnding?_eq_some_iff.mp short
      | none => exact ⟨[], by decide, by simp [dropByteMark, long, short]⟩

/-- A byte mark is dropped whole, unless the text before it ends as byte marks do. -/
theorem dropByteMark_append (known : mark ∈ byteMarks) (noI : 'I' ∉ text.getLast?)
    (noB : 'B' ∉ text.getLast?) : dropByteMark (text ++ mark) = text := by
  have long : beforeEnding? ['I', 'B'] text = none := beforeEnding?_eq_none ['I'] noB
  have short : beforeEnding? ['B'] text = none := beforeEnding?_eq_none [] noB
  simp only [byteMarks, List.mem_cons, List.not_mem_nil, or_false] at known
  obtain rfl | rfl | rfl := known
  · rw [List.append_nil, dropByteMark, long, short]
    rfl
  · have plain : beforeEnding? ['I', 'B'] (text ++ ['B']) = none :=
      (beforeEnding?_concat ['I'] text 'B').trans (beforeEnding?_eq_none [] noI)
    rw [dropByteMark, plain, beforeEnding?_append]
    rfl
  · rw [dropByteMark, beforeEnding?_append]

theorem mem_units_of_unitBits? {c : Char} (letter : unitBits? c = some bits) :
    ([c], bits) ∈ units := by
  unfold unitBits? at letter
  split at letter <;> cases letter <;> decide

theorem unitBits?_of_not_isAlpha {c : Char} (other : c.isAlpha = false) : unitBits? c = none := by
  rw [Option.eq_none_iff_forall_ne_some]
  intro bits letter
  have isLetter := isAlpha_of_unit (mem_units_of_unitBits? letter) c (List.mem_singleton_self c)
  exact Bool.false_ne_true (other.symm.trans isLetter)

/-- The letters of the byte marks are in no unit. -/
theorem not_mem_unit (known : (unit, bits) ∈ units) : 'I' ∉ unit ∧ 'B' ∉ unit := by
  simp only [units, List.mem_cons, Prod.mk.injEq, List.not_mem_nil, or_false] at known
  obtain ⟨rfl, -⟩ | ⟨rfl, -⟩ | ⟨rfl, -⟩ | ⟨rfl, -⟩ | ⟨rfl, -⟩ := known <;> decide

/-- What is split off at the end is a unit, with its order of magnitude. -/
theorem exists_splitUnit (text : List Char) :
    ∃ unit, (unit, (splitUnit text).2) ∈ units ∧ text = (splitUnit text).1 ++ unit := by
  cases letter : text.getLast?.bind unitBits? with
  | none => exact ⟨[], by simp [splitUnit, letter, units], by simp [splitUnit, letter]⟩
  | some bits =>
      obtain ⟨c, last, known⟩ := Option.bind_eq_some_iff.mp letter
      refine ⟨[c], ?_, ?_⟩
      · simpa [splitUnit, letter] using mem_units_of_unitBits? known
      · simpa [splitUnit, letter] using (List.dropLast_append_getLast? c last).symm

/-- A unit is split off, unless the text before it ends with another one. -/
theorem splitUnit_append (known : (unit, bits) ∈ units)
    (apart : ∀ c ∈ text.getLast?, unitBits? c = none) :
    splitUnit (text ++ unit) = (text, bits) := by
  have noUnit : text.getLast?.bind unitBits? = none := by
    simpa using apart
  simp only [units, List.mem_cons, Prod.mk.injEq, List.not_mem_nil, or_false] at known
  obtain ⟨rfl, rfl⟩ | ⟨rfl, rfl⟩ | ⟨rfl, rfl⟩ | ⟨rfl, rfl⟩ | ⟨rfl, rfl⟩ := known
  · simp [splitUnit, noUnit]
  all_goals simp [splitUnit, unitBits?]

end Endings

/-! ## Forms -/

/-- The parts that a size is put together from. -/
structure Form where
  before : List Char
  sign : List Char
  digits : List Char
  between : List Char
  unit : List Char
  /-- The binary order of magnitude of the unit. -/
  bits : Nat
  mark : List Char
  after : List Char
  before_blank : ∀ c ∈ before, isBlank c
  sign_mem : sign ∈ signs
  digits_ne_nil : digits ≠ []
  digits_isDigit : ∀ c ∈ digits, c.isDigit
  between_blank : ∀ c ∈ between, isBlank c
  unit_mem : (unit.map Char.toUpper, bits) ∈ units
  mark_mem : mark.map Char.toUpper ∈ byteMarks
  after_blank : ∀ c ∈ after, isBlank c

namespace Form

variable (form : Form)

def number : List Char := form.sign ++ form.digits

/-- The unit and the byte mark. -/
def ending : List Char := form.unit ++ form.mark

def text : List Char := form.before ++ (form.number ++ form.between ++ form.ending) ++ form.after

def count : Nat := decimal form.digits

def bytes : Nat := form.count * 2 ^ form.bits

theorem number_ne_nil : form.number ≠ [] :=
  List.append_ne_nil_of_right_ne_nil form.sign form.digits_ne_nil

theorem number_not_isBlank : ∀ c ∈ form.number, isBlank c = false := by
  refine List.forall_mem_append.mpr ⟨?_, ?_⟩
  · intro c within
    rw [eq_plus_of_mem form.sign_mem c within]
    rfl
  · intro c within
    exact not_isBlank_of_isDigit (form.digits_isDigit c within)

theorem number_not_isAlpha : ∀ c ∈ form.number, c.isAlpha = false :=
  no_letters_of_numeral form.sign_mem form.digits_isDigit

theorem ending_isAlpha : ∀ c ∈ form.ending, c.isAlpha := by
  intro c within
  rw [← Text.isAlpha_toUpper]
  obtain inUnit | inMark := List.mem_append.mp within
  · exact isAlpha_of_unit form.unit_mem _ (List.mem_map_of_mem inUnit)
  · exact isAlpha_of_byteMark form.mark_mem _ (List.mem_map_of_mem inMark)

/-- The white space after the numeral, unless nothing but white space follows. -/
def gap : List Char := if form.ending = [] then [] else form.between

theorem gap_blank : ∀ c ∈ form.gap, isBlank c := by
  intro c within
  unfold gap at within
  split at within
  · cases within
  · exact form.between_blank c within

theorem trim_text : trim form.text = form.number ++ form.gap ++ form.ending := by
  have starts (rest : List Char) : ∀ c ∈ (form.number ++ rest).head?, isBlank c = false := by
    intro c first
    rw [List.head?_append_of_ne_nil form.number form.number_ne_nil] at first
    exact form.number_not_isBlank c (List.mem_of_mem_head? first)
  by_cases bare : form.ending = []
  · -- the white space after the numeral is at the end of the text
    have blank : ∀ c ∈ form.between ++ form.after, isBlank c :=
      List.forall_mem_append.mpr ⟨form.between_blank, form.after_blank⟩
    have ends : ∀ c ∈ form.number.getLast?, isBlank c = false := fun c last =>
      form.number_not_isBlank c (List.mem_of_mem_getLast? last)
    simpa [text, gap, bare] using
      trim_surrounded form.before_blank blank (by simpa using starts []) ends
  · have ends : ∀ c ∈ (form.number ++ form.between ++ form.ending).getLast?,
        isBlank c = false := by
      intro c last
      rw [List.getLast?_append_of_ne_nil _ bare] at last
      exact not_isBlank_of_isAlpha (form.ending_isAlpha c (List.mem_of_mem_getLast? last))
    rw [gap, if_neg bare, text]
    refine trim_surrounded form.before_blank form.after_blank ?_ ends
    rw [List.append_assoc]
    exact starts _

/-- Upper case changes the ending alone. -/
theorem map_toUpper_trim_text :
    (trim form.text).map Char.toUpper =
      form.number ++ form.gap ++ form.unit.map Char.toUpper ++ form.mark.map Char.toUpper := by
  have gap : form.gap.map Char.toUpper = form.gap :=
    map_toUpper_of_no_letters (no_letters_of_blank form.gap_blank)
  rw [trim_text, ending, List.map_append, List.map_append, List.map_append, gap,
    map_toUpper_of_no_letters form.number_not_isAlpha, ← List.append_assoc]

/-- The numeral and the order of magnitude are found again. -/
theorem split_text : split form.text = (form.number, form.bits) := by
  have plain : ∀ c ∈ form.number ++ form.gap, c.isAlpha = false :=
    List.forall_mem_append.mpr ⟨form.number_not_isAlpha, no_letters_of_blank form.gap_blank⟩
  have noMark {c : Char} (letter : c.isAlpha) (noUnit : c ∉ form.unit.map Char.toUpper) :
      c ∉ (form.number ++ form.gap ++ form.unit.map Char.toUpper).getLast? := by
    intro last
    obtain inPlain | inUnit := List.mem_append.mp (List.mem_of_mem_getLast? last)
    · exact Bool.false_ne_true ((plain c inPlain).symm.trans letter)
    · exact noUnit inUnit
  have unmarked := dropByteMark_append form.mark_mem
    (noMark (by decide) (not_mem_unit form.unit_mem).1)
    (noMark (by decide) (not_mem_unit form.unit_mem).2)
  have bare := splitUnit_append form.unit_mem fun c last =>
    unitBits?_of_not_isAlpha (plain c (List.mem_of_mem_getLast? last))
  have trimmed : trim ([] ++ form.number ++ form.gap) = form.number :=
    trim_surrounded (by simp) form.gap_blank
      (fun c first => form.number_not_isBlank c (List.mem_of_mem_head? first))
      fun c last => form.number_not_isBlank c (List.mem_of_mem_getLast? last)
  rw [List.nil_append] at trimmed
  rw [split, map_toUpper_trim_text, unmarked, bare, trimmed]

theorem dropPlus_number : dropPlus form.number = form.digits :=
  dropPlus_append form.sign_mem form.digits_isDigit

/-- A text has one reading at most: all of its forms write the same number of bytes. -/
theorem bytes_eq_of_text_eq {form other : Form} (same : form.text = other.text) :
    form.bytes = other.bytes := by
  have parts : (form.number, form.bits) = (other.number, other.bits) := by
    rw [← split_text, ← split_text, same]
  obtain ⟨sameNumber, sameBits⟩ := Prod.mk.inj parts
  have sameDigits : form.digits = other.digits := by
    rw [← dropPlus_number, ← dropPlus_number, sameNumber]
  rw [bytes, bytes, count, count, sameDigits, sameBits]

/-- The numeral is read as a word if its value fits 64 bits. -/
theorem word?_number_eq_some_iff {word : UInt64} :
    word? form.number = some word ↔ form.count = word.toNat := by
  rw [word?_eq_some_iff]
  constructor
  · rintro ⟨sign, digits, known, -, allDigits, same, value⟩
    have sameDigits : form.digits = digits := by
      rw [← dropPlus_number, same, dropPlus_append known allDigits]
    rw [count, sameDigits, value]
  · intro value
    exact ⟨form.sign, form.digits, form.sign_mem, form.digits_ne_nil, form.digits_isDigit, rfl,
      value⟩

end Form

/-- A text whose number is read as a word has a form. -/
theorem exists_form {text : List Char} {word : UInt64} (read : word? (split text).1 = some word) :
    ∃ form : Form, form.text = text := by
  obtain ⟨before, after, whole, blankBefore, blankAfter⟩ := exists_trim text
  obtain ⟨mark, markKnown, marked⟩ := exists_dropByteMark ((trim text).map Char.toUpper)
  obtain ⟨unit, unitKnown, united⟩ :=
    exists_splitUnit (dropByteMark ((trim text).map Char.toUpper))
  obtain ⟨lead, between, padded, blankLead, blankBetween⟩ :=
    exists_trim (splitUnit (dropByteMark ((trim text).map Char.toUpper))).1
  obtain ⟨sign, digits, signKnown, nonempty, allDigits, spelled, -⟩ := word?_eq_some_iff.mp read
  have pieces := calc (trim text).map Char.toUpper
      _ = dropByteMark ((trim text).map Char.toUpper) ++ mark := marked
      _ = lead ++ (split text).1 ++ between ++ unit ++ mark :=
        congrArg (· ++ mark) (united.trans (congrArg (· ++ unit) padded))
  -- of these pieces, only the unit and the mark have letters that can have been in lower case
  simp only [List.map_eq_append_iff] at pieces
  obtain ⟨_, mark, core, ⟨_, unit, rfl, ⟨_, between, rfl, ⟨lead, number, rfl, leadSame,
    numberSame⟩, betweenSame⟩, rfl⟩, rfl⟩ := pieces
  obtain rfl := eq_of_map_toUpper leadSame (no_letters_of_blank blankLead)
  have numeral : number = sign ++ digits :=
    eq_of_map_toUpper (numberSame.trans spelled) (no_letters_of_numeral signKnown allDigits)
  obtain rfl := eq_of_map_toUpper betweenSame (no_letters_of_blank blankBetween)
  have blank : ∀ c ∈ before ++ lead, isBlank c :=
    List.forall_mem_append.mpr ⟨blankBefore, blankLead⟩
  have parts : text = before ++ lead ++ (sign ++ digits ++ between ++ (unit ++ mark)) ++ after := by
    rw [whole, core, numeral]
    simp only [List.append_assoc]
  exact ⟨⟨before ++ lead, sign, digits, between, unit, (split text).2, mark, after, blank,
    signKnown, nonempty, allDigits, blankBetween, unitKnown, markKnown, blankAfter⟩, parts.symm⟩

/-! ## Cuts -/

/-- Every cut of the reading falls between two characters. Trimming is by characters; the
byte mark and the unit letter are taken off by as many bytes as they have letters. -/
def CutsCleanly (text : List Char) : Prop :=
  let upper := (trim text).map Char.toUpper
  let unmarked := dropByteMark upper
  let padded := (splitUnit unmarked).1
  (∃ start stop, Slices text start stop (trim text)) ∧
    Slices upper 0 (String.utf8Len upper - (upper.length - unmarked.length)) unmarked ∧
    Slices unmarked 0 (String.utf8Len unmarked - (unmarked.length - padded.length)) padded ∧
    ∃ start stop, Slices padded start stop (trim padded)

theorem slices_dropByteMark (text : List Char) :
    Slices text 0 (String.utf8Len text - (text.length - (dropByteMark text).length))
      (dropByteMark text) := by
  obtain ⟨mark, known, parts⟩ := exists_dropByteMark text
  exact slices_before parts fun c within => utf8Size_of_isAlpha (isAlpha_of_byteMark known c within)

theorem slices_splitUnit (text : List Char) :
    Slices text 0 (String.utf8Len text - (text.length - (splitUnit text).1.length))
      (splitUnit text).1 := by
  obtain ⟨unit, known, parts⟩ := exists_splitUnit text
  exact slices_before parts fun c within => utf8Size_of_isAlpha (isAlpha_of_unit known c within)

theorem cutsCleanly (text : List Char) : CutsCleanly text :=
  ⟨exists_slices_trim _, slices_dropByteMark _, slices_splitUnit _, exists_slices_trim _⟩

/-! ## The reading -/

section Reading

variable {text : String}

/-- A form is read as the number that it writes, as far as 64 bits hold it. -/
theorem ofText_of_form (form : Form) (spelled : form.text = text.toList) :
    ofText text =
      if form.count < UInt64.size then
        if form.bytes < UInt64.size then .ok (UInt64.ofNat form.bytes)
        else .error (.outOfRange text)
      else .error (.malformed text) := by
  have parts : split text.toList = (form.number, form.bits) := spelled ▸ form.split_text
  unfold ofText
  simp only [parts]
  by_cases fits : form.count < UInt64.size
  · have read : word? form.number = some (UInt64.ofNat form.count) :=
      form.word?_number_eq_some_iff.mpr (UInt64.toNat_ofNat_of_lt' fits).symm
    simp only [read, UInt64.toNat_ofNat_of_lt' fits, if_pos fits]
    rfl
  · have unread : word? form.number = none := by
      rw [Option.eq_none_iff_forall_ne_some]
      intro word read
      exact fits (form.word?_number_eq_some_iff.mp read ▸ word.toNat_lt_size)
    simp only [unread, if_neg fits]

theorem exists_form_or_malformed (text : String) :
    (∃ form : Form, form.text = text.toList) ∨ ofText text = .error (.malformed text) := by
  cases read : word? (split text.toList).1 with
  | none =>
      right
      unfold ofText
      simp only [read]
  | some word => exact .inl (exists_form read)

theorem ofText_eq_ok_iff {size : UInt64} :
    ofText text = .ok size ↔ ∃ form : Form, form.text = text.toList ∧ form.bytes = size.toNat := by
  constructor
  · intro read
    obtain ⟨form, spelled⟩ | malformed := exists_form_or_malformed text
    · rw [ofText_of_form form spelled] at read
      split_ifs at read with countFits bytesFit
      cases read
      exact ⟨form, spelled, (UInt64.toNat_ofNat_of_lt' bytesFit).symm⟩
    · cases malformed.symm.trans read
  · rintro ⟨form, spelled, value⟩
    have bytesFit : form.bytes < UInt64.size := value ▸ size.toNat_lt_size
    have countFits : form.count < UInt64.size :=
      (Nat.le_mul_of_pos_right form.count (Nat.two_pow_pos form.bits)).trans_lt bytesFit
    rw [ofText_of_form form spelled, if_pos countFits, if_pos bytesFit, value, UInt64.ofNat_toNat]

example : ofText " +05 kiB\n" = .ok 5120 := rfl

theorem ofText_eq_outOfRange_iff :
    ofText text = .error (.outOfRange text) ↔ ∃ form : Form, form.text = text.toList ∧
      form.count < UInt64.size ∧ UInt64.size ≤ form.bytes := by
  constructor
  · intro read
    obtain ⟨form, spelled⟩ | malformed := exists_form_or_malformed text
    · rw [ofText_of_form form spelled] at read
      split_ifs at read with countFits bytesFit
      · exact ⟨form, spelled, countFits, Nat.le_of_not_lt bytesFit⟩
      · cases read
    · cases malformed.symm.trans read
  · rintro ⟨form, spelled, countFits, bytesLarge⟩
    rw [ofText_of_form form spelled, if_pos countFits, if_neg (Nat.not_lt.mpr bytesLarge)]

theorem ofText_eq_malformed_iff :
    ofText text = .error (.malformed text) ↔
      ∀ form : Form, form.text = text.toList → UInt64.size ≤ form.count := by
  constructor
  · intro read form spelled
    rw [ofText_of_form form spelled] at read
    split_ifs at read with countFits bytesFit
    · cases read
    · exact Nat.le_of_not_lt countFits
  · intro large
    obtain ⟨form, spelled⟩ | malformed := exists_form_or_malformed text
    · rw [ofText_of_form form spelled, if_neg (Nat.not_lt.mpr (large form spelled))]
    · exact malformed

-- no white space may stand between unit and byte mark
example : ofText "5K B" = .error (.malformed "5K B") := rfl

/-- Every complaint is about the text that was given. -/
theorem error_names_text {error : SizeError} (failed : ofText text = .error error) :
    error = .outOfRange text ∨ error = .malformed text := by
  obtain ⟨form, spelled⟩ | malformed := exists_form_or_malformed text
  · rw [ofText_of_form form spelled] at failed
    split_ifs at failed with countFits bytesFit <;> cases failed
    · exact .inl rfl
    · exact .inr rfl
  · exact .inr (Except.error.inj (failed.symm.trans malformed))

/-- The two messages differ in their first letter. -/
theorem messages_differ (subject : String) :
    "size out of range: " ++ subject ≠ "invalid size: " ++ subject := by
  intro same
  have letters := congrArg String.toList same
  simp only [String.toList_append] at letters
  have first : 's' = 'i' := List.head_eq_of_cons_eq letters
  exact absurd first (by decide)

/-- The message tells which complaint it is. -/
theorem mapError_message_eq_iff {error : SizeError}
    (named : error = .outOfRange text ∨ error = .malformed text) :
    (ofText text).mapError SizeError.message = .error error.message ↔
      ofText text = .error error := by
  constructor
  · intro told
    cases outcome : ofText text with
    | ok size =>
        rw [outcome] at told
        cases told
    | error raised =>
        rw [outcome] at told
        have sameMessage : raised.message = error.message := Except.error.inj told
        obtain rfl | rfl := named <;> obtain rfl | rfl := error_names_text outcome
        · rfl
        · exact absurd sameMessage.symm (messages_differ (quoted text))
        · exact absurd sameMessage (messages_differ (quoted text))
        · rfl
  · intro failed
    rw [failed]
    rfl

/-- A text is read as a size if it has the form of one that fits 64 bits, and then as the
number of bytes that the form writes. It is out of range if only its numeral fits. All
other texts are malformed. -/
theorem ofText_reads_forms (text : String) :
    (∀ size, ofText text = .ok size ↔
      ∃ form : Form, form.text = text.toList ∧ form.bytes = size.toNat) ∧
    ((ofText text).mapError SizeError.message = .error ("size out of range: " ++ quoted text) ↔
      ∃ form : Form, form.text = text.toList ∧ form.count < 2 ^ 64 ∧ 2 ^ 64 ≤ form.bytes) ∧
    ((ofText text).mapError SizeError.message = .error ("invalid size: " ++ quoted text) ↔
      ∀ form : Form, form.text = text.toList → 2 ^ 64 ≤ form.count) ∧
    CutsCleanly text.toList :=
  ⟨fun _ => ofText_eq_ok_iff,
    (mapError_message_eq_iff (.inl rfl)).trans ofText_eq_outOfRange_iff,
    (mapError_message_eq_iff (.inr rfl)).trans ofText_eq_malformed_iff,
    cutsCleanly text.toList⟩

end Reading

end CacheDepot.Config.Size
