/-!
# Digit runs

Values of digit runs in a base up to sixteen, and the decimal notation of a
64-bit word: digits, after at most one plus sign.
-/

namespace CacheDepot.Text

/-- Value of a digit, letters in either case counting from ten. -/
def digitValue (c : Char) : Nat :=
  if '0' ≤ c ∧ c ≤ '9' then c.toNat - 48
  else if 'a' ≤ c ∧ c ≤ 'f' then c.toNat - 87
  else if 'A' ≤ c ∧ c ≤ 'F' then c.toNat - 55
  else 0

def isHexDigit (c : Char) : Bool :=
  c.isDigit || ('a' ≤ c && c ≤ 'f') || ('A' ≤ c && c ≤ 'F')

/-- Value of a digit run, most significant digit first. -/
def digitsValue (base : Nat) (digits : List Char) : Nat :=
  digits.foldl (fun value digit => value * base + digitValue digit) 0

def dropPlus : List Char → List Char
  | '+' :: digits => digits
  | digits => digits

/-- The 64-bit word that a text writes in decimal, if it writes one. -/
def word? (text : List Char) : Option UInt64 :=
  let digits := dropPlus text
  if digits ≠ [] ∧ digits.all Char.isDigit ∧ digitsValue 10 digits < UInt64.size then
    some (UInt64.ofNat (digitsValue 10 digits))
  else
    none

end CacheDepot.Text
