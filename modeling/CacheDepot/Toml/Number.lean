import CacheDepot.Json.Basic
import CacheDepot.Text.Digits
import CacheDepot.Toml.Trivia

/-!
# Numbers

Whole numbers in four bases, binary fractions, and the names of the values that
are no numbers. Single underscores may stand between digits. JSON has neither
infinities nor NaN; they become `null`.
-/

namespace CacheDepot.Toml

/-- Reads digits, of which any two may have one underscore between them. The text must start with a
digit, and an underscore must be followed by one. -/
def readDigits (isDigit : Char → Bool) : List Char → Option (List Char × List Char)
  | [] => none
  | c :: rest =>
      if isDigit c then
        match rest with
        | '_' :: more => (readDigits isDigit more).map fun (digits, after) => (c :: digits, after)
        | d :: more =>
            if isDigit d then
              (readDigits isDigit (d :: more)).map fun (digits, after) => (c :: digits, after)
            else some ([c], d :: more)
        | [] => some ([c], [])
      else none

/-- Whether a minus sign was read, and the text after an optional sign. -/
def readSign : List Char → Bool × List Char
  | '+' :: rest => (false, rest)
  | '-' :: rest => (true, rest)
  | text => (false, text)

/-- Reads an unsigned decimal number without leading zeros. -/
def readDecimal : List Char → Option (List Char × List Char)
  | '0' :: rest => some (['0'], rest)
  | text => readDigits Char.isDigit text

/-- Reads the part of a fraction behind a point. -/
def readFraction : List Char → Option (List Char × List Char)
  | '.' :: rest => readDigits Char.isDigit rest
  | text => some ([], text)

/-- Reads an exponent of ten. -/
def readExponent : List Char → Option (Int × List Char)
  | 'e' :: rest | 'E' :: rest =>
      let (negative, digits) := readSign rest
      (readDigits Char.isDigit digits).map fun (exponent, after) =>
        let size : Int := Text.digitsValue 10 exponent
        (if negative then -size else size, after)
  | text => some (0, text)

/-- The JSON value of a binary number, if it is in range. Only the positive range has an end. -/
def floatValue (negative : Bool) (digits : List Char) (exponent : Int) : Option Json :=
  let value := Decimal.Binary64.ofDecimal negative (Text.digitsValue 10 digits) exponent
  if value.isFinite then some (.float value)
  else if negative then some .null
  else none

/-- Reads a number with a point or an exponent. -/
def readFloat (text : List Char) : Option (Json × List Char) := do
  let (negative, unsigned) := readSign text
  let (whole, afterWhole) ← readDecimal unsigned
  let (fraction, afterFraction) ← readFraction afterWhole
  let (exponent, rest) ← readExponent afterFraction
  if afterWhole.length = rest.length then none
  else
    let value ← floatValue negative (whole ++ fraction) (exponent - fraction.length)
    some (value, rest)

/-- Reads `inf` or `nan`. -/
def readSpecial (text : List Char) : Option (Json × List Char) :=
  match (readSign text).2 with
  | 'i' :: 'n' :: 'f' :: rest => some (.null, rest)
  | 'n' :: 'a' :: 'n' :: rest => some (.null, rest)
  | _ => none

/-- The number of whole numbers that are not negative, `2 ^ 63`. -/
def intBound : Int := 9223372036854775808

/-- A whole number, if it fits 64 bits with sign. -/
def intValue (negative : Bool) (size : Nat) : Option Json :=
  let value : Int := if negative then -size else size
  if -intBound ≤ value ∧ value < intBound then some (.int value) else none

def isOctalDigit (c : Char) : Bool :=
  '0' ≤ c && c ≤ '7'

def isBinaryDigit (c : Char) : Bool :=
  c = '0' || c = '1'

def readBased (base : Nat) (isDigit : Char → Bool) (text : List Char) :
    Option (Json × List Char) := do
  let (digits, rest) ← readDigits isDigit text
  let value ← intValue false (Text.digitsValue base digits)
  some (value, rest)

/-- Reads a whole number. Only decimal ones have a sign. -/
def readInt : List Char → Option (Json × List Char)
  | '0' :: 'x' :: rest => readBased 16 Text.isHexDigit rest
  | '0' :: 'o' :: rest => readBased 8 isOctalDigit rest
  | '0' :: 'b' :: rest => readBased 2 isBinaryDigit rest
  | text => do
      let (negative, unsigned) := readSign text
      let (digits, rest) ← readDecimal unsigned
      let value ← intValue negative (Text.digitsValue 10 digits)
      some (value, rest)

/-- Whether a number goes on behind its whole part. -/
def startsFloat (text : List Char) : Bool :=
  match readDecimal (readSign text).2 with
  | some (_, '.' :: _) => true
  | some (_, 'e' :: _) => true
  | some (_, 'E' :: _) => true
  | _ => false

/-- Reads a number of any kind. -/
def readNumber (text : List Char) : Option (Json × List Char) :=
  if startsFloat text then readFloat text
  else
    match readSpecial text with
    | some found => some found
    | none => readInt text

end CacheDepot.Toml
