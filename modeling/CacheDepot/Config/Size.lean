import CacheDepot.Text.Blank
import CacheDepot.Text.Digits
import CacheDepot.Text.Quoted

/-!
# Byte sizes

A size is written as a decimal number of bytes, or of a binary multiple of them:
`4096`, `64K`, `128M`, `1G`, `2GiB`. The unit is a letter, `B`, a letter and `B`,
or a letter and `iB`, in either case; white space may stand around the size and
between number and unit.
-/

namespace CacheDepot.Config

/-- Why a text is no size. -/
inductive SizeError where
  /-- The text does not have the form of a size, or its number does not fit 64 bits. -/
  | malformed (text : String)
  /-- The number fits 64 bits but the size does not. -/
  | outOfRange (text : String)
  deriving DecidableEq, Repr

namespace SizeError

def message : SizeError → String
  | .malformed text => "invalid size: " ++ Text.quoted text
  | .outOfRange text => "size out of range: " ++ Text.quoted text

end SizeError

namespace Size

/-- The binary order of magnitude that a unit letter stands for. -/
def unitBits? : Char → Option Nat
  | 'K' => some 10
  | 'M' => some 20
  | 'G' => some 30
  | 'T' => some 40
  | _ => none

/-- What stands before a given ending. -/
def beforeEnding? (ending text : List Char) : Option (List Char) :=
  if ending.isSuffixOf text then some (text.take (text.length - ending.length)) else none

/-- The text without an `IB` or a `B` at its end. -/
def dropByteMark (text : List Char) : List Char :=
  match beforeEnding? ['I', 'B'] text with
  | some start => start
  | none => (beforeEnding? ['B'] text).getD text

/-- Number text and order of magnitude of an upper-case size without byte mark. -/
def splitUnit (text : List Char) : List Char × Nat :=
  match text.getLast?.bind unitBits? with
  | some bits => (text.dropLast, bits)
  | none => (text, 0)

/-- Number text and order of magnitude of a size. -/
def split (text : List Char) : List Char × Nat :=
  let parts := splitUnit (dropByteMark ((Text.trim text).map Char.toUpper))
  (Text.trim parts.1, parts.2)

/-- The number of bytes that a text stands for. -/
def ofText (text : String) : Except SizeError UInt64 :=
  let (number, bits) := split text.toList
  match Text.word? number with
  | none => .error (.malformed text)
  | some count =>
      let bytes := count.toNat * Nat.pow 2 bits
      if bytes < UInt64.size then .ok (UInt64.ofNat bytes) else .error (.outOfRange text)

end Size

end CacheDepot.Config
