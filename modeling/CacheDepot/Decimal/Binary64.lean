/-!
# Binary floating point numbers

A number in the 64-bit binary format is held by its bits. The module reads off
sign, significand and scale, and gives the number nearest to a decimal one, with
ties going to the even significand. Everything is exact arithmetic on natural
numbers.
-/

namespace CacheDepot.Decimal

/-- A number in the 64-bit binary format. -/
structure Binary64 where
  bits : UInt64
  deriving DecidableEq, Repr, Inhabited

/-- `count * base ^ exponent` as numerator and denominator. -/
def scaled (count base : Nat) (exponent : Int) : Nat × Nat :=
  if 0 ≤ exponent then (count * Nat.pow base exponent.toNat, 1)
  else (count, Nat.pow base (-exponent).toNat)

/-- Order of two fractions with positive denominators. -/
def fractionLe (a b : Nat × Nat) : Bool :=
  a.1 * b.2 ≤ b.1 * a.2

/-- The quotient rounded to the nearest natural number, a half to the even one. -/
def roundedQuotient (numerator denominator : Nat) : Nat :=
  let quotient := numerator / denominator
  let twice := 2 * (numerator % denominator)
  if twice < denominator then quotient
  else if denominator < twice then quotient + 1
  else quotient + quotient % 2

namespace Binary64

/-- The value of the sign bit, `2 ^ 63`. -/
def signBit : Nat := 9223372036854775808

/-- The number of fractions, `2 ^ 52`, which is also the least significand of full length. -/
def hidden : Nat := 4503599627370496

/-- The exponent field of infinities and NaNs. -/
def topField : Nat := 2047

def negative (x : Binary64) : Bool :=
  signBit ≤ x.bits.toNat

def exponentField (x : Binary64) : Nat :=
  x.bits.toNat / hidden % (topField + 1)

def fractionField (x : Binary64) : Nat :=
  x.bits.toNat % hidden

/-- Neither an infinity nor a NaN. -/
def isFinite (x : Binary64) : Bool :=
  x.exponentField ≠ topField

/-- A finite number is `significand * 2 ^ scale`, apart from its sign. -/
def significand (x : Binary64) : Nat :=
  if x.exponentField = 0 then x.fractionField else hidden + x.fractionField

def scale (x : Binary64) : Int :=
  if x.exponentField = 0 then -1074 else (x.exponentField : Int) - 1075

/-- The scale at which a positive fraction has a significand of 53 bits, or the least scale. -/
def scaleFor (numerator denominator : Nat) : Int :=
  let estimate : Int := (Nat.log2 numerator : Int) - Nat.log2 denominator
  let exact := if fractionLe (scaled 1 2 estimate) (numerator, denominator) then estimate
    else estimate - 1
  max (exact - 52) (-1074)

/-- Bits, without the sign, of the number nearest to a positive fraction. A significand that rounds
up to `2 ^ 53` carries into the exponent field. -/
def magnitude (numerator denominator : Nat) : Nat :=
  let scale := scaleFor numerator denominator
  let unit := scaled 1 2 scale
  let significand := roundedQuotient (numerator * unit.2) (denominator * unit.1)
  let bits := if significand < hidden then significand
    else (scale + 1074).toNat * hidden + significand
  min bits (topField * hidden)

/-- The number nearest to `digits * 10 ^ exponent`; an infinity if that is out of range. Exponents
far outside of the format's range are decided without computing the power. -/
def ofDecimal (isNegative : Bool) (digits : Nat) (exponent : Int) : Binary64 :=
  let places : Int := (Nat.toDigits 10 digits).length + exponent
  let bits :=
    if digits = 0 ∨ places < -330 then 0
    else if 310 < places then topField * hidden
    else
      let value := scaled digits 10 exponent
      magnitude value.1 value.2
  ⟨UInt64.ofNat (if isNegative then signBit + bits else bits)⟩

end Binary64

end CacheDepot.Decimal
