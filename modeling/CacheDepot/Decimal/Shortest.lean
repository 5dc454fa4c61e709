import CacheDepot.Decimal.Binary64

/-!
# Shortest decimal text

A finite binary number is written with the fewest digits that read back to it,
and of those with the digits nearest to it. Numbers whose leading digit stands
between the fifth place after the point and the sixteenth before it are written
positionally, with at least one digit after the point; all others have a signed
exponent.
-/

namespace CacheDepot.Decimal

namespace Binary64

/-- Whether `count * 10 ^ exponent` lies in the interval of reals that round to the positive number
`x`. The interval contains its ends if and only if the significand is even; below a power of two it
is half as wide. -/
def readsBack (x : Binary64) (count : Nat) (exponent : Int) : Bool :=
  let m := x.significand
  let below := if m = hidden ∧ 1 < x.exponentField then 1 else 2
  let low := scaled (4 * m - below) 2 (x.scale - 2)
  let high := scaled (4 * m + 2) 2 (x.scale - 2)
  let value := scaled count 10 exponent
  if m % 2 = 0 then fractionLe low value && fractionLe value high
  else !fractionLe value low && !fractionLe high value

/-- The decimal exponent of the leading digit of a positive number. -/
def leadingExponent (x : Binary64) : Int :=
  let value := scaled x.significand 2 x.scale
  if value.2 ≤ value.1 then ((Nat.toDigits 10 (value.1 / value.2)).length : Int) - 1
  else
    match (List.range 330).find? fun k => value.2 ≤ value.1 * Nat.pow 10 (k + 1) with
    | some k => -((k : Int) + 1)
    | none => -330

/-- The point of the grid of step `10 ^ exponent` that reads back to `x`, the nearer one if both
neighbours of `x` on the grid do. -/
def gridPoint? (x : Binary64) (exponent : Int) : Option Nat :=
  let value := scaled x.significand 2 x.scale
  let step := scaled 1 10 exponent
  let lower := value.1 * step.2 / (value.2 * step.1)
  let nearest := roundedQuotient (value.1 * step.2) (value.2 * step.1)
  if x.readsBack nearest exponent then some nearest
  else if x.readsBack lower exponent then some lower
  else if x.readsBack (lower + 1) exponent then some (lower + 1)
  else none

/-- Digits and exponent of the last digit of the shortest decimal that reads back to `x`. -/
def shortest (x : Binary64) : Nat × Int :=
  let lead := x.leadingExponent
  let found := (List.range 17).findSome? fun (more : Nat) =>
    let exponent := lead - (more : Int)
    (x.gridPoint? exponent).map fun count => (count, exponent)
  found.getD (x.significand, x.scale)

end Binary64

/-- The digits of a number without trailing zeros. -/
def significantDigits (n : Nat) : List Char :=
  ((Nat.toDigits 10 n).reverse.dropWhile (· = '0')).reverse

/-- Digits whose first one has the decimal exponent `exponent`. -/
def layout (digits : List Char) (exponent : Int) : List Char :=
  if -5 ≤ exponent ∧ exponent ≤ 15 then
    if exponent < 0 then
      ['0', '.'] ++ List.replicate (-exponent - 1).toNat '0' ++ digits
    else
      let whole := exponent.toNat + 1
      let behind := digits.drop whole
      digits.take whole ++ List.replicate (whole - digits.length) '0' ++ ['.'] ++
        (if behind = [] then ['0'] else behind)
  else
    let behind := digits.drop 1
    digits.take 1 ++ (if behind = [] then [] else '.' :: behind) ++
      ['e', if exponent < 0 then '-' else '+'] ++ Nat.toDigits 10 exponent.natAbs

namespace Binary64

/-- The text of a finite number. -/
def text (x : Binary64) : String :=
  let sign := if x.negative then ['-'] else []
  let magnitude :=
    if x.significand = 0 then ['0', '.', '0']
    else
      let (count, exponent) := x.shortest
      layout (significantDigits count)
        (exponent + ((Nat.toDigits 10 count).length : Int) - 1)
  String.ofList (sign ++ magnitude)

end Binary64

end CacheDepot.Decimal
