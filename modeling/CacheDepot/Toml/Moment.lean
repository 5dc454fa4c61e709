import CacheDepot.Text.Digits
import CacheDepot.Toml.Trivia

/-!
# Dates and times

A date, a time of day, or both with an optional offset. A time has at most nine
digits behind the second; further ones are dropped.
-/

namespace CacheDepot.Toml

structure Date where
  year : Nat
  month : Nat
  day : Nat
  deriving DecidableEq, Repr

structure TimeOfDay where
  hour : Nat
  minute : Nat
  second : Nat
  nanosecond : Nat
  deriving DecidableEq, Repr

/-- Distance from universal time. -/
inductive Offset where
  | zulu
  | minutes (west : Bool) (count : Nat)
  deriving DecidableEq, Repr

structure Moment where
  date : Option Date
  time : Option TimeOfDay
  offset : Option Offset
  deriving DecidableEq, Repr

/-- Reads a number of exactly `count` digits between two bounds. -/
def readField (count low high : Nat) (text : List Char) : Option (Nat × List Char) :=
  let digits := text.take count
  let value := Text.digitsValue 10 digits
  if digits.length = count ∧ digits.all Char.isDigit ∧ low ≤ value ∧ value ≤ high then
    some (value, text.drop count)
  else none

def expect (c : Char) : List Char → Option (List Char)
  | d :: rest => if c = d then some rest else none
  | [] => none

def isLeapYear (year : Nat) : Bool :=
  year % 4 = 0 && (year % 100 ≠ 0 || year % 400 = 0)

def daysIn (year month : Nat) : Nat :=
  if month = 2 then (if isLeapYear year then 29 else 28)
  else if month = 4 ∨ month = 6 ∨ month = 9 ∨ month = 11 then 30
  else 31

def readDate (text : List Char) : Option (Date × List Char) := do
  let (year, rest) ← readField 4 0 9999 text
  let rest ← expect '-' rest
  let (month, rest) ← readField 2 1 12 rest
  let rest ← expect '-' rest
  let (day, rest) ← readField 2 1 (daysIn year month) rest
  some (⟨year, month, day⟩, rest)

/-- The digits behind the second, as nanoseconds. -/
def readNanoseconds : List Char → Option (Nat × List Char)
  | '.' :: rest =>
      match rest.takeWhile Char.isDigit with
      | [] => none
      | digits =>
          let kept := digits.take 9
          some (Text.digitsValue 10 kept * Nat.pow 10 (9 - kept.length),
            rest.dropWhile Char.isDigit)
  | text => some (0, text)

def readTime (text : List Char) : Option (TimeOfDay × List Char) := do
  let (hour, rest) ← readField 2 0 23 text
  let rest ← expect ':' rest
  let (minute, rest) ← readField 2 0 59 rest
  let rest ← expect ':' rest
  let (second, rest) ← readField 2 0 60 rest
  let (nanosecond, rest) ← readNanoseconds rest
  some (⟨hour, minute, second, nanosecond⟩, rest)

def readOffset : List Char → Option (Option Offset × List Char)
  | 'Z' :: rest | 'z' :: rest => some (some .zulu, rest)
  | '+' :: rest => distance false rest
  | '-' :: rest => distance true rest
  | text => some (none, text)
where
  distance (west : Bool) (text : List Char) : Option (Option Offset × List Char) := do
    let (hour, rest) ← readField 2 0 23 text
    let rest ← expect ':' rest
    let (minute, rest) ← readField 2 0 59 rest
    some (some (.minutes west (hour * 60 + minute)), rest)

/-- Whether a time follows a date. -/
def startsTime : List Char → Bool
  | c :: rest => (c = 'T' || c = 't' || c = ' ') && (readField 2 0 23 rest).isSome &&
      (rest.drop 2).head? = some ':'
  | [] => false

/-- Reads a date, a time, or both. -/
def readMoment (text : List Char) : Option (Moment × List Char) :=
  match readDate text with
  | some (date, rest) =>
      if startsTime rest then do
        let (time, rest) ← readTime (rest.drop 1)
        let (offset, rest) ← readOffset rest
        some (⟨some date, some time, offset⟩, rest)
      else some (⟨some date, none, none⟩, rest)
  | none => (readTime text).map fun (time, rest) => (⟨none, some time, none⟩, rest)

/-- The digits of a number, with zeros in front up to a width. -/
def paddedDigits (width n : Nat) : List Char :=
  let digits := Nat.toDigits 10 n
  List.replicate (width - digits.length) '0' ++ digits

def Date.text (date : Date) : List Char :=
  paddedDigits 4 date.year ++ '-' :: paddedDigits 2 date.month ++ '-' :: paddedDigits 2 date.day

def TimeOfDay.text (time : TimeOfDay) : List Char :=
  let fraction := ((paddedDigits 9 time.nanosecond).reverse.dropWhile (· = '0')).reverse
  paddedDigits 2 time.hour ++ ':' :: paddedDigits 2 time.minute ++ ':' ::
    paddedDigits 2 time.second ++ (if fraction = [] then [] else '.' :: fraction)

def Offset.text : Offset → List Char
  | .zulu => ['Z']
  | .minutes west count =>
      (if west ∧ count ≠ 0 then '-' else '+') :: paddedDigits 2 (count / 60) ++ ':' ::
        paddedDigits 2 (count % 60)

/-- The normal text of a moment. -/
def Moment.text (moment : Moment) : String :=
  let date := (moment.date.map Date.text).getD []
  let time := (moment.time.map TimeOfDay.text).getD []
  let mark := if moment.date.isSome ∧ moment.time.isSome then ['T'] else []
  String.ofList (date ++ mark ++ time ++ (moment.offset.map Offset.text).getD [])

end CacheDepot.Toml
