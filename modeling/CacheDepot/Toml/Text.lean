import CacheDepot.Text.Digits
import CacheDepot.Toml.Trivia

/-!
# Quoted texts in TOML

The four kinds of text: between quotes with escapes or between apostrophes without
them, on one line or on several. A text on several lines starts after a line end
that follows its opening marks, and holds its line ends as single line feeds.
-/

namespace CacheDepot.Toml

/-- The character of a one-letter escape. -/
def escape? : Char → Option Char
  | 'b' => some (Char.ofNat 8)
  | 'f' => some (Char.ofNat 12)
  | 'n' => some '\n'
  | 'r' => some '\r'
  | 't' => some '\t'
  | '"' => some '"'
  | '\\' => some '\\'
  | _ => none

/-- The character with a number given by hexadecimal digits; surrogates are no characters. -/
def numbered? (digits : List Char) : Option Char :=
  let number := Text.digitsValue 16 digits
  if digits.all Text.isHexDigit ∧ number.isValidChar then some (Char.ofNat number) else none

/-- The character that an escape stands for, read from behind the backslash. -/
def readEscape : List Char → Option (Char × List Char)
  | 'u' :: rest =>
      if 4 ≤ rest.length then (numbered? (rest.take 4)).map (·, rest.drop 4) else none
  | 'U' :: rest =>
      if 8 ≤ rest.length then (numbered? (rest.take 8)).map (·, rest.drop 8) else none
  | c :: rest => (escape? c).map (·, rest)
  | [] => none

/-- The text after the blanks and line ends that follow a backslash at the end of a line. -/
def skipFold : List Char → List Char
  | ' ' :: rest => skipFold rest
  | '\t' :: rest => skipFold rest
  | '\n' :: rest => skipFold rest
  | '\r' :: '\n' :: rest => skipFold rest
  | rest => rest

/-- The marks around a text. -/
structure Marks where
  mark : Char
  escapes : Bool
  severalLines : Bool
  deriving DecidableEq, Repr

/-- Reads up to the closing marks; `read` lists the characters so far, newest first. In a text on
several lines up to two marks may stand right before the closing ones. -/
def readBody (marks : Marks) : Nat → List Char → List Char → Option (List Char × List Char)
  | 0, _, _ => none
  | _, _, [] => none
  | fuel + 1, read, c :: rest =>
      if c = marks.mark then
        if !marks.severalLines then some (read.reverse, rest)
        else
          match rest with
          | d :: e :: more =>
              if d = c ∧ e = c then
                let extra := (more.takeWhile (· = c)).take 2
                some (read.reverse ++ extra, more.drop extra.length)
              else readBody marks fuel (c :: read) rest
          | _ => none
      else if c = '\\' ∧ marks.escapes then
        match marks.severalLines, newline? (skipSpaces rest) with
        | true, some more => readBody marks fuel read (skipFold more)
        | _, _ =>
            match readEscape rest with
            | some (d, more) => readBody marks fuel (d :: read) more
            | none => none
      else if isPlain c then readBody marks fuel (c :: read) rest
      else if marks.severalLines then
        match newline? (c :: rest) with
        | some more => readBody marks fuel ('\n' :: read) more
        | none => none
      else none

def textFrom (marks : Marks) (text : List Char) : Option (String × List Char) :=
  let body := if marks.severalLines then (newline? text).getD text else text
  (readBody marks (body.length + 1) [] body).map fun (chars, rest) => (String.ofList chars, rest)

/-- Reads a text of any kind. -/
def readText : List Char → Option (String × List Char)
  | '"' :: '"' :: '"' :: rest => textFrom ⟨'"', true, true⟩ rest
  | '\'' :: '\'' :: '\'' :: rest => textFrom ⟨'\'', false, true⟩ rest
  | '"' :: rest => textFrom ⟨'"', true, false⟩ rest
  | '\'' :: rest => textFrom ⟨'\'', false, false⟩ rest
  | _ => none

end CacheDepot.Toml
