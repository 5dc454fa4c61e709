import CacheDepot.Decimal.Shortest
import CacheDepot.Json.Basic

/-!
# JSON text

The indented text of a value: one field or item a line, two spaces a level, and
the fields of an object in the order in which it lists them.
-/

namespace CacheDepot.Json

def hexDigit (n : Nat) : Char :=
  if n < 10 then Char.ofNat (48 + n) else Char.ofNat (87 + n)

/-- One character inside a JSON string. Only quote, backslash and the control characters below
U+0020 are escaped. -/
def escapeChar (c : Char) : List Char :=
  if c = '"' then ['\\', '"']
  else if c = '\\' then ['\\', '\\']
  else if c = '\n' then ['\\', 'n']
  else if c = '\r' then ['\\', 'r']
  else if c = '\t' then ['\\', 't']
  else if c.toNat = 8 then ['\\', 'b']
  else if c.toNat = 12 then ['\\', 'f']
  else if c.toNat < 32 then ['\\', 'u', '0', '0', hexDigit (c.toNat / 16), hexDigit (c.toNat % 16)]
  else [c]

def stringText (s : String) : String :=
  String.ofList ('"' :: s.toList.flatMap escapeChar ++ ['"'])

def indentText (level : Nat) : String :=
  String.ofList (List.replicate (2 * level) ' ')

mutual

/-- The text of a value whose lines after the first one are indented from `level` on. -/
def textAt (level : Nat) : Json → String
  | .null => "null"
  | .bool value => if value then "true" else "false"
  | .int value => toString value
  | .float value => if value.isFinite then value.text else "null"
  | .text value => stringText value
  | .array [] => "[]"
  | .array (item :: rest) =>
      "[\n" ++ itemsText (level + 1) (item :: rest) ++ "\n" ++ indentText level ++ "]"
  | .object [] => "\x7b\x7d"
  | .object (field :: rest) =>
      "\x7b\n" ++ fieldsText (level + 1) (field :: rest) ++ "\n" ++ indentText level ++ "\x7d"
termination_by structural value => value

def itemsText (level : Nat) : List Json → String
  | [] => ""
  | [item] => indentText level ++ textAt level item
  | item :: rest => indentText level ++ textAt level item ++ ",\n" ++ itemsText level rest
termination_by structural items => items

def fieldsText (level : Nat) : List (String × Json) → String
  | [] => ""
  | [(key, value)] => indentText level ++ stringText key ++ ": " ++ textAt level value
  | (key, value) :: rest =>
      indentText level ++ stringText key ++ ": " ++ textAt level value ++ ",\n" ++
        fieldsText level rest
termination_by structural fields => fields

end

/-- The indented text of a value. -/
def indented (value : Json) : String :=
  textAt 0 value

end CacheDepot.Json
