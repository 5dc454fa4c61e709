import CacheDepot.Toml.Key
import CacheDepot.Toml.Moment
import CacheDepot.Toml.Number
import CacheDepot.Toml.Table

/-!
# Values

Texts, numbers, dates, truth values, arrays and inline tables, as JSON values. A
date or time becomes an object whose only field holds its normal text.
-/

namespace CacheDepot.Toml

/-- The JSON value of a date or time. -/
def momentValue (moment : Moment) : Json :=
  .object [("$__toml_private_datetime", .text moment.text)]

/-- Reads a value that has no parts. -/
def readScalar : List Char → Option (Json × List Char)
  | 't' :: 'r' :: 'u' :: 'e' :: rest => some (.bool true, rest)
  | 'f' :: 'a' :: 'l' :: 's' :: 'e' :: rest => some (.bool false, rest)
  | text =>
      match readText text with
      | some (value, rest) => some (.text value, rest)
      | none =>
          match readMoment text with
          | some (moment, rest) => some (momentValue moment, rest)
          | none => readNumber text

mutual

/-- Reads a value inside `depth` arrays and inline tables. -/
def readValue (depth : Nat) : Nat → List Char → Option (Json × List Char)
  | 0, _ => none
  | fuel + 1, '[' :: rest =>
      if depth + 1 < nestingLimit then readItems (depth + 1) fuel [] rest else none
  | fuel + 1, '\x7b' :: rest =>
      if depth + 1 < nestingLimit then
        match skipSpaces rest with
        | '\x7d' :: after => some (.object [], after)
        | fields => readFields (depth + 1) fuel [] fields
      else none
  | _ + 1, text => readScalar text

/-- Reads the items of an array that remain; `read` lists the ones so far, newest first. -/
def readItems (depth : Nat) : Nat → List Json → List Char → Option (Json × List Char)
  | 0, _, _ => none
  | fuel + 1, read, text =>
      match skipLines false text with
      | none => none
      | some (']' :: rest) => some (.array read.reverse, rest)
      | some start =>
          match readValue depth fuel start with
          | none => none
          | some (item, afterItem) =>
              match skipLines false afterItem with
              | some (',' :: rest) => readItems depth fuel (item :: read) rest
              | some (']' :: rest) => some (.array (item :: read).reverse, rest)
              | _ => none

/-- Reads the fields of an inline table that remain. -/
def readFields (depth : Nat) : Nat → Entries → List Char → Option (Json × List Char)
  | 0, _, _ => none
  | fuel + 1, entries, text =>
      match readKey text with
      | some (names, '=' :: afterKey) =>
          match readValue depth fuel (skipSpaces afterKey) with
          | none => none
          | some (value, afterValue) =>
              match entries.define names.dropLast (names.getLastD "") value with
              | none => none
              | some next =>
                  match skipSpaces afterValue with
                  | ',' :: rest => readFields depth fuel next rest
                  | '\x7d' :: rest => some (next.toJson, rest)
                  | _ => none
      | _ => none

end

end CacheDepot.Toml
