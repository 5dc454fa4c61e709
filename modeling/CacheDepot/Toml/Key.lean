import CacheDepot.Toml.Text

/-!
# Keys

A key is a sequence of names between dots, each of them bare or quoted on one
line, with spaces around it.
-/

namespace CacheDepot.Toml

/-- A key has fewer names than this. -/
def nestingLimit : Nat := 80

def isBare (c : Char) : Bool :=
  c.isAlphanum || c = '-' || c = '_'

/-- Reads one name. -/
def readName : List Char → Option (String × List Char)
  | '"' :: rest => textFrom ⟨'"', true, false⟩ rest
  | '\'' :: rest => textFrom ⟨'\'', false, false⟩ rest
  | text =>
      match text.takeWhile isBare with
      | [] => none
      | bare => some (String.ofList bare, text.dropWhile isBare)

/-- Reads names between dots, as long as they come. -/
def readNames : Nat → List Char → Option (List String × List Char)
  | 0, _ => none
  | fuel + 1, text =>
      match readName (skipSpaces text) with
      | none => none
      | some (name, rest) =>
          match skipSpaces rest with
          | '.' :: more => (readNames fuel more).map fun (names, after) => (name :: names, after)
          | after => some ([name], after)

/-- Reads a key, together with the spaces around it. -/
def readKey (text : List Char) : Option (List String × List Char) :=
  match readNames (text.length + 1) text with
  | some (names, rest) => if names.length < nestingLimit then some (names, rest) else none
  | none => none

end CacheDepot.Toml
