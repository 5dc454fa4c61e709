import CacheDepot.Json.Basic

/-!
# Tables under construction

A document is built table by table. A table remembers how it came about, since
that decides what may still be added to it: one that has a header of its own is
closed to dotted keys from outside; one that only stands on the way to another
header may still get its own; one made by dotted keys grows by dotted keys alone.
-/

namespace CacheDepot.Toml

/-- How a table came about. -/
inductive Origin where
  /-- It has a header, is an element of an array of tables, or is the outermost table. -/
  | header
  /-- A longer header passes through it. -/
  | passage
  /-- A dotted key passes through it. -/
  | dotted
  deriving DecidableEq, Repr

/-- What a key stands for. -/
inductive Item where
  | value (value : Json)
  | table (origin : Origin) (entries : List (String × Item))
  /-- An array of tables, the last one first. -/
  | tables (elements : List (List (String × Item)))

abbrev Entries := List (String × Item)

namespace Entries

/-- Replaces the item under a key, or adds one. -/
def set (key : String) (item : Item) : Entries → Entries
  | [] => [(key, item)]
  | (other, old) :: rest =>
      if other = key then (key, item) :: rest else (other, old) :: set key item rest

/-- Applies a change to the table at the end of a path. Tables on the way that do not exist are
made, with `made` as their origin. A dotted key does not pass through a table that has a header; no
path passes through a value; an array of tables stands for its last element. -/
def change (made : Origin) (act : Origin → Entries → Option Entries) (origin : Origin)
    (entries : Entries) : List String → Option Entries
  | [] => act origin entries
  | key :: path =>
      match entries.lookup key with
      | none =>
          (change made act made [] path).map fun inner => set key (.table made inner) entries
      | some (.value _) => none
      | some (.tables []) => none
      | some (.tables (last :: earlier)) =>
          (change made act .header last path).map fun inner =>
            set key (.tables (inner :: earlier)) entries
      | some (.table found inner) =>
          if made = .dotted ∧ found = .header then none
          else
            (change made act found inner path).map fun next =>
              set key (.table found next) entries

/-- Gives a key of a table a value. The table must have been made by dotted keys exactly if the path
to it is not empty, and the key must be new. -/
def define (path : List String) (key : String) (value : Json) (entries : Entries) :
    Option Entries :=
  let act (origin : Origin) (target : Entries) : Option Entries :=
    if (origin = .dotted) = (path = []) then none
    else if (target.lookup key).isSome then none
    else some ((key, .value value) :: target)
  change .dotted act .header entries path

end Entries

mutual

def Item.toJson : Item → Json
  | .value value => value
  | .table _ entries => .object (Json.Fields.ofPairs (entriesToJson entries))
  | .tables elements => .array (elementsToJson elements).reverse
termination_by structural item => item

def entriesToJson : List (String × Item) → List (String × Json)
  | [] => []
  | (key, item) :: rest => (key, item.toJson) :: entriesToJson rest
termination_by structural entries => entries

def elementsToJson : List (List (String × Item)) → List Json
  | [] => []
  | entries :: rest =>
      .object (Json.Fields.ofPairs (entriesToJson entries)) :: elementsToJson rest
termination_by structural elements => elements

end

/-- The object that finished entries stand for. -/
def Entries.toJson (entries : Entries) : Json :=
  .object (Json.Fields.ofPairs (entriesToJson entries))

end CacheDepot.Toml
