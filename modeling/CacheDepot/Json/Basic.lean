import CacheDepot.Decimal.Binary64

/-!
# JSON values

Configuration layers are JSON values. An object is the list of its fields; every
object that the library reads or builds lists its keys once each and in ascending
order, which `Canonical` states for a value and all its parts. The order of keys
is the order of their UTF-8 octets, since that is the order of code points.
-/

namespace CacheDepot

/-- A JSON value. Whole numbers and binary fractions are different values. -/
inductive Json where
  | null
  | bool (value : Bool)
  | int (value : Int)
  | float (value : Decimal.Binary64)
  | text (value : String)
  | array (items : List Json)
  | object (fields : List (String × Json))
  deriving Inhabited

namespace Json

abbrev Fields := List (String × Json)

namespace Fields

/-- The value of the first field of that name. -/
def get? (key : String) (fields : Fields) : Option Json :=
  fields.lookup key

/-- Replaces the value under a key that is present; a new key goes before the first greater one. -/
def put (key : String) (value : Json) : Fields → Fields
  | [] => [(key, value)]
  | (other, old) :: rest =>
      if other = key then (key, value) :: rest
      else if key < other then (key, value) :: (other, old) :: rest
      else (other, old) :: put key value rest

/-- Fields given in any order, the last one of each name. -/
def ofPairs (pairs : List (String × Json)) : Fields :=
  pairs.foldl (fun fields pair => put pair.1 pair.2 fields) []

def keys (fields : Fields) : List String :=
  fields.map Prod.fst

@[simp] theorem get?_nil (key : String) : get? key [] = none := rfl

theorem get?_cons (key other : String) (value : Json) (rest : Fields) :
    get? key ((other, value) :: rest) = if key = other then some value else get? key rest := by
  by_cases same : key = other
  · simp [get?, same]
  · have differs : (key == other) = false := by simpa using same
    simp [get?, List.lookup_cons, same, differs]

theorem get?_put (key other : String) (value : Json) (fields : Fields) :
    get? key (put other value fields) = if key = other then some value else get? key fields := by
  induction fields with
  | nil => simp [put, get?_cons]
  | cons field rest ih =>
      obtain ⟨present, old⟩ := field
      unfold put
      split
      · next same =>
          subst same
          simp only [get?_cons]
          split <;> simp_all
      · next differs =>
          split
          · simp only [get?_cons]
          · simp only [get?_cons, ih]
            by_cases first : key = present
            · simp [first, differs]
            · simp [first]

end Fields

mutual

/-- Every object in the value lists its keys in strictly ascending order. -/
def Canonical : Json → Prop
  | .array items => CanonicalItems items
  | .object fields => (Fields.keys fields).Pairwise (· < ·) ∧ CanonicalFields fields
  | _ => True
termination_by structural value => value

def CanonicalItems : List Json → Prop
  | [] => True
  | item :: rest => Canonical item ∧ CanonicalItems rest
termination_by structural items => items

def CanonicalFields : List (String × Json) → Prop
  | [] => True
  | (_, value) :: rest => Canonical value ∧ CanonicalFields rest
termination_by structural fields => fields

end

/-- Whether the value is an object. -/
def isObject : Json → Bool
  | .object _ => true
  | _ => false

end Json

end CacheDepot
