/-!
# Paths

A path is a text of names between slashes. Two spellings are the same path when
they have the same components: repeated slashes, inner and trailing dots and a
trailing slash do not count, while a leading dot and every pair of dots do.
-/

namespace CacheDepot.Files

/-- The texts between the slashes of a path, empty ones included. -/
def pieces : List Char → List (List Char)
  | [] => [[]]
  | c :: rest =>
      match pieces rest with
      | [] => [[c]]
      | piece :: more => if c = '/' then [] :: piece :: more else (c :: piece) :: more

/-- The names in a path, dots included. -/
def names (path : String) : List String :=
  ((pieces path.toList).filter (· ≠ [])).map String.ofList

def isAbsolute (path : String) : Bool :=
  path.toList.head? = some '/'

/-- A step of a path. -/
inductive Component where
  /-- The top of the tree; only at the start of an absolute path. -/
  | root
  /-- A leading dot. -/
  | here
  /-- A pair of dots. -/
  | up
  | name (name : String)
  deriving DecidableEq, Repr

/-- The component that a name stands for, unless it is a dot. -/
def componentOf? (name : String) : Option Component :=
  if name = "." then none else if name = ".." then some .up else some (.name name)

def components (path : String) : List Component :=
  let rest := (names path).filterMap componentOf?
  if isAbsolute path then .root :: rest
  else if (pieces path.toList).head? = some ['.'] then .here :: rest
  else rest

/-- Whether two spellings are the same path. -/
def samePath (a b : String) : Bool :=
  components a = components b

theorem samePath_iff {a b : String} : samePath a b ↔ components a = components b := by
  simp [samePath]

end CacheDepot.Files
