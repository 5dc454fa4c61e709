import CacheDepot.Toml.Value

/-!
# Documents

A document is a sequence of statements, each on lines of its own: a header that
opens a table, a header that adds an element to an array of tables, or a setting
in the table opened last. The settings of a table are collected before the table
is put in its place, which happens at the next header or at the end.
-/

namespace CacheDepot.Toml

inductive Statement where
  | table (path : List String)
  | element (path : List String)
  | setting (path : List String) (value : Json)

/-- Reads the rest of a line behind a header's closing brackets. -/
def closeHeader (statement : Statement) (brackets : Nat) (text : List Char) :
    Option (Statement × List Char) :=
  if text.take brackets = List.replicate brackets ']' then
    (lineEnd? (text.drop brackets)).map (statement, ·)
  else none

/-- Reads one statement with the end of its line. -/
def readStatement : List Char → Option (Statement × List Char)
  | '[' :: '[' :: rest => do
      let (path, after) ← readKey rest
      closeHeader (.element path) 2 after
  | '[' :: rest => do
      let (path, after) ← readKey rest
      closeHeader (.table path) 1 after
  | text =>
      match readKey text with
      | some (path, '=' :: rest) => do
          let (value, after) ← readValue 0 (2 * rest.length + 2) (skipSpaces rest)
          let next ← lineEnd? after
          some (.setting path value, next)
      | _ => none

/-- Reads statements up to the end; `read` lists the ones so far, newest first. -/
def readStatements : Nat → List Statement → List Char → Option (List Statement)
  | 0, _, _ => none
  | fuel + 1, read, text =>
      match skipSpaces text with
      | [] => some read.reverse
      | '#' :: rest =>
          match lineEnd? ('#' :: rest) with
          | some next => readStatements fuel read next
          | none => none
      | rest =>
          match newline? rest with
          | some next => readStatements fuel read next
          | none =>
              match readStatement rest with
              | some (statement, next) => readStatements fuel (statement :: read) next
              | none => none

/-- A document under construction. -/
structure Draft where
  root : Entries
  /-- The header opened last; empty before the first one. -/
  path : List String
  isElement : Bool
  /-- The settings under that header so far. -/
  current : Entries

namespace Draft

def start : Draft :=
  ⟨[], [], false, []⟩

/-- Puts the table opened last in its place. -/
def close (draft : Draft) : Option Entries :=
  match draft.path.getLast? with
  | none => some draft.current
  | some key =>
      let act (_ : Origin) (parent : Entries) : Option Entries :=
        if draft.isElement then
          match parent.lookup key with
          | none => some (parent.set key (.tables [draft.current]))
          | some (.tables elements) => some (parent.set key (.tables (draft.current :: elements)))
          | some _ => none
        else
          match parent.lookup key with
          | none => some (parent.set key (.table .header draft.current))
          | some (.table .header _) => none
          | some (.table _ _) => some (parent.set key (.table .header draft.current))
          | some _ => none
      Entries.change .passage act .header draft.root draft.path.dropLast

/-- Opens a table. One that earlier headers passed through keeps what those put into it. -/
def openTable (root : Entries) (path : List String) : Option Draft := do
  let key ← path.getLast?
  let kept (_ : Origin) (parent : Entries) : Option Entries :=
    match parent.lookup key with
    | none => some []
    | some (.table .passage inner) => some inner
    | some _ => none
  let found ← seen kept root path.dropLast
  let removal (_ : Origin) (parent : Entries) : Option Entries :=
    some (parent.filter fun entry => entry.1 ≠ key)
  let rest ← Entries.change .passage removal .header root path.dropLast
  some ⟨rest, path, false, found⟩
where
  /-- What `act` finds in the table at the end of a path. -/
  seen (act : Origin → Entries → Option Entries) (entries : Entries) :
      List String → Option Entries
    | [] => act .header entries
    | key :: path =>
        match entries.lookup key with
        | none => seen act [] path
        | some (.value _) => none
        | some (.tables []) => none
        | some (.tables (last :: _)) => seen act last path
        | some (.table _ inner) => seen act inner path

/-- Opens an element of an array of tables. -/
def openElement (root : Entries) (path : List String) : Option Draft := do
  let key ← path.getLast?
  let prepare (_ : Origin) (parent : Entries) : Option Entries :=
    match parent.lookup key with
    | none => some (parent.set key (.tables []))
    | some (.tables _) => some parent
    | some _ => none
  let next ← Entries.change .passage prepare .header root path.dropLast
  some ⟨next, path, true, []⟩

def apply (draft : Draft) : Statement → Option Draft
  | .table path => do openTable (← draft.close) path
  | .element path => do openElement (← draft.close) path
  | .setting path value =>
      (draft.current.define path.dropLast (path.getLastD "") value).map fun current =>
        { draft with current := current }

end Draft

/-- Builds the outermost table from statements. -/
def build (draft : Draft) : List Statement → Option Entries
  | [] => draft.close
  | statement :: rest =>
      match draft.apply statement with
      | some next => build next rest
      | none => none

/-- The text without a byte order mark at its start. -/
def dropMark : List Char → List Char
  | '\ufeff' :: rest => rest
  | text => text

/-- The JSON object that a document stands for. -/
def ofText? (text : List Char) : Option Json := do
  let body := dropMark text
  let statements ← readStatements (body.length + 1) [] body
  let entries ← build Draft.start statements
  some entries.toJson

end CacheDepot.Toml
