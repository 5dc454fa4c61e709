import CacheDepot.Config.Decode
import CacheDepot.Digest.Sha256
import CacheDepot.Files.Reader
import CacheDepot.Json.Merge
import CacheDepot.Text.Utf8
import CacheDepot.Toml.Document

/-!
# Loading a configuration

A configuration is loaded from layers: the built-in values, a TOML file if it
exists, and overrides if there are any. The layers are merged before anything is
checked, so a bad value that a later layer replaces does no harm, while a key
that is not known is refused in whichever layer it stands.
-/

namespace CacheDepot.Config

/-- The table that holds the cache settings. -/
def tableName : String := "cache"

/-- Where a layer came from. -/
inductive Origin where
  | builtin
  | file
  | override
  deriving DecidableEq, Repr

namespace Origin

/-- The name of an origin in a JSON report. -/
def key : Origin → String
  | .builtin => "builtin"
  | .file => "file"
  | .override => "override"

/-- The name of an origin in a text report. -/
def title : Origin → String
  | .builtin => "Builtin"
  | .file => "File"
  | .override => "Override"

end Origin

/-- A layer that took part, with the path and the digest of its file if it came from one. -/
structure Source where
  origin : Origin
  file : Option (String × String) := none
  deriving DecidableEq, Repr

/-- A configuration together with the layers that it was merged from, in order. -/
structure Loaded where
  config : CacheConfig
  sources : List Source
  deriving DecidableEq, Repr

/-- Why a file gives no layer. -/
inductive FileFault where
  | notUtf8 (error : Text.Utf8Error)
  | notToml
  deriving DecidableEq, Repr

/-- Why a configuration cannot be loaded. -/
inductive LoadError where
  | unreadable (path : String) (error : Files.FileError)
  | badFile (path : String) (fault : FileFault)
  | badSettings (error : DecodeError)
  /-- The merged layers are no table. -/
  | notATable
  | unknownTable (name : String)
  deriving DecidableEq, Repr

namespace LoadError

def message : LoadError → String
  | .unreadable path error => "cannot read " ++ path ++ ": " ++ error.message
  | .badFile path (.notUtf8 error) => "Parse error: " ++ path ++ ": not UTF-8: " ++ error.message
  | .badFile path .notToml => "Parse error: " ++ path ++ ": TOML parse error"
  | .badSettings error => "Parse error: [" ++ tableName ++ "]: " ++ error.message
  | .notATable => "Validation error: configuration must be a table"
  | .unknownTable name => "Validation error: unknown configuration table: " ++ name

end LoadError

/-- The layer that the content of a file stands for. -/
def fileLayer (content : List UInt8) : Except FileFault Json :=
  match Text.Utf8.decode content with
  | .error error => .error (.notUtf8 error)
  | .ok text =>
      match Toml.ofText? text with
      | some layer => .ok layer
      | none => .error .notToml

/-- The layer of a file and the digest of its content; nothing if the path does not exist. -/
def readLayer (read : Files.Reader) (path : String) :
    Except LoadError (Option (Json × String)) :=
  match read path with
  | .error error => .error (.unreadable path error)
  | .ok none => .ok none
  | .ok (some content) =>
      match fileLayer content.toList with
      | .error fault => .error (.badFile path fault)
      | .ok layer => .ok (some (layer, Digest.hexText (Digest.sha256 content.toList)))

/-- The configuration that merged layers describe. The table of cache settings is the only one
allowed; the least other key is reported. -/
def extract (merged : Json) : Except LoadError CacheConfig :=
  match merged with
  | .object tables =>
      match tables.find? fun table => table.1 ≠ tableName with
      | some (name, _) => .error (.unknownTable name)
      | none =>
          match decode ((Json.Fields.get? tableName tables).getD .null) with
          | .ok config => .ok config
          | .error error => .error (.badSettings error)
  | _ => .error .notATable

/-- The configuration of a file layer and an override layer, either of which may be absent. -/
def combine (file : Option Json) (overrides : Option Json) : Except LoadError CacheConfig :=
  extract (Json.mergeLayers
    (CacheConfig.builtin.toLayer :: (file.toList ++ overrides.toList)))

/-- Loads the configuration from the built-in values, a file and overrides. -/
def load (read : Files.Reader) (path : Option String) (overrides : Option Json) :
    Except LoadError Loaded := do
  let file ← match path with
    | some path => readLayer read path
    | none => .ok none
  let config ← combine (file.map Prod.fst) overrides
  let fileSource : Option Source := match path, file with
    | some path, some (_, digest) => some ⟨.file, some (path, digest)⟩
    | _, _ => none
  let overrideSource : Option Source := overrides.map fun _ => ⟨.override, none⟩
  .ok ⟨config, ⟨.builtin, none⟩ :: (fileSource.toList ++ overrideSource.toList)⟩

end CacheDepot.Config
