import CacheDepot.Config.Basic
import CacheDepot.Config.Size
import CacheDepot.Decimal.Shortest

/-!
# Reading a configuration from a JSON value

A configuration is an object of named settings or an array of settings in the
order of declaration; settings that are absent have their built-in values. The
fields of an object are read in the order of their keys, and the first failure
is the one reported.
-/

namespace CacheDepot.Config

/-- What a value is, as far as a complaint about it tells. -/
inductive Shape where
  | null
  | boolean (value : Bool)
  | integer (value : Int)
  | floating (value : Decimal.Binary64)
  | text (value : String)
  | sequence
  | map
  deriving DecidableEq, Repr

namespace Shape

def describe : Shape → String
  | .null => "null"
  | .boolean value => "boolean `" ++ (if value then "true" else "false") ++ "`"
  | .integer value => "integer `" ++ toString value ++ "`"
  | .floating value => "floating point `" ++ value.text ++ "`"
  | .text value => "string " ++ Text.quoted value
  | .sequence => "sequence"
  | .map => "map"

end Shape

/-- What was asked for where something else stood. -/
inductive Expected where
  | word
  | boolean
  | settings
  deriving DecidableEq, Repr

namespace Expected

def describe : Expected → String
  | .word => "usize"
  | .boolean => "a boolean"
  | .settings => "struct CacheConfig"

end Expected

/-- Why a value is no configuration. -/
inductive DecodeError where
  | unknownField (name : String)
  | wrongType (found : Shape) (expected : Expected)
  /-- A whole number that is out of range. -/
  | wrongValue (found : Shape) (expected : Expected)
  /-- A cache size that is neither a 64-bit word nor a text. -/
  | notASize
  | size (error : SizeError)
  /-- An array with more items than there are settings. -/
  | tooManyItems (count : Nat)
  deriving DecidableEq, Repr

namespace DecodeError

/-- Names between grave accents, as in a list of what is allowed. -/
def nameList (names : List String) : String :=
  ", ".intercalate (names.map fun name => "`" ++ name ++ "`")

def message : DecodeError → String
  | .unknownField name =>
      "unknown field `" ++ name ++ "`, expected one of " ++
        nameList (Field.declared.map Field.name)
  | .wrongType found expected =>
      "invalid type: " ++ found.describe ++ ", expected " ++ expected.describe
  | .wrongValue found expected =>
      "invalid value: " ++ found.describe ++ ", expected " ++ expected.describe
  | .notASize => "data did not match any variant of untagged enum SizeRepr"
  | .size error => error.message
  | .tooManyItems count =>
      "invalid length " ++ toString count ++ ", expected fewer elements in array"

end DecodeError

/-- The shape of a value. -/
def shapeOf : Json → Shape
  | .null => .null
  | .bool value => .boolean value
  | .int value => .integer value
  | .float value => .floating value
  | .text value => .text value
  | .array _ => .sequence
  | .object _ => .map

/-- A 64-bit word from a whole number in its range. -/
def wordOfInt? (n : Int) : Option UInt64 :=
  if 0 ≤ n ∧ n.toNat < UInt64.size then some (UInt64.ofNat n.toNat) else none

/-- A size is a word or the text of a size. -/
def decodeSize : Json → Except DecodeError UInt64
  | .int value =>
      match wordOfInt? value with
      | some word => .ok word
      | none => .error .notASize
  | .text value =>
      match Size.ofText value with
      | .ok size => .ok size
      | .error error => .error (.size error)
  | _ => .error .notASize

def decodeCount : Json → Except DecodeError UInt64
  | .int value =>
      match wordOfInt? value with
      | some word => .ok word
      | none => .error (.wrongValue (.integer value) .word)
  | value => .error (.wrongType (shapeOf value) .word)

def decodeSwitch : Json → Except DecodeError Bool
  | .bool value => .ok value
  | value => .error (.wrongType (shapeOf value) .boolean)

/-- The configuration with one setting read from a value. -/
def decodeField (config : CacheConfig) (value : Json) : Field → Except DecodeError CacheConfig
  | .cacheSize => (decodeSize value).map fun size => { config with cacheSize := size }
  | .fileHandleCount =>
      (decodeCount value).map fun count => { config with fileHandleCount := count }
  | .cacheFulltexts => (decodeSwitch value).map fun on => { config with cacheFulltexts := on }
  | .cacheDeltas => (decodeSwitch value).map fun on => { config with cacheDeltas := on }
  | .singleThreaded => (decodeSwitch value).map fun on => { config with singleThreaded := on }

/-- Reads named settings one after the other. -/
def decodeFields (config : CacheConfig) :
    List (String × Json) → Except DecodeError CacheConfig
  | [] => .ok config
  | (name, value) :: rest =>
      match Field.ofName? name with
      | none => .error (.unknownField name)
      | some field =>
          match decodeField config value field with
          | .error error => .error error
          | .ok next => decodeFields next rest

/-- Reads items as the settings that remain to be declared; tells the items left over. -/
def decodeItems (config : CacheConfig) :
    List Field → List Json → Except DecodeError (CacheConfig × List Json)
  | field :: fields, item :: rest =>
      match decodeField config item field with
      | .error error => .error error
      | .ok next => decodeItems next fields rest
  | _, items => .ok (config, items)

/-- The configuration that a JSON value describes. -/
def decode : Json → Except DecodeError CacheConfig
  | .object fields => decodeFields CacheConfig.builtin fields
  | .array items =>
      match decodeItems CacheConfig.builtin Field.declared items with
      | .error error => .error error
      | .ok (config, []) => .ok config
      | .ok (_, _ :: _) => .error (.tooManyItems items.length)
  | value => .error (.wrongType (shapeOf value) .settings)

end CacheDepot.Config
