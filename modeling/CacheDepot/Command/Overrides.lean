import CacheDepot.Command.Invocation
import CacheDepot.Json.Basic
import CacheDepot.Text.Blank
import CacheDepot.Text.Digits
import CacheDepot.Text.Quoted

/-!
# Overrides

Settings on the command line, `key=value` each, make a layer of their own. White
space around a key does not count; of several settings with the same key the last
one holds.
-/

namespace CacheDepot.Command

/-- A setting without an equals sign. -/
structure MalformedSetting where
  text : String
  deriving DecidableEq, Repr

def MalformedSetting.message (error : MalformedSetting) : String :=
  "expected KEY=VALUE, got " ++ Text.quoted error.text

namespace Overrides

/-- The value that a text stands for: a truth value, a 64-bit word, or else the text itself. -/
def valueOf (raw : String) : Json :=
  if raw = "true" then .bool true
  else if raw = "false" then .bool false
  else
    match Text.word? raw.toList with
    | some word => .int word.toNat
    | none => .text raw

/-- Key and value of a setting. -/
def pairOf (setting : String) : Except MalformedSetting (String × Json) :=
  match Form.splitAtEquals setting.toList with
  | (key, some raw) => .ok (String.ofList (Text.trim key), valueOf (String.ofList raw))
  | (_, none) => .error ⟨setting⟩

def pairsOf : List String → Except MalformedSetting (List (String × Json))
  | [] => .ok []
  | setting :: rest =>
      match pairOf setting with
      | .error error => .error error
      | .ok pair =>
          match pairsOf rest with
          | .error error => .error error
          | .ok pairs => .ok (pair :: pairs)

/-- The layer that settings make. -/
def layer (settings : List String) : Except MalformedSetting Json :=
  match pairsOf settings with
  | .ok pairs => .ok (.object [("cache", .object (Json.Fields.ofPairs pairs))])
  | .error error => .error error

/-- The layer that settings make, if there are any. -/
def layer? (settings : List String) : Except MalformedSetting (Option Json) :=
  if settings = [] then .ok none
  else
    match layer settings with
    | .ok made => .ok (some made)
    | .error error => .error error

end Overrides

end CacheDepot.Command
