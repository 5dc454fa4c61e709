import CacheDepot.Json.Basic

/-!
# Merging layers

A layer laid over another one wins everywhere except where both hold an object:
there the fields are merged key by key. Several layers are merged in order, from
the one below to the one on top. A value that is not an object hides everything
below it.
-/

namespace CacheDepot.Json

mutual

/-- The value seen when `overlay` is laid over `base`. -/
def merge (base : Json) : Json → Json
  | .object fields =>
      match base with
      | .object below => .object (mergeFields below fields)
      | _ => .object fields
  | overlay => overlay
termination_by structural overlay => overlay

/-- Lays fields over fields, one key after the other. -/
def mergeFields (below : List (String × Json)) : List (String × Json) → List (String × Json)
  | [] => below
  | (key, value) :: rest =>
      let merged :=
        match Fields.get? key below with
        | some old => merge old value
        | none => value
      mergeFields (Fields.put key merged below) rest
termination_by structural fields => fields

end

/-- Merges layers, the first one at the bottom. Without layers the result is `null`. -/
def mergeLayers (layers : List Json) : Json :=
  layers.foldl merge .null

end CacheDepot.Json
