import CacheDepot.Json.Basic

/-!
# Equality of values

Values are compared part by part: scalars as such, items and fields in their order. Two
values agree in all their parts if and only if they are equal. So an equation between a
value that is written out and one that is read from a text can be decided by evaluation.
-/

namespace CacheDepot.Json

mutual

/-- Whether two values agree in all their parts. -/
def agree : Json → Json → Bool
  | .null, .null => true
  | .bool value, .bool other => value = other
  | .int value, .int other => value = other
  | .float value, .float other => value = other
  | .text value, .text other => value = other
  | .array items, .array others => agreeItems items others
  | .object fields, .object others => agreeFields fields others
  | _, _ => false
termination_by structural value => value

def agreeItems : List Json → List Json → Bool
  | [], [] => true
  | item :: rest, other :: others => agree item other && agreeItems rest others
  | _, _ => false
termination_by structural items => items

def agreeFields : List (String × Json) → List (String × Json) → Bool
  | [], [] => true
  | (key, value) :: rest, (otherKey, other) :: others =>
      decide (key = otherKey) && agree value other && agreeFields rest others
  | _, _ => false
termination_by structural fields => fields

end

mutual

theorem agree_iff (value other : Json) : agree value other ↔ value = other := by
  cases value with
  | array items =>
      cases other with
      | array others => simp [agree, agreeItems_iff items others]
      | _ => simp [agree]
  | object fields =>
      cases other with
      | object others => simp [agree, agreeFields_iff fields others]
      | _ => simp [agree]
  | _ => cases other <;> simp [agree]
termination_by structural value

theorem agreeItems_iff (items others : List Json) : agreeItems items others ↔ items = others := by
  cases items with
  | nil => cases others <;> simp [agreeItems]
  | cons item rest =>
      cases others with
      | nil => simp [agreeItems]
      | cons other others =>
          simp [agreeItems, agree_iff item other, agreeItems_iff rest others]
termination_by structural items

theorem agreeFields_iff (fields others : List (String × Json)) :
    agreeFields fields others ↔ fields = others := by
  cases fields with
  | nil => cases others <;> simp [agreeFields]
  | cons field rest =>
      cases others with
      | nil => simp [agreeFields]
      | cons other others =>
          obtain ⟨key, value⟩ := field
          obtain ⟨otherKey, other⟩ := other
          simp [agreeFields, agree_iff value other, agreeFields_iff rest others]
termination_by structural fields

end

instance : DecidableEq Json := fun value other =>
  decidable_of_iff (agree value other) (agree_iff value other)

end CacheDepot.Json
