import JsonSchema.Json

set_option autoImplicit false

/-! Equality of JSON values by meaning: numbers by value, objects by their members in any order.
Two integers are compared exactly; an integer is compared with a double through the double nearest
to it. -/

namespace JsonSchema

def Number.same : Number → Number → Bool
  | .integer left _, .integer right _ => left = right
  | left, right => left.toBinary64.same right.toBinary64

namespace Json

mutual

def same : (left right : Json) → Bool
  | .null, .null => true
  | .bool left, .bool right => left == right
  | .number left, .number right => left.same right
  | .string left, .string right => left == right
  | .array left, .array right => sameElements left right
  | .object left, .object right => left.length == right.length && sameMembers left right
  | _, _ => false

def sameElements : (left right : List Json) → Bool
  | [], [] => true
  | left :: lefts, right :: rights => same left right && sameElements lefts rights
  | _, _ => false

/-- Whether every member on the left has its equal on the right. -/
def sameMembers : (left right : List (String × Json)) → Bool
  | [], _ => true
  | (key, left) :: lefts, rights =>
      (match rights.lookup key with
        | some right => same left right
        | none => false) &&
      sameMembers lefts rights

end

/-- The values without those equal to an earlier one. -/
def unique (values : List Json) : List Json :=
  values.foldl (fun kept value => if kept.any (·.same value) then kept else kept ++ [value]) []

end Json

/-- Position of the first item that a comparison accepts for a probe. -/
def findIndex {Item Probe : Type} (items : List Item) (probe : Probe)
    (comparison : Item → Probe → Bool) : Option Nat :=
  items.findIdx? fun item => comparison item probe

end JsonSchema
