import JsonSchema.Binary64
import JsonSchema.Entries

set_option autoImplicit false

/-! JSON values. The members of an object are a table of entries in the order in which they were
written: schemas are read in that order, and built values are shown in it. -/

namespace JsonSchema

/-- A number as JSON text can give it: an integer that 64 bits hold, with or without a sign, or a
finite double. The two forms are told apart when a value is written back. -/
inductive Number where
  | integer (value : Int) (inRange : -0x8000000000000000 ≤ value ∧ value < 0x10000000000000000)
  | double (value : Binary64)
deriving DecidableEq

namespace Number

def ofInt? (value : Int) : Option Number :=
  if inRange : -0x8000000000000000 ≤ value ∧ value < 0x10000000000000000 then
    some (.integer value inRange)
  else none

/-- The double nearest to the number. An integer in range is never too large for one. -/
def toBinary64 : Number → Binary64
  | .integer value _ => (Binary64.ofInt? value).getD Binary64.zero
  | .double value => value

/-- The value of a number written as an integer from zero up. -/
def toNat? : Number → Option Nat
  | .integer value _ => if 0 ≤ value then some value.toNat else none
  | .double _ => none

end Number

inductive Json where
  | null
  | bool (value : Bool)
  | number (value : Number)
  | string (value : String)
  | array (elements : List Json)
  | object (members : List (String × Json))

namespace Json

def isObject : Json → Bool
  | .object _ => true
  | _ => false

def members? : Json → Option (List (String × Json))
  | .object members => some members
  | _ => none

theorem members?_eq_some_iff {value : Json} {members : List (String × Json)} :
    value.members? = some members ↔ value = .object members := by
  cases value <;> simp [members?]

def elements? : Json → Option (List Json)
  | .array elements => some elements
  | _ => none

theorem elements?_eq_some_iff {value : Json} {elements : List Json} :
    value.elements? = some elements ↔ value = .array elements := by
  cases value <;> simp [elements?]

def string? : Json → Option String
  | .string value => some value
  | _ => none

def number? : Json → Option Number
  | .number value => some value
  | _ => none

def bool? : Json → Option Bool
  | .bool value => some value
  | _ => none

def nat? (value : Json) : Option Nat := value.number?.bind Number.toNat?

def binary64? (value : Json) : Option Binary64 := value.number?.map Number.toBinary64

/-- The value of a member of an object; nothing has members otherwise. -/
def field? (key : String) : Json → Option Json
  | .object members => members.lookup key
  | _ => none

/- Whether two values are written in the same way, member order and form of numbers included. -/
mutual

def identical : (left right : Json) → Bool
  | .null, .null => true
  | .bool left, .bool right => left = right
  | .number left, .number right => left = right
  | .string left, .string right => left = right
  | .array left, .array right => elementsIdentical left right
  | .object left, .object right => membersIdentical left right
  | _, _ => false

def elementsIdentical : (left right : List Json) → Bool
  | [], [] => true
  | left :: lefts, right :: rights => identical left right && elementsIdentical lefts rights
  | _, _ => false

def membersIdentical : (left right : List (String × Json)) → Bool
  | [], [] => true
  | (leftKey, left) :: lefts, (rightKey, right) :: rights =>
      decide (leftKey = rightKey) && identical left right && membersIdentical lefts rights
  | _, _ => false

end

mutual

private theorem identical_iff : ∀ left right : Json, identical left right = true ↔ left = right
  | .null, right => by cases right <;> simp [identical]
  | .bool left, right => by cases right <;> simp [identical]
  | .number left, right => by cases right <;> simp [identical]
  | .string left, right => by cases right <;> simp [identical]
  | .array left, right => by
      cases right with
      | array right => simp [identical, elementsIdentical_iff left right]
      | _ => simp [identical]
  | .object left, right => by
      cases right with
      | object right => simp [identical, membersIdentical_iff left right]
      | _ => simp [identical]

theorem elementsIdentical_iff : ∀ left right : List Json,
    elementsIdentical left right = true ↔ left = right
  | [], right => by cases right <;> simp [elementsIdentical]
  | left :: lefts, right => by
      cases right with
      | nil => simp [elementsIdentical]
      | cons right rights =>
          simp [elementsIdentical, identical_iff left right, elementsIdentical_iff lefts rights]

theorem membersIdentical_iff : ∀ left right : List (String × Json),
    membersIdentical left right = true ↔ left = right
  | [], right => by cases right <;> simp [membersIdentical]
  | (leftKey, left) :: lefts, right => by
      cases right with
      | nil => simp [membersIdentical]
      | cons right rights =>
          obtain ⟨rightKey, right⟩ := right
          simp [membersIdentical, identical_iff left right, membersIdentical_iff lefts rights,
            and_assoc]

end

instance : DecidableEq Json := fun left right =>
  decidable_of_iff (identical left right = true) (identical_iff left right)

/- Nesting depth: a value without parts has depth one. -/
mutual

def depth : Json → Nat
  | .array elements => elementsDepth elements + 1
  | .object members => membersDepth members + 1
  | _ => 1

def elementsDepth : List Json → Nat
  | [] => 0
  | element :: rest => max element.depth (elementsDepth rest)

def membersDepth : List (String × Json) → Nat
  | [] => 0
  | (_, value) :: rest => max value.depth (membersDepth rest)

end

/- How many values a value holds, itself included. -/
mutual

def weight : Json → Nat
  | .array elements => elementsWeight elements + 1
  | .object members => membersWeight members + 1
  | _ => 1

def elementsWeight : List Json → Nat
  | [] => 0
  | element :: rest => element.weight + elementsWeight rest

def membersWeight : List (String × Json) → Nat
  | [] => 0
  | (_, value) :: rest => value.weight + membersWeight rest

end

/- Every key inside a value, each before the keys inside its own value. -/
mutual

def keys : Json → List String
  | .array elements => elementsKeys elements
  | .object members => membersKeys members
  | _ => []

def elementsKeys : List Json → List String
  | [] => []
  | element :: rest => element.keys ++ elementsKeys rest

def membersKeys : List (String × Json) → List String
  | [] => []
  | (key, value) :: rest => key :: (value.keys ++ membersKeys rest)

end

end Json

end JsonSchema
