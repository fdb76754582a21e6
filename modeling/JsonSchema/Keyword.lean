import JsonSchema.Json
import JsonSchema.Calendar

set_option autoImplicit false

/-! The keywords of a schema, the kinds of value that they speak of, and the names of types. -/

namespace JsonSchema

inductive Kind where
  | number
  | string
  | array
  | object
deriving DecidableEq

def Kind.accepts : Kind → Json → Bool
  | .number, .number _ => true
  | .string, .string _ => true
  | .array, .array _ => true
  | .object, .object _ => true
  | _, _ => false

inductive Keyword where
  | type
  | enum
  | minimum
  | exclusiveMinimum
  | maximum
  | exclusiveMaximum
  | multipleOf
  | minLength
  | maxLength
  | pattern
  | format
  | minItems
  | maxItems
  | additionalItems
  | uniqueItems
  | items
  | maxProperties
  | minProperties
  | required
  | properties
  | patternProperties
  | additionalProperties
  | dependencies
  | allOf
  | anyOf
  | oneOf
  | not
deriving DecidableEq

namespace Keyword

def name : Keyword → String
  | .type => "type"
  | .enum => "enum"
  | .minimum => "minimum"
  | .exclusiveMinimum => "exclusiveMinimum"
  | .maximum => "maximum"
  | .exclusiveMaximum => "exclusiveMaximum"
  | .multipleOf => "multipleOf"
  | .minLength => "minLength"
  | .maxLength => "maxLength"
  | .pattern => "pattern"
  | .format => "format"
  | .minItems => "minItems"
  | .maxItems => "maxItems"
  | .additionalItems => "additionalItems"
  | .uniqueItems => "uniqueItems"
  | .items => "items"
  | .maxProperties => "maxProperties"
  | .minProperties => "minProperties"
  | .required => "required"
  | .properties => "properties"
  | .patternProperties => "patternProperties"
  | .additionalProperties => "additionalProperties"
  | .dependencies => "dependencies"
  | .allOf => "allOf"
  | .anyOf => "anyOf"
  | .oneOf => "oneOf"
  | .not => "not"

def all : List Keyword :=
  [.type, .enum, .minimum, .exclusiveMinimum, .maximum, .exclusiveMaximum, .multipleOf, .minLength,
    .maxLength, .pattern, .format, .minItems, .maxItems, .additionalItems, .uniqueItems, .items,
    .maxProperties, .minProperties, .required, .properties, .patternProperties,
    .additionalProperties, .dependencies, .allOf, .anyOf, .oneOf, .not]

def ofName? (name : String) : Option Keyword := all.find? fun keyword => keyword.name = name

@[simp] theorem ofName?_name (keyword : Keyword) : ofName? keyword.name = some keyword := by
  cases keyword <;> decide

theorem ofName?_eq_some_iff {name : String} {keyword : Keyword} :
    ofName? name = some keyword ↔ name = keyword.name := by
  constructor
  · intro found
    unfold ofName? at found
    have accepted := List.find?_some found
    simp only [decide_eq_true_eq] at accepted
    exact accepted.symm
  · intro equal
    simp [equal]

/-- The kind that a keyword is limited to; the others speak of every value. -/
def kind? : Keyword → Option Kind
  | .minimum | .exclusiveMinimum | .maximum | .exclusiveMaximum | .multipleOf => some .number
  | .minLength | .maxLength | .pattern | .format => some .string
  | .minItems | .maxItems | .additionalItems | .uniqueItems | .items => some .array
  | .maxProperties | .minProperties | .required | .properties | .patternProperties
  | .additionalProperties | .dependencies => some .object
  | .type | .enum | .allOf | .anyOf | .oneOf | .not => none

/-- Three keywords speak of the members of an object together and make one check. -/
def isAboutMembers : Keyword → Bool
  | .properties | .patternProperties | .additionalProperties => true
  | _ => false

theorem kind?_of_about {keyword : Keyword} (about : keyword.isAboutMembers = true) :
    keyword.kind? = some .object := by
  cases keyword <;> first | rfl | cases about

end Keyword

inductive TypeName where
  | null
  | boolean
  | string
  | number
  | integer
  | array
  | object
  | date
  | any
deriving DecidableEq

namespace TypeName

def ofName? : String → Option TypeName
  | "null" => some .null
  | "boolean" => some .boolean
  | "string" => some .string
  | "number" => some .number
  | "integer" => some .integer
  | "array" => some .array
  | "object" => some .object
  | "date" => some .date
  | "any" => some .any
  | _ => none

/-- A number is an integer by its value, however it is written; a date is a string that holds a
point in time. -/
def accepts : TypeName → Json → Bool
  | .null, .null => true
  | .boolean, .bool _ => true
  | .string, .string _ => true
  | .number, .number _ => true
  | .integer, .number value => value.toBinary64.isIntegral
  | .array, .array _ => true
  | .object, .object _ => true
  | .date, .string text => Calendar.isDateTime text
  | .any, _ => true
  | _, _ => false

end TypeName

end JsonSchema
