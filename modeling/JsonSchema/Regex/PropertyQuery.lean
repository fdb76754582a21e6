import JsonSchema.Regex.Expr
import JsonSchema.Unicode.Age
import JsonSchema.Unicode.BinaryProperty
import JsonSchema.Unicode.Category
import JsonSchema.Unicode.GraphemeBreak
import JsonSchema.Unicode.Script
import JsonSchema.Unicode.ScriptExtension
import JsonSchema.Unicode.SentenceBreak
import JsonSchema.Unicode.WhiteSpace
import JsonSchema.Unicode.WordBreak

set_option autoImplicit false

/-! The characters that a question to the character tables asks for. -/

namespace JsonSchema.Regex

open JsonSchema.Unicode

/-- Names of properties compare without case, blanks, hyphens, underscores and a leading `is`. -/
def propertyKey (name : List Char) : String :=
  let stripped : List Char := match name with
    | first :: second :: rest =>
        if first.toLower = 'i' ∧ second.toLower = 's' then rest else name
    | _ => name
  let kept := stripped.filter fun char =>
    decide (char.toNat < 128) && char != ' ' && char != '_' && char != '-'
  let key := kept.map Char.toLower
  if stripped.length < name.length ∧ key = ['c'] then "isc" else String.ofList key

def binaryPropertySet? (name : String) : Option CharSet :=
  if name = "whitespace" ∨ name = "wspace" ∨ name = "space" then some whiteSpace
  else setNamed? binaryProperties name

/-- A name alone may be a property, a general category or a script. No name has two of these
meanings. -/
def PropertyQuery.set? : PropertyQuery → Option CharSet
  | .named name =>
      let key := propertyKey name
      binaryPropertySet? key <|> categorySet? key <|> setNamed? scripts key
  | .valued property value =>
      let key := propertyKey value
      match propertyKey property with
      | "gc" | "generalcategory" => categorySet? key
      | "sc" | "script" => setNamed? scripts key
      | "scx" | "scriptextensions" => setNamed? scriptExtensions key
      | "age" => charactersOfVersion? key
      | "gcb" | "graphemeclusterbreak" => setNamed? graphemeBreaks key
      | "wb" | "wordbreak" => setNamed? wordBreaks key
      | "sb" | "sentencebreak" => setNamed? sentenceBreaks key
      | _ => none

end JsonSchema.Regex
