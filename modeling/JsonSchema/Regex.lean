import JsonSchema.Regex.Automaton
import JsonSchema.Regex.Meaning
import JsonSchema.Regex.Reading
import JsonSchema.Regex.Search

set_option autoImplicit false

/-! Regular expressions over text: read once, then searched for anywhere in a text. -/

namespace JsonSchema

structure Regex where
  source : String
  pattern : Regex.Pattern

namespace Regex

def ofString? (source : String) : Option Regex := do
  let expr ← Expr.parse? source.toList
  let (pattern, _) ← expr.pattern? .initial
  if pattern.hasRoom then some ⟨source, pattern⟩ else none

def matchesIn (regex : Regex) (text : String) : Bool := regex.pattern.occursIn text.toList

end Regex

end JsonSchema
