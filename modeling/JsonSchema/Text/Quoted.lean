import JsonSchema.Text.HiddenRuns
import JsonSchema.Unicode.RunLengths

set_option autoImplicit false

/-! Text in quotes, as messages show it: what would not be seen, or would join the character before
it, is written as its code point in hexadecimal. -/

namespace JsonSchema.Text

private def hidden : Unicode.CharSet := .ofRunLengths hiddenLengths

def isVisible (char : Char) : Bool :=
  if char.toNat < 127 then decide (32 ≤ char.toNat) else !hidden.contains char

def quoteChar (char : Char) : String :=
  match char with
  | '\x00' => "\\0"
  | '\t' => "\\t"
  | '\r' => "\\r"
  | '\n' => "\\n"
  | '"' => "\\\""
  | '\\' => "\\\\"
  | other =>
      if isVisible other then other.toString
      else "\\u\x7b" ++ String.ofList (Nat.toDigits 16 other.toNat) ++ "\x7d"

def quoted (text : String) : String :=
  text.toList.foldl (fun written char => written ++ quoteChar char) "\"" ++ "\""

end JsonSchema.Text
