import JsonSchema.Json
import JsonSchema.Binary64.Decimal

set_option autoImplicit false

/-! Compact JSON text. Doubles are written with their shortest digits and always show a point or an
exponent, so that reading the text gives a double again. -/

namespace JsonSchema

/-- How the digits of a double are laid out: positionally while the point falls between
`lowestPoint` and `highestPoint` places after the first digit, with an exponent otherwise. -/
structure DoubleStyle where
  lowestPoint : Int
  highestPoint : Int
  exponentMark : String
  plusSign : String
  minusSign : String

def DoubleStyle.compact : DoubleStyle := ⟨-4, 16, "e", "+", "-"⟩

def DoubleStyle.zeros (count : Int) : String := String.ofList (List.replicate count.toNat '0')

def DoubleStyle.lay (style : DoubleStyle) (decimal : Decimal) : String :=
  let digits := Nat.toDigits 10 decimal.digits
  let point : Int := digits.length + decimal.exponent
  if point < style.lowestPoint ∨ style.highestPoint < point then
    let exponent := point - 1
    let fraction := if digits.length = 1 then "" else "." ++ String.ofList (digits.drop 1)
    String.ofList (digits.take 1) ++ fraction ++ style.exponentMark ++
      (if exponent < 0 then style.minusSign else style.plusSign) ++ toString exponent.natAbs
  else if 0 ≤ decimal.exponent then String.ofList digits ++ DoubleStyle.zeros decimal.exponent ++ ".0"
  else if 0 < point then
    String.ofList (digits.take point.toNat) ++ "." ++ String.ofList (digits.drop point.toNat)
  else "0." ++ DoubleStyle.zeros (-point) ++ String.ofList digits

def Binary64.render (number : Binary64) : String :=
  (if number.negative then "-" else "") ++ DoubleStyle.compact.lay number.shortest

def Number.render : Number → String
  | .integer value _ => toString value
  | .double value => value.render

namespace Json

def hexDigits (code : Nat) : String :=
  let digits := Nat.toDigits 16 code
  String.ofList (List.replicate (4 - digits.length) '0' ++ digits)

def escape (char : Char) : String :=
  match char with
  | '"' => "\\\""
  | '\\' => "\\\\"
  | '\n' => "\\n"
  | '\r' => "\\r"
  | '\t' => "\\t"
  | '\x08' => "\\b"
  | '\x0c' => "\\f"
  | other => if other.toNat < 32 then "\\u" ++ hexDigits other.toNat else other.toString

def renderString (text : String) : String :=
  text.toList.foldl (fun written char => written ++ escape char) "\"" ++ "\""

mutual

def render : Json → String
  | .null => "null"
  | .bool true => "true"
  | .bool false => "false"
  | .number value => value.render
  | .string value => renderString value
  | .array elements => "[" ++ renderElements elements ++ "]"
  | .object members => "\x7b" ++ renderMembers members ++ "\x7d"

def renderElements : List Json → String
  | [] => ""
  | [element] => element.render
  | element :: rest => element.render ++ "," ++ renderElements rest

def renderMembers : List (String × Json) → String
  | [] => ""
  | [(key, value)] => renderString key ++ ":" ++ value.render
  | (key, value) :: rest => renderString key ++ ":" ++ value.render ++ "," ++ renderMembers rest

end

end Json

end JsonSchema
