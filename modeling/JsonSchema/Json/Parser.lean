import JsonSchema.Json
import JsonSchema.Text.Digits

set_option autoImplicit false

/-! Reading JSON text. Members keep their written order. A literal without fraction and exponent is
an integer if 64 bits hold it; `-0` and every other literal is the nearest double, and a literal
beyond the largest double is refused. The budget bounds the nesting and the length of lists; the
length of the text is always enough. -/

namespace JsonSchema.Json.Reading

open Text

def isBlank (char : Char) : Bool :=
  char = ' ' || char = '\n' || char = '\r' || char = '\t'

def skipBlank (text : List Char) : List Char := text.dropWhile isBlank

def hexUnit? : List Char → Option (Nat × List Char)
  | first :: second :: third :: fourth :: rest => do
      let first ← hexValue? first
      let second ← hexValue? second
      let third ← hexValue? third
      let fourth ← hexValue? fourth
      some (((first * 16 + second) * 16 + third) * 16 + fourth, rest)
  | _ => none

/-- The character of a `u` escape. A unit of a surrogate pair counts only together with its
partner. -/
def unicodeEscape? (text : List Char) : Option (Char × List Char) := do
  let (unit, rest) ← hexUnit? text
  if unit < 0xD800 ∨ 0xDFFF < unit then some (Char.ofNat unit, rest)
  else
    match rest with
    | '\\' :: 'u' :: more => do
        let (low, rest) ← hexUnit? more
        if unit < 0xDC00 ∧ 0xDC00 ≤ low ∧ low ≤ 0xDFFF then
          some (Char.ofNat (0x10000 + (unit - 0xD800) * 0x400 + (low - 0xDC00)), rest)
        else none
    | _ => none

def escaped? : List Char → Option (Char × List Char)
  | '"' :: rest => some ('"', rest)
  | '\\' :: rest => some ('\\', rest)
  | '/' :: rest => some ('/', rest)
  | 'b' :: rest => some ('\x08', rest)
  | 'f' :: rest => some ('\x0c', rest)
  | 'n' :: rest => some ('\n', rest)
  | 'r' :: rest => some ('\r', rest)
  | 't' :: rest => some ('\t', rest)
  | 'u' :: rest => unicodeEscape? rest
  | _ => none

/-- The rest of a string after its opening quote; `read` holds what came before, backwards. -/
def stringRest? : Nat → List Char → List Char → Option (String × List Char)
  | 0, _, _ => none
  | _ + 1, _, [] => none
  | budget + 1, read, char :: rest =>
      if char = '"' then some (String.ofList read.reverse, rest)
      else if char = '\\' then do
        let (char, rest) ← escaped? rest
        stringRest? budget (char :: read) rest
      else if char.toNat < 32 then none
      else stringRest? budget (char :: read) rest

def fraction? : List Char → Option (List Char × List Char)
  | '.' :: rest =>
      let digits := rest.takeWhile Char.isDigit
      if digits.isEmpty then none else some (digits, rest.dropWhile Char.isDigit)
  | rest => some ([], rest)

def exponent? : List Char → Option (Option Int × List Char)
  | char :: rest =>
      if char = 'e' ∨ char = 'E' then
        let (negative, rest) :=
          match rest with
          | '+' :: more => (false, more)
          | '-' :: more => (true, more)
          | more => (false, more)
        let digits := rest.takeWhile Char.isDigit
        if digits.isEmpty then none
        else
          let size : Int := natOfDigits digits
          some (some (if negative then -size else size), rest.dropWhile Char.isDigit)
      else some (none, char :: rest)
  | [] => some (none, [])

def number? (text : List Char) : Option (Json × List Char) := do
  let (negative, text) :=
    match text with
    | '-' :: rest => (true, rest)
    | rest => (false, rest)
  let whole := text.takeWhile Char.isDigit
  if whole.isEmpty || (whole.head? = some '0' && decide (1 < whole.length)) then none
  let (fraction, text) ← fraction? (text.dropWhile Char.isDigit)
  let (exponent, text) ← exponent? text
  let digits := natOfDigits (whole ++ fraction)
  let asDouble : Option Number :=
    (Binary64.ofDecimal? negative digits (exponent.getD 0 - fraction.length)).map Number.double
  let asInteger : Option Number :=
    if fraction.isEmpty && exponent.isNone then
      if negative then (if digits = 0 then none else Number.ofInt? (-(digits : Int)))
      else Number.ofInt? digits
    else none
  let value ← asInteger <|> asDouble
  some (.number value, text)

mutual

def value? : Nat → List Char → Option (Json × List Char)
  | 0, _ => none
  | budget + 1, text =>
      match skipBlank text with
      | 'n' :: 'u' :: 'l' :: 'l' :: rest => some (.null, rest)
      | 't' :: 'r' :: 'u' :: 'e' :: rest => some (.bool true, rest)
      | 'f' :: 'a' :: 'l' :: 's' :: 'e' :: rest => some (.bool false, rest)
      | '"' :: rest => do
          let (text, rest) ← stringRest? (rest.length + 1) [] rest
          some (.string text, rest)
      | '[' :: rest =>
          match skipBlank rest with
          | ']' :: rest => some (.array [], rest)
          | rest => do
              let (elements, rest) ← elements? budget [] rest
              some (.array elements, rest)
      | '{' :: rest =>
          match skipBlank rest with
          | '}' :: rest => some (.object [], rest)
          | rest => do
              let (members, rest) ← members? budget [] rest
              some (.object members, rest)
      | rest => number? rest

def elements? : Nat → List Json → List Char → Option (List Json × List Char)
  | 0, _, _ => none
  | budget + 1, read, text => do
      let (element, rest) ← value? budget text
      match skipBlank rest with
      | ',' :: rest => elements? budget (element :: read) rest
      | ']' :: rest => some ((element :: read).reverse, rest)
      | _ => none

def members? : Nat → List (String × Json) → List Char →
    Option (List (String × Json) × List Char)
  | 0, _, _ => none
  | budget + 1, read, text =>
      match skipBlank text with
      | '"' :: rest => do
          let (key, rest) ← stringRest? (rest.length + 1) [] rest
          match skipBlank rest with
          | ':' :: rest => do
              let (value, rest) ← value? budget rest
              match skipBlank rest with
              | ',' :: rest => members? budget ((key, value) :: read) rest
              | '}' :: rest => some (((key, value) :: read).reverse, rest)
              | _ => none
          | _ => none
      | _ => none

end

end JsonSchema.Json.Reading

namespace JsonSchema.Json

open Reading in
def parse? (text : String) : Option Json :=
  let chars := text.toList
  match value? (chars.length + 1) chars with
  | some (value, rest) => if (skipBlank rest).isEmpty then some value else none
  | none => none

end JsonSchema.Json
