import JsonSchema.Json
import JsonSchema.Text.Digits
import JsonSchema.Text.Percent
import JsonSchema.Text.Quoted

set_option autoImplicit false

/-! JSON pointers behind a number sign, in the manner of RFC 6901. A pointer that leaves the document
before its last token is malformed; one whose last token is not there is absent. An expression
without a number sign names a member of the document itself. -/

namespace JsonSchema

inductive PointerError where
  | malformed (pointer : String)
  | absent (pointer : String)
deriving DecidableEq

def PointerError.message : PointerError → String
  | .malformed pointer => "malformed pointer " ++ Text.quoted pointer
  | .absent pointer => "pointer " ++ Text.quoted pointer ++ " does not resolve"

namespace Pointer

/-- The parts between slashes; a text without any is one part. -/
def splitSlashes : List Char → List (List Char)
  | [] => [[]]
  | char :: rest =>
      if char = '/' then [] :: splitSlashes rest
      else
        match splitSlashes rest with
        | [] => [[char]]
        | part :: parts => (char :: part) :: parts

def replaceTilde (digit replacement : Char) : List Char → List Char
  | [] => []
  | [char] => [char]
  | first :: second :: rest =>
      if first = '~' ∧ second = digit then replacement :: replaceTilde digit replacement rest
      else first :: replaceTilde digit replacement (second :: rest)

def token? (part : List Char) : Option String :=
  Text.percentDecode? (String.ofList (replaceTilde '0' '~' (replaceTilde '1' '/' part)))

def dropSlash : List Char → List Char
  | '/' :: rest => rest
  | rest => rest

/-- The tokens of what follows the number sign. Only a single part may be empty. -/
def tokens? (expression : List Char) : Option (List String) :=
  let parts := splitSlashes (dropSlash expression)
  if 1 < parts.length ∧ [] ∈ parts then none else parts.mapM token?

/-- An index is a decimal number below `2 ^ 64`; a plus sign and zeros may lead it. -/
def index? (token : String) : Option Nat :=
  let digits := match token.toList with
    | '+' :: rest => rest
    | rest => rest
  if digits.isEmpty || !digits.all Char.isDigit then none
  else
    let value := Text.natOfDigits digits
    if value < 0x10000000000000000 then some value else none

def step? (token : String) : Json → Option Json
  | .object members => members.lookup token
  | .array elements => (index? token).bind fun index => elements[index]?
  | _ => none

/-- Follows tokens from a value; `pointer` is the whole expression, for errors. -/
def walk (pointer : String) : List String → Json → Except PointerError Json
  | [], value => .ok value
  | token :: rest, value =>
      match step? token value with
      | some next => walk pointer rest next
      | none => .error (if rest.isEmpty then .absent pointer else .malformed pointer)

def resolve (document : Json) (pointer : String) : Except PointerError Json :=
  match pointer.toList with
  | '#' :: [] => .ok document
  | '#' :: expression =>
      match tokens? expression with
      | some tokens => walk pointer tokens document
      | none => .error (.malformed pointer)
  | _ =>
      match document.field? pointer with
      | some value => .ok value
      | none => .error (.absent pointer)

end Pointer

end JsonSchema
