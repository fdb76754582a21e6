import JsonSchema.Text.Digits

set_option autoImplicit false

/-! Network addresses in text. Each reader returns the text behind the address it read. -/

namespace JsonSchema.Address

open Text

/-- One of the four numbers of a version 4 address: up to 255, without a zero to lead it. -/
def octet? (text : List Char) : Option (List Char) :=
  let digits := text.takeWhile Char.isDigit
  if digits.isEmpty || decide (3 < digits.length) ||
      (digits.head? == some '0' && decide (1 < digits.length)) || decide (255 < natOfDigits digits) then none
  else some (text.drop digits.length)

def ipv4Rest? (text : List Char) : Option (List Char) := do
  let rest ← octet? text
  let rest ← behind? '.' rest >>= octet?
  let rest ← behind? '.' rest >>= octet?
  behind? '.' rest >>= octet?

/-- One group of a version 6 address: one to four hexadecimal digits. -/
def group? (text : List Char) : Option (List Char) :=
  let digits := text.takeWhile fun char => (hexValue? char).isSome
  if digits.isEmpty || decide (4 < digits.length) then none else some (text.drop digits.length)

/-- Reads at most `most` groups with colons between, `before` tells that one has been read. Two
groups at the end may be written as a version 4 address. The answer counts the groups and tells
whether they ended in that way. -/
def groups : Nat → Bool → List Char → Nat × Bool × List Char
  | 0, _, text => (0, false, text)
  | most + 1, before, text =>
      let start := if before then behind? ':' text else some text
      match if most = 0 then none else start >>= ipv4Rest? with
      | some rest => (2, true, rest)
      | none =>
          match start >>= group? with
          | some rest =>
              let (count, embedded, rest) := groups most true rest
              (count + 1, embedded, rest)
          | none => (0, false, text)

/-- Eight groups, or fewer with one double colon for the zeros left out. -/
def ipv6Rest? (text : List Char) : Option (List Char) :=
  let (count, embedded, rest) := groups 8 false text
  if count = 8 then some rest
  else if embedded then none
  else do
    let rest ← behind? ':' rest >>= behind? ':'
    let (_, _, rest) := groups (8 - (count + 1)) false rest
    some rest

def isIpv4 (text : String) : Bool := ipv4Rest? text.toList = some []

def isIpv6 (text : String) : Bool := ipv6Rest? text.toList = some []

end JsonSchema.Address
