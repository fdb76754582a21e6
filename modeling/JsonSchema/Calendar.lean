import JsonSchema.Text.Digits
import JsonSchema.Unicode.WhiteSpace

set_option autoImplicit false

/-! Dates and times of day in text. The strict form is that of RFC 3339; the lenient forms allow
blanks before a number and fewer digits in it, and a sign before a year. -/

namespace JsonSchema.Calendar

open Text

structure Date where
  year : Int
  month : Nat
  day : Nat
deriving DecidableEq

def isLeapYear (year : Int) : Bool :=
  year % 4 = 0 && (year % 100 != 0 || year % 400 = 0)

def daysInMonth (year : Int) (month : Nat) : Nat :=
  if month = 2 then (if isLeapYear year then 29 else 28)
  else if month = 4 ∨ month = 6 ∨ month = 9 ∨ month = 11 then 30
  else 31

def firstYear : Int := -262143

def lastYear : Int := 262142

def Date.exists (date : Date) : Bool :=
  decide (firstYear ≤ date.year ∧ date.year ≤ lastYear ∧ 1 ≤ date.month ∧ date.month ≤ 12 ∧
    1 ≤ date.day ∧ date.day ≤ daysInMonth date.year date.month)

/-- A second may be the sixtieth, for leap seconds, in any minute. -/
def isTime (hour minute second : Nat) : Bool :=
  decide (hour ≤ 23 ∧ minute ≤ 59 ∧ second ≤ 60)

def number? (least most : Nat) (text : List Char) : Option (Nat × List Char) :=
  let digits := (text.take most).takeWhile Char.isDigit
  if digits.length < least then none
  else some (natOfDigits digits, text.drop digits.length)

/-- A fraction of a second: any number of digits behind the point, at least one. -/
def fraction? : List Char → Option (List Char)
  | '.' :: rest =>
      match rest.takeWhile Char.isDigit with
      | [] => none
      | _ => some (rest.dropWhile Char.isDigit)
  | text => some text

/-- A difference from universal time: `Z`, or a sign, hours and minutes. -/
def offset? : List Char → Option (List Char)
  | [] => none
  | char :: rest =>
      if char = 'Z' ∨ char = 'z' then some rest
      else if char = '+' ∨ char = '-' ∨ char = '\u2212' then do
        let (hours, rest) ← number? 2 2 rest
        let rest ← behind? ':' rest
        let (minutes, rest) ← number? 2 2 rest
        if hours ≤ 23 ∧ minutes ≤ 59 then some rest else none
      else none

/-- Whether a text is a point in time as RFC 3339 writes it. -/
def isDateTime (text : String) : Bool :=
  let read : Option (List Char) := do
    let (year, rest) ← number? 4 4 text.toList
    let rest ← behind? '-' rest
    let (month, rest) ← number? 2 2 rest
    let rest ← behind? '-' rest
    let (day, rest) ← number? 2 2 rest
    let rest ← behind? 'T' rest <|> behind? 't' rest <|> behind? ' ' rest
    let (hour, rest) ← number? 2 2 rest
    let rest ← behind? ':' rest
    let (minute, rest) ← number? 2 2 rest
    let rest ← behind? ':' rest
    let (second, rest) ← number? 2 2 rest
    let rest ← fraction? rest
    let rest ← offset? rest
    if (Date.mk year month day).exists && isTime hour minute second then some rest else none
  read = some []

def dropBlanks (text : List Char) : List Char := text.dropWhile Unicode.isWhiteSpace

/-- A year has at most four digits, or a sign and any number of them. -/
def year? (text : List Char) : Option (Int × List Char) :=
  match dropBlanks text with
  | '-' :: rest => (number? 1 rest.length rest).map fun (year, rest) => (-(year : Int), rest)
  | '+' :: rest => (number? 1 rest.length rest).map fun (year, rest) => ((year : Int), rest)
  | text => (number? 1 4 text).map fun (year, rest) => ((year : Int), rest)

/-- A month, a day, an hour, a minute or a second: one or two digits. -/
def field? (text : List Char) : Option (Nat × List Char) := number? 1 2 (dropBlanks text)

/-- Whether a text is a year, a month and a day with hyphens between. -/
def isDate (text : String) : Bool :=
  let read : Option (List Char) := do
    let (year, rest) ← year? text.toList
    let rest ← behind? '-' rest
    let (month, rest) ← field? rest
    let rest ← behind? '-' rest
    let (day, rest) ← field? rest
    if (Date.mk year month day).exists then some rest else none
  read = some []

/-- Whether a text is a time of day: hours, minutes and seconds with colons between. -/
def isTimeOfDay (text : String) : Bool :=
  let read : Option (List Char) := do
    let (hour, rest) ← field? text.toList
    let rest ← behind? ':' rest
    let (minute, rest) ← field? rest
    let rest ← behind? ':' rest
    let (second, rest) ← field? rest
    let rest ← fraction? rest
    if isTime hour minute second then some rest else none
  read = some []

end JsonSchema.Calendar
