import JsonSchema.Address
import JsonSchema.Calendar
import JsonSchema.Json
import JsonSchema.Regex
import JsonSchema.Text.Quoted

set_option autoImplicit false

/-! Named formats for the `format` keyword. -/

namespace JsonSchema

/-- A pattern limits strings only. A predicate sees every value, together with the schema node that
names the format. -/
inductive Format where
  | pattern (regex : Regex)
  | predicate (test : Json → Json → Bool)

namespace Format

def ofPattern? (source : String) : Option Format := (Regex.ofString? source).map pattern

def ofStringTest (test : String → Bool) : Format :=
  .predicate fun value _ => value.string?.all test

def accepts (format : Format) (value schema : Json) : Bool :=
  match format with
  | .pattern regex => value.string?.all regex.matchesIn
  | .predicate test => test value schema

def describe : Format → String
  | .pattern regex => "Pattern(" ++ Text.quoted regex.source ++ ")"
  | .predicate _ => "Predicate"

end Format

structure FormatRegistry where
  formats : List (String × Format)

namespace FormatRegistry

def empty : FormatRegistry := ⟨[]⟩

def get? (registry : FormatRegistry) (name : String) : Option Format := registry.formats.lookup name

/-- A name has one format: the last that it was given. -/
def insert (registry : FormatRegistry) (name : String) (format : Format) : FormatRegistry :=
  ⟨Entries.insert registry.formats name format⟩

/-- Something before one `@`, and after it a name with a point inside; no blanks. -/
def emailPattern : String := "^[^\\s@]+@[^\\s@]+\\.[^\\s@]+$"

/-- Labels with points between, each of at most 63 letters, digits and inner hyphens. -/
def hostnamePattern : String :=
  "^[A-Za-z0-9](?:[A-Za-z0-9-]\x7b0,61\x7d[A-Za-z0-9])?" ++
  "(?:\\.[A-Za-z0-9](?:[A-Za-z0-9-]\x7b0,61\x7d[A-Za-z0-9])?)*$"

/-- A scheme, a colon and no blanks. -/
def uriPattern : String := "^[A-Za-z][A-Za-z0-9+.-]*:[^\\s]*$"

/-- Hexadecimal digits in groups of 8, 4, 4, 4 and 12. -/
def uuidPattern : String :=
  "^[0-9A-Fa-f]\x7b8\x7d-[0-9A-Fa-f]\x7b4\x7d-[0-9A-Fa-f]\x7b4\x7d-[0-9A-Fa-f]\x7b4\x7d-" ++
  "[0-9A-Fa-f]\x7b12\x7d$"

def standardPatterns : List (String × String) :=
  [("email", emailPattern), ("hostname", hostnamePattern), ("uri", uriPattern),
    ("uuid", uuidPattern)]

def standard : FormatRegistry :=
  ⟨[("date-time", .ofStringTest Calendar.isDateTime),
    ("date", .ofStringTest Calendar.isDate),
    ("time", .ofStringTest Calendar.isTimeOfDay),
    ("ipv4", .ofStringTest Address.isIpv4),
    ("ipv6", .ofStringTest Address.isIpv6)] ++
    standardPatterns.filterMap fun (name, source) =>
      (Format.ofPattern? source).map fun format => (name, format)⟩

end FormatRegistry

end JsonSchema
