import JsonSchema.Keyword

set_option autoImplicit false

/-! What checking reports: for each failed check its place, its keyword and the message that the schema
has for it. The place is the tokens from the root joined by points; the root itself is empty. -/

namespace JsonSchema

structure ValidationError where
  path : String
  keyword : Keyword
  message : Option String
deriving DecidableEq

namespace ValidationError

def toJson (error : ValidationError) : Json :=
  .object ([("path", .string error.path), ("keyword", .string error.keyword.name)] ++
    error.message.toList.map fun message => ("message", .string message))

/-- A keyword by its name, or by an object whose one member has that name and holds null. -/
def keywordOf? : Json → Option Keyword
  | .string name => Keyword.ofName? name
  | .object [(name, .null)] => Keyword.ofName? name
  | _ => none

/-- A message may be missing or null. -/
def messageOf? : Option Json → Option (Option String)
  | none | some .null => some none
  | some (.string message) => some (some message)
  | some _ => none

def ofParts? (path keyword message : Option Json) : Option ValidationError := do
  let path ← path.bind Json.string?
  let keyword ← keyword.bind keywordOf?
  let message ← messageOf? message
  some ⟨path, keyword, message⟩

/-- Reads an error back from its members, others being of no account, or from its parts in order. -/
def ofJson? : Json → Option ValidationError
  | .object members =>
      ofParts? (members.lookup "path") (members.lookup "keyword") (members.lookup "message")
  | .array [path, keyword] => ofParts? (some path) (some keyword) none
  | .array [path, keyword, message] => ofParts? (some path) (some keyword) (some message)
  | _ => none

end ValidationError

structure PropertyMessages where
  required : Option String
  keywords : List (String × String)

structure Messages where
  invalid : Option String
  keywords : List (String × String)
  properties : List (String × PropertyMessages)

namespace Messages

def table (messages : Option Json) : List (String × String) :=
  ((messages.bind Json.members?).getD []).filterMap fun (keyword, message) =>
    message.string?.map fun message => (keyword, message)

def PropertyMessages.ofProperty (property : Json) : PropertyMessages :=
  ⟨(property.field? "requiredMessage").bind Json.string?, table (property.field? "messages")⟩

def ofMembers (members : List (String × Json)) : Messages :=
  let properties := ((members.lookup "properties").bind Json.members?).getD []
  { invalid := (members.lookup "invalidMessage").bind Json.string?
    keywords := table (members.lookup "messages")
    properties := properties.map fun (name, property) =>
      (name, PropertyMessages.ofProperty property) }

/-- The message for a failed keyword, which may be about a property: that a property is required comes
first, then the message for the whole node, then what the property says of the keyword, then what
the node says of it. -/
def find? (messages : Messages) (keyword : Keyword) (property : Option String) : Option String :=
  let own := property.bind fun name => messages.properties.lookup name
  own.bind (·.required) <|> messages.invalid <|>
    own.bind (·.keywords.lookup keyword.name) <|> messages.keywords.lookup keyword.name

end Messages

end JsonSchema
