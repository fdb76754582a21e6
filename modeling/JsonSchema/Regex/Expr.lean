set_option autoImplicit false

/-! Regular expressions as they are written. What an expression matches is a matter of
`JsonSchema.Regex.Pattern`; here a group, a flag or a counted repetition is still visible. -/

namespace JsonSchema.Regex

inductive Flag where
  | caseInsensitive
  | multiLine
  | dotMatchesNewLine
  | swapGreed
  | unicode
  | carriageReturn
  | verbose
deriving DecidableEq

abbrev FlagChanges := List (Flag × Bool)

inductive Assertion where
  | lineStart
  | lineEnd
  | textStart
  | textEnd
  | wordBoundary
  | noWordBoundary
  | wordStart
  | wordEnd
  | wordStartHalf
  | wordEndHalf
deriving DecidableEq

inductive Shorthand where
  | digit
  | space
  | word
deriving DecidableEq

inductive AsciiClass where
  | alnum | alpha | ascii | blank | cntrl | digit | graph | lower | print | punct | space | upper
  | word | xdigit
deriving DecidableEq

/-- A question to the character tables: by a name alone, or by a property and its value. -/
inductive PropertyQuery where
  | named (name : List Char)
  | valued (property value : List Char)

/-- A character that stands for itself. `isByte` marks the two-digit hexadecimal form, which names a
byte where Unicode is switched off. -/
structure Literal where
  char : Char
  isByte : Bool

inductive ClassOperation where
  | intersection
  | difference
  | symmetricDifference
deriving DecidableEq

inductive ClassExpr where
  | literal (literal : Literal)
  | range (first last : Literal)
  | shorthand (kind : Shorthand) (negated : Bool)
  | ascii (kind : AsciiClass) (negated : Bool)
  | property (query : PropertyQuery) (negated : Bool)
  | union (items : List ClassExpr)
  | operation (operation : ClassOperation) (left right : ClassExpr)
  | bracketed (negated : Bool) (body : ClassExpr)

/-- A group that captures has a number, the first being 0; a repetition is reluctant when it prefers
fewer rounds. -/
inductive Expr where
  | empty
  | flags (changes : FlagChanges)
  | literal (literal : Literal)
  | dot
  | assertion (assertion : Assertion)
  | charClass (charClass : ClassExpr)
  | repetition (body : Expr) (least : Nat) (most : Option Nat) (reluctant : Bool)
  | group (number : Option Nat) (changes : FlagChanges) (body : Expr)
  | alternation (branches : List Expr)
  | concat (parts : List Expr)

def Expr.ofParts : List Expr → Expr
  | [] => .empty
  | [part] => part
  | parts => .concat parts

def Expr.ofBranches : List Expr → Expr
  | [] => .empty
  | [branch] => branch
  | branches => .alternation branches

def ClassExpr.ofItems : List ClassExpr → ClassExpr
  | [item] => item
  | items => .union items

mutual

def ClassExpr.depth : ClassExpr → Nat
  | .literal _ | .range _ _ | .shorthand _ _ | .ascii _ _ | .property _ _ => 0
  | .union [] => 0
  | .union (item :: items) => max item.depth (ClassExpr.depths items) + 1
  | .operation _ left right => max left.depth right.depth + 1
  | .bracketed _ body => body.depth + 1

def ClassExpr.depths : List ClassExpr → Nat
  | [] => 0
  | item :: items => max item.depth (ClassExpr.depths items)

end

mutual

def Expr.depth : Expr → Nat
  | .empty | .flags _ | .literal _ | .dot | .assertion _ => 0
  | .charClass set => set.depth
  | .repetition body _ _ _ => body.depth + 1
  | .group _ _ body => body.depth + 1
  | .alternation branches => Expr.depths branches + 1
  | .concat parts => Expr.depths parts + 1

def Expr.depths : List Expr → Nat
  | [] => 0
  | part :: parts => max part.depth (Expr.depths parts)

end

end JsonSchema.Regex
