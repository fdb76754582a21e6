import JsonSchema.Regex.Expr
import JsonSchema.Regex.GroupNameRuns
import JsonSchema.Text.Digits
import JsonSchema.Unicode.RunLengths
import JsonSchema.Unicode.WhiteSpace

set_option autoImplicit false

/-! Reading a regular expression. The answer is `none` when the text is not an expression; why it is
not is never shown. Each function takes the text that is left and returns what it leaves. A budget
as long as the text is enough everywhere, since every step takes a character. -/

namespace JsonSchema.Regex.Reading

open JsonSchema.Unicode JsonSchema.Text

def dropBlank (inComment : Bool) : List Char → List Char
  | [] => []
  | char :: rest =>
      if inComment then dropBlank (char != '\n') rest
      else if isWhiteSpace char then dropBlank false rest
      else if char = '#' then dropBlank true rest
      else char :: rest

/-- Blanks and comments carry no meaning in verbose text only. -/
def skip (verbose : Bool) (text : List Char) : List Char :=
  if verbose then dropBlank false text else text

def digits (verbose : Bool) : Nat → List Char → List Char × List Char
  | 0, text => ([], text)
  | _ + 1, [] => ([], [])
  | budget + 1, char :: rest =>
      if char.isDigit then
        let (more, rest) := digits verbose budget (skip verbose rest)
        (char :: more, rest)
      else ([], char :: rest)

def decimal? (verbose : Bool) (text : List Char) : Option Nat × List Char :=
  let text := text.dropWhile isWhiteSpace
  let (written, rest) := digits verbose text.length text
  let value := natOfDigits written
  (if written.isEmpty ∨ 0x100000000 ≤ value then none else some value, rest.dropWhile isWhiteSpace)

def bounds? (verbose : Bool) (text : List Char) : Option ((Nat × Option Nat) × List Char) :=
  let (least, rest) := decimal? verbose (skip verbose text)
  match rest with
  | ',' :: rest =>
      match skip verbose rest with
      | '}' :: rest => least.map fun least => ((least, none), rest)
      | rest =>
          match least, decimal? verbose rest with
          | some least, (some most, '}' :: rest) =>
              if least ≤ most then some ((least, some most), rest) else none
          | _, _ => none
  | '}' :: rest => least.map fun count => ((count, some count), rest)
  | _ => none

def scalar? (point : Nat) : Option Char :=
  if point.isValidChar then some (Char.ofNat point) else none

def hexFixed? (verbose : Bool) : Nat → Nat → List Char → Option (Nat × List Char)
  | 0, value, text => some (value, text)
  | count + 1, value, text =>
      match text with
      | [] => none
      | char :: rest => do
          let digit ← hexValue? char
          hexFixed? verbose count (value * 16 + digit) (skip verbose rest)

def hexBraced? (verbose : Bool) : Nat → List Nat → List Char → Option (List Nat × List Char)
  | 0, _, _ => none
  | _ + 1, _, [] => none
  | budget + 1, read, char :: rest =>
      if char = '}' then some (read.reverse, skip verbose rest)
      else do
        let digit ← hexValue? char
        hexBraced? verbose budget (digit :: read) (skip verbose rest)

def hexEscape? (verbose : Bool) (letter : Char) (text : List Char) : Option (Literal × List Char) :=
  match skip verbose text with
  | '{' :: rest => do
      let (read, rest) ← hexBraced? verbose (rest.length + 1) [] (skip verbose rest)
      if read.isEmpty then none
      let char ← scalar? (read.foldl (fun value digit => value * 16 + digit) 0)
      some (⟨char, false⟩, rest)
  | text => do
      let count := if letter = 'x' then 2 else if letter = 'u' then 4 else 8
      let (point, rest) ← hexFixed? verbose count 0 text
      let char ← scalar? point
      some (⟨char, letter = 'x'⟩, rest)

/-- The text before the first occurrence of a mark and the text after it. -/
def splitAtMark (mark : List Char) : List Char → Option (List Char × List Char)
  | [] => none
  | char :: rest =>
      if mark.isPrefixOf (char :: rest) then some ([], (char :: rest).drop mark.length)
      else (splitAtMark mark rest).map fun (before, after) => (char :: before, after)

def propertyName? (verbose : Bool) : Nat → List Char → List Char → Option (List Char × List Char)
  | 0, _, _ => none
  | _ + 1, _, [] => none
  | budget + 1, read, char :: rest =>
      if char = '}' then some (read.reverse, rest)
      else propertyName? verbose budget (char :: read) (skip verbose rest)

/-- A property escape after its letter: one letter, or a name or a name and a value in braces. The
sign that says the value is another one negates. -/
def property? (verbose negated : Bool) (text : List Char) : Option (ClassExpr × List Char) :=
  match skip verbose text with
  | [] => none
  | '{' :: rest => do
      let (name, rest) ← propertyName? verbose (rest.length + 1) [] (skip verbose rest)
      match splitAtMark ['!', '='] name, splitAtMark [':'] name, splitAtMark ['='] name with
      | some (property, value), _, _ => some (.property (.valued property value) (!negated), rest)
      | none, some (property, value), _ => some (.property (.valued property value) negated, rest)
      | none, none, some (property, value) => some (.property (.valued property value) negated, rest)
      | none, none, none => some (.property (.named name) negated, rest)
  | char :: rest =>
      if char = '\\' then none
      else some (.property (.named [char]) negated, skip verbose rest)

inductive Atom where
  | literal (literal : Literal)
  | assertion (assertion : Assertion)
  | charClass (charClass : ClassExpr)

def isBoundaryNameChar (char : Char) : Bool := char.isAlpha || char == '-'

def boundaryName (verbose : Bool) : Nat → List Char → List Char × List Char
  | 0, text => ([], text)
  | _ + 1, [] => ([], [])
  | budget + 1, char :: rest =>
      if isBoundaryNameChar char then
        let (more, rest) := boundaryName verbose budget (skip verbose rest)
        (char :: more, rest)
      else ([], char :: rest)

/-- A boundary may carry a name in braces. Braces that begin otherwise are left for a counted
repetition. -/
def boundary? (verbose : Bool) (text : List Char) : Option (Assertion × List Char) :=
  match text with
  | '{' :: rest =>
      match skip verbose rest with
      | [] => none
      | char :: more =>
          if isBoundaryNameChar char then
            match boundaryName verbose (more.length + 1) (char :: more) with
            | (['s', 't', 'a', 'r', 't'], '}' :: rest) => some (.wordStart, rest)
            | (['e', 'n', 'd'], '}' :: rest) => some (.wordEnd, rest)
            | (['s', 't', 'a', 'r', 't', '-', 'h', 'a', 'l', 'f'], '}' :: rest) =>
                some (.wordStartHalf, rest)
            | (['e', 'n', 'd', '-', 'h', 'a', 'l', 'f'], '}' :: rest) => some (.wordEndHalf, rest)
            | _ => none
          else some (.wordBoundary, text)
  | _ => some (.wordBoundary, text)

def isEscapable (char : Char) : Bool :=
  decide (char.toNat < 128) && !char.isAlphanum && char != '<' && char != '>'

def escape? (verbose : Bool) : List Char → Option (Atom × List Char)
  | [] => none
  | char :: rest =>
      let plain (value : Char) : Option (Atom × List Char) := some (.literal ⟨value, false⟩, rest)
      let shorthand (kind : Shorthand) (negated : Bool) : Option (Atom × List Char) :=
        some (.charClass (.shorthand kind negated), rest)
      match char with
      | 'x' | 'u' | 'U' =>
          (hexEscape? verbose char rest).map fun (literal, rest) => (.literal literal, rest)
      | 'p' => (property? verbose false rest).map fun (set, rest) => (.charClass set, rest)
      | 'P' => (property? verbose true rest).map fun (set, rest) => (.charClass set, rest)
      | 'd' => shorthand .digit false
      | 'D' => shorthand .digit true
      | 's' => shorthand .space false
      | 'S' => shorthand .space true
      | 'w' => shorthand .word false
      | 'W' => shorthand .word true
      | 'a' => plain '\x07'
      | 'f' => plain '\x0c'
      | 't' => plain '\t'
      | 'n' => plain '\n'
      | 'r' => plain '\r'
      | 'v' => plain '\x0b'
      | 'A' => some (.assertion .textStart, rest)
      | 'z' => some (.assertion .textEnd, rest)
      | 'b' => (boundary? verbose rest).map fun (kind, rest) => (.assertion kind, rest)
      | 'B' => some (.assertion .noWordBoundary, rest)
      | '<' => some (.assertion .wordStart, rest)
      | '>' => some (.assertion .wordEnd, rest)
      | other => if isEscapable other then plain other else none

def asciiClass? : List Char → Option AsciiClass
  | ['a', 'l', 'n', 'u', 'm'] => some .alnum
  | ['a', 'l', 'p', 'h', 'a'] => some .alpha
  | ['a', 's', 'c', 'i', 'i'] => some .ascii
  | ['b', 'l', 'a', 'n', 'k'] => some .blank
  | ['c', 'n', 't', 'r', 'l'] => some .cntrl
  | ['d', 'i', 'g', 'i', 't'] => some .digit
  | ['g', 'r', 'a', 'p', 'h'] => some .graph
  | ['l', 'o', 'w', 'e', 'r'] => some .lower
  | ['p', 'r', 'i', 'n', 't'] => some .print
  | ['p', 'u', 'n', 'c', 't'] => some .punct
  | ['s', 'p', 'a', 'c', 'e'] => some .space
  | ['u', 'p', 'p', 'e', 'r'] => some .upper
  | ['w', 'o', 'r', 'd'] => some .word
  | ['x', 'd', 'i', 'g', 'i', 't'] => some .xdigit
  | _ => none

/-- A class such as `[:alpha:]`, after its opening bracket. What only resembles one is a nested set
of characters. -/
def namedClass? (text : List Char) : Option (ClassExpr × List Char) := do
  let rest ← (match text with | ':' :: rest => some rest | _ => none)
  let (negated, rest) := match rest with
    | '^' :: rest => (true, rest)
    | rest => (false, rest)
  match rest.dropWhile (· != ':') with
  | ':' :: ']' :: after => do
      let kind ← asciiClass? (rest.takeWhile (· != ':'))
      some (.ascii kind negated, after)
  | _ => none

def classAtom? (verbose : Bool) : List Char → Option (ClassExpr × List Char)
  | [] => none
  | '\\' :: rest => do
      let (atom, rest) ← escape? verbose rest
      match atom with
      | .literal literal => some (.literal literal, rest)
      | .charClass set => some (set, rest)
      | .assertion _ => none
  | char :: rest => some (.literal ⟨char, false⟩, rest)

/-- The character that decides what a hyphen is. In verbose text blanks are passed over, and so is
one comment sign, but not what stands behind it. -/
def deciding? (verbose : Bool) (text : List Char) : Option Char :=
  if verbose then
    match text.dropWhile isWhiteSpace with
    | '#' :: rest => (rest.dropWhile isWhiteSpace).head?
    | rest => rest.head?
  else text.head?

/-- One character, one shorthand or one range inside brackets. A hyphen before a closing bracket or
before another hyphen begins no range. -/
def classRange? (verbose : Bool) (text : List Char) : Option (ClassExpr × List Char) := do
  let (first, rest) ← classAtom? verbose text
  match skip verbose rest with
  | [] => none
  | '-' :: after =>
      match deciding? verbose after with
      | some ']' | some '-' => some (first, '-' :: after)
      | _ => do
          let (last, rest) ← classAtom? verbose (skip verbose after)
          match first, last with
          | .literal first, .literal last =>
              if first.char ≤ last.char then some (.range first last, rest) else none
          | _, _ => none
  | rest => some (first, rest)

def leadingHyphens? (verbose : Bool) : Nat → List Char → Option (List ClassExpr × List Char)
  | 0, _ => none
  | _ + 1, [] => none
  | budget + 1, char :: rest =>
      if char = '-' then
        (leadingHyphens? verbose budget (skip verbose rest)).map fun (items, rest) =>
          (.literal ⟨'-', false⟩ :: items, rest)
      else some ([], char :: rest)

/-- What stands before the first item of a set: its negation, and a hyphen or a closing bracket that
stands for itself. -/
def classOpening? (verbose : Bool) (text : List Char) :
    Option ((Bool × List ClassExpr) × List Char) := do
  let (negated, text) := match skip verbose text with
    | '^' :: rest => (true, skip verbose rest)
    | rest => (false, rest)
  let (hyphens, rest) ← leadingHyphens? verbose (text.length + 1) text
  match hyphens, rest with
  | [], ']' :: rest =>
      match skip verbose rest with
      | [] => none
      | rest => some ((negated, [.literal ⟨']', false⟩]), rest)
  | hyphens, rest => some ((negated, hyphens), rest)

/-- Operations take all that stands to their left. -/
def applyPending (pending : Option (ClassExpr × ClassOperation)) (right : ClassExpr) : ClassExpr :=
  match pending with
  | none => right
  | some (left, operation) => .operation operation left right

/-- The rest of a set up to its closing bracket. `pending` holds an operation with its left side,
`items` what follows it so far, backwards. -/
def classRest? (verbose : Bool) : Nat → Bool → Option (ClassExpr × ClassOperation) →
    List ClassExpr → List Char → Option (ClassExpr × List Char)
  | 0, _, _, _, _ => none
  | budget + 1, negated, pending, items, text =>
      let operate (operation : ClassOperation) (rest : List Char) :=
        let left := applyPending pending (.ofItems items.reverse)
        classRest? verbose budget negated (some (left, operation)) [] rest
      match skip verbose text with
      | [] => none
      | ']' :: rest =>
          some (.bracketed negated (applyPending pending (.ofItems items.reverse)), rest)
      | '[' :: rest =>
          match namedClass? rest with
          | some (set, rest) => classRest? verbose budget negated pending (set :: items) rest
          | none => do
              let ((innerNegated, innerItems), rest) ← classOpening? verbose rest
              let (set, rest) ← classRest? verbose budget innerNegated none innerItems.reverse rest
              classRest? verbose budget negated pending (set :: items) rest
      | '&' :: '&' :: rest => operate .intersection rest
      | '-' :: '-' :: rest => operate .difference rest
      | '~' :: '~' :: rest => operate .symmetricDifference rest
      | text => do
          let (item, rest) ← classRange? verbose text
          classRest? verbose budget negated pending (item :: items) rest

def bracketed? (verbose : Bool) (text : List Char) : Option (ClassExpr × List Char) := do
  let ((negated, items), rest) ← classOpening? verbose text
  classRest? verbose (rest.length + 1) negated none items.reverse rest

def flag? : Char → Option Flag
  | 'i' => some .caseInsensitive
  | 'm' => some .multiLine
  | 's' => some .dotMatchesNewLine
  | 'U' => some .swapGreed
  | 'u' => some .unicode
  | 'R' => some .carriageReturn
  | 'x' => some .verbose
  | _ => none

/-- Flags up to the character that ends them. No flag is named twice; a hyphen, of which there is at
most one, switches off those after it and is not the last. -/
def flags? (negated justNegated : Bool) (seen : List Flag) :
    List Char → Option (FlagChanges × Char × List Char)
  | [] => none
  | char :: rest =>
      if char = ':' ∨ char = ')' then
        if justNegated then none else some ([], char, rest)
      else if char = '-' then
        if negated then none else flags? true true seen rest
      else do
        let flag ← flag? char
        if seen.contains flag then none
        let (changes, last, rest) ← flags? negated false (flag :: seen) rest
        some ((flag, !negated) :: changes, last, rest)

private def nameLetters : CharSet := .ofRunLengths letterLengths

private def nameNumbers : CharSet := .ofRunLengths numberLengths

def isNameLetter (char : Char) : Bool :=
  if char.toNat < 128 then char.isAlpha else nameLetters.contains char

def isNameNumber (char : Char) : Bool :=
  if char.toNat < 128 then char.isDigit else nameNumbers.contains char

def isNameStart (char : Char) : Bool := char == '_' || isNameLetter char

def isNamePart (char : Char) : Bool :=
  char == '_' || char == '.' || char == '[' || char == ']' || isNameLetter char ||
    isNameNumber char

def groupName? (text : List Char) : Option (List Char × List Char) :=
  let name := text.takeWhile (· != '>')
  match name, text.dropWhile (· != '>') with
  | first :: parts, '>' :: rest =>
      if isNameStart first && parts.all isNamePart then some (name, rest) else none
  | _, _ => none

inductive GroupOpening where
  | flagsOnly (changes : FlagChanges)
  | capturing (name : Option (List Char))
  | plain (changes : FlagChanges)

def groupOpening? (verbose : Bool) (text : List Char) : Option (GroupOpening × List Char) :=
  let named (rest : List Char) :=
    (groupName? rest).map fun (name, rest) => (GroupOpening.capturing (some name), rest)
  match skip verbose text with
  | '?' :: '=' :: _ | '?' :: '!' :: _ | '?' :: '<' :: '=' :: _ | '?' :: '<' :: '!' :: _ => none
  | '?' :: 'P' :: '<' :: rest => named rest
  | '?' :: '<' :: rest => named rest
  | '?' :: rest => do
      let (changes, last, after) ← flags? false false [] rest
      if last = ')' then
        if changes.isEmpty then none else some (.flagsOnly changes, after)
      else some (.plain changes, after)
  | rest => some (.capturing none, rest)

/-- Where reading stands: the text left, whether it is verbose, the group names so far, and how many
capturing groups have been opened. -/
structure Place where
  rest : List Char
  verbose : Bool
  names : List (List Char)
  groups : Nat

def verboseAfter (changes : FlagChanges) (verbose : Bool) : Bool :=
  (changes.lookup .verbose).getD verbose

def reluctance : List Char → Bool × List Char
  | '?' :: rest => (true, rest)
  | rest => (false, rest)

def repeatLast? (items : List Expr) (least : Nat) (most : Option Nat) (reluctant : Bool) :
    Option (List Expr) :=
  match items with
  | [] => none
  | .flags _ :: _ => none
  | last :: before => some (.repetition last least most reluctant :: before)

/-- Reads alternatives up to the end of the text or to a closing parenthesis, which is left. `items`
is the alternative being read and `branches` those before it, both backwards. -/
def alternatives? : Nat → List Expr → List Expr → Place → Option (Expr × Place)
  | 0, _, _, _ => none
  | budget + 1, items, branches, place =>
      let finish (text : List Char) : Option (Expr × Place) :=
        some (.ofBranches (Expr.ofParts items.reverse :: branches).reverse, { place with rest := text })
      let repeated (least : Nat) (most : Option Nat) (rest : List Char) := do
        let (reluctant, rest) := reluctance rest
        let items ← repeatLast? items least most reluctant
        alternatives? budget items branches { place with rest }
      let add (item : Expr) (rest : List Char) :=
        alternatives? budget (item :: items) branches { place with rest }
      match skip place.verbose place.rest with
      | [] => finish []
      | ')' :: rest => finish (')' :: rest)
      | '|' :: rest =>
          alternatives? budget [] (.ofParts items.reverse :: branches) { place with rest }
      | '(' :: rest => do
          let (opening, rest) ← groupOpening? place.verbose rest
          match opening with
          | .flagsOnly changes =>
              alternatives? budget (.flags changes :: items) branches
                { place with rest, verbose := verboseAfter changes place.verbose }
          | .plain changes =>
              let (body, after) ← alternatives? budget [] []
                { place with rest, verbose := verboseAfter changes place.verbose }
              let rest ← behind? ')' after.rest
              alternatives? budget (.group none changes body :: items) branches
                { after with rest, verbose := place.verbose }
          | .capturing name =>
              if name.any place.names.contains then none
              let (body, after) ← alternatives? budget [] []
                ⟨rest, place.verbose, name.toList ++ place.names, place.groups + 1⟩
              let rest ← behind? ')' after.rest
              alternatives? budget (.group (some place.groups) [] body :: items) branches
                { after with rest, verbose := place.verbose }
      | '[' :: rest => do
          let (set, rest) ← bracketed? place.verbose rest
          add (.charClass set) rest
      | '?' :: rest => repeated 0 (some 1) rest
      | '*' :: rest => repeated 0 none rest
      | '+' :: rest => repeated 1 none rest
      | '{' :: rest => do
          let ((least, most), rest) ← bounds? place.verbose rest
          repeated least most (skip place.verbose rest)
      | '\\' :: rest => do
          let (atom, rest) ← escape? place.verbose rest
          match atom with
          | .literal literal => add (.literal literal) rest
          | .assertion assertion => add (.assertion assertion) rest
          | .charClass set => add (.charClass set) rest
      | '.' :: rest => add .dot rest
      | '^' :: rest => add (.assertion .lineStart) rest
      | '$' :: rest => add (.assertion .lineEnd) rest
      | char :: rest => add (.literal ⟨char, false⟩) rest

end JsonSchema.Regex.Reading

namespace JsonSchema.Regex

/-- Deeper expressions are refused. -/
def Expr.depthLimit : Nat := 250

def Expr.parse? (text : List Char) : Option Expr :=
  match Reading.alternatives? (text.length + 1) [] [] ⟨text, false, [], 0⟩ with
  | some (expr, place) =>
      if place.rest.isEmpty && decide (expr.depth ≤ depthLimit) then some expr else none
  | none => none

end JsonSchema.Regex
