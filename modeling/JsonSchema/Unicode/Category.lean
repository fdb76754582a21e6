import JsonSchema.Unicode.RunLengths
import JsonSchema.Unicode.CategoryRuns

set_option autoImplicit false

/-! General categories: each code point has exactly one. -/

namespace JsonSchema.Unicode

inductive Category where
  | uppercaseLetter
  | lowercaseLetter
  | titlecaseLetter
  | modifierLetter
  | otherLetter
  | nonspacingMark
  | spacingMark
  | enclosingMark
  | decimalNumber
  | letterNumber
  | otherNumber
  | connectorPunctuation
  | dashPunctuation
  | openPunctuation
  | closePunctuation
  | initialPunctuation
  | finalPunctuation
  | otherPunctuation
  | mathSymbol
  | currencySymbol
  | modifierSymbol
  | otherSymbol
  | spaceSeparator
  | lineSeparator
  | paragraphSeparator
  | control
  | format
  | surrogate
  | privateUse
  | unassigned
deriving DecidableEq

namespace Category

def lengths : Category → String
  | .uppercaseLetter => uppercaseLetterLengths
  | .lowercaseLetter => lowercaseLetterLengths
  | .titlecaseLetter => titlecaseLetterLengths
  | .modifierLetter => modifierLetterLengths
  | .otherLetter => otherLetterLengths
  | .nonspacingMark => nonspacingMarkLengths
  | .spacingMark => spacingMarkLengths
  | .enclosingMark => enclosingMarkLengths
  | .decimalNumber => decimalNumberLengths
  | .letterNumber => letterNumberLengths
  | .otherNumber => otherNumberLengths
  | .connectorPunctuation => connectorPunctuationLengths
  | .dashPunctuation => dashPunctuationLengths
  | .openPunctuation => openPunctuationLengths
  | .closePunctuation => closePunctuationLengths
  | .initialPunctuation => initialPunctuationLengths
  | .finalPunctuation => finalPunctuationLengths
  | .otherPunctuation => otherPunctuationLengths
  | .mathSymbol => mathSymbolLengths
  | .currencySymbol => currencySymbolLengths
  | .modifierSymbol => modifierSymbolLengths
  | .otherSymbol => otherSymbolLengths
  | .spaceSeparator => spaceSeparatorLengths
  | .lineSeparator => lineSeparatorLengths
  | .paragraphSeparator => paragraphSeparatorLengths
  | .control => controlLengths
  | .format => formatLengths
  | .surrogate => surrogateLengths
  | .privateUse => privateUseLengths
  | .unassigned => unassignedLengths

def set (category : Category) : CharSet := .ofRunLengths category.lengths

def casedLetters : List Category := [.uppercaseLetter, .lowercaseLetter, .titlecaseLetter]

def letters : List Category := casedLetters ++ [.modifierLetter, .otherLetter]

def marks : List Category := [.nonspacingMark, .spacingMark, .enclosingMark]

def numbers : List Category := [.decimalNumber, .letterNumber, .otherNumber]

def punctuation : List Category :=
  [.connectorPunctuation, .dashPunctuation, .openPunctuation, .closePunctuation,
    .initialPunctuation, .finalPunctuation, .otherPunctuation]

def symbols : List Category := [.mathSymbol, .currencySymbol, .modifierSymbol, .otherSymbol]

def separators : List Category := [.spaceSeparator, .lineSeparator, .paragraphSeparator]

def others : List Category := [.control, .format, .surrogate, .privateUse, .unassigned]

/-- Names of single categories and of groups, in small letters without separators. Surrogates
alone have no name, since they are no characters. -/
def named? : String → Option (List Category)
  | "l" | "letter" => some letters
  | "lc" | "casedletter" => some casedLetters
  | "m" | "mark" | "combiningmark" => some marks
  | "n" | "number" => some numbers
  | "p" | "punctuation" | "punct" => some punctuation
  | "s" | "symbol" => some symbols
  | "z" | "separator" => some separators
  | "c" | "other" => some others
  | "lu" | "uppercaseletter" => some [.uppercaseLetter]
  | "ll" | "lowercaseletter" => some [.lowercaseLetter]
  | "lt" | "titlecaseletter" => some [.titlecaseLetter]
  | "lm" | "modifierletter" => some [.modifierLetter]
  | "lo" | "otherletter" => some [.otherLetter]
  | "mn" | "nonspacingmark" => some [.nonspacingMark]
  | "mc" | "spacingmark" => some [.spacingMark]
  | "me" | "enclosingmark" => some [.enclosingMark]
  | "nd" | "decimalnumber" | "digit" => some [.decimalNumber]
  | "nl" | "letternumber" => some [.letterNumber]
  | "no" | "othernumber" => some [.otherNumber]
  | "pc" | "connectorpunctuation" => some [.connectorPunctuation]
  | "pd" | "dashpunctuation" => some [.dashPunctuation]
  | "ps" | "openpunctuation" => some [.openPunctuation]
  | "pe" | "closepunctuation" => some [.closePunctuation]
  | "pi" | "initialpunctuation" => some [.initialPunctuation]
  | "pf" | "finalpunctuation" => some [.finalPunctuation]
  | "po" | "otherpunctuation" => some [.otherPunctuation]
  | "sm" | "mathsymbol" => some [.mathSymbol]
  | "sc" | "currencysymbol" => some [.currencySymbol]
  | "sk" | "modifiersymbol" => some [.modifierSymbol]
  | "so" | "othersymbol" => some [.otherSymbol]
  | "zs" | "spaceseparator" => some [.spaceSeparator]
  | "zl" | "lineseparator" => some [.lineSeparator]
  | "zp" | "paragraphseparator" => some [.paragraphSeparator]
  | "cc" | "control" | "cntrl" => some [.control]
  | "cf" | "format" => some [.format]
  | "co" | "privateuse" => some [.privateUse]
  | "cn" | "unassigned" => some [.unassigned]
  | _ => none

def setOf (categories : List Category) : CharSet := .unionAll (categories.map Category.set)

end Category

/-- The characters of a category or a group of categories. Three further names stand for all
characters, those of ASCII, and those that have been assigned. -/
def categorySet? (name : String) : Option CharSet :=
  if name = "any" then some .all
  else if name = "ascii" then some ⟨[.between 0 127]⟩
  else if name = "assigned" then some Category.unassigned.set.complement
  else (Category.named? name).map Category.setOf

end JsonSchema.Unicode
