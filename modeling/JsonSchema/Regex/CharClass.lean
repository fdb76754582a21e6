import JsonSchema.Regex.Modes
import JsonSchema.Regex.PropertyQuery
import JsonSchema.Unicode.Folding

set_option autoImplicit false

/-! The set of characters that a written set holds. With Unicode switched off, a set that would hold
bytes beyond ASCII is refused: such a byte is a part of a character. -/

namespace JsonSchema.Regex

open JsonSchema.Unicode

def asciiDigits : CharSet := ⟨[.between 0x30 0x39]⟩

def asciiUpper : CharSet := ⟨[.between 0x41 0x5A]⟩

def asciiLower : CharSet := ⟨[.between 0x61 0x7A]⟩

def asciiLetters : CharSet := asciiUpper.union asciiLower

def asciiSpace : CharSet := ⟨[.between 9 13, .single 0x20]⟩

def asciiWord : CharSet := .unionAll [asciiDigits, asciiLetters, .single 0x5F]

def asciiFolded (set : CharSet) : CharSet :=
  let letters := asciiLetters.ranges.flatMap fun range =>
    List.range' range.first (range.last + 1 - range.first)
  let added := letters.filter fun point =>
    set.holds (if point < 0x60 then point + 32 else point - 32)
  set.union ⟨added.map .single⟩

def foldCase (modes : Modes) (set : CharSet) : CharSet :=
  if modes.caseInsensitive then if modes.unicode then set.folded else asciiFolded set else set

def negateIf (negated : Bool) (set : CharSet) : CharSet :=
  if negated then set.complement else set

def AsciiClass.set : AsciiClass → CharSet
  | .alnum => asciiDigits.union asciiLetters
  | .alpha => asciiLetters
  | .ascii => ⟨[.between 0 0x7F]⟩
  | .blank => ⟨[.single 9, .single 0x20]⟩
  | .cntrl => ⟨[.between 0 0x1F, .single 0x7F]⟩
  | .digit => asciiDigits
  | .graph => ⟨[.between 0x21 0x7E]⟩
  | .lower => asciiLower
  | .print => ⟨[.between 0x20 0x7E]⟩
  | .punct => ⟨[.between 0x21 0x2F, .between 0x3A 0x40, .between 0x5B 0x60, .between 0x7B 0x7E]⟩
  | .space => asciiSpace
  | .upper => asciiUpper
  | .word => asciiWord
  | .xdigit => ⟨[.between 0x30 0x39, .between 0x41 0x46, .between 0x61 0x66]⟩

def unicodeWord : CharSet :=
  let categories : List Category := Category.marks ++ [.decimalNumber, .connectorPunctuation]
  .unionAll
    ((setNamed? binaryProperties "alphabetic").toList ++
      [Category.setOf categories, ⟨[.between 0x200C 0x200D]⟩])

def Shorthand.set (kind : Shorthand) (unicode : Bool) : CharSet :=
  match kind with
  | .digit => if unicode then Category.decimalNumber.set else asciiDigits
  | .space => if unicode then whiteSpace else asciiSpace
  | .word => if unicode then unicodeWord else asciiWord

/-- With Unicode off, a byte beyond ASCII is part of a character. -/
def Literal.isWhole (literal : Literal) (modes : Modes) : Bool :=
  modes.unicode || decide (literal.char.toNat < 128)

def ClassOperation.apply : ClassOperation → CharSet → CharSet → CharSet
  | .intersection => CharSet.intersection
  | .difference => CharSet.difference
  | .symmetricDifference => CharSet.symmetricDifference

mutual

def ClassExpr.set? (modes : Modes) : ClassExpr → Option CharSet
  | .literal written =>
      if written.isWhole modes then some (.single written.char.toNat) else none
  | .range first last =>
      if first.isWhole modes && last.isWhole modes then
        some ⟨[.between first.char.toNat last.char.toNat]⟩
      else none
  | .shorthand kind negated =>
      if negated && !modes.unicode then none
      else some (negateIf negated (kind.set modes.unicode))
  | .ascii kind negated =>
      if negated && !modes.unicode then none
      else some (negateIf negated (foldCase modes kind.set))
  | .property query negated =>
      if modes.unicode then
        query.set?.map fun set => negateIf negated (foldCase modes set)
      else none
  | .union items => (ClassExpr.sets? modes items).map CharSet.unionAll
  | .operation combine left right => do
      let left ← left.set? modes
      let right ← right.set? modes
      some (combine.apply (foldCase modes left) (foldCase modes right))
  | .bracketed negated body =>
      if negated && !modes.unicode then none
      else do
        let set ← body.set? modes
        some (negateIf negated (foldCase modes set))

def ClassExpr.sets? (modes : Modes) : List ClassExpr → Option (List CharSet)
  | [] => some []
  | item :: items => do
      let set ← item.set? modes
      let sets ← ClassExpr.sets? modes items
      some (set :: sets)

end

end JsonSchema.Regex
