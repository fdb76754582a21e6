import JsonSchema.Unicode.CharSet

set_option autoImplicit false

/-! Sets of characters as sequences of byte ranges: a sequence stands for the characters whose UTF-8
forms have their first byte in the first range, their second byte in the second, and so on. -/

namespace JsonSchema.Regex

open JsonSchema.Unicode

def utf8 (point : Nat) : List Nat :=
  if point < 0x80 then [point]
  else if point < 0x800 then [0xC0 + (point >>> 6), 0x80 + point % 64]
  else if point < 0x10000 then
    [0xE0 + (point >>> 12), 0x80 + (point >>> 6) % 64, 0x80 + point % 64]
  else
    [0xF0 + (point >>> 18), 0x80 + (point >>> 12) % 64, 0x80 + (point >>> 6) % 64,
      0x80 + point % 64]

/-- Cuts the points from `first` to `last` so that each piece lies in one block or fills whole
blocks, for blocks of 2 to the power of each shift in turn. -/
def cutAtBlocks : List Nat → Nat → Nat → List (Nat × Nat)
  | [], first, last => [(first, last)]
  | shift :: shifts, first, last =>
      let block := 1 <<< shift
      if first >>> shift = last >>> shift then [(first, last)]
      else
        let inner := if first % block = 0 then first else ((first >>> shift) + 1) <<< shift
        let before := if inner = first then [] else [(first, inner - 1)]
        if inner >>> shift = last >>> shift then before ++ [(inner, last)]
        else
          let outer := if last % block = block - 1 then last + 1 else (last >>> shift) <<< shift
          let after := if outer = last + 1 then [] else [(outer, last)]
          before ++ cutAtBlocks shifts inner (outer - 1) ++ after

/-- The characters whose UTF-8 forms have one length, with the shifts of the bytes behind the first.
The surrogates lie between two of them. -/
def utf8Zones : List (CharRange × List Nat) :=
  [(.between 0 0x7F, []), (.between 0x80 0x7FF, [6]), (.between 0x800 0xD7FF, [6, 12]),
    (.between 0xE000 0xFFFF, [6, 12]), (.between 0x10000 0x10FFFF, [6, 12, 18])]

def byteRanges (set : CharSet) : List (List (Nat × Nat)) :=
  set.ranges.flatMap fun range =>
    utf8Zones.flatMap fun (zone, shifts) =>
      match CharSet.overlap? range zone with
      | some part =>
          (cutAtBlocks shifts part.first part.last).map fun (first, last) =>
            (utf8 first).zip (utf8 last)
      | none => []

end JsonSchema.Regex
