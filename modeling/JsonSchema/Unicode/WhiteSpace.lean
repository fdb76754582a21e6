import JsonSchema.Unicode.CharSet

set_option autoImplicit false

/-! White space, listed: it is the same in all versions of Unicode that count here. -/

namespace JsonSchema.Unicode

def whiteSpace : CharSet :=
  ⟨[.between 9 13, .single 0x20, .single 0x85, .single 0xA0, .single 0x1680,
    .between 0x2000 0x200A, .between 0x2028 0x2029, .single 0x202F, .single 0x205F,
    .single 0x3000]⟩

def isWhiteSpace (char : Char) : Bool := whiteSpace.contains char

end JsonSchema.Unicode
