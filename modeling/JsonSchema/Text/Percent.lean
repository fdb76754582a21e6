import JsonSchema.Text.Digits

set_option autoImplicit false

/-! Percent-decoding: a percent sign and two hexadecimal digits stand for a byte. A percent sign
without two such digits stands for itself. -/

namespace JsonSchema.Text

def percentSign : UInt8 := 0x25

def hexByte? (byte : UInt8) : Option UInt8 :=
  (hexValue? (Char.ofNat byte.toNat)).map UInt8.ofNat

def percentDecodeBytes : List UInt8 → List UInt8
  | [] => []
  | [first] => [first]
  | [first, second] => [first, second]
  | first :: high :: low :: rest =>
      if first = percentSign then
        match hexByte? high, hexByte? low with
        | some highValue, some lowValue =>
            (highValue * 16 + lowValue) :: percentDecodeBytes rest
        | _, _ => first :: percentDecodeBytes (high :: low :: rest)
      else first :: percentDecodeBytes (high :: low :: rest)

def percentDecode? (text : String) : Option String :=
  String.fromUTF8? ⟨(percentDecodeBytes text.toUTF8.data.toList).toArray⟩

end JsonSchema.Text
