import ModuleBridge.Text.Hex
import ModuleBridge.Text.Utf8

/-!
# Percent escapes

`%` and two hexadecimal digits stand for one byte.  Any other `%` stands for
itself, so decoding never fails; bytes that are not text become U+FFFD.
-/

namespace ModuleBridge.Text

/-- The byte that a `%` and the two bytes after it stand for. -/
def escapedByte? (high low : UInt8) : Option UInt8 := do
  let upper ← hexValue? (Char.ofNat high.toNat)
  let lower ← hexValue? (Char.ofNat low.toNat)
  some (UInt8.ofNat (upper * 16 + lower))

/-- The bytes with every percent escape replaced by the byte it stands for. -/
def percentDecodeBytes : List UInt8 → List UInt8
  | 0x25 :: high :: low :: rest =>
    match escapedByte? high low with
    | some byte => byte :: percentDecodeBytes rest
    | none => 0x25 :: percentDecodeBytes (high :: low :: rest)
  | byte :: rest => byte :: percentDecodeBytes rest
  | [] => []

/-- The text with every percent escape decoded. -/
def percentDecode (text : String) : String :=
  decodeLossy (percentDecodeBytes (bytes text))

end ModuleBridge.Text
