/-!
# Hexadecimal digits

Reading one digit, and writing a byte as two lower-case digits.
-/

namespace ModuleBridge.Text

/-- The value of a hexadecimal digit of either case. -/
def hexValue? (digit : Char) : Option Nat :=
  if '0' ≤ digit ∧ digit ≤ '9' then some (digit.toNat - '0'.toNat)
  else if 'a' ≤ digit ∧ digit ≤ 'f' then some (digit.toNat - 'a'.toNat + 10)
  else if 'A' ≤ digit ∧ digit ≤ 'F' then some (digit.toNat - 'A'.toNat + 10)
  else none

/-- The lower-case digit of a value below sixteen. -/
def hexDigit (value : Nat) : Char :=
  Char.ofNat (if value < 10 then '0'.toNat + value else 'a'.toNat + (value - 10))

theorem hexValue?_hexDigit :
    ∀ value : Fin 16, hexValue? (hexDigit value) = some value.val := by
  decide

/-- The code point is a character: it is in range and no surrogate. -/
def isScalar (point : Nat) : Bool :=
  point < 0xD800 || (0xDFFF < point && point ≤ 0x10FFFF)

/-- The code point that hexadecimal digits name, where it is a character. -/
def hexScalar? (digits : List Char) : Option Nat := do
  let values ← digits.mapM hexValue?
  let point := values.foldl (fun total digit => total * 16 + digit) 0
  if !digits.isEmpty && isScalar point then some point else none

/-- The two lower-case digits of a byte. -/
def hexByte (byte : UInt8) : List Char :=
  [hexDigit (byte.toNat / 16), hexDigit (byte.toNat % 16)]

end ModuleBridge.Text
