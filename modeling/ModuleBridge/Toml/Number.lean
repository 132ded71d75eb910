import ModuleBridge.Decimal
import ModuleBridge.Text.Hex
import ModuleBridge.Toml.Value

/-!
# Numbers in TOML

Integers of 64 bits in four bases, and floats.  Digits may be grouped by single
underscores between them; only decimal integers have a sign, and none starts
with a further zero.  A float that is too large is refused, one that is too
large below zero is minus infinity.
-/

namespace ModuleBridge.Toml

/-- Digits of a kind with single underscores between them, without the underscores. -/
def readGrouped (isDigit : Char → Bool) : List Char → Option (List Char × List Char)
  | [] => none
  | digit :: rest =>
    if isDigit digit then
      match rest with
      | '_' :: next :: behind =>
        if isDigit next then
          (readGrouped isDigit (next :: behind)).map fun (digits, after) => (digit :: digits, after)
        else
          none
      | next :: behind =>
        if isDigit next then
          (readGrouped isDigit (next :: behind)).map fun (digits, after) => (digit :: digits, after)
        else
          some ([digit], next :: behind)
      | [] => some ([digit], [])
    else
      none

/-- The value of digits in a base. -/
def valueOf (base : Nat) (digits : List Char) : Nat :=
  digits.foldl (fun total digit => total * base + (Text.hexValue? digit).getD 0) 0

/-- An optional sign: whether it is a minus. -/
def readSign : List Char → Bool × List Char
  | '-' :: rest => (true, rest)
  | '+' :: rest => (false, rest)
  | rest => (false, rest)

/-- The digits of a decimal integer: a lone zero, or digits that do not start with one. -/
def readWhole : List Char → Option (List Char × List Char)
  | '0' :: rest => some (['0'], rest)
  | rest => readGrouped Char.isDigit rest

/-- A number within the range of 64 bits with a sign. -/
def inRange? (number : Int) : Option Int :=
  if -9223372036854775808 ≤ number ∧ number ≤ 9223372036854775807 then some number else none

/-- The digits of another base than ten, by the letter behind the zero. -/
def baseOf? : Char → Option (Nat × (Char → Bool))
  | 'x' => some (16, fun digit => (Text.hexValue? digit).isSome)
  | 'o' => some (8, fun digit => '0' ≤ digit && digit ≤ '7')
  | 'b' => some (2, fun digit => digit == '0' || digit == '1')
  | _ => none

/-- A decimal integer. -/
def readDecimal (rest : List Char) : Option (Value × List Char) := do
  let (negative, unsigned) := readSign rest
  let (digits, after) ← readWhole unsigned
  let size : Int := valueOf 10 digits
  some (.integer (← inRange? (if negative then -size else size)), after)

/-- An integer. -/
def readInteger (rest : List Char) : Option (Value × List Char) :=
  match rest with
  | '0' :: letter :: behind =>
    match baseOf? letter with
    | some (base, isDigit) => do
      let (digits, after) ← readGrouped isDigit behind
      some (.integer (← inRange? (valueOf base digits)), after)
    | none => readDecimal rest
  | _ => readDecimal rest

/-- The exponent of a float; there need not be one. -/
def readExponent (rest : List Char) : Option (Int × List Char) :=
  match rest with
  | mark :: behind =>
    if mark = 'e' ∨ mark = 'E' then do
      let (negative, unsigned) := readSign behind
      let (digits, after) ← readGrouped Char.isDigit unsigned
      let size : Int := valueOf 10 digits
      some (if negative then -size else size, after)
    else
      some (0, rest)
  | [] => some (0, [])

/-- A float by its digits; it is refused when it is too large above zero. -/
def finite? (negative : Bool) (digits places : List Char) (exponent : Int) : Option Value :=
  let number := Decimal.toFloat ⟨valueOf 10 (digits ++ places), exponent - places.length⟩
  if negative then some (.float (-number))
  else if number.isInf then none
  else some (.float number)

/-- A float with a fraction, an exponent, or both. -/
def readFinite (rest : List Char) : Option (Value × List Char) := do
  let (negative, unsigned) := readSign rest
  let (digits, behind) ← readWhole unsigned
  match behind with
  | '.' :: fraction =>
    let (places, further) ← readGrouped Char.isDigit fraction
    let (exponent, after) ← readExponent further
    some (← finite? negative digits places exponent, after)
  | mark :: _ =>
    if mark = 'e' ∨ mark = 'E' then
      let (exponent, after) ← readExponent behind
      some (← finite? negative digits [] exponent, after)
    else
      none
  | [] => none

/-- Infinity, or no number. -/
def readSpecial (rest : List Char) : Option (Value × List Char) :=
  let (negative, unsigned) := readSign rest
  let infinite : Float := 1.0 / 0.0
  let undefined : Float := 0.0 / 0.0
  match unsigned with
  | 'i' :: 'n' :: 'f' :: after => some (.float (if negative then -infinite else infinite), after)
  | 'n' :: 'a' :: 'n' :: after => some (.float (if negative then -undefined else undefined), after)
  | _ => none

/-- A number of any kind. -/
def readNumber (rest : List Char) : Option (Value × List Char) :=
  readFinite rest <|> readSpecial rest <|> readInteger rest

end ModuleBridge.Toml
