/-!
# Decimal numbers

Reading a decimal number as a binary one, and the shortest decimal number that
reads back as a given binary one.

A finite binary number is `m · 2 ^ q`.  The numbers that round to it fill an
interval that ends halfway to its neighbours, with the ends included when `m`
is even.  On a grid of powers of ten, the two grid points around the number are
tried; the first grid with a point in the interval gives the digits, and of two
points the nearer one is taken.
-/

namespace ModuleBridge

/-- The digits of a number and the power of ten of the last digit. -/
structure Decimal where
  digits : Nat
  exponent : Int
  deriving DecidableEq, Repr, Inhabited

namespace Decimal

/-- Beyond this power of ten every binary number is infinite, and below its inverse zero. -/
def range : Int := 400

/-- The number of digits of a natural number. -/
def width (number : Nat) : Nat :=
  (Nat.toDigits 10 number).length

/-- The binary number nearest to a decimal one. -/
def toFloat (decimal : Decimal) : Float :=
  let top := decimal.exponent + width decimal.digits
  if decimal.digits = 0 ∨ top < -range then
    0.0
  else if range < top then
    1.0 / 0.0
  else
    Float.ofScientific decimal.digits (decimal.exponent < 0) decimal.exponent.natAbs

/-- A positive finite binary number `m · 2 ^ q`. -/
structure Binary where
  mantissa : Nat
  power : Int
  /-- The number stands alone at the bottom of its power: the gap below is half as wide. -/
  narrowBelow : Bool
  deriving DecidableEq, Repr, Inhabited

/-- The bits of a binary number's fraction count below this. -/
def fractionLimit : Nat := Nat.pow 2 52

/-- The bits of a binary number's exponent count below this. -/
def exponentLimit : Nat := Nat.pow 2 11

/-- The bits of a binary number without its sign count below this. -/
def signLimit : Nat := fractionLimit * exponentLimit

/-- The parts of a finite binary number other than zero, without its sign. -/
def Binary.ofBits (bits : Nat) : Binary :=
  let fraction := bits % fractionLimit
  let exponent := bits / fractionLimit % exponentLimit
  if exponent = 0 then
    ⟨fraction, -1074, false⟩
  else
    ⟨fractionLimit + fraction, Int.ofNat exponent - 1075, fraction == 0 && 1 < exponent⟩

/-- A fraction of natural numbers. -/
structure Ratio where
  numerator : Nat
  denominator : Nat
  deriving DecidableEq, Repr, Inhabited

/-- A natural number times a power of a base. -/
def Ratio.scaled (base number : Nat) (power : Int) : Ratio :=
  if power < 0 then ⟨number, Nat.pow base power.natAbs⟩
  else ⟨number * Nat.pow base power.natAbs, 1⟩

/-- Compares two fractions. -/
def Ratio.lt (left right : Ratio) : Bool :=
  left.numerator * right.denominator < right.numerator * left.denominator

/-- A fraction lies between two others, which belong to the interval when `closed`. -/
def Ratio.isBetween (value low high : Ratio) (closed : Bool) : Bool :=
  if closed then !value.lt low && !high.lt value else low.lt value && value.lt high

/-- The lower end of the interval of numbers that round to a binary number. -/
def Binary.low (number : Binary) : Ratio :=
  if number.narrowBelow then
    .scaled 2 (4 * number.mantissa - 1) (number.power - 2)
  else
    .scaled 2 (2 * number.mantissa - 1) (number.power - 1)

/-- The upper end of the interval of numbers that round to a binary number. -/
def Binary.high (number : Binary) : Ratio :=
  .scaled 2 (2 * number.mantissa + 1) (number.power - 1)

/-- The grid point at or below a fraction, counted in units of a power of ten. -/
def gridFloor (value : Ratio) (exponent : Int) : Nat :=
  if exponent < 0 then
    value.numerator * Nat.pow 10 exponent.natAbs / value.denominator
  else
    value.numerator / (value.denominator * Nat.pow 10 exponent.natAbs)

/-- The distance between two fractions over the product of their denominators. -/
def distance (left right : Ratio) : Nat :=
  let near := left.numerator * right.denominator
  let far := right.numerator * left.denominator
  if near < far then far - near else near - far

/-- The grid point in the interval that is nearest to the number; a tie takes the even one. -/
def onGrid? (number : Binary) (exponent : Int) : Option Nat :=
  let value := Ratio.scaled 2 number.mantissa number.power
  let below := gridFloor value exponent
  let point := fun (count : Nat) => Ratio.scaled 10 count exponent
  let inside := fun (count : Nat) =>
    0 < count && (point count).isBetween number.low number.high (number.mantissa % 2 == 0)
  match inside below, inside (below + 1) with
  | true, true =>
    let down := distance value (point below)
    let up := distance value (point (below + 1))
    some (if down < up ∨ (down = up ∧ below % 2 = 0) then below else below + 1)
  | true, false => some below
  | false, true => some (below + 1)
  | false, false => none

/-- The first grid with a point in the interval, from coarse to fine. -/
def firstGrid (number : Binary) : Nat → Int → Decimal
  | 0, exponent => ⟨(onGrid? number exponent).getD 0, exponent⟩
  | bound + 1, exponent =>
    match onGrid? number exponent with
    | some count => ⟨count, exponent⟩
    | none => firstGrid number bound (exponent - 1)

/-- Takes zeros off the end of the digits. -/
def trim : Nat → Decimal → Decimal
  | 0, decimal => decimal
  | bound + 1, decimal =>
    if decimal.digits % 10 = 0 ∧ decimal.digits ≠ 0 then
      trim bound ⟨decimal.digits / 10, decimal.exponent + 1⟩
    else
      decimal

/-- A power of ten above every number of this size. -/
def ceilingPower (number : Binary) : Int :=
  (number.power + Nat.log2 number.mantissa + 1) * 3 / 10 + 2

/-- The shortest decimal number that reads back as a positive finite binary number. -/
def shortest (bits : Nat) : Decimal :=
  let number := Binary.ofBits bits
  trim 20 (firstGrid number 400 (ceilingPower number))

/-- The digits of a number with a mark before the last `places` of them. -/
def pointed (digits : Nat) (places : Nat) : String :=
  let text := Nat.toDigits 10 digits
  let padded := List.replicate (places + 1 - text.length) '0' ++ text
  let cut := padded.length - places
  String.ofList (padded.take cut ++ '.' :: padded.drop cut)

/--
The text of a decimal number: with a point where the number is between `10⁻⁵`
and `10¹⁶`, otherwise with one digit before the point and an exponent.
-/
def render (decimal : Decimal) : String :=
  let count := width decimal.digits
  let top := decimal.exponent + count
  if 0 ≤ decimal.exponent ∧ top ≤ 16 then
    toString (decimal.digits * Nat.pow 10 decimal.exponent.natAbs) ++ ".0"
  else if decimal.exponent < 0 ∧ -5 < top ∧ top ≤ 16 then
    pointed decimal.digits decimal.exponent.natAbs
  else
    let head := if count = 1 then toString decimal.digits else pointed decimal.digits (count - 1)
    head ++ "e" ++ toString (top - 1)

end Decimal

/-- The text of a finite number, with a point or an exponent; there is none for others. -/
def renderFloat? (number : Float) : Option String :=
  let bits := number.toBits.toNat
  let sign := if Decimal.signLimit ≤ bits then "-" else ""
  let size := bits % Decimal.signLimit
  if Decimal.signLimit - Decimal.fractionLimit ≤ size then none
  else if size = 0 then some (sign ++ "0.0")
  else some (sign ++ (Decimal.shortest size).render)

end ModuleBridge
