import ModuleBridge.Toml.Number

/-!
# Dates and times in TOML

A date, a time, or both, with an offset behind both.  Every part is checked
against the calendar and the clock; a minute may have a leap second.  The text
kept has a capital `T`, no zeros at the end of a fraction, and hours and minutes
in an offset.
-/

namespace ModuleBridge.Toml

/-- A fixed number of digits with a value in a range. -/
def readField (count low high : Nat) (rest : List Char) : Option (Nat × List Char) :=
  let digits := rest.take count
  let value := valueOf 10 digits
  if digits.length = count ∧ digits.all Char.isDigit ∧ low ≤ value ∧ value ≤ high then
    some (value, rest.drop count)
  else
    none

/-- A known character. -/
def readMark (mark : Char) : List Char → Option (Unit × List Char)
  | found :: rest => if found = mark then some ((), rest) else none
  | [] => none

/-- A number filled up with zeros to a width. -/
def filled (width number : Nat) : List Char :=
  let digits := Nat.toDigits 10 number
  List.replicate (width - digits.length) '0' ++ digits

/-- A year with a day on its twenty-ninth of February. -/
def isLeap (year : Nat) : Bool :=
  (year % 4 == 0 && year % 100 != 0) || year % 400 == 0

/-- The number of days in a month. -/
def daysIn (year month : Nat) : Nat :=
  if month = 2 then (if isLeap year then 29 else 28)
  else if month = 4 ∨ month = 6 ∨ month = 9 ∨ month = 11 then 30
  else 31

/-- A date. -/
def readDate (rest : List Char) : Option (List Char × List Char) := do
  let (year, rest) ← readField 4 0 9999 rest
  let (_, rest) ← readMark '-' rest
  let (month, rest) ← readField 2 1 12 rest
  let (_, rest) ← readMark '-' rest
  let (day, rest) ← readField 2 1 (daysIn year month) rest
  some (filled 4 year ++ '-' :: filled 2 month ++ '-' :: filled 2 day, rest)

/-- The fraction of a second: at most nine digits count. -/
def readFraction : List Char → Option (List Char × List Char)
  | '.' :: rest =>
    let digits := rest.takeWhile Char.isDigit
    let kept := ((digits.take 9).reverse.dropWhile (· == '0')).reverse
    if digits.isEmpty then none
    else some (if kept.isEmpty then [] else '.' :: kept, rest.drop digits.length)
  | rest => some ([], rest)

/-- A time of day. -/
def readTime (rest : List Char) : Option (List Char × List Char) := do
  let (hour, rest) ← readField 2 0 23 rest
  let (_, rest) ← readMark ':' rest
  let (minute, rest) ← readField 2 0 59 rest
  let (_, rest) ← readMark ':' rest
  let (second, rest) ← readField 2 0 60 rest
  let (fraction, rest) ← readFraction rest
  some (filled 2 hour ++ ':' :: filled 2 minute ++ ':' :: filled 2 second ++ fraction, rest)

/-- An offset behind a time; there need not be one. -/
def readOffset : List Char → Option (List Char × List Char)
  | 'Z' :: rest => some (['Z'], rest)
  | 'z' :: rest => some (['Z'], rest)
  | sign :: rest =>
    if sign = '+' ∨ sign = '-' then do
      let (hour, rest) ← readField 2 0 23 rest
      let (_, rest) ← readMark ':' rest
      let (minute, rest) ← readField 2 0 59 rest
      let sign := if hour = 0 ∧ minute = 0 then '+' else sign
      some (sign :: filled 2 hour ++ ':' :: filled 2 minute, rest)
    else
      some ([], sign :: rest)
  | [] => some ([], [])

/-- The time and offset behind a date; there need not be any. -/
def readTimeBehindDate (rest : List Char) : Option (List Char × List Char) :=
  let timed? := match rest with
    | mark :: behind =>
      if mark = 'T' ∨ mark = 't' ∨ mark = ' ' then do
        let (time, behind) ← readTime behind
        let (offset, after) ← readOffset behind
        some ('T' :: time ++ offset, after)
      else
        none
    | [] => none
  timed? <|> some ([], rest)

/-- A date, a time, or both. -/
def readMoment (rest : List Char) : Option (Value × List Char) :=
  let dated? := do
    let (date, behind) ← readDate rest
    let (time, after) ← readTimeBehindDate behind
    some (.datetime (String.ofList (date ++ time)), after)
  dated? <|> (readTime rest).map fun (time, after) => (.datetime (String.ofList time), after)

end ModuleBridge.Toml
