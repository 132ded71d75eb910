import ModuleBridge.Pattern.CharSet
import ModuleBridge.Pattern.Table.Alphabetic
import ModuleBridge.Pattern.Table.Digit
import ModuleBridge.Pattern.Table.Numeric
import ModuleBridge.Pattern.Table.WordMark
import ModuleBridge.Text.Blank

/-!
# Named character classes

The classes a pattern can name: digits, white space and word characters, in
their Unicode and in their ASCII form, the bracketed ASCII classes, and the two
Unicode properties that are known by name.
-/

namespace ModuleBridge.Pattern.Class

/-- Decimal digits. -/
def digit (unicode : Bool) : CharSet :=
  if unicode then ⟨digitRanges⟩ else ⟨[(0x30, 0x39)]⟩

/-- White space. -/
def space (unicode : Bool) : CharSet :=
  if unicode then ⟨Text.blankRanges⟩ else ⟨[(0x9, 0xD), (0x20, 0x20)]⟩

/-- The characters of words in any script. -/
def unicodeWord : CharSet :=
  CharSet.ofRanges (alphabeticRanges ++ digitRanges ++ wordMarkRanges)

/-- The characters of words. -/
def word (unicode : Bool) : CharSet :=
  if unicode then unicodeWord else ⟨[(0x30, 0x39), (0x41, 0x5A), (0x5F, 0x5F), (0x61, 0x7A)]⟩

/-- The code point is alphabetic. -/
def isAlphabetic (point : Nat) : Bool :=
  CharSet.contains ⟨alphabeticRanges⟩ point

/-- The code point is alphabetic or a number. -/
def isAlphanumeric (point : Nat) : Bool :=
  isAlphabetic point || CharSet.contains ⟨digitRanges⟩ point ||
    CharSet.contains ⟨otherNumberRanges⟩ point

/-- An ASCII class by its name between `[:` and `:]`. -/
def ascii? (name : String) : Option CharSet :=
  match name with
  | "alnum" => some ⟨[(0x30, 0x39), (0x41, 0x5A), (0x61, 0x7A)]⟩
  | "alpha" => some ⟨[(0x41, 0x5A), (0x61, 0x7A)]⟩
  | "ascii" => some ⟨[(0x0, 0x7F)]⟩
  | "blank" => some ⟨[(0x9, 0x9), (0x20, 0x20)]⟩
  | "cntrl" => some ⟨[(0x0, 0x1F), (0x7F, 0x7F)]⟩
  | "digit" => some ⟨[(0x30, 0x39)]⟩
  | "graph" => some ⟨[(0x21, 0x7E)]⟩
  | "lower" => some ⟨[(0x61, 0x7A)]⟩
  | "print" => some ⟨[(0x20, 0x7E)]⟩
  | "punct" => some ⟨[(0x21, 0x2F), (0x3A, 0x40), (0x5B, 0x60), (0x7B, 0x7E)]⟩
  | "space" => some ⟨[(0x9, 0xD), (0x20, 0x20)]⟩
  | "upper" => some ⟨[(0x41, 0x5A)]⟩
  | "word" => some ⟨[(0x30, 0x39), (0x41, 0x5A), (0x5F, 0x5F), (0x61, 0x7A)]⟩
  | "xdigit" => some ⟨[(0x30, 0x39), (0x41, 0x46), (0x61, 0x66)]⟩
  | _ => none

/-- A property name without case, blanks, underscores, hyphens and a leading `is`. -/
def normaliseName (name : List Char) : String :=
  let body := match name with
    | first :: second :: rest =>
      if first.toLower = 'i' ∧ second.toLower = 's' then rest else name
    | _ => name
  String.ofList ((body.filter fun letter =>
    letter.toNat < 0x80 && letter != ' ' && letter != '_' && letter != '-').map Char.toLower)

/-- A general category by its normalised name. -/
def category? (name : String) : Option CharSet :=
  if ["nd", "decimalnumber", "digit"].contains name then some ⟨digitRanges⟩ else none

/-- A property by its normalised name. -/
def property? (name : String) : Option CharSet :=
  if ["whitespace", "wspace", "space"].contains name then
    some ⟨Text.blankRanges⟩
  else
    category? name

/-- A property by the text between the braces: a name, or a name and a value. -/
def named? (text : List Char) : Option (Bool × CharSet) :=
  let valued := fun (negated : Bool) (name value : List Char) =>
    if ["gc", "generalcategory"].contains (normaliseName name) then
      (category? (normaliseName value)).map fun set => (negated, set)
    else
      none
  let unequal := (List.range text.length).find? fun index =>
    (text.drop index).take 2 == ['!', '=']
  match unequal, text.span (· != ':'), text.span (· != '=') with
  | some index, _, _ => valued true (text.take index) (text.drop (index + 2))
  | none, (name, _ :: value), _ => valued false name value
  | none, _, (name, _ :: value) => valued false name value
  | none, _, _ => (property? (normaliseName text)).map fun set => (false, set)

end ModuleBridge.Pattern.Class
