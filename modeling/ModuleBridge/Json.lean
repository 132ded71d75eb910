import ModuleBridge.Text.Quoted

/-!
# JSON text

JSON values and their text: on one line, or with one entry to a line and two
blanks for every level.  The entries of an object are written in the order in
which they stand.
-/

namespace ModuleBridge

/-- A JSON value; a number is its text. -/
inductive Json where
  | null
  | boolean (on : Bool)
  | number (text : String)
  | string (text : String)
  | array (items : List Json)
  | object (entries : List (String × Json))
  deriving Repr, Inhabited

namespace Json

/-- A natural number. -/
def natural (number : Nat) : Json :=
  .number (toString number)

/-- The value of an option, or null. -/
def orNull (value? : Option Json) : Json :=
  value?.getD .null

/-- A text, or null. -/
def text? (value? : Option String) : Json :=
  orNull (value?.map string)

/-- A list of texts. -/
def texts (items : List String) : Json :=
  .array (items.map string)

mutual

/-- The text of a value on one line. -/
def compact : Json → String
  | .null => "null"
  | .boolean true => "true"
  | .boolean false => "false"
  | .number text => text
  | .string text => Text.quoted text
  | .array items => "[" ++ String.intercalate "," (compactItems items) ++ "]"
  | .object entries => "\x7b" ++ String.intercalate "," (compactEntries entries) ++ "\x7d"

/-- The texts of the items of an array. -/
def compactItems : List Json → List String
  | [] => []
  | item :: rest => item.compact :: compactItems rest

/-- The texts of the entries of an object. -/
def compactEntries : List (String × Json) → List String
  | [] => []
  | (key, value) :: rest => (Text.quoted key ++ ":" ++ value.compact) :: compactEntries rest

end

/-- The blanks in front of a line. -/
def indentation (level : Nat) : String :=
  "\n" ++ String.ofList (List.replicate (2 * level) ' ')

/-- Lines between an opening and a closing bracket; without lines, the bare brackets. -/
def block (level : Nat) (opening closing : String) (lines : List String) : String :=
  if lines.isEmpty then
    opening ++ closing
  else
    opening ++ String.intercalate "," (lines.map (indentation (level + 1) ++ ·)) ++
      indentation level ++ closing

mutual

/-- The text of a value with one entry to a line, at a level of nesting. -/
def prettyAt (level : Nat) : Json → String
  | .array items => block level "[" "]" (prettyItems (level + 1) items)
  | .object entries => block level "\x7b" "\x7d" (prettyEntries (level + 1) entries)
  | .null => "null"
  | .boolean true => "true"
  | .boolean false => "false"
  | .number text => text
  | .string text => Text.quoted text

/-- The texts of the items of an array at their level. -/
def prettyItems (level : Nat) : List Json → List String
  | [] => []
  | item :: rest => item.prettyAt level :: prettyItems level rest

/-- The texts of the entries of an object at their level. -/
def prettyEntries (level : Nat) : List (String × Json) → List String
  | [] => []
  | (key, value) :: rest =>
    (Text.quoted key ++ ": " ++ value.prettyAt level) :: prettyEntries level rest

end

/-- The text of a value with one entry to a line. -/
def pretty (value : Json) : String :=
  value.prettyAt 0

end Json

end ModuleBridge
