/-!
# TOML values

The values a TOML document holds.  A table lists its keys in the order in
which the document brought them in.  Dates and times are kept as their text.
-/

namespace ModuleBridge.Toml

/-- A TOML value. -/
inductive Value where
  | string (text : String)
  | integer (number : Int)
  | float (number : Float)
  | boolean (on : Bool)
  | datetime (text : String)
  | array (items : List Value)
  | table (entries : List (String × Value))
  deriving Repr, Inhabited

/-- The entries of a table. -/
abbrev Table := List (String × Value)

end ModuleBridge.Toml
