/-!
# Coloured text

Text painted for a terminal.  A colour is switched on before the text and the
default colour after it; bold and dim are switched off by a full reset.
-/

namespace ModuleBridge.Text

/-- The colours in use. -/
inductive Colour where
  | red
  | green
  | yellow
  | cyan
  | brightRed
  | brightGreen
  | brightYellow
  | brightBlue
  deriving DecidableEq, Repr

/-- The number that switches a colour on. -/
def Colour.code : Colour → Nat
  | .red => 31
  | .green => 32
  | .yellow => 33
  | .cyan => 36
  | .brightRed => 91
  | .brightGreen => 92
  | .brightYellow => 93
  | .brightBlue => 94

/-- The control sequence that sets a text attribute. -/
def control (code : Nat) : String :=
  "\x1b[" ++ toString code ++ "m"

/-- Text in a colour. -/
def paint (colour : Colour) (text : String) : String :=
  control colour.code ++ text ++ control 39

/-- Bold text. -/
def bold (text : String) : String :=
  control 1 ++ text ++ control 0

/-- Dim text. -/
def dim (text : String) : String :=
  control 2 ++ text ++ control 0

end ModuleBridge.Text
