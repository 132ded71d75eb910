import ModuleBridge.Text.Hex

/-!
# Quoted text

A text as a JSON string: quotes and backslashes are escaped, control
characters have a short escape or a numeric one, and every other character
stands for itself.
-/

namespace ModuleBridge.Text

/-- How one character is written between quotes. -/
def quotedChar (letter : Char) : List Char :=
  match letter with
  | '"' => ['\\', '"']
  | '\\' => ['\\', '\\']
  | '\n' => ['\\', 'n']
  | '\r' => ['\\', 'r']
  | '\t' => ['\\', 't']
  | '\x08' => ['\\', 'b']
  | '\x0c' => ['\\', 'f']
  | other =>
    if other.toNat < 0x20 then
      ['\\', 'u', '0', '0'] ++ hexByte (UInt8.ofNat other.toNat)
    else
      [other]

/-- The text as a JSON string. -/
def quoted (text : String) : String :=
  String.ofList ('"' :: text.toList.flatMap quotedChar ++ ['"'])

end ModuleBridge.Text
