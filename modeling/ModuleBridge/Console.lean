import ModuleBridge.Text.Cut
import ModuleBridge.Text.Paint

/-!
# Console

What is printed: log lines, each behind the name of the part that speaks, and
one status block that every status message writes anew.  A status message first
moves up over the lines of the message before and clears them.

Output is a list of commands to a terminal, so that its effect on a screen can
be spoken about; `render` is the text that reaches the terminal.
-/

namespace ModuleBridge

namespace Console

/-- What a terminal is told. -/
inductive Command where
  /-- Text to show; a line feed in it goes to the start of the next line. -/
  | write (text : String)
  | moveUp (rows : Nat)
  /-- Clears from the cursor to the end of the screen. -/
  | clearBelow
  /-- Clears from the cursor to the end of the line. -/
  | clearLine
  deriving DecidableEq, Repr, Inhabited

/-- The text of a command. -/
def Command.render : Command → String
  | .write text => text
  | .moveUp rows => "\x1b[" ++ toString rows ++ "A"
  | .clearBelow => "\x1b[J"
  | .clearLine => "\x1b[K"

end Console

/-- A console: what it has printed, and how high its status block is. -/
structure Console where
  /-- Debug lines are printed. -/
  verbose : Bool
  /-- The time of day in seconds. -/
  clock : Nat
  /-- The lines of the last status message. -/
  height : Nat
  output : List Console.Command
  deriving DecidableEq, Repr, Inhabited

namespace Console

/-- A console that has printed nothing. -/
def start (verbose : Bool) : Console :=
  ⟨verbose, 0, 0, []⟩

/-- The text that has reached the terminal. -/
def text (console : Console) : String :=
  String.join (console.output.map Command.render)

/-- The console after further commands. -/
def put (console : Console) (commands : List Command) : Console :=
  { console with output := console.output ++ commands }

/-- The name of a part in brackets, in the colour of its kind. -/
def heading (part : String) : String :=
  let colour : Text.Colour :=
    match String.ofList (part.toList.map Char.toLower) with
    | "hot" => .brightBlue
    | "watch" => .brightGreen
    | "error" => .brightRed
    | "warn" => .yellow
    | _ => .brightYellow
  Text.bold (Text.paint colour ("[" ++ part ++ "]"))

/-- Prints a log line. -/
def log (console : Console) (part message : String) : Console :=
  console.put [.clearLine, .write (heading part ++ " " ++ message ++ "\n")]

/-- Prints a log line that only a verbose console shows. -/
def debug (console : Console) (part message : String) : Console :=
  if console.verbose then console.log part message else console

/-- A number with two digits. -/
def twoDigits (number : Nat) : String :=
  (if number < 10 then "0" else "") ++ toString number

/-- The time of day as hours, minutes and seconds. -/
def timeOfDay (seconds : Nat) : String :=
  twoDigits (seconds / 3600 % 24) ++ ":" ++ twoDigits (seconds / 60 % 60) ++ ":" ++
    twoDigits (seconds % 60)

/-- The number of lines a message takes. -/
def lineCount (message : String) : Nat :=
  message.toList.count '\n' + 1

/-- The most rows a terminal can be told to move, plus one. -/
def rowLimit : Nat := 65536

/-- Writes the status block anew: the time, a symbol where there is one, and the message. -/
def status (console : Console) (symbol message : String) : Console :=
  let erase : List Command :=
    if console.height = 0 then [] else [.moveUp (console.height % rowLimit), .clearBelow]
  let stamp := Text.dim ("[" ++ timeOfDay console.clock ++ "]")
  let line := stamp ++ " " ++ (if symbol.isEmpty then "" else symbol ++ " ") ++ message ++ "\n"
  { console.put (erase ++ [.write line]) with height := lineCount message }

/-- Reports success. -/
def success (console : Console) (message : String) : Console :=
  console.status (Text.paint .green "✓") message

/-- Reports that nothing changed. -/
def unchanged (console : Console) (message : String) : Console :=
  console.status "" (Text.dim message)

/-- Reports a failure, with its detail on further lines. -/
def failure (console : Console) (summary detail : String) : Console :=
  console.status (Text.paint .red "✗")
    (if detail.isEmpty then summary else summary ++ "\n" ++ detail)

/-- Reports a warning. -/
def warning (console : Console) (detail : String) : Console :=
  console.status (Text.paint .yellow "⚠") detail

end Console

end ModuleBridge
