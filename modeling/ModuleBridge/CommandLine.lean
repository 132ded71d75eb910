import ModuleBridge.Text.Cut

/-!
# Command lines

What a command line asks for.  Options of the tool may stand before or behind
the command, those of a command behind it; behind a lone `--` everything is an
operand.  An option may be given once at each of the two places, and a value
behind the command wins over one before it.

Faults are found from left to right.  The value of an option is looked at when
the next option or operand is, so a fault met in between hides a bad value.
-/

namespace ModuleBridge

namespace CommandLine

/-- Why a command line is not carried out. -/
inductive Usage where
  | help
  | version
  | nothingAsked
  | missingCommand
  | unknownCommand
  | unknownOption
  | badValue
  | givenTwice
  | unneededValue
  | missingOperand
  deriving DecidableEq, Repr, Inhabited

namespace Usage

/-- The name of a fault. -/
def name : Usage → String
  | .help => "DisplayHelp"
  | .version => "DisplayVersion"
  | .nothingAsked => "DisplayHelpOnMissingArgumentOrSubcommand"
  | .missingCommand => "MissingSubcommand"
  | .unknownCommand => "InvalidSubcommand"
  | .unknownOption => "UnknownArgument"
  | .badValue => "InvalidValue"
  | .givenTwice => "ArgumentConflict"
  | .unneededValue => "TooManyValues"
  | .missingOperand => "MissingRequiredArgument"

/-- The exit code: asking for help or for the version is no fault. -/
def exitCode : Usage → Nat
  | .help | .version => 0
  | _ => 2

end Usage

/-- The commands that do something. -/
inductive Verb where
  | resolve
  | filter
  | config
  deriving DecidableEq, Repr, Inhabited

/-- An option. -/
inductive Switch where
  | color
  | config
  | verbose
  | help
  | version
  | pretty
  | owner
  deriving DecidableEq, Repr, Inhabited

namespace Switch

/-- The name behind two dashes. -/
def long : Switch → String
  | .color => "color"
  | .config => "config"
  | .verbose => "verbose"
  | .help => "help"
  | .version => "version"
  | .pretty => "pretty"
  | .owner => "owner"

/-- The letter behind one dash. -/
def short? : Switch → Option Char
  | .color | .version => none
  | .config => some 'C'
  | .verbose => some 'V'
  | .help => some 'h'
  | .pretty => some 'p'
  | .owner => some 'o'

/-- The option has a value. -/
def takesValue : Switch → Bool
  | .color | .config | .owner => true
  | _ => false

/-- The option may be given again at the same place. -/
def repeats (switch : Switch) : Bool :=
  switch == .owner

/-- A value fits: a colour choice is one of three, a path is not empty. -/
def admits (switch : Switch) (value : String) : Bool :=
  match switch with
  | .color => ["auto", "always", "never"].contains value
  | .config | .owner => !value.isEmpty
  | _ => true

end Switch

/-- The options that are known before the command, or behind one. -/
def switches : Option Verb → List Switch
  | none => [.color, .config, .verbose, .help, .version]
  | some .resolve => [.pretty, .help, .color, .config, .verbose]
  | some .filter => [.help, .color, .config, .verbose]
  | some .config => [.owner, .help, .color, .config, .verbose]

/-- The command takes ids as its operands. -/
def takesIds : Option Verb → Bool
  | some .resolve | some .filter => true
  | _ => false

/-- The word of a command, in full or as one letter. -/
def verb? : String → Option Verb
  | "resolve" | "r" => some .resolve
  | "filter" | "f" => some .filter
  | "config" | "c" => some .config
  | _ => none

/-- What has been read at one place: before the command, or behind it. -/
structure Scan where
  given : List (Switch × String)
  /-- An option whose value is still to be looked at, if it has come. -/
  waiting? : Option (Switch × Option String)
  ids : List String
  deriving DecidableEq, Repr, Inhabited

namespace Scan

/-- Nothing has been read. -/
def start : Scan := ⟨[], none, []⟩

/-- The last value of an option. -/
def value? (scan : Scan) (switch : Switch) : Option String :=
  scan.given.reverse.lookup switch

/-- The option has been given. -/
def has (scan : Scan) (switch : Switch) : Bool :=
  (scan.value? switch).isSome

/-- The next word is the value of an option, unless it looks like an option itself. -/
def wantsValue (scan : Scan) : Bool :=
  match scan.waiting? with
  | some (_, none) => true
  | _ => false

/-- Takes an option with its value. -/
def give (scan : Scan) (switch : Switch) (value : String) : Except Usage Scan :=
  if scan.has switch ∧ !switch.repeats then .error .givenTwice
  else if switch.admits value then .ok { scan with given := scan.given ++ [(switch, value)] }
  else .error .badValue

/-- Looks at the value of the option that waits. -/
def settle (scan : Scan) : Except Usage Scan :=
  match scan.waiting? with
  | none => .ok scan
  | some (_, none) => .error .badValue
  | some (switch, some value) => { scan with waiting? := none }.give switch value

/-- Takes an option without a value; asking for help or for the version ends the reading. -/
def flag (scan : Scan) (switch : Switch) : Except Usage Scan := do
  let scan ← scan.settle
  match switch with
  | .help => .error .help
  | .version => .error .version
  | _ => scan.give switch "true"

/-- Takes an option that has a value, which may come with the next word. -/
def option (scan : Scan) (switch : Switch) (value? : Option String) : Except Usage Scan := do
  let scan ← scan.settle
  match value? with
  | some value => scan.give switch value
  | none => .ok { scan with waiting? := some (switch, none) }

/-- Reads what follows two dashes. -/
def long (verb? : Option Verb) (scan : Scan) (text : List Char) : Except Usage Scan :=
  let (name, value?) := match Text.cut? '=' text with
    | some (name, value) => (name, some (String.ofList value))
    | none => (text, none)
  match (switches verb?).find? fun switch => switch.long.toList == name with
  | none => .error .unknownOption
  | some switch =>
    if switch.takesValue then scan.option switch value?
    else if value?.isSome then .error .unneededValue
    else scan.flag switch

/-- A value behind a letter, perhaps with an equals sign before it. -/
def attached? : List Char → Option String
  | [] => none
  | '=' :: rest => some (String.ofList rest)
  | rest => some (String.ofList rest)

/-- Reads the letters that follow one dash. -/
def letters (verb? : Option Verb) : Scan → List Char → Except Usage Scan
  | scan, [] => .ok scan
  | scan, letter :: rest =>
    match (switches verb?).find? fun switch => switch.short? == some letter with
    | none => .error .unknownOption
    | some switch =>
      if switch.takesValue then scan.option switch (attached? rest)
      else (scan.flag switch).bind fun scan => letters verb? scan rest

/-- Takes an operand. -/
def operand (verb? : Option Verb) (scan : Scan) (word : String) : Except Usage Scan :=
  if takesIds verb? then
    scan.settle.map fun scan => { scan with ids := scan.ids ++ [word] }
  else
    .error (if verb?.isSome then .unknownOption else .unknownCommand)

/-- Takes a word that is no option: a value that is waited for, or an operand. -/
def word (verb? : Option Verb) (scan : Scan) (text : String) : Except Usage Scan :=
  match scan.waiting? with
  | some (switch, none) => .ok { scan with waiting? := some (switch, some text) }
  | _ => operand verb? scan text

/-- Reads one word that may be an option. -/
def read (verb? : Option Verb) (scan : Scan) (text : String) : Except Usage Scan :=
  match text.toList with
  | '-' :: '-' :: name => long verb? scan name
  | '-' :: letter :: rest => letters verb? scan (letter :: rest)
  | _ => word verb? scan text

end Scan

/-- The words of commands, the one that asks for help among them. -/
def isCommand (word : String) : Bool :=
  word == "help" || (verb? word).isSome

/-- Answers a request for help on a command. -/
def helpOn : List String → Usage
  | [] => .help
  | [command] => if isCommand command then .help else .unknownCommand
  | _ => .unknownCommand

/-- Reads the operands behind a lone `--`. -/
def readOperands (verb? : Option Verb) : Scan → List String → Except Usage Scan
  | scan, [] => .ok scan
  | scan, word :: rest =>
    if verb?.isNone ∧ isCommand word then .error .unknownOption
    else (scan.operand verb? word).bind fun scan => readOperands verb? scan rest

/-- Reads the words behind a command. -/
def readBehind (verb : Verb) : Scan → List String → Except Usage Scan
  | scan, [] => .ok scan
  | scan, "--" :: rest => readOperands (some verb) scan rest
  | scan, word :: rest =>
    (scan.read (some verb) word).bind fun scan => readBehind verb scan rest

/-- Reads a command with the words behind it; ids must not be missing where they are taken. -/
def readCommand (verb : Verb) (words : List String) : Except Usage Scan := do
  let scan ← readBehind verb .start words
  let scan ← scan.settle
  if takesIds (some verb) ∧ scan.ids.isEmpty then .error .missingOperand else .ok scan

/-- Reads words up to a command and the command: both scans, and which command it is. -/
def readWords : Scan → List String → Except Usage (Scan × Option (Verb × Scan))
  | scan, [] => .ok (scan, none)
  | scan, "--" :: rest => (readOperands none scan rest).map fun scan => (scan, none)
  | scan, word :: rest =>
    if scan.wantsValue ∨ !isCommand word then
      (scan.read none word).bind fun scan => readWords scan rest
    else
      match verb? word with
      | none => .error (helpOn rest)
      | some verb => do
        let behind ← readCommand verb rest
        .ok (scan, some (verb, behind))

end CommandLine

/-- What a command line asks for. -/
structure CommandLine where
  verb : CommandLine.Verb
  /-- The file to read the configuration from. -/
  config : String
  verbose : Bool
  pretty : Bool
  ids : List String
  owners : List String
  deriving DecidableEq, Repr, Inhabited

namespace CommandLine

/-- The configuration file that is looked for when none is named. -/
def standardConfig : String := "bridge.toml"

/-- Puts what was read before and behind a command together. -/
def ofScans (before : Scan) (verb : Verb) (behind : Scan) : CommandLine where
  verb := verb
  config := (behind.value? .config <|> before.value? .config).getD standardConfig
  verbose := before.has .verbose || behind.has .verbose
  pretty := behind.has .pretty
  ids := behind.ids
  owners := (behind.given.filter fun entry => entry.1 == .owner).map Prod.snd

/-- Reads a command line. -/
def parse (words : List String) : Except Usage CommandLine := do
  let (before, command?) ← readWords .start words
  let before ← before.settle
  match command? with
  | some (verb, behind) => .ok (ofScans before verb behind)
  | none => .error (if before.given.isEmpty then .nothingAsked else .missingCommand)

end CommandLine

end ModuleBridge
