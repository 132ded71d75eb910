import ModuleBridge.Config.Check
import ModuleBridge.Config.Decode
import ModuleBridge.Disk
import ModuleBridge.Toml.Document

/-!
# Configuration files

A configuration file is read, decoded and checked.  A file given by a relative
path is looked for in the working directory and every directory above it.
-/

namespace ModuleBridge

/-- Why there is no configuration. -/
inductive ConfigFault where
  /-- The file cannot be read. -/
  | unreadable (path : Path)
  /-- The file is no document, or a field of it is of the wrong kind. -/
  | malformed
  /-- The configuration does not fit what the host supplies. -/
  | invalid (message : String)
  /-- The check found complaints. -/
  | rejected (report : Report)
  deriving DecidableEq, Repr, Inhabited

/-- The message of a fault. -/
def ConfigFault.message : ConfigFault → String
  | .unreadable path => "IO error when reading `" ++ path.text ++ "`"
  | .malformed => "Config file parsing error"
  | .invalid message => "Config validation error: " ++ message
  | .rejected report => report.render

namespace Config

/-- Reads a configuration from the text of a document. -/
def ofText (text : String) : Except ConfigFault Config :=
  match (Toml.parse? text).bind ofTable? with
  | some config => .ok config
  | none => .error .malformed

/-- Prints the cautions of the check and refuses a configuration with complaints. -/
def validate (config : Config) (console : Console) : Console × Except ConfigFault Unit :=
  let report := config.check
  (report.printCautions console, if report.isClean then .ok () else .error (.rejected report))

/-- Prints which keys of a file nothing asks for. -/
def warnUnknown (path : Path) (unknown : List String) (console : Console) : Console :=
  if unknown.isEmpty then
    console
  else
    console.log "warn"
      ("unknown fields in " ++ path.fileName?.getD path.text ++ ": " ++
        String.intercalate ", " unknown)

/-- Reads a configuration file and checks it. -/
def load (disk : Disk) (path : Path) (console : Console) : Console × Except ConfigFault Config :=
  match disk.readText path with
  | .error _ => (console, .error (.unreadable path))
  | .ok text =>
    match Toml.parse? text with
    | none => (console, .error .malformed)
    | some table =>
      match ofTable? table with
      | none => (console, .error .malformed)
      | some config =>
        let config := { config with file? := some path }
        let (console, outcome) := config.validate (warnUnknown path (unknownFields table) console)
        (console, outcome.map fun _ => config)

/-- The file of this name in the nearest of some directories. -/
def nearest? (disk : Disk) (name : Path) (folders : List Path) : Option Path :=
  (folders.map fun folder => folder.join name).find? disk.isFile

/-- Finds a configuration file. -/
def find? (disk : Disk) (name : Path) : Option Path :=
  if name.isAbsolute then
    if disk.exists? name then some name else none
  else
    nearest? disk name (Disk.ancestry disk.workingPath.components).reverse

end Config

end ModuleBridge
