import ModuleBridge.Inspect
import ModuleBridge.Text.Utf8

/-!
# The tool

Reads the command line and the files it may need, carries the command out, and
prints what came of it.
-/

namespace ModuleBridge.Main

/-- The content of a file, where there is one that can be read. -/
def readFile? (path : String) : IO (Option (Option String)) := do
  try
    let bytes ← IO.FS.readBinFile path
    return some (Text.decode? bytes.toList)
  catch _ =>
    return none

/-- The real path of a file, where there is one. -/
def realPath? (path : String) : IO (Option Path) := do
  try
    return some ⟨(← IO.FS.realPath path).toString⟩
  catch _ =>
    return none

/-- The places where a configuration file of this name may stand, the nearest first. -/
def candidates (working name : Path) : List Path :=
  if name.isAbsolute then [name]
  else (Disk.ancestry working.components).reverse.map fun folder => folder.join name

/-- A disk with the working directory and the files of some paths. -/
def readDisk (working : Path) (paths : List Path) : IO Disk := do
  let start := (Disk.empty.makeDirectories working).changeDirectory working
  paths.foldlM (fun disk path => do
    match ← readFile? path.text with
    | some text? => return disk.writeFile path text?
    | none => return disk) start

/-- The normal forms of paths. -/
def readNormalForms (working : Path) (paths : List Path) : IO (List (Path × Path)) :=
  paths.mapM fun path => do
    return (path, (← realPath? path.text).getD (working.join path).clean)

/-- Carries a command line out and prints what came of it: the exit code. -/
def carryOut (line : CommandLine) : IO UInt32 := do
  let working := Path.mk (← IO.currentDir).toString
  let disk ← readDisk working (candidates working ⟨line.config⟩)
  let forms ← readNormalForms working (line.owners.map Path.mk)
  let outcome := Inspect.run disk (fun path => (forms.lookup path).getD path) line
  IO.print outcome.console.text
  match outcome.failure? with
  | none => return 0
  | some message =>
    IO.eprintln ("Error: " ++ message)
    return 1

end ModuleBridge.Main

/-- Runs the tool. -/
def main (args : List String) : IO UInt32 := do
  match ModuleBridge.CommandLine.parse args with
  | .ok line => ModuleBridge.Main.carryOut line
  | .error usage =>
    IO.eprintln usage.name
    return usage.exitCode.toUInt32
