import ModuleBridge.CommandLine
import ModuleBridge.Encode

/-!
# Inspecting a configuration

The tool that shows how a bridge would see module ids and files: what an id is
read as, which ids the filter accepts, and which pipeline owns a file.
-/

namespace ModuleBridge.Inspect

/-- What a command printed, and why it failed when it did. -/
structure Outcome where
  console : Console
  failure? : Option String
  deriving DecidableEq, Repr, Inhabited

/-- Prints a line as it is. -/
def printLine (line : String) (console : Console) : Console :=
  console.put [.write (line ++ "\n")]

/-- Prints lines as they are. -/
def printLines (lines : List String) (console : Console) : Console :=
  lines.foldl (fun console line => printLine line console) console

/-- An outcome without a failure. -/
def done (console : Console) : Outcome := ⟨console, none⟩

/-- What an id is read as, in JSON. -/
def describe (config : Config) (filter : Filter) (id : String) : Json :=
  let resource := Resource.parse config.resolve id
  .object [("accepted", .boolean (filter.accepts id)), ("path", resource.path.toJson),
    ("raw_id", .string resource.id), ("query", resource.query.toJson)]

/-- Prints what ids are read as. -/
def resolve (config : Config) (filter : Filter) (ids : List String) (pretty : Bool)
    (console : Console) : Console :=
  let found := Json.list (describe config filter) ids
  printLine (if pretty then found.pretty else found.compact) console

/-- The line that says whether an id is accepted. -/
def verdict (filter : Filter) (id : String) : String :=
  if filter.accepts id then Text.paint .green "accept" ++ " " ++ id
  else Text.dim "reject" ++ " " ++ id

/-- Text filled up with blanks to a width. -/
def padded (width : Nat) (text : String) : String :=
  text ++ String.ofList (List.replicate (width - text.length) ' ')

/-- The line of a pipeline in the table of pipelines. -/
def pipelineLine (entry : PipelineEntry) : String :=
  let scope :=
    if entry.scope.isEmpty then "(catch-all)" else String.intercalate ", " entry.scope
  Text.paint .green (if entry.main then "*" else " ") ++ " " ++
    Text.bold (padded 16 entry.name) ++ " " ++ padded 7 entry.target.name ++ " " ++ scope ++
    "  [" ++ String.intercalate ", " (entry.capabilities.map Capability.name) ++ "]"

/-- The line that says which pipeline owns a file. -/
def ownerLine (plugins : Plugins) (path : Path) : String :=
  let remark := if plugins.isServerScoped path then " (server)" else ""
  path.text ++ " -> " ++ Text.paint .cyan (plugins.owner path).name ++ remark

/-- A truth value in running text. -/
def yesNo (on : Bool) : String :=
  if on then "true" else "false"

/-- The lines about a configuration as a whole. -/
def summary (config : Config) : List String :=
  let origin := match config.file? with
    | none => Text.dim "no config file, showing defaults"
    | some file => Text.bold "config" ++ " " ++ file.text
  [origin, "hot: " ++ yesNo config.hotEnabled ++ "  style production: " ++
    yesNo config.styleProduction]

/-- Prints which pipelines own files. -/
def showOwners (config : Config) (files : List Path) (console : Console) : Outcome :=
  match Plugins.bind config.pipelines (config.pipelines.map PipelineEntry.name) console with
  | (console, .error fault) => ⟨console, some fault.message⟩
  | (console, .ok plugins) => done (printLines ("" :: files.map (ownerLine plugins)) console)

/-- Prints a configuration, its pipelines, and the owners of files in their normal form. -/
def showConfig (config : Config) (files : List Path) (console : Console) : Outcome :=
  let console := printLines (summary config) console
  if config.pipelines.isEmpty then
    done (printLine (Text.paint .yellow "no pipelines configured") console)
  else
    let console := printLines (config.pipelines.map pipelineLine) console
    if files.isEmpty then done console else showOwners config files console

/-- Carries a command out on a configuration. -/
def perform (config : Config) (normalise : Path → Path) (line : CommandLine)
    (console : Console) : Outcome :=
  match line.verb with
  | .config => showConfig config (line.owners.map fun owner => normalise ⟨owner⟩) console
  | .resolve | .filter =>
    match Filter.ofSettings config.filter with
    | .error refusal => ⟨console, some refusal.message⟩
    | .ok filter =>
      done (if line.verb = .resolve then resolve config filter line.ids line.pretty console
        else printLines (line.ids.map (verdict filter)) console)

/-- Finds and reads the configuration; one of the usual name may be missing. -/
def loadConfig (disk : Disk) (name : Path) (console : Console) :
    Console × Except String Config :=
  match Config.find? disk name with
  | some path =>
    let (console, outcome) := Config.load disk path console
    (console, outcome.mapError fun _ => "failed to load " ++ path.text)
  | none =>
    if name.same ⟨CommandLine.standardConfig⟩ then
      (console.debug "config" ("no " ++ name.text ++ " found, using defaults"), .ok .standard)
    else
      (console, .error ("config file not found: " ++ name.text))

/-- Carries a command line out. -/
def run (disk : Disk) (normalise : Path → Path) (line : CommandLine) : Outcome :=
  match loadConfig disk ⟨line.config⟩ (.start line.verbose) with
  | (console, .error message) => ⟨console, some message⟩
  | (console, .ok config) => perform config normalise line console

end ModuleBridge.Inspect
