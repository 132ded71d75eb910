import ModuleBridge.Disk
import ModuleBridge.Extraction
import ModuleBridge.Filter
import ModuleBridge.Plugins
import ModuleBridge.Record

/-!
# Settings

All that surrounds a bridge: its configuration, the disk, and the collaborators
that the host supplies.  Collaborators are functions; what they are asked is
kept in the journal of the bridge.
-/

namespace ModuleBridge

/-- What a pipeline is to build. -/
structure BuildOrder where
  /-- Only this part of the file. -/
  selector? : Option String
  options : Options
  deriving Repr, Inhabited

/-- How a build ends. -/
inductive BuildAnswer where
  | built (artifact : Artifact) (diagnostics : List Diagnostic)
  | nothing
  | failed (message : String)
  /-- The pipeline crashed, perhaps saying why. -/
  | crashed (reason? : Option String)
  deriving DecidableEq, Repr, Inhabited

/-- A route that a page declares. -/
structure Route where
  path : String
  file : Path
  name? : Option String
  deriving DecidableEq, Repr, Inhabited

/-- An implementation of a pipeline; calls other than builds may be refused with a message. -/
structure Pipeline where
  build : View → BuildOrder → BuildAnswer
  expand : View → Except String (Option String)
  routes : View → Except String (List Route)
  hook : View → String → Query → Except String (Option String)

/-- A module of the host. -/
structure HostModule where
  id : String
  url : String
  deriving DecidableEq, Repr, Inhabited

/-- The surroundings of a bridge. -/
structure Setting where
  config : Config
  filter : Filter
  disk : Disk
  analyzer : Analyzer
  /-- The implementations by the index of their pipeline. -/
  pipeline : Nat → Pipeline
  preprocessor? : Option Preprocessor
  /-- The modules that the host made from a file. -/
  modulesOf : Path → List HostModule

/-- The normal form of a path. -/
def Setting.normalise (setting : Setting) (path : Path) : Path :=
  setting.disk.normalise path

end ModuleBridge
