import ModuleBridge.Contexts
import ModuleBridge.Registry
import ModuleBridge.Setting
import ModuleBridge.WatchSet

/-!
# Bridges

The state of a session: the bound pipelines, the records, what is watched, what
was printed, and the journal of calls to collaborators.

Work of one caller may be interrupted where it waits for the disk, the analyzer
or a build.  A schedule says which texts come in at which of these moments,
so that every interleaving is the run of a sequential program.
-/

namespace ModuleBridge

/-- A call to a collaborator. -/
inductive Call where
  | analyse (path : Path)
  | resolve (request : String)
  | release (path : Path)
  | build (plugin : Nat) (path : Path) (revision : Nat) (selector? : Option String)
      (ssr : Option Bool)
  | expand (plugin : Nat) (path : Path)
  | routes (plugin : Nat) (path : Path)
  | hook (plugin : Nat) (path : Path) (action : String) (query : Query)
  | clear (plugin : Nat) (path : Path)
  | style (request : StyleRequest)
  /-- The host is to watch a file. -/
  | watchFile (path : Path)
  /-- The host is to watch a directory. -/
  | watchFolder (path : Path)
  /-- A file built by an auxiliary pipeline is to be watched. -/
  | watchBuilt (path : Path)
  deriving Repr, Inhabited

/-- A moment at which work waits for somebody else. -/
inductive Moment where
  | reading (path : Path)
  | analysing (path : Path)
  | building (plugin : Nat) (path : Path)
  deriving DecidableEq, Repr, Inhabited

/-- A text that comes in for a file, perhaps on behalf of an observer. -/
structure Feed where
  path : Path
  text : String
  observer? : Option Observer
  deriving DecidableEq, Repr, Inhabited

/-- Texts that come in together at the first of some moments. -/
structure Interruption where
  moments : List Moment
  feeds : List Feed
  deriving DecidableEq, Repr, Inhabited

/-- The state of a session. -/
structure Bridge where
  plugins : Plugins
  registry : Registry
  /-- What the host was asked to watch. -/
  watches : WatchSet
  /-- Files built by auxiliary pipelines; absent when they are not watched. -/
  builtWatches? : Option WatchSet
  /-- The bridge's own watcher waits for a session to take its events. -/
  hasWatcher : Bool
  contexts : Contexts
  console : Console
  /-- The calls to collaborators, the first one first. -/
  journal : List Call
  schedule : List Interruption

namespace Bridge

/-- Work on a bridge. -/
abbrev Work := StateM Bridge

/-- Work on a bridge that may fail. -/
abbrev Attempt := ExceptT Fault Work

/-- Prints on the console. -/
def print (show? : Console → Console) : Work Unit :=
  modify fun bridge => { bridge with console := show? bridge.console }

/-- Prints a log line. -/
def log (part message : String) : Work Unit :=
  print fun console => console.log part message

/-- Prints a line that only a verbose console shows. -/
def debug (part message : String) : Work Unit :=
  print fun console => console.debug part message

/-- Enters a call into the journal. -/
def note (call : Call) : Work Unit :=
  modify fun bridge => { bridge with journal := bridge.journal ++ [call] }

/-- Changes the registry. -/
def changeRegistry (change : Registry → Registry) : Work Unit :=
  modify fun bridge => { bridge with registry := change bridge.registry }

/-- The record under a key. -/
def recordAt (key : Path) : Work Record := do
  return (← get).registry.find key

/-- Changes the record under a key. -/
def changeRecord (key : Path) (change : Record → Record) : Work Unit :=
  changeRegistry fun registry => registry.put key (change (registry.find key))

/-- Changes the record under a key and passes on what the change tells. -/
def updateRecord {α : Type} (key : Path) (change : Record → Record × α) : Work α := do
  let (record, told) := change (← recordAt key)
  changeRegistry fun registry => registry.put key record
  return told

/-- The key of a path, under which there is a record from now on. -/
def openRecord (setting : Setting) (path : Path) : Work Path := do
  let key := setting.normalise path
  changeRegistry fun registry => registry.create key
  return key

/-- The record of a path, if there is one. -/
def record? (setting : Setting) (path : Path) : Work (Option Record) := do
  return (← get).registry.get? (setting.normalise path)

/-- Takes in a text for a file. -/
def invalidate (setting : Setting) (path : Path) (text : String) : Work Fed := do
  let key ← openRecord setting path
  let fed ← updateRecord key fun record => record.feed text
  if fed = .changed then
    debug "invalidate" key.display
  return fed

/-- Takes in a text for a file on behalf of an observer. -/
def observe (setting : Setting) (path : Path) (text : String) (observer : Observer) :
    Work Observation := do
  let key ← openRecord setting path
  let observation ← updateRecord key fun record => record.observe observer text
  if observation.change = .changed then
    debug "invalidate" (key.display ++ " (" ++ observer.describe ++ ")")
  return observation

/-- Takes in a text that comes from elsewhere. -/
def receive (setting : Setting) (feed : Feed) : Work Unit :=
  match feed.observer? with
  | none => discard (invalidate setting feed.path feed.text)
  | some observer => discard (observe setting feed.path feed.text observer)

/-- The first interruption for a moment, and the schedule without it. -/
def nextAt? (moment : Moment) : List Interruption → Option (Interruption × List Interruption)
  | [] => none
  | interruption :: rest =>
    if interruption.moments.contains moment then
      some (interruption, rest)
    else
      (nextAt? moment rest).map fun (found, others) => (found, interruption :: others)

/-- Waits: the texts that are scheduled for this moment come in. -/
def wait (setting : Setting) (moment : Moment) : Work Unit := do
  let bridge ← get
  match nextAt? moment bridge.schedule with
  | none => return
  | some (interruption, rest) =>
    set { bridge with schedule := rest }
    interruption.feeds.forM (receive setting)

/-- Asks the host to watch a file, once; tells whether that is new. -/
def watchFile (path : Path) : Work Bool := do
  let bridge ← get
  let (watches, isNew) := bridge.watches.addFile path
  set { bridge with watches := watches }
  if isNew ∧ watches.isActive then
    note (.watchFile path)
  return isNew

/-- Asks the host to watch a directory, once; tells whether that is new. -/
def watchFolder (path : Path) : Work Bool := do
  let bridge ← get
  let (watches, isNew) := bridge.watches.addFolder path
  set { bridge with watches := watches }
  if isNew ∧ watches.isActive then
    note (.watchFolder path)
  return isNew

/-- Watches a file built by an auxiliary pipeline, once, where such files are watched. -/
def watchBuilt (path : Path) : Work Bool := do
  let bridge ← get
  match bridge.builtWatches? with
  | none => return false
  | some watches =>
    let (watches, isNew) := watches.addFile path
    set { bridge with builtWatches? := some watches }
    if isNew ∧ watches.isActive then
      note (.watchBuilt path)
    return isNew

/-- The files that import a file. -/
def dependents (setting : Setting) (path : Path) : Work (List Path) := do
  return (← get).registry.graph.usedBy setting.normalise path

/-- Releases what the analyzer holds for the recorded files and forgets them. -/
def dispose : Work Unit := do
  let keys := (← get).registry.records.map Prod.fst
  keys.forM fun key => note (.release key)
  changeRegistry Registry.clear

end Bridge

end ModuleBridge
