import ModuleBridge.Bridge.Auxiliary
import ModuleBridge.Debouncer

/-!
# Batches of file changes

What debounced changes mean: a file that was modified is built anew by the
auxiliary pipelines, and one that appeared or vanished affects the files that
depend on the listing of its directory.
-/

namespace ModuleBridge

/-- Something the host has to act on. -/
inductive SessionEvent where
  /-- A directory's listing changed; the modules of its dependents are out of date. -/
  | listingChanged (path : Path) (dependents : List Path)
  /-- Auxiliary pipelines built a file anew. -/
  | rebuilt (path : Path) (pipelines : List String)
  deriving DecidableEq, Repr, Inhabited

namespace Bridge

/-- The files affected by a change of a path. -/
def contextChange (setting : Setting) (path : Path) : Work (Option (List Path)) := do
  return (← get).contexts.affected? setting.normalise path

/-- Answers a modified file. -/
def answerModified (setting : Setting) (path : Path) : Work (List SessionEvent) := do
  match ← (rebuildChanged setting path).run with
  | .ok [] => return []
  | .ok pipelines =>
    log "watch"
      ("rebuilt " ++ path.display ++ " (" ++ String.intercalate ", " pipelines ++ ")")
    return [.rebuilt path pipelines]
  | .error fault =>
    log "watch" (path.display ++ ": " ++ fault.message)
    return []

/-- Answers a file that appeared or vanished. -/
def answerListed (setting : Setting) (path : Path) (kind : ChangeKind) :
    Work (List SessionEvent) := do
  match ← contextChange setting path with
  | none => return []
  | some dependents =>
    debug "watch" (kind.label ++ " " ++ path.display)
    return [.listingChanged path dependents]

/-- Answers one change. -/
def answer (setting : Setting) (change : Path × ChangeKind) : Work (List SessionEvent) :=
  match change.2 with
  | .modified => answerModified setting change.1
  | kind => answerListed setting change.1 kind

/-- Answers the changes of a batch in order. -/
def dispatch (setting : Setting) (changes : List (Path × ChangeKind)) :
    Work (List SessionEvent) := do
  return (← changes.mapM (answer setting)).flatten

/-- What a file watcher delivers. -/
inductive Notice where
  | event (kind : FileEvent) (paths : List Path)
  | failure (message : String)
  deriving DecidableEq, Repr, Inhabited

/-- Notices that arrive without a pause, and the time at which they are dealt with. -/
structure Burst where
  time : Nat
  notices : List Notice
  deriving DecidableEq, Repr, Inhabited

/-- Takes in what a file watcher delivers at a time. -/
def attend (setting : Setting) (now : Nat) (debouncer : Debouncer) : Notice → Work Debouncer
  | .failure message => do
    log "watch" ("notify error: " ++ message)
    return debouncer
  | .event kind paths => do
    print (debouncer.announceEvent setting.normalise now kind paths)
    return debouncer.push setting.normalise now kind paths

/-- Answers the batch that is ready at a time, if there is one. -/
def deliver (setting : Setting) (now : Nat) (debouncer : Debouncer) :
    Work (Debouncer × List SessionEvent) := do
  let (debouncer, batch?) := debouncer.flush now
  return (debouncer, ← dispatch setting (batch?.getD []))

/-- A session takes in every notice of a burst before it answers a batch. -/
def runSession (setting : Setting) : Debouncer → List Burst → Work (List SessionEvent)
  | _, [] => return []
  | debouncer, burst :: rest => do
    let debouncer ← burst.notices.foldlM (attend setting burst.time) debouncer
    let (debouncer, events) ← deliver setting burst.time debouncer
    return events ++ (← runSession setting debouncer rest)

/-- Takes the events of the bridge's own watcher; that can be done once. -/
def takeWatcher : Work Bool := do
  let bridge ← get
  set { bridge with hasWatcher := false }
  return bridge.hasWatcher

end Bridge

end ModuleBridge
