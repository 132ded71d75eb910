import ModuleBridge.Bridge.Ready

/-!
# Local dependencies of server files

The walk from a file through its imports: server files are walked through,
local files are watched and collected in the order in which they are reached
first.  The walk goes on until its queue is empty; imports that lead to ever
new server files would keep it going forever.
-/

namespace ModuleBridge

/-- How far a walk through imports has come. -/
structure Walk where
  visited : List Path
  queue : List Path
  /-- The local files in the order in which they were reached. -/
  reached : List Path
  deriving DecidableEq, Repr, Inhabited

namespace Bridge

/-- The imports of a file; a file that cannot be made ready counts as having none. -/
def importsOf (setting : Setting) (path : Path) : Work (List Path) := do
  match ← (ready setting path).run with
  | .ok (key, _) => return (← recordAt key).dependencies
  | .error fault =>
    log "warn" ("skipping dependencies of " ++ path.display ++ ": " ++ fault.message)
    return []

/-- Watches a local file that the walk reached. -/
def reachLocal (path : Path) : Work Unit := do
  if ← watchFile path then
    debug "deps" ("watch " ++ path.display)

/-- Goes to the file at the front of the queue. -/
def visit (setting : Setting) (walk : Walk) (path : Path) (queue : List Path) : Work Walk := do
  let file := setting.normalise path
  if walk.visited.contains file then
    return { walk with queue := queue }
  else if (← get).plugins.isServerScoped file then
    let imports ← importsOf setting file
    return ⟨file :: walk.visited, queue ++ imports, walk.reached⟩
  else
    reachLocal file
    return ⟨file :: walk.visited, queue, walk.reached ++ [file]⟩

/-- Walks until the queue is empty: the local files reached; absent when the walk never ends. -/
def walkOut (setting : Setting) (walk : Walk) (bridge : Bridge) : Option (List Path × Bridge) :=
  match walk.queue with
  | [] => some (walk.reached, bridge)
  | path :: queue =>
    let (next, after) := (visit setting walk path queue).run bridge
    -- By `apply`, since an elaborated call would carry its place in the source along.
    by
      apply walkOut
      · exact setting
      · exact next
      · exact after
partial_fixpoint

/-- The local files reached from a file through server files, in the order of the first visit. -/
def localDependencies (setting : Setting) (root : Path) : Work (List Path) := do
  let root := setting.normalise root
  let imports ← importsOf setting root
  modifyGet fun bridge => (walkOut setting ⟨[root], imports, []⟩ bridge).getD ([], bridge)

end Bridge

end ModuleBridge
