import ModuleBridge.Bridge.Build

/-!
# Auxiliary builds

Auxiliary pipelines build the files they own as a side effect: when a file has
been analysed anew, and when the watcher reports that it changed.  Their faults
are printed and stop nobody.
-/

namespace ModuleBridge.Bridge

/-- Builds a file with one auxiliary pipeline; tells whether that went well. -/
def buildAside (setting : Setting) (path : Path) (plugin : Plugin) : Work Bool := do
  match ← (build setting path plugin none path.display).run with
  | .ok built =>
    changeRecord built.key fun record => record.markSeen .watcher built.revision
    if ← watchBuilt path then
      debug "cross" ("watch " ++ path.display)
    return true
  | .error fault =>
    log "cross" (path.display ++ " failed in `" ++ plugin.name ++ "`: " ++ fault.message)
    return false

/-- Builds a file with every auxiliary pipeline that owns it: the names of those that built. -/
def crossBuild (setting : Setting) (path : Path) : Work (List String) := do
  let plugins := (← get).plugins
  let owners := plugins.auxiliary.filter fun plugin => plugins.inScope plugin.id path
  let built ← owners.filterM (buildAside setting path)
  return built.map Plugin.name

/--
Answers a change that the watcher reports: the file is read again and, when its
text differs from what the watcher dealt with last, built anew.  Unknown files
and files that only declare things are left alone.
-/
def rebuildChanged (setting : Setting) (path : Path) : Attempt (List String) := do
  let path := setting.normalise path
  match ← record? setting path with
  | none => return []
  | some record =>
    if record.isDescriptionOnly then
      return []
    let text ← readSource setting path
    let observation ← observe setting path text .watcher
    if observation.change = .unchanged then
      debug "cross" (path.display ++ " unchanged")
      return []
    crossBuild setting path

end ModuleBridge.Bridge
