import ModuleBridge.Bridge.Ready

/-!
# Builds

One pipeline builds one file: the file is made ready, errors of its analysis
stop the build, an artifact built before from the same text is served again,
and else the pipeline is called and its artifact stored.  An artifact that read
directories is never served again, and the pipeline forgets it first.
-/

namespace ModuleBridge

/-- An artifact with the warnings raised on the way. -/
structure Built where
  key : Path
  artifact : Artifact
  warnings : List Diagnostic
  /-- The revision it was built from. -/
  revision : Nat
  /-- It was built before. -/
  cached : Bool
  deriving DecidableEq, Repr, Inhabited

namespace Bridge

/-- Prints warnings and hands them on; errors fail with `fault` of their message. -/
def sift (diagnostics : List Diagnostic) (fault : String → Fault) : Attempt (List Diagnostic) := do
  let findings := Findings.ofList diagnostics
  print findings.logWarnings
  if findings.hasErrors then
    throw (fault findings.errorMessage)
  return findings.warnings

/-- What is said of a pipeline that crashed. -/
def crashMessage : Option String → String
  | some reason => "pipeline panicked: " ++ reason
  | none => "pipeline panicked"

/-- The artifact and diagnostics of a build that did not fail. -/
def accept (plugin : Plugin) (resource : String) :
    BuildAnswer → Attempt (Artifact × List Diagnostic)
  | .built artifact diagnostics => return (artifact, diagnostics)
  | .nothing => throw (.noResult resource)
  | .failed message => throw (.build resource message)
  | .crashed reason? => do
    let message := crashMessage reason?
    log "error"
      ("pipeline `" ++ plugin.name ++ "` failed on " ++ resource ++ ": " ++ message)
    throw (.build resource message)

/-- Calls a pipeline. -/
def callBuild (setting : Setting) (plugin : Plugin) (view : View) (selector? : Option String) :
    Work BuildAnswer := do
  debug "build" (view.path.display ++ " with " ++ plugin.name)
  note (.build plugin.id view.path view.revision selector? plugin.options.ssr)
  wait setting (.building plugin.id view.path)
  return (setting.pipeline plugin.id).build view ⟨selector?, plugin.options⟩

/-- Stores an artifact, unless the text it was built from is no longer there. -/
def keepBuild (key : Path) (slot : Slot) (resource : String) : Work Unit := do
  let stored ← updateRecord key fun record => record.storeBuild slot
  if !stored then
    debug "build" ("source of " ++ resource ++ " changed during build, result not cached")

/-- Lets a pipeline build a view and stores the artifact, unless the text has changed. -/
def produce (setting : Setting) (key : Path) (plugin : Plugin) (view : View)
    (selector? : Option String) (resource : String) : Attempt (Artifact × List Diagnostic) := do
  if (← recordAt key).readFolders then
    note (.clear plugin.id view.path)
  let answer ← callBuild setting plugin view selector?
  let (artifact, diagnostics) ← accept plugin resource answer
  let warnings ← sift diagnostics (.build resource)
  keepBuild key ⟨plugin.id, view.revision, selector?, artifact⟩ resource
  return (artifact, warnings)

/-- Builds a file with a pipeline; `resource` is what faults name. -/
def build (setting : Setting) (path : Path) (plugin : Plugin) (selector? : Option String)
    (resource : String) : Attempt Built := do
  let (key, _) ← ready setting path
  let view ← viewAt key
  let warnings ← sift view.analysis.diagnostics (.analysis view.path)
  match (← recordAt key).reusable? plugin.id view.revision selector? with
  | some artifact =>
    debug "build" ("reuse " ++ view.path.display ++ " (" ++ plugin.name ++ ")")
    return ⟨key, artifact, warnings, view.revision, true⟩
  | none =>
    let (artifact, further) ← produce setting key plugin view selector? resource
    return ⟨key, artifact, warnings ++ further, view.revision, false⟩

end Bridge

end ModuleBridge
