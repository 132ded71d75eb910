import ModuleBridge.Bridge.Ready
import ModuleBridge.Change
import ModuleBridge.Request

/-!
# Hot updates

What the host has to load again when a file changes.  The new text is compared
with the text that the asking pipeline dealt with last; sections that differ
invalidate the modules whose tag depends on them.  A server file invalidates
the local modules that import it instead.
-/

namespace ModuleBridge

/-- The answer to a change of a file. -/
inductive HotUpdate where
  /-- The pipeline has dealt with this text. -/
  | unchanged
  | updated (modules : List HostModule) (renderOnly : Bool)
  /-- The text cannot be analysed, or its analysis is no good. -/
  | failed (diagnostics : List Diagnostic)
  deriving DecidableEq, Repr, Inhabited

namespace Bridge

/-- The local files of a pipeline's scope that import a server file. -/
def localImporters (setting : Setting) (requester : Nat) (file : Path) : Work (List Path) := do
  let plugins := (← get).plugins
  let importers ← dependents setting file
  (importers.filter fun importer =>
    importer != file && !plugins.isServerScoped importer &&
      plugins.inScope requester importer).filterM fun importer => do
        let record? ← record? setting importer
        return record?.any fun record => !record.isDescriptionOnly

/-- The main modules of the local files that import a server file. -/
def serverDependents (setting : Setting) (requester : Nat) (file : Path) :
    Work (List HostModule) := do
  let importers ← localImporters setting requester file
  return importers.flatMap fun importer =>
    (setting.modulesOf importer).filter fun found => found.id == importer.text

/-- The path under which the host lists the modules of a file. -/
def moduleKey (suffix? : Option String) (file : Path) : Path :=
  match suffix? with
  | some suffix => Request.formationKey file suffix
  | none => file

/-- Reports that a hot update failed. -/
def reportFailure (file : Path) (detail : String) : Work Unit :=
  print fun console => console.failure ("hot update failed: " ++ file.display) detail

/-- Answers for a server file. -/
def updateServerFile (setting : Setting) (requester : Nat) (file : Path) : Work HotUpdate := do
  let modules ← serverDependents setting requester file
  print fun console => console.success
    ("server file " ++ file.display ++ " (" ++ toString modules.length ++ " modules)")
  return .updated modules false

/-- Answers by the sections that differ, and remembers that the pipeline dealt with them. -/
def updateSections (setting : Setting) (requester : Nat) (suffix? : Option String) (key file : Path)
    (previous? : Option Snapshot) (view : View) : Work HotUpdate := do
  let change := SectionChange.between previous? view.sections
  debug "hot" (file.display ++ " " ++ change.describe)
  let modules := (setting.modulesOf (moduleKey suffix? file)).filter fun found =>
    change.invalidates (ModuleTag.ofUrl found.url)
  changeRecord key fun record =>
    (record.setWatch .clean).markSeen (.pipeline requester) view.revision
  let remark := if change.renderOnly then ", render only" else ""
  print fun console => console.success
    (file.display ++ " (" ++ toString modules.length ++ " modules" ++ remark ++ ")")
  return .updated modules change.renderOnly

/-- Answers by the analysis of the new text. -/
def updateAnalysed (setting : Setting) (requester : Nat) (suffix? : Option String)
    (key file : Path) (previous? : Option Snapshot) : Work HotUpdate := do
  match (← recordAt key).view? with
  | none => return .failed []
  | some view =>
    let findings := Findings.ofList view.analysis.diagnostics
    if findings.hasErrors || !view.analysis.hasTree then
      findings.errors.forM fun found => log "error" found.render
      print findings.logWarnings
      reportFailure file findings.errorMessage
      return .failed view.analysis.diagnostics
    findings.warningMessages.forM fun message => print fun console => console.warning message
    updateSections setting requester suffix? key file previous? view

/-- Answers for a local file whose new text is in its record. -/
def updateLocalFile (setting : Setting) (requester : Nat) (suffix? : Option String)
    (key file : Path) (previous? : Option Snapshot) : Work HotUpdate := do
  changeRecord key fun record => record.setWatch .dirty
  match ← (ready setting file).run with
  | .error fault =>
    reportFailure file fault.message
    return .failed [{ Diagnostic.ofError fault.message with file? := some file }]
  | .ok (key, _) => updateAnalysed setting requester suffix? key file previous?

/-- Answers a change of a file on behalf of a pipeline. -/
def update (setting : Setting) (requester : Nat) (suffix? : Option String) (file : Path)
    (text : String) : Work HotUpdate := do
  let file := setting.normalise file
  let key ← openRecord setting file
  let observation ← observe setting file text (.pipeline requester)
  if observation.change = .unchanged then
    print fun console => console.unchanged file.display
    return .unchanged
  if (← get).plugins.isServerScoped file then
    updateServerFile setting requester file
  else
    updateLocalFile setting requester suffix? key file observation.previous?

/-- Answers a change that the host reports; absent when hot updates are off or the file is foreign. -/
def hotUpdate (setting : Setting) (plugin : Plugin) (file : Path) (text : String) :
    Work (Option HotUpdate) := do
  if setting.config.hotEnabled && setting.filter.accepts file.text then
    return some (← update setting plugin.id plugin.options.formationSuffix? file text)
  else
    return none

end Bridge

end ModuleBridge
