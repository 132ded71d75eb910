import ModuleBridge.Bridge.Auxiliary
import ModuleBridge.Bridge.Dependencies
import ModuleBridge.Request
import ModuleBridge.Stub

/-!
# Loading modules

What the host is served for a module id.  The file is made ready and built by
the auxiliary pipelines that own it; then the asking pipeline is served a stub
for a file it may not see, the answer of a call to its pipeline, or what the id
asks for of the artifact it builds.
-/

namespace ModuleBridge

/-- Code that is served, with the warnings for the host. -/
structure Served where
  code : String
  map? : Option String
  warnings : List String
  deriving DecidableEq, Repr, Inhabited

/-- Code without a map and without warnings. -/
def Served.ofCode (code : String) : Served := ⟨code, none, []⟩

namespace Bridge

/-- The action of requests for expanded macros. -/
def expandAction : String := "macros"

/-- The action that a request asks the pipeline for, if it does. -/
def actionOf? (resource : Resource) : Option String :=
  if resource.wantsMacros then some expandAction
  else if resource.query.flag "callhook" then resource.query.text? "action"
  else none

/-- The capability an action needs. -/
def neededFor (action : String) : Capability :=
  if action == expandAction then .macros else .hooks

/-- Asks a pipeline for the code of an action. -/
def perform (setting : Setting) (plugin : Plugin) (view : View) (resource : Resource)
    (action : String) : Attempt (Except String (Option String)) := do
  let pipeline := setting.pipeline plugin.id
  if action == expandAction && plugin.has .macros then
    note (.expand plugin.id view.path)
    return pipeline.expand view
  else if plugin.has .hooks then
    note (.hook plugin.id view.path action resource.query)
    return pipeline.hook view action resource.query
  else
    throw (.capability plugin.name (neededFor action))

/-- Serves the answer of a pipeline to an action. -/
def callHook (setting : Setting) (key : Path) (plugin : Plugin) (resource : Resource)
    (action : String) : Attempt Served := do
  let view ← viewAt key
  match ← perform setting plugin view resource action with
  | .error message => throw (.hook action message)
  | .ok code? => return .ofCode (code?.getD "export default null;")

/-- Tracks a directory that a build read, and watches the files in it. -/
def trackGroup (setting : Setting) (path : Path) (group : DependGroup) : Work Unit := do
  if setting.config.hotEnabled then
    let bridge ← get
    let (contexts, isNew) := bridge.contexts.add setting.normalise group.folder path
    set { bridge with contexts := contexts }
    if isNew then
      discard (watchFolder (setting.normalise group.folder))
  if !group.disabled then
    (group.files.filter setting.disk.isFile).forM fun file =>
      discard (watchFile (setting.normalise file))

/-- Watches a server file that is imported. -/
def watchServerImport (setting : Setting) (dependency : Path) : Work Unit := do
  let path := setting.normalise dependency
  if (← get).plugins.isServerScoped path then
    if ← watchFile path then
      debug "deps" ("watch server file " ++ path.display)

/-- Watches the server files that a file imports. -/
def watchServerImports (setting : Setting) (key : Path) : Work Unit := do
  (← recordAt key).dependencies.forM (watchServerImport setting)

/-- Picks what is asked for out of an artifact. -/
def pick (setting : Setting) (artifact : Artifact) (resource : Resource) : Attempt Extracted := do
  let rules : Extraction.Rules :=
    ⟨setting.config.style, setting.config.styleProduction, setting.preprocessor?⟩
  let extraction := extract rules artifact resource
  match extraction.asked? with
  | some request => note (.style request)
  | none => pure ()
  extraction.outcome

/-- The part of the file that a request without a type selects. -/
def selectorOf? (resource : Resource) : Option String :=
  if resource.requestType?.isNone then resource.selector? else none

/-- Builds a file that the pipeline owns and serves what is asked for. -/
def loadOwned (setting : Setting) (plugin : Plugin) (resource : Resource) (path key : Path) :
    Attempt Served := do
  let built ← build setting path plugin (selectorOf? resource) resource.id
  built.artifact.groups.forM fun group => trackGroup setting path group
  if resource.requestType?.isNone && (← get).plugins.isShared then
    watchServerImports setting key
  let extracted ← pick setting built.artifact resource
  return ⟨extracted.code, extracted.map?, built.warnings.map Diagnostic.render⟩

/-- Serves a file by what the pipeline sees of it. -/
def serve (setting : Setting) (plugin : Plugin) (resource : Resource) (path key : Path) :
    Attempt Served := do
  match (← get).plugins.sight plugin.id path with
  | .excluded _ =>
    debug "scope" (path.display ++ " excluded from `" ++ plugin.name ++ "`")
    return .ofCode (Stub.inert path plugin.name)
  | .aggregate _ =>
    return .ofCode (Stub.aggregate (← localDependencies setting path))
  | .owned =>
    match actionOf? resource with
    | some action => callHook setting key plugin resource action
    | none => loadOwned setting plugin resource path key

/-- Makes the file of a request ready and lets the auxiliary pipelines build it. -/
def prepare (setting : Setting) (plugin : Plugin) (path : Path) : Attempt Path := do
  let (key, readiness) ← ready setting path
  changeRecord key fun record => record.markSeen (.pipeline plugin.id) record.revision
  if readiness = .analysed && !(← recordAt key).isDescriptionOnly then
    discard (crossBuild setting path)
  return key

/-- Serves a module id; absent when the id is foreign. -/
def load (setting : Setting) (plugin : Plugin) (id : String) : Attempt (Option Served) := do
  if setting.filter.accepts id then
    let resource := Resource.parse setting.config.resolve id
    let path := setting.normalise resource.path
    let key ← prepare setting plugin path
    return some (← serve setting plugin resource path key)
  else
    return none

/-- Serves a module id for which the host has no code of its own. -/
def transform (setting : Setting) (plugin : Plugin) (code id : String) :
    Attempt (Option Served) :=
  if setting.filter.accepts id && code.isEmpty then load setting plugin id else pure none

/-- The routes that a file declares; only the main pipeline is asked. -/
def routes (setting : Setting) (plugin : Plugin) (file : Path) :
    Attempt (Option (List Route)) := do
  if plugin.isMain && plugin.has .routes && setting.filter.accepts file.text then
    let (key, _) ← ready setting file
    let view ← viewAt key
    note (.routes plugin.id view.path)
    match (setting.pipeline plugin.id).routes view with
    | .ok routes => return some routes
    | .error message => throw (.hook "routes" message)
  else
    return none

/-- What became of a request to resolve an id. -/
inductive Resolved where
  /-- The id is foreign. -/
  | foreign
  | found (id : String)
  /-- The id cannot be cut up. -/
  | crashed
  deriving DecidableEq, Repr, Inhabited

/-- Resolves an import request to an id that can be loaded. -/
def resolve (setting : Setting) (plugin : Plugin) (id : String) : Work Resolved := do
  if setting.filter.accepts id then
    let rules : Request.Rules :=
      ⟨setting.config.resolve.extensions, plugin.options.formationSuffix?⟩
    match Request.resolve? rules setting.disk setting.analyzer.resolve id with
    | none => return .crashed
    | some answer =>
      answer.asked?.toList.forM fun request => note (.resolve request)
      return .found answer.id
  else
    return .foreign

/-- The main pipeline takes the host's server-rendering flag over. -/
def applyHostConfig (ssr? : Option Bool) : Work Unit :=
  match ssr? with
  | none => pure ()
  | some ssr => modify fun bridge => { bridge with plugins := bridge.plugins.adoptHostSsr ssr }

end Bridge

end ModuleBridge
