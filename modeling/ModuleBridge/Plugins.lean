import ModuleBridge.Config.File

/-!
# Plugins

The configured pipelines, each bound to an implementation that the host
supplies, in the order of the configuration.  A path is owned by one of them:
by the first whose patterns claim it, else by a pipeline without patterns, the
main one if it is such, else by the main one.

What a pipeline sees of a file follows from who owns it: its own files, nothing
of others, and of a server's files only what they import locally.
-/

namespace ModuleBridge

/-- A bound pipeline. -/
structure Plugin where
  /-- Its index in the order of the configuration. -/
  id : Nat
  name : String
  isMain : Bool
  target : Target
  capabilities : List Capability
  /-- The patterns of the paths it claims; absent when it takes what nobody claims. -/
  scope? : Option (List Pattern.Node)
  options : Options
  deriving Repr, Inhabited

namespace Plugin

/-- Binds a configured pipeline. -/
def ofEntry (id : Nat) (entry : PipelineEntry) : Except Pattern.Refusal Plugin := do
  let patterns ← Pattern.readAll false entry.scope
  let scope? := if entry.scope.isEmpty then none else some patterns
  .ok ⟨id, entry.name, entry.main, entry.target, entry.capabilities, scope?, entry.options⟩

/-- The pipeline can do this. -/
def has (plugin : Plugin) (capability : Capability) : Bool :=
  plugin.capabilities.contains capability

/-- The pipeline takes what nobody claims. -/
def isCatchAll (plugin : Plugin) : Bool :=
  plugin.scope?.isNone

/-- A pattern of the pipeline matches the path. -/
def claims (plugin : Plugin) (path : Path) : Bool :=
  (plugin.scope?.getD []).any fun pattern => pattern.isMatch path.text

/-- The pipeline with the host's server-rendering flag, unless it has one. -/
def adoptSsr (plugin : Plugin) (ssr : Bool) : Plugin :=
  { plugin with options := plugin.options.adoptSsr ssr }

end Plugin

/-- All bound pipelines, one of them the main one. -/
structure Plugins where
  items : List Plugin
  mainId : Nat
  mainId_lt : mainId < items.length

namespace Plugins

/-- The main pipeline. -/
def main (plugins : Plugins) : Plugin :=
  plugins.items.get ⟨plugins.mainId, plugins.mainId_lt⟩

/-- The pipeline at an index. -/
def get? (plugins : Plugins) (id : Nat) : Option Plugin :=
  plugins.items[id]?

/-- The first pipeline of a name. -/
def byName? (plugins : Plugins) (name : String) : Option Plugin :=
  plugins.items.find? fun plugin => plugin.name == name

/-- The auxiliary pipelines. -/
def auxiliary (plugins : Plugins) : List Plugin :=
  plugins.items.filter fun plugin => !plugin.isMain

/-- More than one pipeline works on the files. -/
def isShared (plugins : Plugins) : Bool :=
  1 < plugins.items.length

/-- Changes the pipeline at an index. -/
def update (plugins : Plugins) (id : Nat) (change : Plugin → Plugin) : Plugins where
  items := plugins.items.modify id change
  mainId := plugins.mainId
  mainId_lt := by simpa using plugins.mainId_lt

/-- The pipeline that owns a path. -/
def owner (plugins : Plugins) (path : Path) : Plugin :=
  match plugins.items.find? fun plugin => plugin.claims path with
  | some plugin => plugin
  | none =>
    if plugins.main.isCatchAll then plugins.main
    else (plugins.items.find? Plugin.isCatchAll).getD plugins.main

/-- A pipeline owns a path. -/
def inScope (plugins : Plugins) (id : Nat) (path : Path) : Bool :=
  (plugins.owner path).id == id

/-- A path is owned by a pipeline that builds for the server. -/
def isServerScoped (plugins : Plugins) (path : Path) : Bool :=
  (plugins.owner path).target == .server

/-- What a pipeline sees of a file. -/
inductive Sight where
  /-- The file itself: it owns it. -/
  | owned
  /-- Nothing. -/
  | excluded (owner : Nat)
  /-- What a server's file imports locally. -/
  | aggregate (owner : Nat)
  deriving DecidableEq, Repr, Inhabited

/-- What a pipeline sees of a path; a lone pipeline sees every file. -/
def sight (plugins : Plugins) (requester : Nat) (path : Path) : Sight :=
  if !plugins.isShared then
    .owned
  else
    let owner := plugins.owner path
    let target := ((plugins.get? requester).map Plugin.target).getD .bundled
    if owner.id = requester then .owned
    else if owner.target = .server ∧ target = .bundled then .aggregate owner.id
    else .excluded owner.id

/-- Binds entries in order; every name takes one of the supplied implementations. -/
def bindAll (id : Nat) (supplied : List String) :
    List PipelineEntry → Except ConfigFault (List Plugin × List String)
  | [] => .ok ([], supplied)
  | entry :: rest =>
    if supplied.contains entry.name then
      match Plugin.ofEntry id entry with
      | .error refusal =>
        .error (.invalid ("pipeline `" ++ entry.name ++ "` scope: " ++ refusal.message))
      | .ok plugin => do
        let unused := supplied.filter fun name => name != entry.name
        let (plugins, unused) ← bindAll (id + 1) unused rest
        .ok (plugin :: plugins, unused)
    else
      .error (.invalid
        ("pipeline `" ++ entry.name ++ "` is configured but no implementation was supplied"))

/-- The index of the last main pipeline. -/
def lastMain? (items : List Plugin) : Option (Fin items.length) :=
  (List.finRange items.length).reverse.find? fun index => (items.get index).isMain

/-- Prints the name of an implementation that no entry asks for. -/
def warnUnused (unused : List String) (console : Console) : Console :=
  match unused with
  | [] => console
  | name :: _ => console.log "warn" ("pipeline `" ++ name ++ "` supplied but not configured")

/-- Binds configured pipelines to the implementations that are supplied. -/
def bind (entries : List PipelineEntry) (supplied : List String) (console : Console) :
    Console × Except ConfigFault Plugins :=
  match bindAll 0 supplied entries with
  | .error fault => (console, .error fault)
  | .ok (items, unused) =>
    let outcome := match lastMain? items with
      | some index => .ok ⟨items, index.val, index.isLt⟩
      | none => .error (.invalid "no main pipeline")
    (warnUnused unused console, outcome)

/-- The main pipeline takes the host's server-rendering flag over. -/
def adoptHostSsr (plugins : Plugins) (ssr : Bool) : Plugins :=
  plugins.update plugins.mainId fun plugin => plugin.adoptSsr ssr

end Plugins

end ModuleBridge
