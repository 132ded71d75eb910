import ModuleBridge.Bridge

/-!
# Starting a bridge

A bridge starts when its configuration passes the check, its patterns can be
read, every configured pipeline has an implementation, and its own watcher can
be started where the host watches nothing for it.
-/

namespace ModuleBridge.Bridge

/-- What the host supplies at the start. -/
structure Supplies where
  /-- The names for which there are implementations. -/
  implementations : List String
  /-- The host watches files and directories. -/
  watches : Bool
  /-- The host watches the files that auxiliary pipelines build. -/
  watchesBuilt : Bool
  deriving DecidableEq, Repr, Inhabited

/-- A bridge that has done nothing yet. -/
def ofPlugins (config : Config) (supplies : Supplies) (plugins : Plugins) (console : Console) :
    Bridge :=
  let summary := toString plugins.items.length ++ " pipeline(s), main `" ++ plugins.main.name ++ "`"
  { plugins := plugins
    registry := .empty
    watches := .start supplies.watches
    builtWatches? := if config.hot.watch then some (.start true) else none
    hasWatcher := config.hot.watch && !supplies.watchesBuilt
    contexts := .empty
    console := console.debug "bridge" summary
    journal := []
    schedule := [] }

/--
Checks a configuration and binds its pipelines.  `watcherFault?` says why the bridge's own
watcher cannot be started, which counts where it has to have one.
-/
def startWith (watcherFault? : Option String) (config : Config) (supplies : Supplies)
    (console : Console) : Console × Except ConfigFault (Filter × Bridge) :=
  let (console, checked) := config.validate console
  match checked, Filter.ofSettings config.filter with
  | .error fault, _ => (console, .error fault)
  | .ok _, .error refusal =>
    (console, .error (.invalid ("filter pattern does not compile: " ++ refusal.message)))
  | .ok _, .ok filter =>
    match Plugins.bind config.pipelines supplies.implementations console with
    | (console, .error fault) => (console, .error fault)
    | (console, .ok plugins) =>
      let bridge := ofPlugins config supplies plugins console
      match watcherFault?.filter fun _ => bridge.hasWatcher with
      | some message =>
        (console, .error (.invalid ("`hot.watch` cannot start a watcher: " ++ message)))
      | none => (bridge.console, .ok (filter, bridge))

/-- Checks a configuration and binds its pipelines, where watchers can be started. -/
def start : Config → Supplies → Console → Console × Except ConfigFault (Filter × Bridge) :=
  startWith none

end ModuleBridge.Bridge
