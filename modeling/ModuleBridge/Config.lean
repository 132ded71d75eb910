import ModuleBridge.Path
import ModuleBridge.Toml.Value

/-!
# Configuration

What a bridge is told at start-up: which module ids it takes, how ids are
read, whether hot updates run, how styles are compiled, and the pipelines that
build files.  One pipeline is the main one; its options decide what the hot
and style sections leave open.
-/

namespace ModuleBridge

/-- Where a pipeline's output runs. -/
inductive Target where
  /-- Bundled for the running program. -/
  | bundled
  /-- Compiled only for the paired server. -/
  | server
  deriving DecidableEq, Repr, Inhabited

/-- The name of a target in a configuration. -/
def Target.name : Target → String
  | .bundled => "local"
  | .server => "server"

/-- What a pipeline can do besides building. -/
inductive Capability where
  | macros
  | routes
  | hooks
  deriving DecidableEq, Repr, Inhabited

namespace Capability

/-- The name of a capability in a configuration. -/
def name : Capability → String
  | .macros => "macros"
  | .routes => "routes"
  | .hooks => "hooks"

/-- Every capability. -/
def all : List Capability :=
  [.macros, .routes, .hooks]

end Capability

/-- What a build is for. -/
inductive BuildMode where
  | development
  | production
  deriving DecidableEq, Repr, Inhabited

/-- The name of a build mode in a configuration. -/
def BuildMode.name : BuildMode → String
  | .development => "development"
  | .production => "production"

/-- Whether every import of a language file carries a further suffix, and which. -/
structure Formation where
  enabled : Bool
  suffix : String
  deriving DecidableEq, Repr, Inhabited

/-- Options handed to a pipeline with every build. -/
structure Options where
  mode : BuildMode
  hot : Bool
  sourceMaps : Bool
  /-- Unknown until it is configured or taken over from the host. -/
  ssr : Option Bool
  formation : Formation
  /-- Options that only the pipeline understands. -/
  extra : Toml.Table
  deriving Repr, Inhabited

namespace Options

/-- The options of a pipeline that configures none. -/
def standard : Options where
  mode := .development
  hot := true
  sourceMaps := true
  ssr := none
  formation := ⟨false, ".vue"⟩
  extra := []

/-- The suffix that imports carry, when they carry one. -/
def formationSuffix? (options : Options) : Option String :=
  if options.formation.enabled && !options.formation.suffix.isEmpty then
    some options.formation.suffix
  else
    none

/-- Takes the host's server-rendering flag over, unless one is set. -/
def adoptSsr (options : Options) (ssr : Bool) : Options :=
  { options with ssr := some (options.ssr.getD ssr) }

end Options

/-- A configured pipeline. -/
structure PipelineEntry where
  name : String
  main : Bool
  /-- Patterns of the paths it claims; without any it takes what nobody claims. -/
  scope : List String
  target : Target
  capabilities : List Capability
  options : Options
  deriving Repr, Inhabited

/-- Patterns of the module ids that belong to the bridge. -/
structure FilterSettings where
  included : List String
  excluded : List String
  deriving DecidableEq, Repr, Inhabited

/-- Language files, with or without the template-variant suffix. -/
def FilterSettings.standard : FilterSettings :=
  ⟨["\\.(es|ease)(\\.vue)?(\\?|$)"], []⟩

/-- How module ids are read. -/
structure ResolveSettings where
  /-- Beginnings that the host puts before a path. -/
  virtualPrefixes : List String
  /-- An ending that only tells template variants apart; empty for none. -/
  variantSuffix : String
  /-- The extensions of language files, without their dot. -/
  extensions : List String
  deriving DecidableEq, Repr, Inhabited

/-- How module ids are read unless configured. -/
def ResolveSettings.standard : ResolveSettings :=
  ⟨["virtual:nuxt:"], ".vue", ["es", "ease"]⟩

/-- When hot updates run. -/
structure HotSettings where
  /-- Decided by the main pipeline when absent. -/
  enabled : Option Bool
  /-- Files built by auxiliary pipelines are watched. -/
  watch : Bool
  deriving DecidableEq, Repr, Inhabited

/-- Hot updates unless configured. -/
def HotSettings.standard : HotSettings :=
  ⟨none, false⟩

/-- How styles are compiled. -/
structure StyleSettings where
  /-- Put before a scope token to form a scope id. -/
  scopePrefix : String
  /-- The languages that are preprocessed. -/
  preprocessed : List String
  /-- Decided by the main pipeline when absent. -/
  production : Option Bool
  deriving DecidableEq, Repr, Inhabited

namespace StyleSettings

/-- Styles unless configured. -/
def standard : StyleSettings :=
  ⟨"", ["less", "sass", "scss", "styl", "stylus"], none⟩

/-- The language is preprocessed. -/
def allows (settings : StyleSettings) (language : String) : Bool :=
  settings.preprocessed.contains language

end StyleSettings

/-- A whole configuration. -/
structure Config where
  /-- The file it was read from. -/
  file? : Option Path
  filter : FilterSettings
  resolve : ResolveSettings
  hot : HotSettings
  style : StyleSettings
  pipelines : List PipelineEntry
  deriving Repr, Inhabited

namespace Config

/-- The configuration of an empty file. -/
def standard : Config where
  file? := none
  filter := .standard
  resolve := .standard
  hot := .standard
  style := .standard
  pipelines := []

/-- The entry of the main pipeline. -/
def main? (config : Config) : Option PipelineEntry :=
  config.pipelines.find? PipelineEntry.main

/-- Hot updates run: the hot section decides, then the main pipeline. -/
def hotEnabled (config : Config) : Bool :=
  (config.hot.enabled <|> config.main?.map fun entry => entry.options.hot).getD false

/-- Styles are built for production: the style section decides, then the main pipeline. -/
def styleProduction (config : Config) : Bool :=
  (config.style.production <|>
    config.main?.map fun entry => entry.options.mode == .production).getD false

end Config

end ModuleBridge
