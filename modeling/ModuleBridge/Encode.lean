import ModuleBridge.Bridge.Batch
import ModuleBridge.Bridge.HotUpdate
import ModuleBridge.Bridge.Load
import ModuleBridge.Decimal
import ModuleBridge.Json

/-!
# JSON forms

How configurations, artifacts, records and answers are handed to other programs.
-/

namespace ModuleBridge

namespace Toml.Value

mutual

/-- A TOML value as JSON; a number that is not finite is null. -/
def toJson : Value → Json
  | .string text => .string text
  | .integer number => .number (toString number)
  | .float number => .orNull ((renderFloat? number).map .number)
  | .boolean on => .boolean on
  | .datetime text => .object [("$__toml_private_datetime", .string text)]
  | .array items => .array (itemsToJson items)
  | .table entries => .object (entriesToJson entries)

/-- The items of an array as JSON. -/
def itemsToJson : List Value → List Json
  | [] => []
  | item :: rest => item.toJson :: itemsToJson rest

/-- The entries of a table as JSON. -/
def entriesToJson : List (String × Value) → List (String × Json)
  | [] => []
  | (key, value) :: rest => (key, value.toJson) :: entriesToJson rest

end

end Toml.Value

/-- A truth value that may be left open. -/
def Json.boolean? (value? : Option Bool) : Json :=
  orNull (value?.map boolean)

/-- Options as JSON; those only the pipeline understands stand beside the others. -/
def Options.toJson (options : Options) : Json :=
  let formation := Json.object [("enabled", .boolean options.formation.enabled),
    ("suffix", .string options.formation.suffix)]
  .object ([("mode", .string options.mode.name), ("hot", .boolean options.hot),
    ("source_maps", .boolean options.sourceMaps), ("ssr", .boolean? options.ssr),
    ("import_formation", .object [("ext", formation)])] ++
    Toml.Value.entriesToJson options.extra)

/-- A pipeline entry as JSON. -/
def PipelineEntry.toJson (entry : PipelineEntry) : Json :=
  .object [("name", .string entry.name), ("main", .boolean entry.main),
    ("scope", .texts entry.scope), ("target", .string entry.target.name),
    ("capabilities", .texts (entry.capabilities.map Capability.name)),
    ("options", entry.options.toJson)]

/-- A configuration as JSON. -/
def Config.toJson (config : Config) : Json :=
  .object [
    ("filter", .object [("include", .texts config.filter.included),
      ("exclude", .texts config.filter.excluded)]),
    ("resolve", .object [("virtual_prefixes", .texts config.resolve.virtualPrefixes),
      ("variant_suffix", .string config.resolve.variantSuffix),
      ("extensions", .texts config.resolve.extensions)]),
    ("hot", .object [("enabled", .boolean? config.hot.enabled),
      ("watch", .boolean config.hot.watch)]),
    ("style", .object [("scope_prefix", .string config.style.scopePrefix),
      ("preprocess_langs", .texts config.style.preprocessed),
      ("production", .boolean? config.style.production)]),
    ("pipeline", .array (config.pipelines.map PipelineEntry.toJson))]

/-- The name of a kind of asset in JSON. -/
def AssetKind.jsonName : AssetKind → String
  | .style => "style"
  | .embedded => "embedAsset"
  | .expansion => "macro"

/-- An asset as JSON. -/
def Asset.toJson (asset : Asset) : Json :=
  .object [("id", .string asset.id), ("kind", .string asset.kind.jsonName),
    ("code", .string asset.code), ("map", .text? asset.map?), ("scoped", .boolean asset.isScoped),
    ("scope_id", .text? asset.scopeId?)]

/-- The files read from a directory as JSON. -/
def DependGroup.toJson (group : DependGroup) : Json :=
  .object [("dir", .string group.folder.text), ("files", .texts (group.files.map Path.text)),
    ("disabled", .boolean group.disabled)]

/-- An artifact as JSON. -/
def Artifact.toJson (artifact : Artifact) : Json :=
  .object [("code", .string artifact.code), ("map", .text? artifact.map?),
    ("assets", .array (artifact.assets.map Asset.toJson)), ("raw", .text? artifact.raw?),
    ("depend_files", .array (artifact.groups.map DependGroup.toJson))]

/-- A diagnostic as JSON. -/
def Diagnostic.toJson (diagnostic : Diagnostic) : Json :=
  let kind := match diagnostic.severity with
    | .error => "error"
    | .warning => "warn"
  let position := diagnostic.position?.map fun position =>
    Json.array [.natural position.1, .natural position.2]
  .object [("kind", .string kind), ("message", .string diagnostic.message),
    ("file", .text? (diagnostic.file?.map Path.text)), ("position", .orNull position)]

/-- Items as a JSON array. -/
def Json.list {α : Type} (encode : α → Json) (items : List α) : Json :=
  .array (items.map encode)

/-- A path as JSON. -/
def Path.toJson (path : Path) : Json :=
  .string path.text

/-- The value of a query key as JSON. -/
def QueryValue.toJson : QueryValue → Json
  | .flag on => .boolean on
  | .text content => .string content

/-- A query as JSON: its keys with their values, in order. -/
def Query.toJson (query : Query) : Json :=
  .list (fun (key, value) => .array [.string key, QueryValue.toJson value]) query.entries

/-- Sections as JSON. -/
def Snapshot.toJson (sections : Snapshot) : Json :=
  .object [("script", .string sections.script), ("markup", .string sections.markup),
    ("style", .string sections.style), ("has_scoped_style", .boolean sections.scopedStyle)]

/-- A view as JSON; of lists, only their lengths. -/
def View.toJson (view : View) : Json :=
  let analysis := view.analysis
  .object [("path", view.path.toJson), ("revision", .natural view.revision),
    ("source", .string view.source), ("tree", .boolean analysis.hasTree),
    ("diagnostics", .natural analysis.diagnostics.length),
    ("dependencies", .natural analysis.dependencies.length),
    ("description_only", .boolean analysis.descriptionOnly), ("sections", view.sections.toJson)]

/-- The name of a watch state in JSON. -/
def WatchState.jsonName : WatchState → String
  | .unwatched => "Unwatched"
  | .clean => "Clean"
  | .dirty => "Dirty"

/-- A record as JSON, as far as it is visible from outside. -/
def Record.toJson (record : Record) : Json :=
  let analysis := fun (found : Analysis) =>
    Json.object [("tree", .boolean found.hasTree), ("blocks", .natural found.blocks.length)]
  .object [("path", record.path.toJson), ("valid", .boolean record.isValid),
    ("revision", .natural record.revision), ("watch", .string record.watch.jsonName),
    ("source", .text? record.source?), ("sections", .orNull (record.sections?.map Snapshot.toJson)),
    ("diagnostics", .list Diagnostic.toJson record.diagnostics),
    ("dependencies", .list Path.toJson record.dependencies),
    ("description_only", .boolean record.isDescriptionOnly),
    ("build", .orNull (record.slot?.map fun slot => slot.artifact.toJson)),
    ("analysis", .orNull (record.analysis?.map analysis)),
    ("view", .orNull (record.view?.map View.toJson))]

/-- A finished build as JSON. -/
def Built.toJson (built : Built) : Json :=
  .object [("path", built.key.toJson), ("result", built.artifact.toJson),
    ("revision", .natural built.revision), ("cached", .boolean built.cached),
    ("warnings", .list Diagnostic.toJson built.warnings)]

/-- What is served as JSON. -/
def Served.toJson (served : Served) : Json :=
  .object [("code", .string served.code), ("map", .text? served.map?),
    ("warnings", .texts served.warnings)]

/-- A module of the host as JSON. -/
def HostModule.toJson (found : HostModule) : Json :=
  .object [("id", .string found.id), ("url", .string found.url)]

/-- The answer to a hot update as JSON. -/
def HotUpdate.toJson : HotUpdate → Json
  | .unchanged => .string "Unchanged"
  | .updated modules renderOnly =>
    .object [("modules", .list HostModule.toJson modules), ("render_only", .boolean renderOnly)]
  | .failed diagnostics => .object [("failed", .list Diagnostic.toJson diagnostics)]

/-- A route as JSON. -/
def Route.toJson (route : Route) : Json :=
  .object [("path", .string route.path), ("file", route.file.toJson), ("name", .text? route.name?)]

/-- An event of a session as JSON. -/
def SessionEvent.toJson : SessionEvent → Json
  | .listingChanged path dependents =>
    .object [("event", .string "file-add"), ("path", path.toJson),
      ("dependents", .list Path.toJson dependents)]
  | .rebuilt path pipelines =>
    .object [("event", .string "rebuilt"), ("path", path.toJson), ("pipelines", .texts pipelines)]

end ModuleBridge
