import ModuleBridge.Config
import ModuleBridge.Query
import ModuleBridge.Text.Percent

/-!
# Resources

A module id as the host hands it over names a file and says, in its query,
what is wanted of it.  Reading an id is total: percent escapes are decoded, a
known virtual beginning is taken off, the query is split from the path, and
the template-variant suffix becomes the flag `vue`.
-/

namespace ModuleBridge

/-- A kind of asset that a query can ask for. -/
inductive RequestType where
  | style
  | embedAssets
  /-- A kind that is not served here. -/
  | other (name : String)
  deriving DecidableEq, Repr, Inhabited

/-- A module id, read. -/
structure Resource where
  path : Path
  /-- The id as it was handed over. -/
  id : String
  query : Query
  deriving DecidableEq, Repr, Inhabited

namespace Resource

/-- The kind of asset that is asked for. -/
def requestType? (resource : Resource) : Option RequestType :=
  (resource.query.text? "type").map fun name =>
    if name = "style" then .style
    else if name = "embedAssets" then .embedAssets
    else .other name

/-- Which of several assets is asked for. -/
def index? (resource : Resource) : Option String :=
  resource.query.text? "index"

/-- Which part of the file is to be built. -/
def selector? (resource : Resource) : Option String :=
  resource.query.text? "id"

/-- The language of a style. -/
def language? (resource : Resource) : Option String :=
  resource.query.text? "lang"

/-- The token that scopes a style, from `scoped` or else from `scopeId`. -/
def scopeToken? (resource : Resource) : Option String :=
  (resource.query.text? "scoped" <|> resource.query.text? "scopeId").filter fun token =>
    !token.isEmpty

/-- The file's expanded macros are asked for. -/
def wantsMacros (resource : Resource) : Bool :=
  resource.query.flag "macro"

/-- The text before templates were expanded is asked for. -/
def wantsSource (resource : Resource) : Bool :=
  resource.query.flag "src"

/-- The keys that mean yes when they stand with an empty value. -/
def flagKeys : List String :=
  ["vue", "macro", "src", "callhook", "direct"]

/-- `vue` is a flag whatever its value; another flag key is one when its value is empty. -/
def settleFlag (query : Query) (key : String) : Query :=
  if key = "vue" ∧ query.contains key then
    query.insert key (.flag true)
  else if query.get? key = some (.text "") then
    query.insert key (.flag true)
  else
    query

/-- The path before the variant suffix, when a language extension stands there. -/
def stripVariant? (settings : ResolveSettings) (path : String) : Option String := do
  if settings.variantSuffix.isEmpty then
    none
  let base ← Text.dropTail? settings.variantSuffix.toList path.toList
  let extension ← (Path.mk (String.ofList base)).extension?
  if settings.extensions.contains extension then some (String.ofList base) else none

/-- The text after the first virtual beginning in the list that it begins with. -/
def stripVirtual (settings : ResolveSettings) (text : String) : String :=
  let found := settings.virtualPrefixes.findSome? fun lead =>
    Text.dropLead? lead.toList text.toList
  (found.map String.ofList).getD text

/-- The text before and after the first question mark. -/
def splitQuery (text : String) : String × String :=
  match Text.cut? '?' text.toList with
  | some (path, query) => (String.ofList path, String.ofList query)
  | none => (text, "")

/-- Reads a module id. -/
def parse (settings : ResolveSettings) (id : String) : Resource :=
  let (path, rawQuery) := splitQuery (stripVirtual settings (Text.percentDecode id))
  let query := flagKeys.foldl settleFlag (Query.parse rawQuery)
  match stripVariant? settings path with
  | some base =>
    let query := if query.contains "vue" then query else query.insert "vue" (.flag true)
    ⟨Path.clean ⟨base⟩, id, query⟩
  | none => ⟨Path.clean ⟨path⟩, id, query⟩

end Resource

end ModuleBridge
