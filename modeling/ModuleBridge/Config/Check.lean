import ModuleBridge.Config
import ModuleBridge.Config.Report
import ModuleBridge.Pattern.Reader
import ModuleBridge.Text.Blank

/-!
# Checking a configuration

A configuration is usable when every pattern can be read, there are language
extensions and none starts with a dot, the variant suffix starts with one, no
style language is blank, and the pipelines have names of their own with exactly
one main pipeline among them.
-/

namespace ModuleBridge

open Report

/-- Reports on the items of a list, each with its index. -/
def Report.each {α : Type} (items : List α) (report : Nat → α → Report) : Report :=
  joined (items.zipIdx.map fun item => report item.2 item.1)

/-- A pattern that cannot be read is reported. -/
def Report.ofPattern (field pattern : String) : Report :=
  match Pattern.read false pattern with
  | .ok _ => empty
  | .error refusal => complaint field refusal.message none

/-- Checks the filter section. -/
def FilterSettings.check (settings : FilterSettings) : Report :=
  let patterns := fun (name : String) (texts : List String) =>
    each texts fun index text => ofPattern (Complaint.indexed "filter" index name) text
  patterns "include" settings.included ++ patterns "exclude" settings.excluded

/-- Checks the resolve section. -/
def ResolveSettings.check (settings : ResolveSettings) : Report :=
  let missing :=
    if settings.extensions.isEmpty then
      complaint "resolve.extensions" "at least one language extension is required" none
    else
      empty
  let dotted := each settings.extensions fun index extension =>
    if extension.toList.head? = some '.' then
      complaint (Complaint.indexed "resolve" index "extensions")
        ("extension `" ++ extension ++ "` starts with a dot")
        (some ("write `" ++ String.ofList (extension.toList.dropWhile (· == '.')) ++ "`"))
    else
      empty
  let suffix :=
    if settings.variantSuffix.isEmpty ∨ settings.variantSuffix.toList.head? = some '.' then
      empty
    else
      complaint "resolve.variant_suffix" "variant suffix must start with a dot" none
  missing ++ dotted ++ suffix

/-- Checks the style section. -/
def StyleSettings.check (settings : StyleSettings) : Report :=
  each settings.preprocessed fun index language =>
    if Text.isBlankText language then
      complaint (Complaint.indexed "style" index "preprocess_langs") "empty language name" none
    else
      empty

namespace PipelineEntry

/-- The names that count as taken before an entry: blank ones do not. -/
def takenNames (before : List PipelineEntry) : List String :=
  (before.map PipelineEntry.name).filter fun name => !Text.isBlankText name

/-- Checks the name of an entry against the entries before it. -/
def checkName (before : List PipelineEntry) (index : Nat) (entry : PipelineEntry) : Report :=
  let field := Complaint.indexed "pipeline" index "name"
  if Text.isBlankText entry.name then
    complaint field "empty name" none
  else if (takenNames before).contains entry.name then
    complaint field ("duplicate pipeline name `" ++ entry.name ++ "`") none
  else
    empty

/-- Checks one entry among all entries. -/
def check (entries : List PipelineEntry) (index : Nat) (entry : PipelineEntry) : Report :=
  let scope := joined (entry.scope.map (ofPattern (Complaint.indexed "pipeline" index "scope")))
  let target :=
    if entry.main ∧ entry.target = .server then
      caution (Complaint.indexed "pipeline" index "target")
        "main pipeline targets the server; local requests will only see stubs"
    else
      empty
  checkName (entries.take index) index entry ++ scope ++ target

/-- Checks that one entry is the main one. -/
def checkMain (entries : List PipelineEntry) : Report :=
  match entries.countP PipelineEntry.main with
  | 0 =>
    complaint "pipeline" "no main pipeline" (some "set `main = true` on one [[pipeline]] entry")
  | 1 => empty
  | count =>
    complaint "pipeline"
      (toString count ++ " pipelines are marked `main`, expected exactly one") none

end PipelineEntry

namespace Config

/-- Files of auxiliary pipelines are watched only where there are such pipelines. -/
def checkWatch (config : Config) : Report :=
  if config.hot.watch ∧ config.pipelines.length < 2 then
    caution "hot.watch" "watching only applies to cross pipelines; none configured"
  else
    empty

/-- Checks a whole configuration. -/
def check (config : Config) : Report :=
  joined [config.filter.check, config.resolve.check, config.style.check,
    PipelineEntry.checkMain config.pipelines,
    each config.pipelines (PipelineEntry.check config.pipelines), config.checkWatch]

end Config

end ModuleBridge
