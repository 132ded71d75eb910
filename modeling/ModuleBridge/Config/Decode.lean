import ModuleBridge.Config

/-!
# Configurations from tables

A section is a table, or an array that gives its fields in their order.  What a
section leaves out has its standard value; a field of the wrong kind makes the
whole configuration unreadable.  Keys that nothing asks for are listed, with
the way to them; a pipeline's options keep theirs instead.
-/

namespace ModuleBridge.Config

open Toml (Value)

/-- A moment reads as a table with this one key. -/
def momentKey : String := "$__toml_private_datetime"

/-- The entries of a value that reads as a table. -/
def entries? : Value → Option Toml.Table
  | .table entries => some entries
  | .datetime text => some [(momentKey, .string text)]
  | _ => none

/-- The text of a value. -/
def text? : Value → Option String
  | .string text => some text
  | _ => none

/-- The truth value of a value. -/
def truth? : Value → Option Bool
  | .boolean on => some on
  | _ => none

/-- The items of a list. -/
def list? {α : Type} (item? : Value → Option α) : Value → Option (List α)
  | .array items => items.mapM item?
  | _ => none

/-- One of several names, alone or as the only key of an otherwise empty table. -/
def choice? {α : Type} (choices : List (String × α)) (value : Value) : Option α :=
  let name? := match value with
    | .string name => some name
    | .table [(name, .table [])] => some name
    | .table [(name, .array [])] => some name
    | _ => none
  name?.bind fun name => choices.lookup name

/-- The value of a field of a section, by its name or its index. -/
def field? (part : Value) (index : Nat) (name : String) : Option Value :=
  match part with
  | .array items => items[index]?
  | other => (entries? other).bind fun entries => entries.lookup name

/-- Reads a field of a section; one that is left out has its standard value. -/
def read? {α : Type} (part : Value) (index : Nat) (name : String) (standard : α)
    (decode? : Value → Option α) : Option α :=
  match field? part index name with
  | none => some standard
  | some value => decode? value

/-- A value that reads as a section. -/
def isPart : Value → Bool
  | .array _ => true
  | other => (entries? other).isSome

/-- A section is read only from what can be one. -/
def part? {α : Type} (decode? : Value → Option α) (value : Value) : Option α :=
  if isPart value then decode? value else none

/-- Reads a field that may be left open. -/
def optional? (value : Value) : Option (Option Bool) :=
  (truth? value).map some

/-- Reads the filter section. -/
def filter? : Value → Option FilterSettings := part? fun part => do
  let standard := FilterSettings.standard
  some ⟨← read? part 0 "include" standard.included (list? text?),
    ← read? part 1 "exclude" standard.excluded (list? text?)⟩

/-- Reads the resolve section. -/
def resolve? : Value → Option ResolveSettings := part? fun part => do
  let standard := ResolveSettings.standard
  some ⟨← read? part 0 "virtual_prefixes" standard.virtualPrefixes (list? text?),
    ← read? part 1 "variant_suffix" standard.variantSuffix text?,
    ← read? part 2 "extensions" standard.extensions (list? text?)⟩

/-- Reads the hot section. -/
def hot? : Value → Option HotSettings := part? fun part => do
  some ⟨← read? part 0 "enabled" none optional?, ← read? part 1 "watch" false truth?⟩

/-- Reads the style section. -/
def style? : Value → Option StyleSettings := part? fun part => do
  let standard := StyleSettings.standard
  some ⟨← read? part 0 "scope_prefix" standard.scopePrefix text?,
    ← read? part 1 "preprocess_langs" standard.preprocessed (list? text?),
    ← read? part 2 "production" none optional?⟩

/-- Reads how imports are suffixed. -/
def formation? : Value → Option Formation := part? fun part => do
  let standard := Options.standard.formation
  some ⟨← read? part 0 "enabled" standard.enabled truth?,
    ← read? part 1 "suffix" standard.suffix text?⟩

/-- Reads the section that holds how imports are suffixed. -/
def importFormation? : Value → Option Formation := part? fun part =>
  read? part 0 "ext" Options.standard.formation formation?

/-- The options that every pipeline has. -/
def optionNames : List String :=
  ["mode", "hot", "source_maps", "ssr", "import_formation"]

/-- The build modes by name. -/
def modes : List (String × BuildMode) :=
  [BuildMode.development, BuildMode.production].map fun mode => (mode.name, mode)

/-- Reads the options of a pipeline, which are a table. -/
def options? (value : Value) : Option Options := do
  let entries ← entries? value
  let standard := Options.standard
  let part := Value.table entries
  let mode ← read? part 0 "mode" standard.mode (choice? modes)
  let hot ← read? part 1 "hot" standard.hot truth?
  let sourceMaps ← read? part 2 "source_maps" standard.sourceMaps truth?
  let ssr ← read? part 3 "ssr" standard.ssr optional?
  let formation ← read? part 4 "import_formation" standard.formation importFormation?
  let extra := entries.filter fun entry => !optionNames.contains entry.1
  some ⟨mode, hot, sourceMaps, ssr, formation, extra⟩

/-- The targets by name. -/
def targets : List (String × Target) :=
  [Target.bundled, Target.server].map fun target => (target.name, target)

/-- The capabilities by name. -/
def capabilities : List (String × Capability) :=
  Capability.all.map fun capability => (capability.name, capability)

/-- Reads a pipeline, which must have a name. -/
def pipeline? : Value → Option PipelineEntry := part? fun part => do
  let name ← (field? part 0 "name").bind text?
  let main ← read? part 1 "main" false truth?
  let scope ← read? part 2 "scope" [] (list? text?)
  let target ← read? part 3 "target" .bundled (choice? targets)
  let capabilities ← read? part 4 "capabilities" [] (list? (choice? capabilities))
  let options ← read? part 5 "options" .standard options?
  some ⟨name, main, scope, target, capabilities, options⟩

/-- Reads a configuration from the table of a document. -/
def ofTable? (table : Toml.Table) : Option Config := do
  let part := Value.table table
  let filter ← read? part 0 "filter" .standard filter?
  let resolve ← read? part 1 "resolve" .standard resolve?
  let hot ← read? part 2 "hot" .standard hot?
  let style ← read? part 3 "style" .standard style?
  let pipelines ← read? part 4 "pipeline" [] (list? pipeline?)
  some ⟨none, filter, resolve, hot, style, pipelines⟩

/-- The keys of a section that are none of its fields, behind the way to the section. -/
def unknownKeys (place : String) (fields : List String) (value : Value) : List String :=
  (((entries? value).getD []).filter fun entry => !fields.contains entry.1).map fun entry =>
    place ++ "." ++ entry.1

/-- The unknown keys at and below a field of a section, by the field's name or index. -/
def unknownBelow (place : String) (fields : List String)
    (below : String → String → Value → List String) : Value → List String
  | .array items =>
    (items.take fields.length).zipIdx.flatMap fun (item, index) =>
      below (fields[index]?.getD "") (place ++ "." ++ toString index) item
  | other =>
    ((entries? other).getD []).flatMap fun (key, value) =>
      if fields.contains key then below key (place ++ "." ++ key) value
      else [place ++ "." ++ key]

/-- The unknown keys of how imports are suffixed. -/
def unknownInFormation (place : String) : Value → List String :=
  unknownBelow place ["ext"] fun _ place value => unknownKeys place ["enabled", "suffix"] value

/-- The unknown keys below the options that every pipeline has. -/
def unknownInOptions (place : String) (value : Value) : List String :=
  ((entries? value).getD []).flatMap fun (key, value) =>
    if key == "import_formation" then unknownInFormation (place ++ "." ++ key) value else []

/-- The unknown keys of a pipeline. -/
def unknownInPipeline (place : String) : Value → List String :=
  unknownBelow place ["name", "main", "scope", "target", "capabilities", "options"]
    fun field place value => if field == "options" then unknownInOptions place value else []

/-- The keys of a document that nothing asks for, in the document's order. -/
def unknownFields (table : Toml.Table) : List String :=
  table.flatMap fun (key, value) =>
    match key with
    | "filter" => unknownKeys key ["include", "exclude"] value
    | "resolve" => unknownKeys key ["virtual_prefixes", "variant_suffix", "extensions"] value
    | "hot" => unknownKeys key ["enabled", "watch"] value
    | "style" => unknownKeys key ["scope_prefix", "preprocess_langs", "production"] value
    | "pipeline" =>
      match value with
      | .array items => items.zipIdx.flatMap fun (item, index) =>
        unknownInPipeline (key ++ "." ++ toString index) item
      | _ => []
    | other => [other]

end ModuleBridge.Config
