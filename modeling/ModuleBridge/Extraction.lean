import ModuleBridge.Artifact
import ModuleBridge.Fault
import ModuleBridge.Resource
import ModuleBridge.Text.Quoted

/-!
# Extraction

Picking what a request asks for out of an artifact: a style asset, an embedded
asset, the text before templates were expanded, or the code itself.  A style
goes through the preprocessor where there is one.  Nothing empty is handed out.
-/

namespace ModuleBridge

/-- What a style preprocessor is given. -/
structure StyleRequest where
  source : String
  file : Path
  isScoped : Bool
  /-- The scope id, empty when unscoped. -/
  scopeId : String
  map? : Option String
  /-- Set for languages that are to be preprocessed. -/
  language? : Option String
  production : Bool
  deriving DecidableEq, Repr, Inhabited

/-- An error of a style preprocessor. -/
structure StyleError where
  message : String
  stack? : Option String
  deriving DecidableEq, Repr, Inhabited

/-- What a style preprocessor answers. -/
structure StyleOutput where
  code : String
  map? : Option String
  errors : List StyleError
  deriving DecidableEq, Repr, Inhabited

/-- A style preprocessor. -/
abbrev Preprocessor := StyleRequest → StyleOutput

/-- An error with its stack on the next line. -/
def StyleError.render (error : StyleError) : String :=
  match error.stack? with
  | some stack => error.message ++ "\n" ++ stack
  | none => error.message

/-- Errors as one message. -/
def StyleError.join (errors : List StyleError) : String :=
  String.intercalate "\n" (errors.map StyleError.render)

/-- Code with its source map. -/
structure Extracted where
  code : String
  map? : Option String
  deriving DecidableEq, Repr, Inhabited

/-- What an extraction gives, and what was put to the preprocessor on the way. -/
structure Extraction where
  outcome : Except Fault Extracted
  asked? : Option StyleRequest

namespace Extraction

/-- How styles are compiled. -/
structure Rules where
  style : StyleSettings
  production : Bool
  preprocessor? : Option Preprocessor

/-- An extraction that asked nobody. -/
def settled (outcome : Except Fault Extracted) : Extraction :=
  ⟨outcome, none⟩

/-- The asset of a kind that a request's index selects. -/
def select (artifact : Artifact) (resource : Resource) (kind : AssetKind) : Except Fault Asset :=
  let index := resource.index?.getD ""
  match artifact.find? kind index with
  | some asset => .ok asset
  | none => .error (.assetNotFound resource.id kind.name index)

/-- What the preprocessor is given for a style asset. -/
def styleRequest (rules : Rules) (resource : Resource) (asset : Asset) : StyleRequest :=
  let scopeId := match resource.scopeToken? with
    | some token => rules.style.scopePrefix ++ token
    | none => ""
  { source := asset.code
    file := resource.path
    isScoped := !scopeId.isEmpty
    scopeId := scopeId
    map? := asset.map?
    language? := resource.language?.filter rules.style.allows
    production := rules.production }

/-- What a preprocessor's answer gives. -/
def ofStyleOutput (output : StyleOutput) : Except Fault Extracted :=
  if output.errors.isEmpty then
    .ok ⟨output.code, output.map?⟩
  else
    .error (.preprocess (StyleError.join output.errors))

/-- A style asset, compiled where there is a preprocessor. -/
def style (rules : Rules) (artifact : Artifact) (resource : Resource) : Extraction :=
  match select artifact resource .style with
  | .error fault => settled (.error fault)
  | .ok asset =>
    match rules.preprocessor? with
    | none => settled (.ok ⟨asset.code, asset.map?⟩)
    | some preprocessor =>
      let request := styleRequest rules resource asset
      ⟨ofStyleOutput (preprocessor request), some request⟩

/-- An embedded asset as a module that exports its text. -/
def embedded (artifact : Artifact) (resource : Resource) : Extraction :=
  settled ((select artifact resource .embedded).map fun asset =>
    ⟨"export default " ++ Text.quoted asset.code, asset.map?⟩)

/-- The text before templates were expanded. -/
def source (artifact : Artifact) (resource : Resource) : Extraction :=
  settled (match artifact.raw? with
    | some raw => .ok ⟨raw, none⟩
    | none => .error (.assetNotFound resource.id "src" ""))

/-- Picks by what is asked for. -/
def pick (rules : Rules) (artifact : Artifact) (resource : Resource) : Extraction :=
  match resource.requestType? with
  | some .embedAssets => embedded artifact resource
  | some .style => style rules artifact resource
  | _ =>
    if resource.wantsSource then
      source artifact resource
    else
      settled (.ok ⟨artifact.code, artifact.map?⟩)

/-- Refuses empty code. -/
def nonEmpty (resource : Resource) (extracted : Extracted) : Except Fault Extracted :=
  if extracted.code.isEmpty then .error (.emptyBuild resource.id) else .ok extracted

end Extraction

/-- Picks what a request asks for; nothing empty is handed out. -/
def extract (rules : Extraction.Rules) (artifact : Artifact) (resource : Resource) : Extraction :=
  let picked := Extraction.pick rules artifact resource
  { picked with outcome := picked.outcome.bind (Extraction.nonEmpty resource) }

/-- What is handed out is not empty. -/
theorem code_isEmpty_of_extract {rules : Extraction.Rules} {artifact : Artifact}
    {resource : Resource} {extracted : Extracted}
    (picked : (extract rules artifact resource).outcome = .ok extracted) :
    extracted.code.isEmpty = false := by
  simp only [extract, Except.bind] at picked
  split at picked
  · simp at picked
  · unfold Extraction.nonEmpty at picked
    split at picked
    · simp at picked
    · rename_i kept
      simp only [Except.ok.injEq] at picked
      simpa [← picked] using kept

end ModuleBridge
