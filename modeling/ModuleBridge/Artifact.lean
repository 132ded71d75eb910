import ModuleBridge.Path

/-!
# Artifacts

What a pipeline builds from a file: code, named assets, the text before
templates were expanded, and the directories that were read on the way.
-/

namespace ModuleBridge

/-- What an asset is. -/
inductive AssetKind where
  | style
  | embedded
  | expansion
  deriving DecidableEq, Repr, Inhabited

/-- The name by which a request asks for a kind of asset. -/
def AssetKind.name : AssetKind → String
  | .style => "style"
  | .embedded => "embedAssets"
  | .expansion => "macro"

/-- A named part of an artifact. -/
structure Asset where
  /-- What a request's index is compared with. -/
  id : String
  kind : AssetKind
  code : String
  map? : Option String
  isScoped : Bool
  scopeId? : Option String
  deriving DecidableEq, Repr, Inhabited

/-- An asset without a source map and without a scope. -/
def Asset.plain (kind : AssetKind) (id code : String) : Asset :=
  ⟨id, kind, code, none, false, none⟩

/-- Files that a build read from a directory. -/
structure DependGroup where
  folder : Path
  files : List Path
  /-- Only the directory is tracked, not its files. -/
  disabled : Bool
  deriving DecidableEq, Repr, Inhabited

/-- What one build produced. -/
structure Artifact where
  code : String
  map? : Option String
  assets : List Asset
  /-- The text before templates were expanded. -/
  raw? : Option String
  groups : List DependGroup
  deriving DecidableEq, Repr, Inhabited

namespace Artifact

/-- An artifact of code alone. -/
def ofCode (code : String) : Artifact :=
  ⟨code, none, [], none, []⟩

/-- The first asset of a kind with an id. -/
def find? (artifact : Artifact) (kind : AssetKind) (id : String) : Option Asset :=
  artifact.assets.find? fun asset => asset.kind == kind && asset.id == id

/-- The build read files from directories. -/
def hasGroups (artifact : Artifact) : Bool :=
  !artifact.groups.isEmpty

end Artifact

end ModuleBridge
