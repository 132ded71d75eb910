import ModuleBridge.Config

/-!
# Faults

Why a request of the host fails, with the message it is told and the short
label of the part that failed.
-/

namespace ModuleBridge

/-- A failure that the host is told of. -/
inductive Fault where
  /-- The analyzer failed, or left errors. -/
  | analysis (path : Path) (message : String)
  /-- The pipeline failed, or left errors. -/
  | build (resource message : String)
  /-- The pipeline gave neither an artifact nor an error. -/
  | noResult (resource : String)
  /-- What was asked for has no code. -/
  | emptyBuild (resource : String)
  /-- The artifact lacks the part that was asked for. -/
  | assetNotFound (resource kind index : String)
  /-- The style preprocessor reported errors. -/
  | preprocess (message : String)
  /-- The file is not on disk. -/
  | notFound (path : Path)
  /-- The pipeline does not do what was asked for. -/
  | capability (pipeline : String) (missing : Capability)
  /-- A call hook failed inside the pipeline. -/
  | hook (action message : String)
  /-- The file is on disk but cannot be read. -/
  | unreadable (path : Path)
  deriving DecidableEq, Repr, Inhabited

namespace Fault

/-- The message of a fault. -/
def message : Fault → String
  | .analysis path message => "analysis failed for `" ++ path.text ++ "`:\n" ++ message
  | .build resource message => "build failed for `" ++ resource ++ "`:\n" ++ message
  | .noResult resource => "Build error no result. on the \"" ++ resource ++ "\""
  | .emptyBuild resource => "Build error code is empty. on the \"" ++ resource ++ "\""
  | .assetNotFound resource kind index =>
    "Not found " ++ kind ++ " by \"" ++ index ++ "\". on the \"" ++ resource ++ "\""
  | .preprocess message => message
  | .notFound path => "'" ++ path.text ++ "' is not exists."
  | .capability pipeline missing => "pipeline `" ++ pipeline ++ "` does not support " ++ missing.name
  | .hook action message => "hook `" ++ action ++ "` failed: " ++ message
  | .unreadable path => "IO error when reading `" ++ path.text ++ "`"

/-- The part that failed. -/
def label : Fault → String
  | .analysis _ _ => "analysis"
  | .build _ _ | .noResult _ | .emptyBuild _ => "build"
  | .assetNotFound _ _ _ => "asset"
  | .preprocess _ => "style"
  | .notFound _ | .unreadable _ => "io"
  | .capability _ _ | .hook _ _ => "pipeline"

end Fault

end ModuleBridge
