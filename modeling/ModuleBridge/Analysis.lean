import ModuleBridge.Diagnostic
import ModuleBridge.Section

/-!
# Analyses

What an analyzer finds in a source text.  The analyzer itself is supplied by
the host; its answer depends on nothing but the path and the text.
-/

namespace ModuleBridge

/-- The result of analysing one text. -/
structure Analysis where
  /-- The text could be parsed. -/
  hasTree : Bool
  blocks : List Block
  diagnostics : List Diagnostic
  /-- The files the text imports. -/
  dependencies : List Path
  /-- The file only declares things and never produces code. -/
  descriptionOnly : Bool
  deriving DecidableEq, Repr, Inhabited

/-- The sections of an analysed text. -/
def Analysis.sections (analysis : Analysis) (text : String) : Snapshot :=
  Snapshot.extract text analysis.blocks

/-- An analyzer: it fails with a message or finds something. -/
structure Analyzer where
  analyse : Path → String → Except String Analysis
  /-- The file that a request which is no path stands for. -/
  resolve : String → Option Path

end ModuleBridge
