import ModuleBridge.Console
import ModuleBridge.Path

/-!
# Diagnostics

What an analyzer or a pipeline finds fault with.  An error stops a build; a
warning is shown and the build goes on.
-/

namespace ModuleBridge

/-- How grave a diagnostic is. -/
inductive Severity where
  | error
  | warning
  deriving DecidableEq, Repr, Inhabited

/-- One finding. -/
structure Diagnostic where
  severity : Severity
  message : String
  /-- The file it points into. -/
  file? : Option Path
  /-- Line and column, both counted from one. -/
  position? : Option (Nat × Nat)
  deriving DecidableEq, Repr, Inhabited

namespace Diagnostic

/-- An error without a place. -/
def ofError (message : String) : Diagnostic :=
  ⟨.error, message, none, none⟩

/-- The diagnostic is an error. -/
def isError (diagnostic : Diagnostic) : Bool :=
  diagnostic.severity == .error

/-- The severity as it is shown. -/
def label : Severity → String
  | .error => Text.bold (Text.paint .red "error")
  | .warning => Text.bold (Text.paint .yellow "warning")

/-- The place of a diagnostic as it is shown: a position stands only behind a file. -/
def place (diagnostic : Diagnostic) : String :=
  match diagnostic.file? with
  | none => ""
  | some file =>
    let position := match diagnostic.position? with
      | none => ""
      | some (line, column) => ":" ++ toString line ++ ":" ++ toString column
    "\n  " ++ Text.dim "-->" ++ " " ++ file.text ++ position

/-- The diagnostic as it is shown. -/
def render (diagnostic : Diagnostic) : String :=
  label diagnostic.severity ++ ": " ++ diagnostic.message ++ diagnostic.place

end Diagnostic

/-- Diagnostics by severity, each part in the order in which they came. -/
structure Findings where
  errors : List Diagnostic
  warnings : List Diagnostic
  deriving DecidableEq, Repr, Inhabited

namespace Findings

/-- Splits diagnostics by severity. -/
def ofList (diagnostics : List Diagnostic) : Findings :=
  ⟨diagnostics.filter Diagnostic.isError, diagnostics.filter fun found => !found.isError⟩

/-- There is an error. -/
def hasErrors (findings : Findings) : Bool :=
  !findings.errors.isEmpty

/-- There is an error exactly where one of the diagnostics is one. -/
theorem hasErrors_ofList (diagnostics : List Diagnostic) :
    (ofList diagnostics).hasErrors = diagnostics.any Diagnostic.isError := by
  induction diagnostics with
  | nil => rfl
  | cons found rest inductive_step =>
    simp only [hasErrors, ofList, List.filter_cons, List.any_cons] at inductive_step ⊢
    cases known : found.isError <;> simp [inductive_step]

/-- The errors as one message. -/
def errorMessage (findings : Findings) : String :=
  String.intercalate "\n" (findings.errors.map Diagnostic.render)

/-- The warnings as they are shown. -/
def warningMessages (findings : Findings) : List String :=
  findings.warnings.map Diagnostic.render

/-- Prints every warning. -/
def logWarnings (findings : Findings) (console : Console) : Console :=
  findings.warningMessages.foldl (fun console message => console.log "warn" message) console

end Findings

end ModuleBridge
