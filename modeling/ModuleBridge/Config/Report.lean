import ModuleBridge.Console

/-!
# Reports on a configuration

What is wrong with a configuration, collected as a whole: complaints that make
it unusable and cautions that are only printed.
-/

namespace ModuleBridge

/-- Something wrong with a field, perhaps with a hint how to mend it. -/
structure Complaint where
  field : String
  message : String
  hint? : Option String
  deriving DecidableEq, Repr, Inhabited

namespace Complaint

/-- The name of a field of the item at an index of a section. -/
def indexed (part : String) (index : Nat) (name : String) : String :=
  part ++ "[" ++ toString index ++ "]." ++ name

/-- A field as it is named in running text. -/
def renderField (field : String) : String :=
  Text.paint .brightBlue ("`" ++ field ++ "`")

/-- The complaint as it is shown. -/
def render (complaint : Complaint) : String :=
  let head := Text.dim "[" ++ Text.paint .cyan complaint.field ++ Text.dim "]"
  let hint := match complaint.hint? with
    | some hint => "\n  " ++ Text.paint .yellow "hint:" ++ " " ++ hint
    | none => ""
  head ++ "\n" ++ Text.paint .red "→" ++ " " ++ complaint.message ++ hint

end Complaint

/-- Something doubtful about a field. -/
structure Caution where
  field : String
  message : String
  deriving DecidableEq, Repr, Inhabited

/-- All that a check found, in the order in which it was found. -/
structure Report where
  complaints : List Complaint
  cautions : List Caution
  deriving DecidableEq, Repr, Inhabited

namespace Report

/-- A report of nothing. -/
def empty : Report := ⟨[], []⟩

/-- One report behind another. -/
def append (first second : Report) : Report :=
  ⟨first.complaints ++ second.complaints, first.cautions ++ second.cautions⟩

instance : Append Report := ⟨append⟩

/-- A report of one complaint. -/
def complaint (field message : String) (hint? : Option String) : Report :=
  ⟨[⟨field, message, hint?⟩], []⟩

/-- A report of one caution. -/
def caution (field message : String) : Report :=
  ⟨[], [⟨field, message⟩]⟩

/-- Several reports in a row. -/
def joined (reports : List Report) : Report :=
  reports.foldl append empty

/-- Nothing in the report makes the configuration unusable. -/
def isClean (report : Report) : Bool :=
  report.complaints.isEmpty

/-- The complaints as they are shown; several are counted at the end. -/
def render (report : Report) : String :=
  let count := report.complaints.length
  let total :=
    if 1 < count then
      "\n\n" ++ Text.dim "found" ++ " " ++ Text.bold (Text.paint .red (toString count)) ++ " " ++
        Text.dim "errors"
    else
      ""
  Text.bold (Text.paint .red "config validation failed:") ++ "\n\n" ++
    String.intercalate "\n\n" (report.complaints.map Complaint.render) ++ total

/-- Prints the cautions. -/
def printCautions (report : Report) (console : Console) : Console :=
  report.cautions.foldl
    (fun console caution => console.log "warn" ("[" ++ caution.field ++ "] " ++ caution.message))
    console

end Report

end ModuleBridge
