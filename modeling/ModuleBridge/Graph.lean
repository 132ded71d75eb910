import ModuleBridge.Entries
import ModuleBridge.Path

/-!
# Dependency graph

Which file imports which, kept in both directions: `uses` lists what a file
imports, `users` lists by whom a file is imported.  Every path is brought into
a normal form first; a file does not count as importing itself.
-/

namespace ModuleBridge

/-- The imports between files. -/
structure Graph where
  uses : List (Path × List Path)
  users : List (Path × List Path)
  deriving DecidableEq, Repr, Inhabited

namespace Graph

/-- No imports. -/
def empty : Graph := ⟨[], []⟩

/-- Adds an importer of a file. -/
def addUser (users : List (Path × List Path)) (file user : Path) : List (Path × List Path) :=
  match users.lookup file with
  | none => users ++ [(file, [user])]
  | some known =>
    if known.contains user then users
    else Entries.set users file (known ++ [user])

/-- Takes an importer of a file away; a file that nobody imports is forgotten. -/
def dropUser (users : List (Path × List Path)) (file user : Path) : List (Path × List Path) :=
  users.filterMap fun entry =>
    if entry.1 == file then
      let left := entry.2.filter fun known => known != user
      if left.isEmpty then none else some (file, left)
    else
      some entry

/-- Forgets a file, in its normal form, and what it imports. -/
def forget (graph : Graph) (file : Path) : Graph :=
  match graph.uses.lookup file with
  | none => graph
  | some imports =>
    ⟨Entries.without graph.uses file,
      imports.foldl (fun users dependency => dropUser users dependency file) graph.users⟩

/-- Forgets a file and what it imports. -/
def remove (normalise : Path → Path) (graph : Graph) (file : Path) : Graph :=
  graph.forget (normalise file)

/-- The distinct normal forms of imports, without the importing file. -/
def importsOf (normalise : Path → Path) (file : Path) (imports : List Path) : List Path :=
  ((imports.map normalise).filter fun dependency => dependency != file).eraseDups

/-- Records what a file imports, in place of what it imported before. -/
def record (normalise : Path → Path) (graph : Graph) (file : Path) (imports : List Path) :
    Graph :=
  let file := normalise file
  let graph := graph.forget file
  let imports := importsOf normalise file imports
  ⟨(file, imports) :: graph.uses,
    imports.foldl (fun users dependency => addUser users dependency file) graph.users⟩

/-- What a file imports; absent when nothing was recorded for it. -/
def uses? (normalise : Path → Path) (graph : Graph) (file : Path) : Option (List Path) :=
  graph.uses.lookup (normalise file)

/-- The files that import a file, in the order of their paths. -/
def usedBy (normalise : Path → Path) (graph : Graph) (file : Path) : List Path :=
  ((graph.users.lookup (normalise file)).getD []).mergeSort Path.le

end Graph

end ModuleBridge
