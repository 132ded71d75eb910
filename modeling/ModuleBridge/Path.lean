import ModuleBridge.Text.Cut

/-!
# File paths

A path is the text it was written as.  What it means is its list of
components: runs of `/` separate them, a lone `.` stands only at the front of
a relative path, and `..` is kept, because a path alone does not say whether
the directory before it is a link.

`clean` removes `.` and every `..` that has a name before it.  Two paths name
the same place in the text sense when their components agree; `beq` is that
comparison, and `compare` orders paths component by component.
-/

namespace ModuleBridge

/-- One step of a path. -/
inductive Component where
  | root
  | current
  | parent
  | name (text : String)
  deriving DecidableEq, Repr, Inhabited

namespace Component

/-- Reads the text between two separators; empty text and a lone `.` are no step. -/
def ofPiece? : List Char → Option Component
  | [] => none
  | ['.'] => none
  | ['.', '.'] => some .parent
  | piece => some (.name (String.ofList piece))

/-- The text of one step. -/
def text : Component → String
  | .root => "/"
  | .current => "."
  | .parent => ".."
  | .name text => text

/-- Steps of different kinds are ordered root, `.`, `..`, names. -/
def rank : Component → Nat
  | .root => 0
  | .current => 1
  | .parent => 2
  | .name _ => 3

/-- Names are ordered by their code points, other steps by their rank. -/
def order : Component → Component → Ordering
  | .name left, .name right => compare left right
  | left, right => compare left.rank right.rank

end Component

/-- A path as it was written. -/
structure Path where
  text : String
  deriving DecidableEq, Repr, Inhabited

namespace Path

/-- A path is absolute when it starts at the root. -/
def isAbsolute (path : Path) : Bool :=
  path.text.toList.head? == some '/'

/-- The steps of a path. -/
def components (path : Path) : List Component :=
  match path.text.toList.splitOn '/' with
  | [] => []
  | ['.'] :: rest => .current :: rest.filterMap Component.ofPiece?
  | [] :: [] => []
  | [] :: rest => .root :: rest.filterMap Component.ofPiece?
  | first :: rest => (first :: rest).filterMap Component.ofPiece?

/-- The path that is written with one `/` between its steps. -/
def ofComponents : List Component → Path
  | .root :: rest => ⟨"/" ++ String.intercalate "/" (rest.map Component.text)⟩
  | steps => ⟨String.intercalate "/" (steps.map Component.text)⟩

/-- Paths with the same steps are the same path, however they are written. -/
def same (left right : Path) : Bool :=
  left.components == right.components

/-- Paths are ordered step by step. -/
def order (left right : Path) : Ordering :=
  List.compareLex Component.order left.components right.components

/-- `left` stands before or beside `right`. -/
def le (left right : Path) : Bool :=
  (order left right).isLE

/-- The path of `other` as seen from `base`; an absolute `other` stands for itself. -/
def join (base other : Path) : Path :=
  if other.isAbsolute || base.text.isEmpty then
    other
  else if base.text.toList.getLast? == some '/' then
    ⟨base.text ++ other.text⟩
  else
    ⟨base.text ++ "/" ++ other.text⟩

/-- The last step, when it is a name. -/
def fileName? (path : Path) : Option String :=
  match path.components.getLast? with
  | some (.name text) => some text
  | _ => none

/-- A file name cut at its last dot; a dot in front belongs to the stem. -/
def splitName (name : String) : String × Option String :=
  match Text.cutLast? '.' name.toList with
  | none => (name, none)
  | some ([], _) => (name, none)
  | some (stem, extension) => (String.ofList stem, some (String.ofList extension))

/-- What follows the last dot of the file name. -/
def extension? (path : Path) : Option String :=
  path.fileName?.bind fun name => (splitName name).2

/-- The file name without its extension. -/
def stem? (path : Path) : Option String :=
  path.fileName?.map fun name => (splitName name).1

/-- The path without its last step; the root and the empty path have no parent. -/
def parent? (path : Path) : Option Path :=
  match path.components with
  | [] => none
  | [.root] => none
  | steps => some (ofComponents steps.dropLast)

/-- `base` is an ancestor of `path` or the same place. -/
def startsWith (path base : Path) : Bool :=
  base.components.isPrefixOf path.components

/--
One step of cleaning: the steps kept so far, the latest first.  A `..` takes a
name back, is dropped at the root and is kept at the front of a relative path.
-/
def cleanStep (kept : List Component) : Component → List Component
  | .current => kept
  | .parent =>
    match kept with
    | .name _ :: before => before
    | .root :: before => .root :: before
    | _ => .parent :: kept
  | step => step :: kept

/-- The steps that remain when `.` and every resolvable `..` are removed. -/
def cleanComponents (steps : List Component) : List Component :=
  (steps.foldl cleanStep []).reverse

/-- The path without `.` and resolvable `..`; nothing left is written `.`. -/
def clean (path : Path) : Path :=
  match cleanComponents path.components with
  | [] => ⟨"."⟩
  | steps => ofComponents steps

/-- The path with forward slashes only, as it is written into generated code. -/
def display (path : Path) : String :=
  Text.replaceChar '\\' '/' path.text

end Path

end ModuleBridge
