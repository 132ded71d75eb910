import ModuleBridge.Config
import ModuleBridge.Disk

/-!
# Import requests

An import request becomes an id that can be loaded: its path is resolved to a
file and its query is put back behind it.  When imports carry a formation
suffix, an extension that no language file has is set aside first and put back
after the path.
-/

namespace ModuleBridge.Request

/-- What resolution needs to know of the configuration. -/
structure Rules where
  extensions : List String
  formationSuffix? : Option String
  deriving DecidableEq, Repr, Inhabited

/-- The extension is one of a language file. -/
def Rules.isLanguage (rules : Rules) (extension : String) : Bool :=
  rules.extensions.contains (String.ofList (extension.toList.dropWhile (· == '.')))

/--
The path of a request and its query.  Question marks after the first separate
further fragments; the first fragment comes last, so that it has the last word.
-/
def split (id : String) : String × String :=
  match id.toList.splitOn '?' with
  | [] => ("", "")
  | [path] => (String.ofList path, "")
  | path :: first :: further =>
    let fragments := (further ++ [first]).filter fun fragment => !fragment.isEmpty
    (String.ofList path, String.intercalate "&" (fragments.map String.ofList))

/--
The path without the suffix that import formation added, and that suffix.  As
many bytes are taken off the end as the suffix has; a path with separators
behind its last name may be cut elsewhere than before the suffix, and cannot
be cut inside a character.
-/
def setAside? (rules : Rules) (path : String) : Option (String × String) :=
  match rules.formationSuffix?, (Path.mk path).extension? with
  | some _, some extension =>
    if rules.isLanguage extension then
      some (path, "")
    else
      let suffix := "." ++ extension
      (Text.takeBytes? (path.utf8ByteSize - suffix.utf8ByteSize) path.toList).map fun kept =>
        (String.ofList kept, suffix)
  | _, _ => some (path, "")

/-- The request that a resolver is asked: a path from the root of the project. -/
def question (path : String) : String :=
  String.ofList ((Text.dropLead? ['/'] path.toList).getD path.toList)

/-- A resolver is asked only for a path that is relative or does not exist. -/
def asksResolver (disk : Disk) (path : String) : Bool :=
  !(Path.mk path).isAbsolute || !disk.exists? ⟨path⟩

/-- What a request resolves to, and the question put to the resolver on the way. -/
structure Answer where
  id : String
  asked? : Option String
  deriving DecidableEq, Repr, Inhabited

/--
Resolves a request; what the resolver does not know keeps its path.  There is
no answer when the suffix cannot be set aside.
-/
def resolve?
    (rules : Rules)
    (disk : Disk)
    (resolver : String → Option Path)
    (id : String) :
    Option Answer := do
  let (source, query) := split id
  let (path, suffix) ← setAside? rules source
  let asked? := if asksResolver disk path then some (question path) else none
  let file := ((asked?.bind resolver).map Path.text).getD path
  let tail := if query.isEmpty then "" else "?" ++ query
  some ⟨file ++ suffix ++ tail, asked?⟩

/-- The path under which a file's modules are listed when imports carry a suffix. -/
def formationKey (file : Path) (suffix : String) : Path :=
  if suffix.toList.head? = some '.' then ⟨file.text ++ suffix⟩ else ⟨file.text ++ "." ++ suffix⟩

end ModuleBridge.Request
