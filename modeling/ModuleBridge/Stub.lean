import ModuleBridge.Path
import ModuleBridge.Text.Quoted

/-!
# Stubs

The modules that stand in for a file that a pipeline may not see: one that does
nothing, and one that imports what a server file depends on locally.  Texts in
them are quoted, and cannot end the comment they stand in.
-/

namespace ModuleBridge.Stub

/-- A quoted text without the end of a comment in it. -/
def literal (text : String) : String :=
  String.ofList (Text.replacePair '*' '/' ['*', '\\', '/'] (Text.quoted text).toList)

/-- The module served in place of a file outside a pipeline's scope. -/
def inert (file : Path) (requester : String) : String :=
  "export default null;/*Removed " ++ literal file.display ++
    " file that is not in plugin scope the " ++ literal requester ++ ". */"

/-- The module served in place of a server file: it imports the local files behind it. -/
def aggregate (files : List Path) : String :=
  String.join (files.map fun file => "import " ++ literal file.display ++ ";\n") ++
    "export default null;"

end ModuleBridge.Stub
