import ModuleBridge.Setting

/-!
# A scripted language

Collaborators to try a bridge out with.  A source text of the scripted language
says line by line what its analysis holds; its pipeline exports the path of a
file and answers the other calls by words found in the text.
-/

namespace ModuleBridge.Script

/-- What one line says. -/
inductive Statement where
  /-- The analysis fails. -/
  | fail (message : String)
  | error (message : String)
  | warning (message : String)
  /-- There is no tree. -/
  | treeless
  | require (request : String)
  | style (scoped? : Option Bool)
  | markup
  | plain
  deriving DecidableEq, Repr, Inhabited

/-- What follows `start` in a line. -/
def after? (start line : String) : Option String :=
  (Text.dropLead? start.toList line.toList).map String.ofList

/-- A text has a part. -/
def mentions (text part : String) : Bool :=
  1 < (text.splitOn part).length

/-- The scoped attribute of a line that opens a style. -/
def scopedAttribute (line : String) : Option Bool :=
  if mentions line "scoped" then some (!mentions line "scoped=\"false\"") else none

/-- A request runs to the closing quote, or to the end of its line. -/
def untilQuote (text : String) : String :=
  String.ofList (text.toList.takeWhile fun letter => letter != '"')

/-- Reads a line that has no blanks at its ends. -/
def Statement.read (line : String) : Statement :=
  let first? := ((after? "@throw " line).map .fail) <|> ((after? "@error " line).map .error) <|>
    ((after? "@warn " line).map .warning) <|>
    ((after? "import \"" line).map fun rest => .require (untilQuote rest))
  match first? with
  | some statement => statement
  | none =>
    if line = "@notree" then .treeless
    else if (after? "<style" line).isSome then .style (scopedAttribute line)
    else if (after? "<" line).isSome then .markup
    else .plain

/-- Blanks at the ends of a line. -/
def isBlank (letter : Char) : Bool :=
  letter == ' ' || letter == '\t' || letter == '\r'

/-- The lines of a text without the blanks at their ends, each with the byte where it starts. -/
def linesFrom (position : Nat) : List (List Char) → List (Nat × String)
  | [] => []
  | line :: rest =>
    let core := String.ofList (Text.trimBy isBlank line)
    let front := if core.isEmpty then 0 else (line.takeWhile isBlank).length
    (position + front, core) :: linesFrom (position + (String.ofList line).utf8ByteSize + 1) rest

/-- A relative request as seen from a file; any other request stands for itself. -/
def target (file : Path) (request : String) : Path :=
  if (after? "./" request).isSome || (after? "../" request).isSome then
    ((file.parent?.getD ⟨""⟩).join ⟨request⟩).clean
  else
    ⟨request⟩

/-- The analysis with what a line says. -/
def addLine (file : Path) (analysis : Analysis) (line : Nat × String) : Except String Analysis :=
  let report := fun (found : Diagnostic) =>
    { analysis with diagnostics := analysis.diagnostics ++ [found] }
  let embed := fun (kind : BlockKind) =>
    let block : Block := ⟨kind, line.1, line.1 + line.2.utf8ByteSize⟩
    { analysis with blocks := analysis.blocks ++ [block] }
  match Statement.read line.2 with
  | .fail message => .error message
  | .error message => .ok (report ⟨.error, message, some file, none⟩)
  | .warning message => .ok (report ⟨.warning, message, some file, some (1, 1)⟩)
  | .treeless => .ok { analysis with hasTree := false }
  | .require request =>
    .ok { analysis with dependencies := analysis.dependencies ++ [target file request] }
  | .style scoped? => .ok (embed (.style scoped?))
  | .markup => .ok (embed .markup)
  | .plain => .ok analysis

/-- Analyses a text; errors leave it without a tree. -/
def analyse (file : Path) (source : String) : Except String Analysis := do
  let declares := (Text.dropTail? ".d.es".toList file.text.toList).isSome
  let lines := linesFrom 0 (source.toList.splitOn '\n')
  let analysis ← lines.foldlM (addLine file) ⟨true, [], [], [], declares⟩
  .ok { analysis with
    hasTree := analysis.hasTree && !analysis.diagnostics.any Diagnostic.isError }

/-- The assets of a text's styles and markup, where there are any. -/
def assets (sections : Snapshot) : List Asset :=
  (if sections.style.isEmpty then []
    else [{ Asset.plain .style "0" sections.style with map? := some "style-map" }]) ++
  (if sections.markup.isEmpty then [] else [Asset.plain .embedded "markup" sections.markup])

/-- Code that exports the path of a file, with the part that was selected. -/
def artifact (name : String) (view : View) (selector? : Option String) : Artifact :=
  let mark := match selector? with
    | some selector => "#" ++ selector
    | none => ""
  { code := "/*" ++ name ++ "*/export default " ++ Text.quoted (view.path.display ++ mark) ++ ";"
    map? := none
    assets := assets view.sections
    raw? := some view.source
    groups := [] }

/-- A route for every import. -/
def route (file : Path) : Route :=
  ⟨"/" ++ file.stem?.getD "", file, file.extension?⟩

/-- A pipeline by its name; `respond` may answer a build with another than the usual artifact. -/
def pipeline (name : String) (respond : Artifact → BuildAnswer) : Pipeline where
  build view order := respond (artifact name view order.selector?)
  expand view :=
    if mentions view.source "@nomacros" then .ok none
    else if mentions view.source "@badmacros" then .error "macros refused"
    else .ok (some ("macros of " ++ view.path.display))
  routes view :=
    if mentions view.source "@badroutes" then .error "routes refused"
    else .ok (view.analysis.dependencies.map route)
  hook _ action query :=
    if action = "fail" then .error "hook refused"
    else if action = "none" then .ok none
    else .ok (some ("/*" ++ action ++ ":" ++ (query.text? "arg").getD "-" ++ "*/"))

/-- A pipeline that builds the same for every file and answers no other call. -/
def barePipeline : Pipeline where
  build _ _ := .built { Artifact.ofCode "bare" with groups := [⟨⟨"/proj/bare"⟩, [], true⟩] } []
  expand _ := .ok none
  routes _ := .ok []
  hook _ _ _ := .ok none

/-- A preprocessor that marks what it compiled. -/
def preprocessor : Preprocessor := fun request =>
  if mentions request.source "@styleempty" then ⟨"", request.map?, []⟩
  else if mentions request.source "@styleerror" then
    ⟨"", none, [⟨"bad", some "at 1:1"⟩, ⟨"worse", none⟩]⟩
  else ⟨"/*compiled*/" ++ request.source, request.map?, []⟩

end ModuleBridge.Script
