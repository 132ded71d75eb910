import ModuleBridge.Toml.Draft
import ModuleBridge.Toml.Moment
import ModuleBridge.Toml.Text

/-!
# TOML documents

Values, and whole documents.  Lines are read one after another into the table
whose header came last; the table is put in its place when the next header
comes.  A document that breaks a rule is refused as a whole.
-/

namespace ModuleBridge.Toml

/-- The table of pairs in braces. -/
def inlineTable? (pairs : List (List String × Value)) : Option Value :=
  (pairs.foldlM (fun entries pair => Draft.insertValue pair.1 pair.2 entries) []).map
    fun entries => .table (Draft.settleEntries entries)

mutual

/-- A value; `depth` more levels may nest, and `bound` limits the number of parts. -/
def readValue (depth : Nat) : Nat → List Char → Option (Value × List Char)
  | 0, _ => none
  | bound + 1, rest =>
    match rest with
    | [] => none
    | '[' :: behind =>
      if depth ≤ 1 then none
      else (readItems (depth - 1) bound true behind).map fun (items, after) => (.array items, after)
    | '{' :: behind =>
      if depth ≤ 1 then none
      else do
        let (pairs, after) ← readPairs (depth - 1) bound true behind
        some (← inlineTable? pairs, after)
    | 't' :: 'r' :: 'u' :: 'e' :: after => some (.boolean true, after)
    | 'f' :: 'a' :: 'l' :: 's' :: 'e' :: after => some (.boolean false, after)
    | letter :: _ =>
      if letter = '"' ∨ letter = '\'' then
        (readString rest).map fun (text, after) => (.string text, after)
      else
        readMoment rest <|> readNumber rest

/-- The rest of an array; a further item may follow `first` of all or behind a comma. -/
def readItems (depth : Nat) : Nat → Bool → List Char → Option (List Value × List Char)
  | 0, _, _ => none
  | bound + 1, _, rest => do
    let inner ← skipLines rest.length rest
    match inner with
    | ']' :: after => some ([], after)
    | _ =>
      let (item, behind) ← readValue depth bound inner
      match ← skipLines behind.length behind with
      | ']' :: after => some ([item], after)
      | ',' :: further =>
        let (items, after) ← readItems depth bound false further
        some (item :: items, after)
      | _ => none

/-- The rest of a table in braces, which may be empty but not end behind a comma. -/
def readPairs (depth : Nat) : Nat → Bool → List Char → Option (List (List String × Value) × List Char)
  | 0, _, _ => none
  | bound + 1, first, rest =>
    match skipSpace rest with
    | '}' :: after => if first then some ([], after) else none
    | inner => do
      let (path, behind) ← readPath inner
      let (_, behind) ← readMark '=' behind
      let (value, behind) ← readValue depth bound (skipSpace behind)
      match skipSpace behind with
      | '}' :: after => some ([(path, value)], after)
      | ',' :: further =>
        let (pairs, after) ← readPairs depth bound false further
        some ((path, value) :: pairs, after)
      | _ => none

end

/-- A document that is being read. -/
structure Progress where
  root : Draft.Entries
  /-- The table that lines are added to. -/
  current : Draft.Entries
  /-- Where the current table belongs; nowhere but at the root while this is empty. -/
  path : List String
  /-- The current table belongs to an array. -/
  inArray : Bool
  deriving Repr, Inhabited

namespace Progress

/-- The progress before the first line. -/
def start : Progress := ⟨[], [], [], false⟩

/-- Changes the table that holds the last key of a path that a header names. -/
def changeParent {α : Type} (root : Draft.Entries) (path : List String)
    (change : Draft.Entries → Option (α × Draft.Entries)) : Option (α × Draft.Entries) :=
  Draft.changeAt false (fun _ entries => change entries) path.dropLast false root

/-- Puts the current table in its place. -/
def finish (progress : Progress) : Option Progress :=
  match progress.path.getLast? with
  | none => some ⟨progress.current, [], [], false⟩
  | some key => do
    let place := fun (entries : Draft.Entries) =>
      if progress.inArray then
        match Draft.get? entries key with
        | some (.tables items) =>
          some ((), Draft.replace entries key (.tables (progress.current :: items)))
        | _ => none
      else
        match Draft.get? entries key with
        | none => some ((), entries ++ [(key, .table false false progress.current)])
        | some _ => none
    let (_, root) ← changeParent progress.root progress.path place
    some ⟨root, [], [], false⟩

/-- Begins a table; one that was only passed through is taken over with what it holds. -/
def beginTable (progress : Progress) (path : List String) : Option Progress := do
  let progress ← progress.finish
  let key ← path.getLast?
  let take := fun (entries : Draft.Entries) =>
    match Draft.get? entries key with
    | none => some ([], entries)
    | some (.table true false inner) => some (inner, entries.filter fun entry => entry.1 != key)
    | some _ => none
  let (current, root) ← changeParent progress.root path take
  some ⟨root, current, path, false⟩

/-- Begins a further table of an array. -/
def beginItem (progress : Progress) (path : List String) : Option Progress := do
  let progress ← progress.finish
  let key ← path.getLast?
  let make := fun (entries : Draft.Entries) =>
    match Draft.get? entries key with
    | none => some ((), entries ++ [(key, .tables [])])
    | some (.tables _) => some ((), entries)
    | some _ => none
  let (_, root) ← changeParent progress.root path make
  some ⟨root, [], path, true⟩

/-- Reads a header line behind its opening bracket. -/
def readHeader (progress : Progress) : List Char → Option (Progress × List Char)
  | '[' :: rest => do
    let (path, behind) ← readPath rest
    match behind with
    | ']' :: ']' :: after => some (← progress.beginItem path, ← lineEnd? after)
    | _ => none
  | rest => do
    let (path, behind) ← readPath rest
    match behind with
    | ']' :: after => some (← progress.beginTable path, ← lineEnd? after)
    | _ => none

/-- Reads a line that gives a key a value. -/
def readPair (progress : Progress) (rest : List Char) : Option (Progress × List Char) := do
  let (path, behind) ← readPath rest
  let (_, behind) ← readMark '=' behind
  let (value, after) ← readValue depthLimit (behind.length + 1) (skipSpace behind)
  let current ← Draft.insertValue path value progress.current
  some ({ progress with current := current }, ← lineEnd? after)

/-- Reads lines until the document ends; `bound` limits their number. -/
def readLines : Nat → Progress → List Char → Option Progress
  | 0, _, _ => none
  | bound + 1, progress, rest =>
    match skipSpace rest with
    | [] => some progress
    | '#' :: comment => (lineEnd? ('#' :: comment)).bind (readLines bound progress)
    | '[' :: header =>
      (progress.readHeader header).bind fun (next, after) => readLines bound next after
    | behind =>
      match newline? behind with
      | some after => readLines bound progress after
      | none => (progress.readPair behind).bind fun (next, after) => readLines bound next after

end Progress

/-- Reads a document; a byte order mark in front does not count. -/
def parse? (text : String) : Option Table :=
  let letters := match text.toList with
    | '\uFEFF' :: rest => rest
    | letters => letters
  ((Progress.readLines (letters.length + 1) .start letters).bind Progress.finish).map
    fun progress => Draft.settleEntries progress.root

end ModuleBridge.Toml
