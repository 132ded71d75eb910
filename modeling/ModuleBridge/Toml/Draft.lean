import ModuleBridge.Toml.Value

/-!
# Tables under construction

While a document is read, a table remembers how it came about: by a header of
its own, on the way to another table, or by a dotted key.  This decides who may
still add to it, so that no table is defined twice.
-/

namespace ModuleBridge.Toml

/-- What a key holds while the document is being read. -/
inductive Draft where
  | value (value : Value)
  /-- A table; `implicit` until it gets a header, `dotted` when a dotted key made it. -/
  | table (implicit dotted : Bool) (entries : List (String × Draft))
  /-- The tables of an array, the latest first. -/
  | tables (items : List (List (String × Draft)))
  deriving Repr, Inhabited

namespace Draft

/-- The entries of a table under construction. -/
abbrev Entries := List (String × Draft)

/-- What a key holds. -/
def get? (entries : Entries) (key : String) : Option Draft :=
  (entries.find? fun entry => entry.1 == key).map Prod.snd

/-- The entries with another draft for a key, which keeps its position. -/
def replace (entries : Entries) (key : String) (draft : Draft) : Entries :=
  entries.map fun entry => if entry.1 == key then (key, draft) else entry

/--
Changes the table at a path; tables missing on the way are made.  The change is
told whether a dotted key made the table.  A path of a dotted key may not enter
a table that has a header, and no path enters a value.
-/
def changeAt {α : Type} (dotted : Bool) (change : Bool → Entries → Option (α × Entries)) :
    List String → Bool → Entries → Option (α × Entries)
  | [], made, entries => change made entries
  | key :: path, _, entries =>
    match get? entries key with
    | none => do
      let (result, inner) ← changeAt dotted change path dotted []
      some (result, entries ++ [(key, .table true dotted inner)])
    | some (.value _) => none
    | some (.tables []) => none
    | some (.tables (latest :: others)) => do
      let (result, inner) ← changeAt dotted change path false latest
      some (result, replace entries key (.tables (inner :: others)))
    | some (.table implicit made inner) =>
      if dotted && !implicit then
        none
      else do
        let (result, inner) ← changeAt dotted change path made inner
        some (result, replace entries key (.table implicit made inner))

/-- Adds a value at a path; the last key must be new, and its table made in the same manner. -/
def insertValue (path : List String) (value : Value) (entries : Entries) : Option Entries :=
  match path.getLast? with
  | none => none
  | some key =>
    let parents := path.dropLast
    let add := fun (made : Bool) (inner : Entries) =>
      if made == parents.isEmpty || (get? inner key).isSome then none
      else some ((), inner ++ [(key, .value value)])
    (changeAt true add parents false entries).map Prod.snd

mutual

/-- The value of a finished draft. -/
def settle : Draft → Value
  | .value known => known
  | .table _ _ entries => .table (settleEntries entries)
  | .tables items => .array (settleTables items).reverse

/-- The values of finished entries. -/
def settleEntries : List (String × Draft) → List (String × Value)
  | [] => []
  | (key, draft) :: rest => (key, draft.settle) :: settleEntries rest

/-- The values of finished tables. -/
def settleTables : List (List (String × Draft)) → List Value
  | [] => []
  | entries :: rest => .table (settleEntries entries) :: settleTables rest

end

end Draft

end ModuleBridge.Toml
