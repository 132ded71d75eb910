import ModuleBridge.Entries
import ModuleBridge.Graph
import ModuleBridge.Record

/-!
# Registry

The records of all files, each under its normal path, and the imports between
the files.  A record once made stays until the registry is cleared.
-/

namespace ModuleBridge

/-- The records of a session. -/
structure Registry where
  records : List (Path × Record)
  graph : Graph
  /-- How often the analyzer was called. -/
  analyses : Nat
  deriving DecidableEq, Repr, Inhabited

namespace Registry

/-- No records. -/
def empty : Registry := ⟨[], .empty, 0⟩

/-- The record under a key. -/
def get? (registry : Registry) (key : Path) : Option Record :=
  registry.records.lookup key

/-- The record under a key; one that does not exist is a fresh one. -/
def find (registry : Registry) (key : Path) : Record :=
  (registry.get? key).getD (.fresh key)

/-- Makes a fresh record where there is none. -/
def create (registry : Registry) (key : Path) : Registry :=
  if (registry.get? key).isSome then registry
  else { registry with records := registry.records ++ [(key, .fresh key)] }

/-- After its creation the record under a key is the one there was, or a fresh one. -/
theorem get?_create_self (registry : Registry) (key : Path) :
    (registry.create key).get? key = some (registry.find key) := by
  cases known : registry.get? key with
  | some record => simp [create, find, known]
  | none =>
    simp only [get?] at known
    simp [create, find, get?, known, List.lookup_append]

/-- Creating one record leaves the others alone. -/
theorem get?_create_of_ne {key other : Path} (different : other ≠ key) (registry : Registry) :
    (registry.create key).get? other = registry.get? other := by
  have apart : (other == key) = false := by simpa using different
  unfold create
  split
  · rfl
  · simp [get?, List.lookup_append, List.lookup_cons, apart]

/-- Puts a record in place of the one under a key. -/
def put (registry : Registry) (key : Path) (record : Record) : Registry :=
  { registry with records := Entries.set registry.records key record }

/-- A record that is put stands under its key, where there was one. -/
theorem get?_put_self (registry : Registry) (key : Path) (record : Record) :
    (registry.put key record).get? key = (registry.get? key).map fun _ => record :=
  Entries.lookup_set_self registry.records key record

/-- Putting one record leaves the others alone. -/
theorem get?_put_of_ne {key other : Path} (different : other ≠ key) (registry : Registry)
    (record : Record) : (registry.put key record).get? other = registry.get? other :=
  Entries.lookup_set_of_ne different registry.records record

/-- Forgets all records and imports. -/
def clear (registry : Registry) : Registry :=
  { registry with records := [], graph := .empty }

end Registry

end ModuleBridge
