import ModuleBridge.Text.Cut

/-!
# Queries

The query of a module id: keys in the order of their first occurrence, each
with its last value.  A key that stands alone is a flag.  Reading never fails;
a fragment without a key is dropped.
-/

namespace ModuleBridge

/-- The value of a query key. -/
inductive QueryValue where
  | flag (on : Bool)
  | text (content : String)
  deriving DecidableEq, Repr, Inhabited

namespace QueryValue

/-- A flag counts when it is on; a text counts unless it is `false` or `0`. -/
def isSet : QueryValue → Bool
  | .flag on => on
  | .text content => content != "false" && content != "0"

/-- The text of a value that is not a flag. -/
def text? : QueryValue → Option String
  | .flag _ => none
  | .text content => some content

end QueryValue

/-- Keys with their values, in the order of the keys' first occurrence. -/
structure Query where
  entries : List (String × QueryValue)
  deriving DecidableEq, Repr, Inhabited

namespace Query

/-- The query without keys. -/
def empty : Query := ⟨[]⟩

/-- The value of a key. -/
def get? (query : Query) (key : String) : Option QueryValue :=
  (query.entries.find? fun entry => entry.1 == key).map Prod.snd

/-- The key occurs. -/
def contains (query : Query) (key : String) : Bool :=
  (query.get? key).isSome

/-- The key occurs and counts. -/
def flag (query : Query) (key : String) : Bool :=
  (query.get? key).any QueryValue.isSet

/-- The text of a key. -/
def text? (query : Query) (key : String) : Option String :=
  (query.get? key).bind QueryValue.text?

/-- The query has no keys. -/
def isEmpty (query : Query) : Bool :=
  query.entries.isEmpty

/-- The keys in order. -/
def keys (query : Query) : List String :=
  query.entries.map Prod.fst

/-- Gives the first entry of a key a value, or adds the key at the end. -/
def put (key : String) (value : QueryValue) :
    List (String × QueryValue) → List (String × QueryValue)
  | [] => [(key, value)]
  | entry :: rest =>
    if entry.1 = key then (key, value) :: rest else entry :: put key value rest

/-- The query with a value for a key; a known key keeps its position. -/
def insert (query : Query) (key : String) (value : QueryValue) : Query :=
  ⟨put key value query.entries⟩

/-- The entry of a key that was put is the one with the value that was put. -/
theorem find?_put_self (key : String) (value : QueryValue) (entries : List (String × QueryValue)) :
    (put key value entries).find? (fun entry => entry.1 == key) = some (key, value) := by
  induction entries with
  | nil => simp [put]
  | cons entry rest inductive_step =>
    by_cases same : entry.1 = key
    · simp [put, same]
    · simp [put, same, inductive_step]

/-- Putting one key leaves the entries of the others alone. -/
theorem find?_put_of_ne {key other : String} (different : other ≠ key) (value : QueryValue)
    (entries : List (String × QueryValue)) :
    (put key value entries).find? (fun entry => entry.1 == other) =
      entries.find? fun entry => entry.1 == other := by
  induction entries with
  | nil => simp [put, different.symm]
  | cons entry rest inductive_step =>
    by_cases same : entry.1 = key
    · simp [put, same, different.symm]
    · simp only [put, if_neg same, List.find?_cons, inductive_step]

/-- A key has the value that was written last. -/
@[simp]
theorem get?_insert_self (query : Query) (key : String) (value : QueryValue) :
    (query.insert key value).get? key = some value := by
  simp [get?, insert, find?_put_self]

/-- Writing one key leaves the others alone. -/
theorem get?_insert_of_ne {key other : String} (different : other ≠ key) (query : Query)
    (value : QueryValue) : (query.insert key value).get? other = query.get? other := by
  simp [get?, insert, find?_put_of_ne different]

/-- The query without a key. -/
def erase (query : Query) (key : String) : Query :=
  ⟨query.entries.eraseP fun entry => entry.1 == key⟩

/-- Takes the first entry of a key out: its value, and the query without it. -/
def remove (query : Query) (key : String) : Option QueryValue × Query :=
  match query.entries.findIdx? fun entry => entry.1 == key with
  | none => (none, query)
  | some index => (query.entries[index]?.map Prod.snd, ⟨query.entries.eraseIdx index⟩)

/-- What is taken out is what stood for the key. -/
theorem remove_eq (query : Query) (key : String) :
    query.remove key = (query.get? key, query.erase key) := by
  cases found : query.entries.findIdx? fun entry => entry.1 == key with
  | none =>
    have absent : query.entries.find? (fun entry => entry.1 == key) = none := by
      simpa using List.findIdx?_eq_none_iff.1 found
    simp [remove, get?, erase, List.eraseP_eq_eraseIdx, found, absent]
  | some index =>
    have first := (List.findIdx?_eq_some_iff_findIdx_eq.1 found).2
    have here : query.entries.find? (fun entry => entry.1 == key) = query.entries[index]? := by
      rw [List.find?_eq_getElem?_findIdx, first]
    simp [remove, get?, erase, List.eraseP_eq_eraseIdx, found, here]

/-- The key and value that a fragment stands for. -/
def readFragment? (fragment : List Char) : Option (String × QueryValue) :=
  match Text.cut? '=' fragment with
  | some ([], _) => none
  | some (key, value) => some (String.ofList key, .text (String.ofList value))
  | none => if fragment.isEmpty then none else some (String.ofList fragment, .flag true)

/-- The fragments of a query: `&` and `?` both separate them. -/
def fragments (text : String) : List (List Char) :=
  text.toList.splitOnP fun letter => letter == '&' || letter == '?'

/-- Reads a query. -/
def parse (text : String) : Query :=
  ((fragments text).filterMap readFragment?).foldl
    (fun query entry => query.insert entry.1 entry.2) empty

end Query

end ModuleBridge
