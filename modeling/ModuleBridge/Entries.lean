/-!
# Entries

Lists of keys with their values, where the first entry of a key counts.  They
keep the order in which keys came in, which a reader of the list can see.
Changing the value of one key never changes what stands for another.
-/

namespace ModuleBridge.Entries

variable {α β : Type} [BEq α] [LawfulBEq α]

/-- Gives a known key another value, at its place. -/
def set (entries : List (α × β)) (key : α) (value : β) : List (α × β) :=
  entries.map fun entry => if entry.1 == key then (key, value) else entry

/-- The entries of the other keys. -/
def without (entries : List (α × β)) (key : α) : List (α × β) :=
  entries.filter fun entry => entry.1 != key

/-- A known key has the value that it was given. -/
theorem lookup_set_self (entries : List (α × β)) (key : α) (value : β) :
    (set entries key value).lookup key = (entries.lookup key).map fun _ => value := by
  induction entries with
  | nil => rfl
  | cons entry rest inductive_step =>
    obtain ⟨found, old⟩ := entry
    by_cases same : found = key
    · simp [set, same]
    · have apart : (key == found) = false := by simpa using Ne.symm same
      simpa [set, same, List.lookup_cons, apart] using inductive_step

/-- Giving one key a value leaves the others alone. -/
theorem lookup_set_of_ne {key other : α} (different : other ≠ key) (entries : List (α × β))
    (value : β) : (set entries key value).lookup other = entries.lookup other := by
  induction entries with
  | nil => rfl
  | cons entry rest inductive_step =>
    obtain ⟨found, old⟩ := entry
    have apart : (other == key) = false := by simpa using different
    by_cases same : found = key
    · simpa [set, same, List.lookup_cons, apart] using inductive_step
    · cases known : other == found
      · simpa [set, same, List.lookup_cons, known] using inductive_step
      · simp [set, same, List.lookup_cons, known]

/-- The key that was left out has no value. -/
@[simp]
theorem lookup_without_self (entries : List (α × β)) (key : α) :
    (without entries key).lookup key = none := by
  induction entries with
  | nil => rfl
  | cons entry rest inductive_step =>
    obtain ⟨found, old⟩ := entry
    by_cases same : found = key
    · simpa [without, same] using inductive_step
    · have apart : (key == found) = false := by simpa using Ne.symm same
      simpa [without, same, List.lookup_cons, apart] using inductive_step

/-- Leaving one key out leaves the others alone. -/
theorem lookup_without_of_ne {key other : α} (different : other ≠ key) (entries : List (α × β)) :
    (without entries key).lookup other = entries.lookup other := by
  induction entries with
  | nil => rfl
  | cons entry rest inductive_step =>
    obtain ⟨found, old⟩ := entry
    have apart : (other == key) = false := by simpa using different
    by_cases same : found = key
    · simpa [without, same, List.lookup_cons, apart] using inductive_step
    · cases known : other == found
      · simpa [without, same, List.lookup_cons, known] using inductive_step
      · simp [without, same, List.lookup_cons, known]

/-- Where no key comes twice, its entry is what stands for it. -/
theorem lookup_eq_some_iff {entries : List (α × β)} (nodup : (entries.map Prod.fst).Nodup)
    {key : α} {value : β} : entries.lookup key = some value ↔ (key, value) ∈ entries := by
  induction entries with
  | nil => simp
  | cons entry rest inductive_step =>
    obtain ⟨first, stored⟩ := entry
    rw [List.map_cons, List.nodup_cons] at nodup
    obtain ⟨new, nodup⟩ := nodup
    by_cases same : key = first
    · subst same
      have elsewhere : (key, value) ∉ rest :=
        fun member => new (List.mem_map.2 ⟨(key, value), member, rfl⟩)
      simp [elsewhere, eq_comm]
    · have apart : (key == first) = false := by simpa using same
      rw [List.lookup_cons, apart]
      simpa [same] using inductive_step nodup

end ModuleBridge.Entries
