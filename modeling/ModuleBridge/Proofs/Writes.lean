import ModuleBridge.Proofs.Occurrences

/-!
# Writing to a query

A query that was read is written to: keys are given values, and keys are taken out.  Whatever is
written, the keys stay distinct, no write moves another key, and each key stands for what its last
write has left, be it by a fragment that was read or by a later write.
-/

namespace ModuleBridge.Query

/-- What is done to one key of a query. -/
inductive Write where
  | insert (key : String) (value : QueryValue)
  | remove (key : String)
  deriving DecidableEq, Repr

/-- The key that is written. -/
def Write.key : Write → String
  | .insert key _ | .remove key => key

/-- What a write leaves for its key. -/
def Write.left? : Write → Option QueryValue
  | .insert _ value => some value
  | .remove _ => none

/-- The query after a write. -/
def written (query : Query) : Write → Query
  | .insert key value => query.insert key value
  | .remove key => (query.remove key).2

/-- The query after writes one after another. -/
def after (query : Query) (writes : List Write) : Query :=
  writes.foldl written query

/-- What the last write of a key has left for it. -/
def lastLeft? (writes : List Write) (key : String) : Option QueryValue :=
  (writes.reverse.find? fun write => write.key == key).bind Write.left?

/-- No write is one of this key. -/
def untouched (writes : List Write) (key : String) : Bool :=
  writes.all fun write => write.key != key

/-- What fragments say is written, one after another. -/
def readings (letters : List Char) : List Write :=
  (said letters).map fun entry => .insert entry.1 entry.2

variable {query : Query} {key other : String} {value : QueryValue} {value? : Option QueryValue}
  {write : Write} {writes more : List Write}

/-! ## One write -/

theorem keys_remove (query : Query) (key : String) :
    (query.remove key).2.keys = query.keys.erase key := by
  have flipped : (fun name => key == name) = fun name => name == key := by
    funext name
    exact BEq.comm
  rw [remove_eq, keys, keys, List.erase_eq_eraseP, flipped, List.eraseP_map]
  rfl

theorem nodup_keys_written (distinct : query.keys.Nodup) (write : Write) :
    (query.written write).keys.Nodup := by
  cases write with
  | insert key value => exact nodup_keys_insert distinct key value
  | remove key =>
      rw [written, keys_remove]
      exact distinct.erase key

theorem get?_remove_self (distinct : query.keys.Nodup) (key : String) :
    (query.remove key).2.get? key = none := by
  rw [get?_eq_none_iff, keys_remove]
  exact distinct.not_mem_erase

theorem get?_remove_of_ne (distinct : query.keys.Nodup) (different : other ≠ key) :
    (query.remove key).2.get? other = query.get? other := by
  have stays : (query.remove key).2.keys.Nodup := nodup_keys_written distinct (.remove key)
  ext value
  rw [get?_eq_some_iff stays, get?_eq_some_iff distinct, remove_eq]
  apply List.mem_eraseP_of_neg
  simpa using different

/-- A write decides on its key, and on no other one. -/
theorem get?_written (distinct : query.keys.Nodup) (write : Write) (key : String) :
    (query.written write).get? key = if write.key = key then write.left? else query.get? key := by
  cases write with
  | insert name value =>
      rw [written, get?_insert]
      simp only [Write.key, Write.left?, eq_comm]
  | remove name =>
      by_cases same : name = key
      · subst same
        simpa [written, Write.key, Write.left?] using get?_remove_self distinct name
      · simpa [written, Write.key, same] using get?_remove_of_ne distinct (Ne.symm same)

theorem filter_erase {kept : String → Bool} (dropped : kept key = false) (names : List String) :
    (names.erase key).filter kept = names.filter kept := by
  induction names with
  | nil => rfl
  | cons name rest inductionHypothesis =>
      by_cases same : name = key
      · simp [same, dropped]
      · rw [List.erase_cons_tail (by simpa using same), List.filter_cons, List.filter_cons,
          inductionHypothesis]

/-- A write leaves the other keys in their order. -/
theorem filter_keys_written
    {kept : String → Bool} (dropped : kept write.key = false) (query : Query) :
    (query.written write).keys.filter kept = query.keys.filter kept := by
  cases write with
  | insert key value =>
      have unkept : kept key = false := dropped
      rw [written, keys_insert]
      split
      · rfl
      · simp [unkept]
  | remove key =>
      rw [written, keys_remove]
      exact filter_erase dropped query.keys

/-! ## Writes one after another -/

theorem after_concat (query : Query) (writes : List Write) (write : Write) :
    query.after (writes ++ [write]) = (query.after writes).written write := by
  simp [after]

theorem after_append (query : Query) (writes more : List Write) :
    query.after (writes ++ more) = (query.after writes).after more := by
  simp [after]

theorem lastLeft?_concat (writes : List Write) (write : Write) (key : String) :
    lastLeft? (writes ++ [write]) key =
      if write.key = key then write.left? else lastLeft? writes key := by
  by_cases same : write.key = key
  · simp [lastLeft?, same]
  · simp [lastLeft?, same]

theorem nodup_keys_after (distinct : query.keys.Nodup) (writes : List Write) :
    (query.after writes).keys.Nodup := by
  induction writes using List.reverseRecOn with
  | nil => exact distinct
  | append_singleton before write inductionHypothesis =>
      rw [after_concat]
      exact nodup_keys_written inductionHypothesis write

theorem filter_keys_after
    {kept : String → Bool} (dropped : ∀ write ∈ writes, kept write.key = false) (query : Query) :
    (query.after writes).keys.filter kept = query.keys.filter kept := by
  induction writes generalizing query with
  | nil => rfl
  | cons write rest inductionHypothesis =>
      rw [List.forall_mem_cons] at dropped
      exact (inductionHypothesis dropped.2 (query.written write)).trans
        (filter_keys_written dropped.1 query)

theorem nodup_keys_empty : empty.keys.Nodup := List.nodup_nil

/-- Each key stands for what its last write has left. -/
theorem get?_after_empty (writes : List Write) (key : String) :
    (empty.after writes).get? key = lastLeft? writes key := by
  induction writes using List.reverseRecOn with
  | nil => rfl
  | append_singleton before write inductionHypothesis =>
      rw [after_concat, get?_written (nodup_keys_after nodup_keys_empty before), lastLeft?_concat,
        inductionHypothesis]

theorem parse_eq_after (text : String) : parse text = empty.after (readings text.toList) := by
  rw [parse_eq, gather, after, readings, List.foldl_map]
  rfl

/-! ## Reading, then writing -/

/-- All that is asked of a key is answered for this value. -/
structure Answers (query : Query) (key : String) (value? : Option QueryValue) : Prop where
  get : query.get? key = value?
  contains : query.contains key = true ↔ value? ≠ none
  /-- A flag that is on, or a text but `false` and `0`. -/
  flag :
    query.flag key = true ↔
      value? = some (.flag true) ∨
        ∃ content, value? = some (.text content) ∧ content ≠ "false" ∧ content ≠ "0"
  text : ∀ content, query.text? key = some content ↔ value? = some (.text content)

theorem answers_of_get? (get : query.get? key = value?) : Answers query key value? where
  get := get
  contains := by
    rw [contains, get, Option.isSome_iff_ne_none]
  flag := by
    rw [flag, get]
    rcases value? with _ | ⟨on | content⟩
    · simp
    · simp [QueryValue.isSet]
    · simp [QueryValue.isSet]
  text := by
    intro content
    rw [text?, get]
    rcases value? with _ | ⟨on | written⟩
    · simp
    · simp [QueryValue.text?]
    · simp [QueryValue.text?]

/-- A query holds what fragments say of their keys. -/
structure Holds (entries : List (String × QueryValue)) (query : Query) : Prop where
  /-- The keys stand in the order in which they are said first. -/
  keys : query.keys = (entries.map Prod.fst).eraseDups
  distinct : query.keys.Nodup
  nonempty : "" ∉ query.keys
  /-- Each key stands with the value that is said for it last. -/
  values : ∀ key value, (key, value) ∈ query.entries ↔ LastSaid entries key value

/-- How a query stands after writes, from no keys on, and how it goes on from there. -/
structure Stands (writes : List Write) (query : Query) : Prop where
  distinct : query.keys.Nodup
  /-- A key that is known keeps its position, and another one comes last. -/
  inserted :
    ∀ key value, (query.insert key value).keys =
      if key ∈ query.keys then query.keys else query.keys ++ [key]
  removed : ∀ key, (query.remove key).1 = query.get? key
  /-- Further writes leave the keys that they do not touch in their order. -/
  order :
    ∀ more, (query.after more).keys.filter (untouched more) = query.keys.filter (untouched more)
  answers : ∀ key, Answers query key (lastLeft? writes key)

theorem holds_parse (text : String) : Holds (said text.toList) (parse text) := by
  rw [parse_eq]
  have distinct := nodup_keys_gather (said text.toList)
  constructor
  · exact keys_gather (said text.toList)
  · exact distinct
  · rw [keys_gather, List.mem_eraseDups, List.mem_map]
    rintro ⟨entry, member, unnamed⟩
    exact ne_empty_of_said member unnamed
  · intro key value
    rw [← get?_eq_some_iff distinct, get?_gather_eq_some_iff]

theorem stands_after (writes : List Write) : Stands writes (empty.after writes) where
  distinct := nodup_keys_after nodup_keys_empty writes
  inserted := keys_insert (empty.after writes)
  removed := by
    intro key
    rw [remove_eq]
  order := by
    intro more
    apply filter_keys_after
    intro write member
    rw [untouched, List.all_eq_false]
    exact ⟨write, member, by simp⟩
  answers := fun key => answers_of_get? (get?_after_empty writes key)

/--
A query that is read holds the keys of its fragments in the order of their first occurrence, each
with its last value; and after any writes that follow, its keys are distinct, each of them stands
for what was written last, and a further write does not move the others.
-/
theorem parsed_and_written (text : String) :
    Holds (said text.toList) (parse text) ∧
      ∀ writes, Stands (readings text.toList ++ writes) ((parse text).after writes) := by
  refine ⟨holds_parse text, ?_⟩
  intro writes
  rw [parse_eq_after, ← after_append]
  exact stands_after (readings text.toList ++ writes)

example :
    let writes : List Write := [.remove "b", .insert "c" (.flag true), .insert "b" (.text "0")]
    ((parse "a=1&=x?b&&a=2").after writes).entries =
      [("a", .text "2"), ("c", .flag true), ("b", .text "0")] := by
  decide +kernel

end ModuleBridge.Query
