import Mathlib.Data.List.Induction
import Mathlib.Data.List.Nodup
import Mathlib.Data.List.TakeWhile
import ModuleBridge.Proofs.Queries

/-!
# What the fragments of a query say

A fragment with a key says a value for it; a fragment without one says nothing.  A query that is
read keeps each key where it is said first, with the value that is said last.  So the later of two
parts of a query decides wherever both say something.
-/

namespace ModuleBridge.Query

variable {query : Query} {key other : String} {value : QueryValue}
  {entries : List (String × QueryValue)} {fragment : List Char}

/-! ## Fragments -/

/-- The key of a fragment: what stands before its first `=`. -/
def keyOf (fragment : List Char) : List Char :=
  fragment.takeWhile (· != '=')

/-- The value of a fragment: what stands behind its first `=`; without one it is a flag. -/
def valueOf (fragment : List Char) : QueryValue :=
  match fragment.dropWhile (· != '=') with
  | [] => .flag true
  | _ :: content => .text (String.ofList content)

/-- What the fragments with a key say, one after another. -/
def said (letters : List Char) : List (String × QueryValue) :=
  ((letters.splitOnP divides).filter fun fragment => !(keyOf fragment).isEmpty).map fun fragment =>
    (String.ofList (keyOf fragment), valueOf fragment)

theorem forall_unequal {letters : List Char} (absent : '=' ∉ letters) :
    ∀ letter ∈ letters, (letter != '=') = true := by
  intro letter member
  simpa using fun same : letter = '=' => absent (same ▸ member)

theorem keyOf_append_cons {before : List Char} (absent : '=' ∉ before) (content : List Char) :
    keyOf (before ++ '=' :: content) = before := by
  simp [keyOf, List.takeWhile_append_of_pos (forall_unequal absent)]

theorem valueOf_append_cons {before : List Char} (absent : '=' ∉ before) (content : List Char) :
    valueOf (before ++ '=' :: content) = .text (String.ofList content) := by
  simp [valueOf, List.dropWhile_append_of_pos (forall_unequal absent)]

theorem keyOf_of_notMem (absent : '=' ∉ fragment) : keyOf fragment = fragment :=
  List.takeWhile_eq_self_iff.2 (forall_unequal absent)

theorem valueOf_of_notMem (absent : '=' ∉ fragment) : valueOf fragment = .flag true := by
  rw [valueOf, List.dropWhile_eq_nil_iff.2 (forall_unequal absent)]

theorem readFragment?_eq (fragment : List Char) :
    readFragment? fragment =
      if (keyOf fragment).isEmpty then none
      else some (String.ofList (keyOf fragment), valueOf fragment) := by
  rw [readFragment?]
  cases cut : Text.cut? '=' fragment with
  | none =>
      have absent := Text.cut?_eq_none_iff.1 cut
      rw [keyOf_of_notMem absent, valueOf_of_notMem absent]
  | some parts =>
      rcases parts with ⟨before, content⟩
      rcases Text.cut?_eq_some_iff.1 cut with ⟨rfl, absent⟩
      rw [keyOf_append_cons absent, valueOf_append_cons absent]
      cases before <;> rfl

theorem filterMap_readFragment? (pieces : List (List Char)) :
    pieces.filterMap readFragment? =
      (pieces.filter fun fragment => !(keyOf fragment).isEmpty).map fun fragment =>
        (String.ofList (keyOf fragment), valueOf fragment) := by
  induction pieces with
  | nil => rfl
  | cons fragment rest inductionHypothesis =>
      rw [List.filterMap_cons, readFragment?_eq, inductionHypothesis]
      by_cases unnamed : (keyOf fragment).isEmpty
      · simp [unnamed]
      · simp [unnamed]

/-- A key that is said is not empty. -/
theorem ne_empty_of_said
    {letters : List Char} {entry : String × QueryValue} (member : entry ∈ said letters) :
    entry.1 ≠ "" := by
  rcases List.mem_map.1 member with ⟨fragment, kept, rfl⟩
  have named := (List.mem_filter.1 kept).2
  intro empty
  have letters := congrArg String.toList empty
  rw [String.toList_ofList] at letters
  simp [letters] at named

/-- What two parts of a query say is said one after the other. -/
theorem said_append_cons
    {letter : Char} (divider : divides letter = true) (front back : List Char) :
    said (front ++ letter :: back) = said front ++ said back := by
  simp [said, List.splitOnP_append_cons front back divider]

@[simp]
theorem said_nil : said [] = [] := rfl

theorem said_intercalate
    {letter : Char} (divider : divides letter = true) (pieces : List (List Char)) :
    said ([letter].intercalate pieces) = pieces.flatMap said := by
  induction pieces with
  | nil => rfl
  | cons first rest inductionHypothesis =>
      cases rest with
      | nil => simp
      | cons second others =>
          rw [List.intercalate_cons_cons, List.append_assoc, List.singleton_append,
            said_append_cons divider, inductionHypothesis]
          simp

/-! ## Gathering what is said -/

/-- The query of what is said one after another. -/
def gather (entries : List (String × QueryValue)) : Query :=
  entries.foldl (fun query entry => query.insert entry.1 entry.2) empty

theorem parse_eq (text : String) : parse text = gather (said text.toList) := by
  rw [parse, filterMap_readFragment?]
  rfl

@[simp]
theorem gather_nil : gather [] = empty := rfl

theorem gather_concat (entries : List (String × QueryValue)) (entry : String × QueryValue) :
    gather (entries ++ [entry]) = (gather entries).insert entry.1 entry.2 := by
  simp [gather]

@[simp]
theorem get?_empty (key : String) : empty.get? key = none := rfl

theorem get?_insert (query : Query) (key other : String) (value : QueryValue) :
    (query.insert key value).get? other = if other = key then some value else query.get? other := by
  split
  · rename_i same
    rw [same, get?_insert_self]
  · rename_i different
    exact get?_insert_of_ne different query value

/-- The later part decides where it says anything of a key. -/
theorem get?_gather_append (earlier later : List (String × QueryValue)) (key : String) :
    (gather (earlier ++ later)).get? key =
      ((gather later).get? key).or ((gather earlier).get? key) := by
  induction later using List.reverseRecOn with
  | nil => simp
  | append_singleton others entry inductionHypothesis =>
      rw [← List.append_assoc, gather_concat, gather_concat, get?_insert, get?_insert]
      split
      · rfl
      · exact inductionHypothesis

/-! ## The keys of a query -/

theorem map_fst_put (key : String) (value : QueryValue) (entries : List (String × QueryValue)) :
    (put key value entries).map Prod.fst =
      if key ∈ entries.map Prod.fst then entries.map Prod.fst
      else entries.map Prod.fst ++ [key] := by
  induction entries with
  | nil => simp [put]
  | cons entry rest inductionHypothesis =>
      by_cases same : entry.1 = key
      · simp [put, same]
      · rw [put, if_neg same, List.map_cons, inductionHypothesis]
        by_cases later : key ∈ rest.map Prod.fst
        · simp [later]
        · simp [later, Ne.symm same]

/-- A key that is known keeps its position, and another one comes last. -/
theorem keys_insert (query : Query) (key : String) (value : QueryValue) :
    (query.insert key value).keys =
      if key ∈ query.keys then query.keys else query.keys ++ [key] :=
  map_fst_put key value query.entries

theorem nodup_keys_insert (distinct : query.keys.Nodup) (key : String) (value : QueryValue) :
    (query.insert key value).keys.Nodup := by
  rw [keys_insert]
  split
  · exact distinct
  · rename_i unknown
    rw [← List.concat_eq_append]
    exact List.Nodup.concat unknown distinct

theorem get?_eq_none_iff : query.get? key = none ↔ key ∉ query.keys := by
  simp only [get?, keys, Option.map_eq_none_iff, List.find?_eq_none, List.mem_map, not_exists,
    not_and, beq_iff_eq]

theorem mem_keys_of_get? (found : query.get? key = some value) : key ∈ query.keys := by
  by_contra absent
  rw [get?_eq_none_iff.2 absent] at found
  cases found

/-- Where the keys are distinct, a key has the value that is listed with it. -/
theorem get?_eq_some_iff (distinct : query.keys.Nodup) :
    query.get? key = some value ↔ (key, value) ∈ query.entries := by
  rcases query with ⟨entries⟩
  induction entries with
  | nil => simp [get?]
  | cons entry rest inductionHypothesis =>
      rcases entry with ⟨first, content⟩
      rw [keys, List.map_cons, List.nodup_cons] at distinct
      by_cases same : first = key
      · subst same
        have unlisted : (first, value) ∉ rest := by
          intro member
          exact distinct.1 (List.mem_map.2 ⟨(first, value), member, rfl⟩)
        simp [get?, unlisted, eq_comm]
      · have later := inductionHypothesis distinct.2
        simpa [get?, same, Ne.symm same] using later

/-- The keys stand in the order in which they are said first. -/
theorem keys_gather (entries : List (String × QueryValue)) :
    (gather entries).keys = (entries.map Prod.fst).eraseDups := by
  induction entries using List.reverseRecOn with
  | nil => rfl
  | append_singleton others entry inductionHypothesis =>
      rw [gather_concat, keys_insert, inductionHypothesis, List.map_append, List.eraseDups_append]
      by_cases known : entry.1 ∈ others.map Prod.fst
      · simp [List.removeAll, known]
      · simp [List.removeAll, known, List.eraseDups_cons]

theorem nodup_keys_gather (entries : List (String × QueryValue)) :
    (gather entries).keys.Nodup := by
  induction entries using List.reverseRecOn with
  | nil => exact List.nodup_nil
  | append_singleton others entry inductionHypothesis =>
      rw [gather_concat]
      exact nodup_keys_insert inductionHypothesis entry.1 entry.2

/-! ## The last word on a key -/

/-- This value is said for a key, and nothing is said of the key behind it. -/
def LastSaid (entries : List (String × QueryValue)) (key : String) (value : QueryValue) : Prop :=
  ∃ before later, entries = before ++ (key, value) :: later ∧ key ∉ later.map Prod.fst

theorem get?_gather_eq_some_iff :
    (gather entries).get? key = some value ↔ LastSaid entries key value := by
  constructor
  · induction entries using List.reverseRecOn with
    | nil => simp
    | append_singleton others entry inductionHypothesis =>
        intro found
        rw [gather_concat, get?_insert] at found
        split at found
        · rename_i same
          rcases Option.some.inj found with rfl
          exact ⟨others, [], by rw [same], List.not_mem_nil⟩
        · rename_i different
          rcases inductionHypothesis found with ⟨before, later, rfl, silent⟩
          refine ⟨before, later ++ [entry], by simp, ?_⟩
          simp only [List.map_append, List.mem_append, not_or]
          exact ⟨silent, by simpa using different⟩
  · rintro ⟨before, later, rfl, silent⟩
    have unknown : (gather later).get? key = none := by
      rw [get?_eq_none_iff, keys_gather, List.mem_eraseDups]
      exact silent
    have here : (gather ((key, value) :: later)).get? key = some value := by
      have split := get?_gather_append [(key, value)] later key
      rw [unknown] at split
      exact split.trans (get?_insert_self empty key value)
    rw [get?_gather_append, here]
    rfl

end ModuleBridge.Query
