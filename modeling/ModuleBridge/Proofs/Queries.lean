import ModuleBridge.Query
import ModuleBridge.Proofs.Path

/-!
# Reading a query

A query is divided before anything is read from it, so that no text in it holds a letter that
divides queries.  Pairs of plain keys with such texts are read as they are written, one after
another.
-/

namespace ModuleBridge.Query

variable {query : Query} {key : String} {value : QueryValue}
  {entries : List (String × QueryValue)} {pairs : List (String × String)}

/-! ## What divides a query -/

/-- Neither of the letters that divide a query. -/
def Undivided (letters : List Char) : Prop :=
  '&' ∉ letters ∧ '?' ∉ letters

/-- The letters that divide a query. -/
def divides (letter : Char) : Bool :=
  letter == '&' || letter == '?'

theorem fragments_eq (text : String) : fragments text = text.toList.splitOnP divides := rfl

theorem undivided_iff {letters : List Char} :
    Undivided letters ↔ ∀ letter ∈ letters, divides letter = false := by
  simp only [Undivided, divides, Bool.or_eq_false_iff, beq_eq_false_iff_ne]
  constructor
  · rintro ⟨ampersand, mark⟩ letter member
    exact ⟨fun same => ampersand (same ▸ member), fun same => mark (same ▸ member)⟩
  · intro each
    exact ⟨fun member => (each _ member).1 rfl, fun member => (each _ member).2 rfl⟩

theorem eq_or_mem_of_mem_put
    {entry : String × QueryValue} (member : entry ∈ put key value entries) :
    entry = (key, value) ∨ entry ∈ entries := by
  induction entries with
  | nil => exact .inl (List.mem_singleton.1 member)
  | cons first rest inductionHypothesis =>
      rw [put] at member
      split at member
      · rcases List.mem_cons.1 member with same | later
        · exact .inl same
        · exact .inr (List.mem_cons_of_mem _ later)
      · rcases List.mem_cons.1 member with rfl | later
        · exact .inr List.mem_cons_self
        · rcases inductionHypothesis later with same | here
          · exact .inl same
          · exact .inr (List.mem_cons_of_mem _ here)

theorem put_of_unknown (unknown : key ∉ entries.map Prod.fst) :
    put key value entries = entries ++ [(key, value)] := by
  induction entries with
  | nil => rfl
  | cons first rest inductionHypothesis =>
      rw [List.map_cons, List.mem_cons, not_or] at unknown
      rw [put, if_neg (Ne.symm unknown.1), inductionHypothesis unknown.2]
      rfl

/-- No text in a query holds a letter that divides queries. -/
def TextsUndivided (query : Query) : Prop :=
  ∀ entry ∈ query.entries, ∀ content, entry.2 = .text content → Undivided content.toList

theorem TextsUndivided.insert
    (undivided : TextsUndivided query)
    (here : ∀ content, value = .text content → Undivided content.toList) :
    TextsUndivided (query.insert key value) := by
  intro entry member
  rcases eq_or_mem_of_mem_put member with rfl | old
  · exact here
  · exact undivided entry old

/-- The text of a fragment holds letters of the fragment. -/
theorem undivided_of_readFragment
    {fragment : List Char} {entry : String × QueryValue}
    (undivided : Undivided fragment) (read : readFragment? fragment = some entry) :
    ∀ content, entry.2 = .text content → Undivided content.toList := by
  intro content isText
  unfold readFragment? at read
  split at read
  · cases read
  · rename_i key value _ cut
    cases read
    cases isText
    rcases (Text.cut?_eq_some_iff.1 cut).1 with rfl
    rw [String.toList_ofList]
    constructor
    · intro member
      exact undivided.1 (by simp [member])
    · intro member
      exact undivided.2 (by simp [member])
  · split at read
    · cases read
    · cases read
      cases isText

theorem textsUndivided_foldl
    {read : List (String × QueryValue)}
    (undivided : TextsUndivided query)
    (here : ∀ entry ∈ read, ∀ content, entry.2 = .text content → Undivided content.toList) :
    TextsUndivided (read.foldl (fun query entry => query.insert entry.1 entry.2) query) := by
  induction read generalizing query with
  | nil => exact undivided
  | cons entry rest inductionHypothesis =>
      rw [List.forall_mem_cons] at here
      exact inductionHypothesis (undivided.insert here.1) here.2

theorem textsUndivided_parse (text : String) : TextsUndivided (parse text) := by
  have nothing : TextsUndivided empty := nofun
  refine textsUndivided_foldl nothing ?_
  intro entry member
  rcases List.mem_filterMap.1 member with ⟨fragment, listed, read⟩
  have undivided : Undivided fragment :=
    undivided_iff.2 fun letter here => (mem_of_mem_splitOnP listed letter here).2
  exact undivided_of_readFragment undivided read

/-! ## Pairs one after another -/

/-- A key and its value as a query has them. -/
def plainPair (pair : String × String) : List Char :=
  pair.1.toList ++ '=' :: pair.2.toList

/-- Keys that are read as they are written. -/
def PlainKey (key : String) : Prop :=
  key ≠ "" ∧ ∀ letter ∈ key.toList, letter ∉ ['%', '&', '=', '?']

-- Over the key's own letters: another instance goes over every character there is.
instance (key : String) : Decidable (PlainKey key) :=
  @instDecidableAnd _ _ _ (List.decidableBAll _ key.toList)

theorem readFragment?_plainPair {pair : String × String} (plain : PlainKey pair.1) :
    readFragment? (plainPair pair) = some (pair.1, .text pair.2) := by
  have unequal : '=' ∉ pair.1.toList := fun member => plain.2 '=' member (by decide)
  have cut : Text.cut? '=' (plainPair pair) = some (pair.1.toList, pair.2.toList) :=
    Text.cut?_eq_some_iff.2 ⟨rfl, unequal⟩
  rw [readFragment?]
  rw [cut]
  cases letters : pair.1.toList with
  | nil => exact absurd (String.toList_eq_nil_iff.1 letters) plain.1
  | cons first rest =>
      dsimp only
      rw [← letters, String.ofList_toList, String.ofList_toList]

theorem undivided_plainPair
    {pair : String × String} (plain : PlainKey pair.1) (undivided : Undivided pair.2.toList) :
    Undivided (plainPair pair) := by
  have ampersand : '&' ∉ pair.1.toList := fun member => plain.2 '&' member (by decide)
  have mark : '?' ∉ pair.1.toList := fun member => plain.2 '?' member (by decide)
  constructor
  · simp [plainPair, ampersand, undivided.1]
  · simp [plainPair, mark, undivided.2]

theorem fragments_intercalate
    {first : List Char} {rest : List (List Char)}
    (undivided : ∀ piece ∈ first :: rest, Undivided piece) :
    fragments (String.ofList (['&'].intercalate (first :: rest))) = first :: rest := by
  rw [fragments_eq, String.toList_ofList]
  induction rest generalizing first with
  | nil =>
      rw [List.intercalate_singleton]
      exact List.splitOnP_eq_singleton (undivided_iff.1 (undivided first List.mem_cons_self))
  | cons second others inductionHypothesis =>
      rw [List.forall_mem_cons] at undivided
      rw [List.intercalate_cons_cons, List.append_assoc, List.singleton_append,
        List.splitOnP_append_cons_of_forall_mem (undivided_iff.1 undivided.1) '&' rfl,
        inductionHypothesis undivided.2]

theorem entries_foldl_insert
    (distinct : (query.entries.map Prod.fst ++ entries.map Prod.fst).Nodup) :
    (entries.foldl (fun query entry => query.insert entry.1 entry.2) query).entries =
      query.entries ++ entries := by
  induction entries generalizing query with
  | nil => simp
  | cons entry rest inductionHypothesis =>
      have unknown : entry.1 ∉ query.entries.map Prod.fst := by
        intro known
        rw [List.nodup_append] at distinct
        exact distinct.2.2 _ known _ List.mem_cons_self rfl
      have inserted : (query.insert entry.1 entry.2).entries = query.entries ++ [entry] :=
        put_of_unknown unknown
      rw [List.foldl_cons, inductionHypothesis, inserted, List.append_assoc]
      · rfl
      · rw [inserted, List.map_append, List.append_assoc]
        exact distinct

/-- Pairs whose values divide no query are read as they are written. -/
theorem entries_parse_pairs
    (distinct : (pairs.map Prod.fst).Nodup) (plain : ∀ pair ∈ pairs, PlainKey pair.1)
    (undivided : ∀ pair ∈ pairs, Undivided pair.2.toList) :
    (parse (String.ofList (['&'].intercalate (pairs.map plainPair)))).entries =
      pairs.map fun pair => (pair.1, .text pair.2) := by
  cases pairs with
  | nil => rfl
  | cons pair rest =>
      have pieces : ∀ piece ∈ (pair :: rest).map plainPair, Undivided piece := by
        rw [List.forall_mem_map]
        intro other member
        exact undivided_plainPair (plain other member) (undivided other member)
      have read : ((pair :: rest).map plainPair).filterMap readFragment? =
          (pair :: rest).map fun pair => (pair.1, .text pair.2) := by
        rw [List.filterMap_map, ← List.filterMap_eq_map]
        refine List.filterMap_congr ?_
        intro other member
        exact readFragment?_plainPair (plain other member)
      rw [List.map_cons] at pieces read
      rw [parse, List.map_cons, fragments_intercalate pieces, read, entries_foldl_insert]
      · rfl
      · rw [List.map_map]
        exact distinct

end ModuleBridge.Query
