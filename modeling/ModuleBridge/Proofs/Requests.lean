import ModuleBridge.Proofs.Occurrences
import ModuleBridge.Proofs.Suffixes
import ModuleBridge.Proofs.Tags

/-!
# What is asked for behind a question mark

A request and what it resolves to are read by their queries.  Resolving puts the first fragment of
the query last, so that it has the last word on its keys; an id that is read as it stands leaves the
last word to the fragments behind.  The two readings differ exactly in the keys that stand in both
with different values.
-/

namespace ModuleBridge

namespace Text

variable {mark : Char} {front back : List Char}

/-! ## Unescaped parts -/

theorem Unescaped.of_infix (unescaped : Unescaped back) (part : front <:+: back) :
    Unescaped front :=
  fun high low within => unescaped high low (within.trans part)

/-- No escape arises around a letter that has no part in escapes. -/
theorem Unescaped.append_cons
    (first : Unescaped front) (second : Unescaped back) (unmarked : mark ≠ '%')
    (digitless : hexValue? mark = none) :
    Unescaped (front ++ mark :: back) := by
  intro high low within digits
  rcases List.infix_append_iff.1 within with
    inFront | inBack | ⟨ahead, behind, joined, ends, begins⟩
  · exact first high low inFront digits
  · rcases List.infix_cons_iff.1 inBack with begins | inBack
    · exact unmarked (List.cons_prefix_cons.1 begins).1.symm
    · exact second high low inBack digits
  · cases behind with
    | nil =>
        rw [List.append_nil] at joined
        exact first high low (joined ▸ ends.isInfix) digits
    | cons letter rest =>
        rcases (List.cons_prefix_cons.1 begins).1 with rfl
        -- The letter is the `%`, or one of its digits.
        rcases ahead with _ | ⟨percent, _ | ⟨digit, _ | ⟨last, more⟩⟩⟩
        · exact unmarked (List.cons.inj joined).1.symm
        · cases joined
          rw [digitless] at digits
          cases digits.1
        · cases joined
          rw [digitless] at digits
          cases digits.2
        · simp at joined

theorem Unescaped.cons (unescaped : Unescaped back) (unmarked : mark ≠ '%')
    (digitless : hexValue? mark = none) :
    Unescaped (mark :: back) :=
  Unescaped.append_cons (unescaped_of_not_mem List.not_mem_nil) unescaped unmarked digitless

theorem unescaped_intercalate
    {pieces : List (List Char)} (each : ∀ piece ∈ pieces, Unescaped piece) (unmarked : mark ≠ '%')
    (digitless : hexValue? mark = none) :
    Unescaped ([mark].intercalate pieces) := by
  induction pieces with
  | nil => exact unescaped_of_not_mem List.not_mem_nil
  | cons first rest inductionHypothesis =>
      rw [List.forall_mem_cons] at each
      have later := inductionHypothesis each.2
      cases rest with
      | nil => simpa using each.1
      | cons second others =>
          rw [List.intercalate_cons_cons, List.append_assoc]
          exact each.1.append_cons later unmarked digitless

end Text

namespace Resource

variable {settings : ResolveSettings} {id : String} {query : Query} {key other : String}

/-! ## Settled values -/

/-- The value that a flag key is settled on; other keys keep their values. -/
def settledValue (key : String) (value : QueryValue) : QueryValue :=
  if key ∈ flagKeys ∧ (key = "vue" ∨ value = .text "") then .flag true else value

theorem get?_settleFlag {key : String} (flag : key ∈ flagKeys) (query : Query) (other : String) :
    (settleFlag query key).get? other =
      if other = key then (query.get? key).map (settledValue key) else query.get? other := by
  have settled : ∀ value, settledValue key value =
      if key = "vue" ∨ value = .text "" then .flag true else value := by
    intro value
    simp [settledValue, flag]
  cases found : query.get? key with
  | none =>
      rw [settleFlag_of_absent found]
      split
      · rename_i same
        rw [same, found]
        rfl
      · rfl
  | some value =>
      rw [settleFlag, Query.contains, found, Option.map_some, settled]
      by_cases settles : key = "vue" ∨ value = .text ""
      · rcases settles with named | empty
        · simp [named, Query.get?_insert]
        · simp [empty, Query.get?_insert]
      · rw [not_or] at settles
        simp only [settles.1, settles.2, Option.some.injEq, false_and, or_self, if_false]
        split
        · rename_i same
          rw [same, found]
        · rfl

theorem get?_foldl_settleFlag
    {keys : List String} (flags : ∀ key ∈ keys, key ∈ flagKeys) (distinct : keys.Nodup)
    (query : Query) (key : String) :
    (keys.foldl settleFlag query).get? key =
      if key ∈ keys then (query.get? key).map (settledValue key) else query.get? key := by
  induction keys generalizing query with
  | nil => simp
  | cons first rest inductionHypothesis =>
      rw [List.forall_mem_cons] at flags
      rw [List.nodup_cons] at distinct
      rw [List.foldl_cons, inductionHypothesis flags.2 distinct.2, get?_settleFlag flags.1]
      by_cases same : key = first
      · subst same
        simp [distinct.1]
      · simp [same]

/-- The flag keys of a query are settled, and its other keys stay. -/
theorem get?_settled (query : Query) (key : String) :
    (flagKeys.foldl settleFlag query).get? key = (query.get? key).map (settledValue key) := by
  rw [get?_foldl_settleFlag (fun _ member => member) (by decide)]
  split
  · rfl
  · rename_i plain
    cases query.get? key with
    | none => rfl
    | some value => simp [settledValue, plain]

/-! ## The query of an id -/

/-- What the text of a query says of a key, and `vue` where a variant suffix was taken off. -/
theorem get?_query_parse (settings : ResolveSettings) (id key : String) :
    (parse settings id).query.get? key =
      let parts := splitQuery (stripVirtual settings (Text.percentDecode id))
      if key = "vue" ∧ (stripVariant? settings parts.1).isSome then some (.flag true)
      else ((Query.parse parts.2).get? key).map (settledValue key) := by
  rw [parse]
  generalize splitQuery (stripVirtual settings (Text.percentDecode id)) = parts
  rcases parts with ⟨path, raw⟩
  dsimp only
  have settled := get?_settled (Query.parse raw)
  generalize flagKeys.foldl settleFlag (Query.parse raw) = query at settled
  cases stripVariant? settings path with
  | none => simpa using settled key
  | some base =>
      dsimp only
      split
      · rename_i known
        rw [settled]
        by_cases same : key = "vue"
        · subst same
          rw [Query.contains, settled, Option.isSome_map] at known
          rcases Option.isSome_iff_exists.1 known with ⟨value, found⟩
          simp [found, settledValue, flagKeys]
        · simp [same]
      · rw [Query.get?_insert, settled]
        simp

/-- An id without escapes is read by the query behind its first question mark. -/
theorem get?_query_of_unescaped
    (plain : PlainPrefixes settings) (unescaped : Text.Unescaped id.toList)
    (asked : key = "vue" → (Query.parse (splitQuery id).2).contains key) :
    (parse settings id).query.get? key =
      ((Query.parse (splitQuery id).2).get? key).map (settledValue key) := by
  rw [get?_query_parse, Text.percentDecode_of_unescaped unescaped]
  dsimp only
  rw [splitQuery_stripVirtual plain]
  split
  · rename_i recorded
    rcases recorded with ⟨rfl, -⟩
    rcases Option.isSome_iff_exists.1 (asked rfl) with ⟨value, found⟩
    simp [found, settledValue, flagKeys]
  · rfl

end Resource

namespace Request

variable {settings : ResolveSettings} {rules : Rules} {disk : Disk}
  {resolver : String → Option Path} {id key : String} {answer : Answer}

open Resource (settledValue splitQuery PlainPrefixes)

/-! ## The fragments of a query -/

/-- What stands between the first two question marks of an id. -/
def leading (id : String) : Query :=
  Query.parse (splitQuery (splitQuery id).2).1

/-- What stands behind the second question mark of an id. -/
def trailing (id : String) : Query :=
  Query.parse (splitQuery (splitQuery id).2).2

theorem said_splitQuery (text : String) :
    Query.said text.toList =
      Query.said (splitQuery text).1.toList ++ Query.said (splitQuery text).2.toList := by
  rcases marked_or_unmarked text with unmarked | ⟨front, raw, unmarked, rfl⟩
  · rw [splitQuery_of_unmarked unmarked]
    simp
  · rw [Resource.splitQuery_append unmarked]
    simp only [String.toList_ofList]
    exact Query.said_append_cons rfl front raw

theorem flatMap_said_filter (pieces : List (List Char)) :
    (pieces.filter fun piece => !piece.isEmpty).flatMap Query.said = pieces.flatMap Query.said := by
  induction pieces with
  | nil => rfl
  | cons piece rest inductionHypothesis =>
      cases piece with
      | nil => simpa using inductionHypothesis
      | cons first others => simp [inductionHypothesis]

/-- The first fragment has been put last. -/
theorem said_rejoined (text : String) :
    Query.said (rejoined text.toList) =
      Query.said (splitQuery text).2.toList ++ Query.said (splitQuery text).1.toList := by
  rw [rejoined, Query.said_intercalate rfl, flatMap_said_filter, List.flatMap_append,
    List.flatMap_singleton]
  rcases marked_or_unmarked text with unmarked | ⟨front, raw, unmarked, rfl⟩
  · rw [splitQuery_of_unmarked unmarked, List.splitOn_eq_singleton unmarked]
    simp
  · rw [String.toList_ofList, splitOn_append_cons unmarked, Resource.splitQuery_append unmarked]
    have joined := Query.said_intercalate (show Query.divides '?' = true from rfl)
    simp only [List.tail_cons, List.headD_cons, String.toList_ofList]
    rw [← joined, List.intercalate_splitOn]

theorem said_split (id : String) :
    Query.said (split id).2.toList =
      Query.said (splitQuery (splitQuery id).2).2.toList ++
        Query.said (splitQuery (splitQuery id).2).1.toList := by
  rcases marked_or_unmarked id with unmarked | ⟨front, raw, unmarked, rfl⟩
  · rw [split_of_unmarked unmarked, splitQuery_of_unmarked unmarked]
    rfl
  · rw [split_of_marked unmarked, Resource.splitQuery_append unmarked, String.toList_ofList,
      ← said_rejoined, String.toList_ofList]

/-- The fragments behind the first have the last word on what an id asks for as it stands. -/
theorem get?_query (id key : String) :
    (Query.parse (splitQuery id).2).get? key =
      ((trailing id).get? key).or ((leading id).get? key) := by
  rw [Query.parse_eq, said_splitQuery, Query.get?_gather_append, ← Query.parse_eq,
    ← Query.parse_eq]
  rfl

/-- The first fragment has the last word on what an id resolves to. -/
theorem get?_split (id key : String) :
    (Query.parse (split id).2).get? key =
      ((leading id).get? key).or ((trailing id).get? key) := by
  rw [Query.parse_eq, said_split, Query.get?_gather_append, ← Query.parse_eq, ← Query.parse_eq]
  rfl

/-! ## What a request resolves to -/

/-- The resolver answers with plain paths. -/
def PlainAnswers (resolver : String → Option Path) : Prop :=
  ∀ question path, resolver question = some path →
    '?' ∉ path.text.toList ∧ '%' ∉ path.text.toList

theorem unescaped_pathOf (unescaped : Text.Unescaped id.toList) :
    Text.Unescaped (pathOf id).toList := by
  rcases marked_or_unmarked id with unmarked | ⟨front, raw, unmarked, rfl⟩
  · rwa [pathOf_of_unmarked unmarked]
  · rw [pathOf_of_marked unmarked, String.toList_ofList]
    rw [String.toList_ofList] at unescaped
    exact unescaped.of_infix (List.prefix_append _ _).isInfix

theorem unescaped_split (unescaped : Text.Unescaped id.toList) :
    Text.Unescaped (split id).2.toList := by
  rcases marked_or_unmarked id with unmarked | ⟨front, raw, unmarked, rfl⟩
  · rw [split_of_unmarked unmarked]
    exact Text.unescaped_of_not_mem List.not_mem_nil
  · rw [String.toList_ofList] at unescaped
    have behind : Text.Unescaped raw :=
      unescaped.of_infix ((List.suffix_cons '?' raw).trans (List.suffix_append _ _)).isInfix
    rw [split_of_marked unmarked, String.toList_ofList, rejoined]
    apply Text.unescaped_intercalate _ (by decide) (by decide)
    intro piece member
    have listed : piece ∈ raw.splitOn '?' := by
      have here := (List.mem_filter.1 member).1
      cases fragments : raw.splitOn '?' with
      | nil => exact absurd fragments (List.splitOn_ne_nil _ _)
      | cons first further => simpa [fragments, or_comm] using here
    exact behind.of_infix (Text.infix_of_mem_splitOn listed)

theorem unescaped_tailOf (unescaped : Text.Unescaped id.toList) :
    tailOf id = "" ∨ ∃ rest, (tailOf id).toList = '?' :: rest ∧ Text.Unescaped rest := by
  rw [tailOf]
  split
  · exact .inl rfl
  · exact .inr ⟨(split id).2.toList, by simp, unescaped_split unescaped⟩

/-- A request resolves to a plain path with the query put back behind it. -/
theorem parts_of_resolved
    (answers : PlainAnswers resolver) (unescaped : Text.Unescaped id.toList)
    (resolved : resolve? rules disk resolver id = some answer) :
    ∃ file, answer.id = file ++ tailOf id ∧ '?' ∉ file.toList ∧ Text.Unescaped file.toList := by
  rw [resolve?_eq, Option.map_eq_some_iff] at resolved
  rcases resolved with ⟨⟨kept, suffix⟩, parts, rfl⟩
  rcases within_of_setAside? parts with ⟨front, middle, form⟩
  have path := unescaped_pathOf unescaped
  have plain : '?' ∉ (fileOf disk resolver kept).toList ∧
      Text.Unescaped (fileOf disk resolver kept).toList := by
    rcases fileOf_eq_or disk resolver kept with same | ⟨question, found, answered, same⟩
    · rw [same]
      exact ⟨fun member => notMem_pathOf id (front.subset member), path.of_infix front.isInfix⟩
    · rw [same]
      exact ⟨(answers question found answered).1,
        Text.unescaped_of_not_mem (answers question found answered).2⟩
  refine ⟨fileOf disk resolver kept ++ suffix, rfl, ?_, ?_⟩
  · rw [String.toList_append, List.mem_append, not_or]
    exact ⟨plain.1, fun member => notMem_pathOf id (middle.subset member)⟩
  · rcases form with rfl | ⟨extension, rfl⟩
    · rw [String.append_empty]
      exact plain.2
    · have inner := path.of_infix middle
      rw [toList_dotted] at inner
      rw [String.toList_append, toList_dotted]
      exact plain.2.append_cons inner.tail (by decide) (by decide)

theorem unescaped_answer
    (answers : PlainAnswers resolver) (unescaped : Text.Unescaped id.toList)
    (resolved : resolve? rules disk resolver id = some answer) :
    Text.Unescaped answer.id.toList := by
  rcases parts_of_resolved answers unescaped resolved with ⟨file, whole, -, plain⟩
  rw [whole, String.toList_append]
  rcases unescaped_tailOf unescaped with empty | ⟨rest, marked, behind⟩
  · rw [empty]
    simpa using plain
  · rw [marked]
    exact plain.append_cons behind (by decide) (by decide)

theorem query_answer
    (answers : PlainAnswers resolver) (unescaped : Text.Unescaped id.toList)
    (resolved : resolve? rules disk resolver id = some answer) :
    (splitQuery answer.id).2 = (split id).2 := by
  rcases parts_of_resolved answers unescaped resolved with ⟨file, whole, unmarked, -⟩
  rw [whole, splitQuery_append_tailOf unmarked]

/-! ## What is asked for -/

/-- A key of a query, other than `vue` where only a variant suffix stands for it. -/
def Written (id key : String) : Prop :=
  key = "vue" → (leading id).contains key ∨ (trailing id).contains key

/-- An id asks for what its further fragments say, and else for what its first fragment says. -/
theorem get?_parse
    (plain : PlainPrefixes settings) (unescaped : Text.Unescaped id.toList)
    (written : Written id key) :
    (Resource.parse settings id).query.get? key =
      (((trailing id).get? key).or ((leading id).get? key)).map (settledValue key) := by
  rw [← get?_query]
  apply Resource.get?_query_of_unescaped plain unescaped
  intro same
  rw [Query.contains, get?_query]
  simpa [Query.contains, or_comm] using written same

/-- What it resolves to asks for what the first fragment says, and else for what the others say. -/
theorem get?_parse_answer
    (plain : PlainPrefixes settings) (unescaped : Text.Unescaped id.toList)
    (answers : PlainAnswers resolver)
    (resolved : resolve? rules disk resolver id = some answer)
    (written : Written id key) :
    (Resource.parse settings answer.id).query.get? key =
      (((leading id).get? key).or ((trailing id).get? key)).map (settledValue key) := by
  rw [← get?_split, ← query_answer answers unescaped resolved]
  apply Resource.get?_query_of_unescaped plain (unescaped_answer answers unescaped resolved)
  intro same
  rw [Query.contains, query_answer answers unescaped resolved, get?_split]
  simpa [Query.contains] using written same

/-- Both orders find the same settled value unless the two values are different. -/
theorem map_or_eq_iff {first later : Option QueryValue} :
    (first.or later).map (settledValue key) = (later.or first).map (settledValue key) ↔
      ∀ one other, first = some one → later = some other →
        settledValue key one = settledValue key other := by
  cases first with
  | none => simp
  | some one =>
      cases later with
      | none => simp
      | some other => simp

/--
An id without escapes asks, by each key of its query, for the last value that its further fragments
say, or else its first fragment.  What it resolves to asks by the same keys for the last value that
the first fragment says, or else the further ones.  So both ask for the same exactly where no key
stands in both with different values.
-/
theorem asks_same_iff
    (plain : PlainPrefixes settings) (unescaped : Text.Unescaped id.toList)
    (answers : PlainAnswers resolver)
    (resolved : resolve? rules disk resolver id = some answer) :
    (∀ key, Written id key →
        (Resource.parse settings id).query.get? key =
            (((trailing id).get? key).or ((leading id).get? key)).map (settledValue key) ∧
          (Resource.parse settings answer.id).query.get? key =
            (((leading id).get? key).or ((trailing id).get? key)).map (settledValue key)) ∧
      ((∀ key, Written id key →
          (Resource.parse settings answer.id).query.get? key =
            (Resource.parse settings id).query.get? key) ↔
        ∀ key first later, (leading id).get? key = some first →
          (trailing id).get? key = some later →
            settledValue key first = settledValue key later) := by
  constructor
  · intro key written
    exact ⟨get?_parse plain unescaped written,
      get?_parse_answer plain unescaped answers resolved written⟩
  · constructor
    · intro same key first later leads trails
      have written : Written id key := by
        intro _
        rw [Query.contains, leads]
        exact .inl rfl
      have agree := same key written
      rw [get?_parse_answer plain unescaped answers resolved written,
        get?_parse plain unescaped written] at agree
      exact map_or_eq_iff.1 agree first later leads trails
    · intro agree key written
      rw [get?_parse_answer plain unescaped answers resolved written,
        get?_parse plain unescaped written]
      exact map_or_eq_iff.2 fun first later => agree key first later

/-- An id with further fragments asks for what it resolves to where they say nothing twice. -/
theorem asks_same_iff_apart :
    PlainPrefixes .standard ∧ Text.Unescaped "/x/A.es?vue?index=0".toList ∧
      PlainAnswers (fun _ => none) ∧
      resolve? ⟨["es", "ease"], none⟩ .empty (fun _ => none) "/x/A.es?vue?index=0" =
        some ⟨"/x/A.es?index=0&vue", some "x/A.es"⟩ ∧
      ∀ key, Written "/x/A.es?vue?index=0" key →
        (Resource.parse .standard "/x/A.es?index=0&vue").query.get? key =
          (Resource.parse .standard "/x/A.es?vue?index=0").query.get? key := by
  have unescaped : Text.Unescaped "/x/A.es?vue?index=0".toList :=
    Text.unescaped_of_not_mem (by decide)
  have answers : PlainAnswers (fun _ => none) := nofun
  have resolved :
      resolve? ⟨["es", "ease"], none⟩ .empty (fun _ => none) "/x/A.es?vue?index=0" =
        some ⟨"/x/A.es?index=0&vue", some "x/A.es"⟩ := by
    cbv
  refine ⟨ModuleTag.plainPrefixes_standard, unescaped, answers, resolved, ?_⟩
  have same := (asks_same_iff ModuleTag.plainPrefixes_standard unescaped answers resolved).2.2
  dsimp only at same
  apply same
  intro key value other leads trails
  have leadingKeys : (leading "/x/A.es?vue?index=0").keys = ["vue"] := by cbv
  have trailingKeys : (trailing "/x/A.es?vue?index=0").keys = ["index"] := by cbv
  have front := Query.mem_keys_of_get? leads
  have behind := Query.mem_keys_of_get? trails
  rw [leadingKeys, List.mem_singleton] at front
  rw [trailingKeys, List.mem_singleton, front] at behind
  exact absurd behind (by decide)

/--
A key that stands in two fragments is asked for with the value of the other one.  A virtual
beginning that reaches into the query hides a key that resolving puts back.
-/
theorem asks_otherwise :
    (Text.Unescaped "/x/A.es?index=1?index=0".toList ∧
        resolve? ⟨["es", "ease"], none⟩ .empty (fun _ => none) "/x/A.es?index=1?index=0" =
          some ⟨"/x/A.es?index=0&index=1", some "x/A.es"⟩ ∧
        (Resource.parse .standard "/x/A.es?index=1?index=0").query.get? "index" =
          some (.text "0") ∧
        (Resource.parse .standard "/x/A.es?index=0&index=1").query.get? "index" =
          some (.text "1")) ∧
      let settings : ResolveSettings := { ResolveSettings.standard with virtualPrefixes := ["a?b"] }
      Text.Unescaped "a?bc?x=1".toList ∧
        resolve? ⟨["es", "ease"], none⟩ .empty (fun _ => none) "a?bc?x=1" =
          some ⟨"a?x=1&bc", some "a"⟩ ∧
        (Resource.parse settings "a?bc?x=1").query.get? "bc" = none ∧
        (Resource.parse settings "a?x=1&bc").query.get? "bc" = some (.flag true) := by
  refine ⟨⟨Text.unescaped_of_not_mem (by decide), ?_, ?_, ?_⟩,
    Text.unescaped_of_not_mem (by decide), ?_, ?_, ?_⟩
  all_goals cbv

end Request

end ModuleBridge
