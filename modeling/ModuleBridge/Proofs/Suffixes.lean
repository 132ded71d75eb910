import Mathlib
import ModuleBridge.Request
import ModuleBridge.Proofs.Escapes

/-!
# Suffixes that are set aside

A request is resolved without the suffix that import formation added.  The suffix is found as the
extension of the last name, and is cut off by its number of bytes.  Separators behind the last name
make the cut fall elsewhere: then the path that is put together again is another one, and where the
cut falls inside a character there is no answer at all.
-/

namespace ModuleBridge

open String (utf8Len)

namespace Text

variable {mark letter : Char} {text front back before after : List Char} {count : Nat}

/-! ## Fronts of a number of bytes -/

/-- The first bytes of a text, so many of them, end inside a letter. -/
def EndsInside (count : Nat) (text : List Char) : Prop :=
  ∃ before letter after,
    text = before ++ letter :: after ∧
      utf8Len before < count ∧ count < utf8Len before + letter.utf8Size

theorem not_endsInside_nil : ¬EndsInside count [] := by
  rintro ⟨before, letter, after, split, -⟩
  simp at split

theorem endsInside_cons :
    EndsInside count (letter :: text) ↔
      (0 < count ∧ count < letter.utf8Size) ∨
        letter.utf8Size ≤ count ∧ EndsInside (count - letter.utf8Size) text := by
  constructor
  · rintro ⟨before, inside, after, split, above, below⟩
    cases before with
    | nil =>
        rcases List.cons.inj split with ⟨rfl, rfl⟩
        exact .inl ⟨above, by simpa using below⟩
    | cons first others =>
        rcases List.cons.inj split with ⟨rfl, rfl⟩
        rw [String.utf8Len_cons] at above below
        refine .inr ⟨by omega, others, inside, after, rfl, ?_, ?_⟩
        · omega
        · omega
  · rintro (⟨positive, below⟩ | ⟨fits, before, inside, after, rfl, above, below⟩)
    · exact ⟨[], letter, text, rfl, positive, by simpa using below⟩
    · refine ⟨letter :: before, inside, after, rfl, ?_, ?_⟩
      · rw [String.utf8Len_cons]
        omega
      · rw [String.utf8Len_cons]
        omega

theorem endsInside_append_left (front : List Char) :
    EndsInside (utf8Len front + count) (front ++ text) ↔ EndsInside count text := by
  induction front with
  | nil => simp
  | cons first rest inductionHypothesis =>
      have positive := first.utf8Size_pos
      have left : utf8Len (first :: rest) + count - first.utf8Size = utf8Len rest + count := by
        rw [String.utf8Len_cons]
        omega
      rw [List.cons_append, endsInside_cons, left, inductionHypothesis, String.utf8Len_cons]
      constructor
      · rintro (⟨-, below⟩ | ⟨-, inside⟩)
        · omega
        · exact inside
      · intro inside
        exact .inr ⟨by omega, inside⟩

/-- Letters of one byte hold no end. -/
theorem endsInside_append_right (single : ∀ letter ∈ back, letter.utf8Size = 1) :
    EndsInside count (text ++ back) ↔ EndsInside count text := by
  induction text generalizing count with
  | nil =>
      refine iff_of_false ?_ not_endsInside_nil
      rintro ⟨before, letter, after, rfl, above, below⟩
      have one := single letter (by simp)
      omega
  | cons first rest inductionHypothesis =>
      rw [List.cons_append, endsInside_cons, endsInside_cons, inductionHypothesis]

theorem takeBytes?_append (front rest : List Char) :
    takeBytes? (utf8Len front) (front ++ rest) = some front := by
  induction front with
  | nil => rw [String.utf8Len_nil, takeBytes?]
  | cons first others inductionHypothesis =>
      have positive := first.utf8Size_pos
      have left : utf8Len (first :: others) - first.utf8Size = utf8Len others := by
        rw [String.utf8Len_cons]
        omega
      rw [List.cons_append, takeBytes?, if_pos, left, inductionHypothesis]
      · rfl
      · rw [String.utf8Len_cons]
        omega
      · rw [String.utf8Len_cons]
        omega

theorem prefix_of_takeBytes? (taken : takeBytes? count text = some front) : front <+: text := by
  fun_induction takeBytes? count text generalizing front with
  | case1 text =>
      cases taken
      exact List.nil_prefix
  | case2 => cases taken
  | case3 count letter rest positive fits inductionHypothesis =>
      rcases Option.map_eq_some_iff.1 taken with ⟨others, later, rfl⟩
      exact List.cons_prefix_cons.2 ⟨rfl, inductionHypothesis later⟩
  | case4 => cases taken

theorem takeBytes?_eq_none_iff (within : count ≤ utf8Len text) :
    takeBytes? count text = none ↔ EndsInside count text := by
  fun_induction takeBytes? count text with
  | case1 text =>
      refine iff_of_false nofun ?_
      rintro ⟨before, letter, after, -, above, -⟩
      omega
  | case2 count =>
      rw [String.utf8Len_nil] at within
      omega
  | case3 count letter rest positive fits inductionHypothesis =>
      rw [String.utf8Len_cons] at within
      rw [Option.map_eq_none_iff, inductionHypothesis (by omega), endsInside_cons]
      constructor
      · exact fun inside => .inr ⟨fits, inside⟩
      · rintro (⟨-, below⟩ | ⟨-, inside⟩)
        · omega
        · exact inside
  | case4 count letter rest positive broken =>
      exact iff_of_true rfl
        (endsInside_cons.2 (.inl ⟨Nat.pos_of_ne_zero positive, Nat.lt_of_not_le broken⟩))

theorem cutLast?_eq_some_iff :
    cutLast? mark text = some (before, after) ↔ text = before ++ mark :: after ∧ mark ∉ after := by
  simp only [cutLast?, Option.map_eq_some_iff, Prod.exists, Prod.mk.injEq, cut?_eq_some_iff]
  constructor
  · rintro ⟨behind, front, ⟨reversed, absent⟩, rfl, rfl⟩
    have whole := congrArg List.reverse reversed
    exact ⟨by simpa using whole, by simpa using absent⟩
  · rintro ⟨rfl, absent⟩
    exact ⟨after.reverse, before.reverse, ⟨by simp, by simpa using absent⟩, by simp, by simp⟩

/-! ## Pieces with a separator between them -/

theorem intercalate_cons_eq (separator : Char) (piece : List Char) (rest : List (List Char)) :
    [separator].intercalate (piece :: rest) = piece ++ rest.flatMap (separator :: ·) := by
  induction rest generalizing piece with
  | nil => simp
  | cons second others inductionHypothesis =>
      rw [List.intercalate_cons_cons, inductionHypothesis]
      simp

theorem intercalate_append_cons
    (separator : Char) (before : List (List Char)) (piece : List Char)
    (rest : List (List Char)) :
    [separator].intercalate (before ++ piece :: rest) =
      before.flatMap (· ++ [separator]) ++ piece ++ rest.flatMap (separator :: ·) := by
  induction before with
  | nil => simpa using intercalate_cons_eq separator piece rest
  | cons first others inductionHypothesis =>
      have later : others ++ piece :: rest ≠ [] := by simp
      rcases List.exists_cons_of_ne_nil later with ⟨second, more, joined⟩
      rw [List.cons_append, joined, List.intercalate_cons_cons, ← joined, inductionHypothesis]
      simp

theorem infix_of_mem_splitOn
    {separator : Char} {piece : List Char} (member : piece ∈ text.splitOn separator) :
    piece <:+: text := by
  rcases List.append_of_mem member with ⟨before, rest, pieces⟩
  have joined := intercalate_append_cons separator before piece rest
  rw [← pieces, List.intercalate_splitOn] at joined
  exact ⟨_, _, joined.symm⟩

end Text

namespace Path

variable {path : Path} {name extension : String}

/-! ## The last name of a path -/

/-- Separators and dots. -/
def Trails (letters : List Char) : Prop :=
  ∀ letter ∈ letters, letter = '/' ∨ letter = '.'

theorem trails_of_unread {piece : List Char} (unread : Component.ofPiece? piece = none) :
    Trails piece := by
  unfold Component.ofPiece? at unread
  split at unread
  · exact nofun
  · intro letter member
    exact .inr (List.mem_singleton.1 member)
  · cases unread
  · cases unread

/-- The steps of a path are those of its pieces, behind the mark of the place it starts from. -/
theorem components_eq (path : Path) :
    ∃ lead, path.components = lead ++ (path.text.toList.splitOn '/').filterMap Component.ofPiece? ∧
      ∀ step ∈ lead, ∀ name, step ≠ .name name := by
  unfold components
  split
  · rename_i pieces
    exact ⟨[], by rw [pieces]; rfl, nofun⟩
  · rename_i rest pieces
    refine ⟨[.current], by rw [pieces]; rfl, ?_⟩
    simp
  · rename_i pieces
    exact ⟨[], by rw [pieces]; rfl, nofun⟩
  · rename_i rest _ pieces
    refine ⟨[.root], by rw [pieces]; rfl, ?_⟩
    simp
  · rename_i pieces
    exact ⟨[], by rw [pieces]; rfl, nofun⟩

theorem getLast?_pieces (found : path.fileName? = some name) :
    ((path.text.toList.splitOn '/').filterMap Component.ofPiece?).getLast? =
      some (.name name) := by
  rcases path.components_eq with ⟨lead, steps, unnamed⟩
  have last : path.components.getLast? = some (.name name) := by
    rw [fileName?] at found
    split at found
    · rename_i text last
      rw [last, Option.some.inj found]
    · cases found
  rw [steps, List.getLast?_append] at last
  cases pieces : ((path.text.toList.splitOn '/').filterMap Component.ofPiece?).getLast? with
  | some step => simpa [pieces] using last
  | none =>
      rw [pieces, Option.none_or] at last
      exact absurd rfl (unnamed _ (List.mem_of_getLast? last) name)

/-- Behind the last name of a path stand only separators and lone dots. -/
theorem text_of_fileName? (found : path.fileName? = some name) :
    ∃ front trail, path.text.toList = front ++ name.toList ++ trail ∧ Trails trail := by
  have last := getLast?_pieces found
  rw [List.getLast?_filterMap, List.findSome?_eq_some_iff] at last
  rcases last with ⟨behind, piece, ahead, reversed, read, unread⟩
  have pieces : path.text.toList.splitOn '/' = ahead.reverse ++ piece :: behind.reverse := by
    have whole := congrArg List.reverse reversed
    simpa using whole
  have named : piece = name.toList := by
    unfold Component.ofPiece? at read
    split at read
    · cases read
    · cases read
    · cases read
    · cases read
      rw [String.toList_ofList]
  have joined := Text.intercalate_append_cons '/' ahead.reverse piece behind.reverse
  rw [← pieces, List.intercalate_splitOn, named] at joined
  refine ⟨_, behind.reverse.flatMap ('/' :: ·), joined, ?_⟩
  intro letter member
  rcases List.mem_flatMap.1 member with ⟨other, listed, here⟩
  rcases List.mem_cons.1 here with rfl | within
  · exact .inl rfl
  · exact trails_of_unread (unread other (List.mem_reverse.1 listed)) letter within

/-- An extension follows the last dot of a name, and something stands before that dot. -/
theorem splitName_eq_some_iff :
    (splitName name).2 = some extension ↔
      ∃ stem, stem ≠ [] ∧ name.toList = stem ++ '.' :: extension.toList ∧
        '.' ∉ extension.toList := by
  unfold splitName
  split
  · rename_i uncut
    refine iff_of_false nofun ?_
    rintro ⟨stem, -, whole, absent⟩
    rw [Text.cutLast?_eq_some_iff.2 ⟨whole, absent⟩] at uncut
    cases uncut
  · rename_i behind cut
    refine iff_of_false nofun ?_
    rintro ⟨stem, nonempty, whole, absent⟩
    rw [Text.cutLast?_eq_some_iff.2 ⟨whole, absent⟩] at cut
    cases cut
    exact nonempty rfl
  · rename_i stem behind nonempty cut
    rw [Option.some.injEq]
    constructor
    · rintro rfl
      rw [String.toList_ofList]
      exact ⟨stem, nonempty, Text.cutLast?_eq_some_iff.1 cut⟩
    · rintro ⟨other, -, whole, absent⟩
      rw [Text.cutLast?_eq_some_iff.2 ⟨whole, absent⟩] at cut
      cases cut
      exact String.ofList_toList

theorem extension?_eq_some_iff :
    path.extension? = some extension ↔
      ∃ name stem, path.fileName? = some name ∧ stem ≠ [] ∧
        name.toList = stem ++ '.' :: extension.toList ∧ '.' ∉ extension.toList := by
  simp only [extension?, Option.bind_eq_some_iff, splitName_eq_some_iff]
  constructor
  · rintro ⟨name, found, stem, split⟩
    exact ⟨name, stem, found, split⟩
  · rintro ⟨name, stem, found, split⟩
    exact ⟨name, found, stem, split⟩

/-- Behind the extension of a path stand only separators and lone dots. -/
theorem text_of_extension? (found : path.extension? = some extension) :
    ∃ front trail, path.text.toList = front ++ '.' :: extension.toList ++ trail ∧ Trails trail := by
  rcases extension?_eq_some_iff.1 found with ⟨name, stem, last, -, whole, -⟩
  rcases text_of_fileName? last with ⟨front, trail, text, trails⟩
  refine ⟨front ++ stem, trail, ?_, trails⟩
  rw [text, whole]
  simp

end Path

namespace Request

variable {rules : Rules} {disk : Disk} {resolver : String → Option Path}
  {id path extension : String}

/-! ## The path and the query of a request -/

/-- The path of an id: what stands before its first question mark. -/
def pathOf (id : String) : String :=
  (Resource.splitQuery id).1

/-- What stands behind the first question mark, with its first fragment put last. -/
def rejoined (raw : List Char) : List Char :=
  let fragments := raw.splitOn '?'
  ['&'].intercalate ((fragments.tail ++ [fragments.headD []]).filter fun piece => !piece.isEmpty)

theorem notMem_pathOf (id : String) : '?' ∉ (pathOf id).toList :=
  Resource.notMem_splitQuery id

/-- An id is a path alone, or a path, a question mark and what follows. -/
theorem marked_or_unmarked (id : String) :
    '?' ∉ id.toList ∨
      ∃ front raw, '?' ∉ front ∧ id = String.ofList (front ++ '?' :: raw) := by
  cases cut : Text.cut? '?' id.toList with
  | none => exact .inl (Text.cut?_eq_none_iff.1 cut)
  | some parts =>
      rcases Text.cut?_eq_some_iff.1 cut with ⟨whole, unmarked⟩
      refine .inr ⟨parts.1, parts.2, unmarked, ?_⟩
      rw [← whole, String.ofList_toList]

theorem splitQuery_of_unmarked (unmarked : '?' ∉ id.toList) :
    Resource.splitQuery id = (id, "") := by
  rw [Resource.splitQuery, Text.cut?_eq_none_iff.2 unmarked]

theorem pathOf_of_unmarked (unmarked : '?' ∉ id.toList) : pathOf id = id := by
  rw [pathOf, splitQuery_of_unmarked unmarked]

theorem pathOf_of_marked {front : List Char} (unmarked : '?' ∉ front) (raw : List Char) :
    pathOf (String.ofList (front ++ '?' :: raw)) = String.ofList front := by
  rw [pathOf, Resource.splitQuery_append unmarked]

theorem split_of_unmarked (unmarked : '?' ∉ id.toList) : split id = (id, "") := by
  rw [split, List.splitOn_eq_singleton unmarked]
  simp

theorem splitOn_append_cons {front : List Char} (unmarked : '?' ∉ front) (raw : List Char) :
    (front ++ '?' :: raw).splitOn '?' = front :: raw.splitOn '?' := by
  rw [List.splitOn_eq_splitOnP, List.splitOnP_append_cons_of_forall_mem _ '?' rfl,
    ← List.splitOn_eq_splitOnP]
  intro letter member
  simpa using fun same : letter = '?' => unmarked (same ▸ member)

theorem split_of_marked {front : List Char} (unmarked : '?' ∉ front) (raw : List Char) :
    split (String.ofList (front ++ '?' :: raw)) =
      (String.ofList front, String.ofList (rejoined raw)) := by
  rw [split, String.toList_ofList, splitOn_append_cons unmarked, rejoined]
  cases fragments : raw.splitOn '?' with
  | nil => exact absurd fragments (List.splitOn_ne_nil _ _)
  | cons first further =>
      rw [Prod.mk.injEq]
      refine ⟨rfl, String.toList_injective ?_⟩
      rw [String.toList_intercalate, String.toList_ofList, List.map_map]
      simp [Function.comp_def]

/-- Both ways of dividing an id find the same path. -/
theorem split_fst (id : String) : (split id).1 = pathOf id := by
  rcases marked_or_unmarked id with unmarked | ⟨front, raw, unmarked, rfl⟩
  · rw [split_of_unmarked unmarked, pathOf_of_unmarked unmarked]
  · rw [split_of_marked unmarked, pathOf_of_marked unmarked]

/-! ## Setting a suffix aside -/

@[simp]
theorem toList_dotted (extension : String) :
    ("." ++ extension).toList = '.' :: extension.toList := by
  simp

/-- An extension is set aside: imports carry a suffix, and no language file has this one. -/
structure SetsAside (rules : Rules) (path extension : String) : Prop where
  formed : rules.formationSuffix? ≠ none
  found : (Path.mk path).extension? = some extension
  foreign : rules.isLanguage extension = false

theorem setAside?_of_setsAside (aside : SetsAside rules path extension) :
    setAside? rules path =
      (Text.takeBytes? (path.utf8ByteSize - ("." ++ extension).utf8ByteSize) path.toList).map
        fun kept => (String.ofList kept, "." ++ extension) := by
  rcases Option.ne_none_iff_exists'.1 aside.formed with ⟨suffix, formed⟩
  rw [setAside?, formed, aside.found]
  dsimp only
  rw [aside.foreign]
  rfl

theorem setAside?_of_not_setsAside (whole : ∀ extension, ¬SetsAside rules path extension) :
    setAside? rules path = some (path, "") := by
  unfold setAside?
  split
  · rename_i suffix extension formed found
    split
    · rfl
    · rename_i foreign
      refine absurd ⟨?_, found, by simpa using foreign⟩ (whole extension)
      rw [formed]
      exact nofun
  · rfl

/-- A suffix at the end of a path is set aside from what stands before it. -/
theorem setAside?_of_suffix
    (aside : SetsAside rules path extension) {kept : List Char}
    (ends : path.toList = kept ++ '.' :: extension.toList) :
    setAside? rules path = some (String.ofList kept, "." ++ extension) := by
  have size : path.utf8ByteSize - ("." ++ extension).utf8ByteSize = utf8Len kept := by
    rw [← String.utf8Len_toList, ← String.utf8Len_toList, ends, toList_dotted,
      String.utf8Len_append, Nat.add_sub_cancel]
  rw [setAside?_of_setsAside aside, size, ends, Text.takeBytes?_append]
  rfl

/-- The bytes that are left count from the dot on as many as stand behind the extension. -/
theorem setAside?_eq_none_iff
    (aside : SetsAside rules path extension) {front trail : List Char}
    (whole : path.toList = front ++ '.' :: extension.toList ++ trail)
    (trails : Path.Trails trail) :
    setAside? rules path = none ↔ Text.EndsInside trail.length ('.' :: extension.toList) := by
  have single : ∀ letter ∈ trail, letter.utf8Size = 1 := by
    intro letter member
    rcases trails letter member with rfl | rfl <;> rfl
  have length : utf8Len trail = trail.length := by
    clear whole trails
    induction trail with
    | nil => rfl
    | cons first rest inductionHypothesis =>
        rw [List.forall_mem_cons] at single
        rw [String.utf8Len_cons, inductionHypothesis single.2, single.1, List.length_cons]
  have size : path.utf8ByteSize - ("." ++ extension).utf8ByteSize =
      utf8Len front + trail.length := by
    rw [← String.utf8Len_toList, ← String.utf8Len_toList, whole, toList_dotted,
      String.utf8Len_append, String.utf8Len_append, length]
    omega
  have within : utf8Len front + trail.length ≤ utf8Len path.toList := by
    rw [whole, String.utf8Len_append, String.utf8Len_append, length]
    omega
  rw [setAside?_of_setsAside aside, size, Option.map_eq_none_iff,
    Text.takeBytes?_eq_none_iff within, whole, List.append_assoc, Text.endsInside_append_left,
    Text.endsInside_append_right single]

/-- A path without its suffix begins as the path does, and the suffix stands in the path. -/
theorem within_of_setAside?
    {kept suffix : String} (parts : setAside? rules path = some (kept, suffix)) :
    kept.toList <+: path.toList ∧ suffix.toList <:+: path.toList ∧
      (suffix = "" ∨ ∃ extension, suffix = "." ++ extension) := by
  by_cases aside : ∃ extension, SetsAside rules path extension
  · rcases aside with ⟨extension, aside⟩
    rw [setAside?_of_setsAside aside] at parts
    rcases Option.map_eq_some_iff.1 parts with ⟨letters, taken, same⟩
    cases same
    rcases Path.text_of_extension? aside.found with ⟨front, trail, whole, -⟩
    refine ⟨?_, ⟨front, trail, ?_⟩, .inr ⟨extension, rfl⟩⟩
    · rw [String.toList_ofList]
      exact Text.prefix_of_takeBytes? taken
    · rw [toList_dotted]
      exact whole.symm
  · rw [setAside?_of_not_setsAside (fun extension => not_exists.1 aside extension)] at parts
    cases parts
    exact ⟨List.prefix_rfl, List.nil_infix, .inl rfl⟩

/-! ## What a request resolves to -/

/-- The file that a path without its suffix is resolved to, or the path itself. -/
def fileOf (disk : Disk) (resolver : String → Option Path) (path : String) : String :=
  (((if asksResolver disk path then some (question path) else none).bind resolver).map
    Path.text).getD path

/-- The query of an id as it is put back. -/
def tailOf (id : String) : String :=
  if (split id).2.isEmpty then "" else "?" ++ (split id).2

theorem resolve?_eq (rules : Rules) (disk : Disk) (resolver : String → Option Path) (id : String) :
    resolve? rules disk resolver id =
      (setAside? rules (pathOf id)).map fun (kept, suffix) =>
        ⟨fileOf disk resolver kept ++ suffix ++ tailOf id,
          if asksResolver disk kept then some (question kept) else none⟩ := by
  rw [resolve?, tailOf, ← split_fst]
  generalize split id = parts
  rcases parts with ⟨source, query⟩
  dsimp only
  cases setAside? rules source with
  | none => rfl
  | some parts => rfl

/-- The path itself, or a path that the resolver answers with. -/
theorem fileOf_eq_or (disk : Disk) (resolver : String → Option Path) (path : String) :
    fileOf disk resolver path = path ∨
      ∃ question found, resolver question = some found ∧
        fileOf disk resolver path = found.text := by
  rw [fileOf]
  split
  · rw [Option.bind_some]
    cases answered : resolver (question path) with
    | none => exact .inl rfl
    | some found => exact .inr ⟨question path, found, answered, rfl⟩
  · exact .inl rfl

theorem fileOf_of_unresolved (unresolved : ∀ question, resolver question = none) (path : String) :
    fileOf disk resolver path = path := by
  rcases fileOf_eq_or disk resolver path with same | ⟨question, found, answered, -⟩
  · exact same
  · rw [unresolved] at answered
    cases answered

/-- The query that is put back is found again behind a path without question marks. -/
theorem splitQuery_append_tailOf {file : String} (unmarked : '?' ∉ file.toList) (id : String) :
    Resource.splitQuery (file ++ tailOf id) = (file, (split id).2) := by
  rw [tailOf]
  split
  · rename_i nothing
    rw [String.append_empty, splitQuery_of_unmarked unmarked, String.isEmpty_iff.1 nothing]
  · have whole : file ++ ("?" ++ (split id).2) =
        String.ofList (file.toList ++ '?' :: (split id).2.toList) := by
      apply String.toList_injective
      simp
    rw [whole, Resource.splitQuery_append unmarked, String.ofList_toList, String.ofList_toList]

theorem resolve?_of_unresolved
    (unresolved : ∀ question, resolver question = none) (disk : Disk) {kept suffix : String}
    (parts : setAside? rules (pathOf id) = some (kept, suffix)) :
    ∃ answer, resolve? rules disk resolver id = some answer ∧
      pathOf answer.id = kept ++ suffix := by
  rcases within_of_setAside? parts with ⟨front, middle, -⟩
  have unmarked : '?' ∉ (kept ++ suffix).toList := by
    rw [String.toList_append, List.mem_append, not_or]
    constructor
    · exact fun member => notMem_pathOf id (front.subset member)
    · exact fun member => notMem_pathOf id (middle.subset member)
  rw [resolve?_eq, parts]
  refine ⟨_, rfl, ?_⟩
  dsimp only
  rw [fileOf_of_unresolved unresolved, pathOf, splitQuery_append_tailOf unmarked]

theorem setAside?_of_resolved
    {answer : Answer} (resolved : resolve? rules disk resolver id = some answer) :
    ∃ kept suffix, setAside? rules (pathOf id) = some (kept, suffix) := by
  rw [resolve?_eq, Option.map_eq_some_iff] at resolved
  rcases resolved with ⟨⟨kept, suffix⟩, parts, -⟩
  exact ⟨kept, suffix, parts⟩

/-- No answer is there where no suffix can be set aside. -/
theorem resolve?_eq_none_iff :
    resolve? rules disk resolver id = none ↔
      ∃ extension front trail, SetsAside rules (pathOf id) extension ∧
        (pathOf id).toList = front ++ '.' :: extension.toList ++ trail ∧ Path.Trails trail ∧
          Text.EndsInside trail.length ('.' :: extension.toList) := by
  rw [resolve?_eq, Option.map_eq_none_iff]
  constructor
  · intro refused
    by_cases aside : ∃ extension, SetsAside rules (pathOf id) extension
    · rcases aside with ⟨extension, aside⟩
      rcases Path.text_of_extension? aside.found with ⟨front, trail, whole, trails⟩
      exact ⟨extension, front, trail, aside, whole, trails,
        (setAside?_eq_none_iff aside whole trails).1 refused⟩
    · rw [setAside?_of_not_setsAside (fun extension => not_exists.1 aside extension)] at refused
      cases refused
  · rintro ⟨extension, front, trail, aside, whole, trails, inside⟩
    exact (setAside?_eq_none_iff aside whole trails).2 inside

/--
There is no answer exactly where an extension is set aside and as many letters, separators and
dots, stand behind it as there are bytes from its dot to inside one of its characters.  Where the
resolver knows nothing, there is an answer with the path of the id exactly where an extension that
is set aside ends the path.
-/
theorem path_conserved_iff
    (rules : Rules)
    (disk : Disk)
    (resolver : String → Option Path)
    (id : String) :
    (resolve? rules disk resolver id = none ↔
        ∃ extension front trail, SetsAside rules (pathOf id) extension ∧
          (pathOf id).toList = front ++ '.' :: extension.toList ++ trail ∧ Path.Trails trail ∧
            Text.EndsInside trail.length ('.' :: extension.toList)) ∧
      ((∀ question, resolver question = none) →
        ((∃ answer, resolve? rules disk resolver id = some answer ∧
            pathOf answer.id = pathOf id) ↔
          ∀ extension, SetsAside rules (pathOf id) extension →
            '.' :: extension.toList <:+ (pathOf id).toList)) := by
  refine ⟨resolve?_eq_none_iff, ?_⟩
  intro unresolved
  constructor
  · rintro ⟨answer, resolved, same⟩ extension aside
    rcases setAside?_of_resolved resolved with ⟨kept, suffix, parts⟩
    rcases resolve?_of_unresolved unresolved disk parts with ⟨other, found, path⟩
    rcases Option.some.inj (resolved.symm.trans found) with rfl
    rw [setAside?_of_setsAside aside, Option.map_eq_some_iff] at parts
    rcases parts with ⟨letters, -, joined⟩
    cases joined
    refine ⟨letters, ?_⟩
    rw [← same, path, String.toList_append, toList_dotted, String.toList_ofList]
  · intro ends
    by_cases aside : ∃ extension, SetsAside rules (pathOf id) extension
    · rcases aside with ⟨extension, aside⟩
      rcases ends extension aside with ⟨kept, whole⟩
      have parts := setAside?_of_suffix aside whole.symm
      rcases resolve?_of_unresolved unresolved disk parts with ⟨answer, resolved, path⟩
      refine ⟨answer, resolved, path.trans (String.toList_injective ?_)⟩
      rw [← whole, String.toList_append, toList_dotted, String.toList_ofList]
    · have parts := setAside?_of_not_setsAside fun extension => not_exists.1 aside extension
      rcases resolve?_of_unresolved unresolved disk parts with ⟨answer, resolved, path⟩
      exact ⟨answer, resolved, path.trans (String.append_empty)⟩

/-- The path of a page that nothing is known of is conserved, with the suffix of its import. -/
theorem path_conserved_iff_page :
    (∀ question, (fun _ : String => (none : Option Path)) question = none) ∧
      ∃ answer, resolve? ⟨["es", "ease"], some ".vue"⟩ .empty (fun _ => none)
          "/pages/Home.es.vue?vue?type=style" = some answer ∧
        pathOf answer.id = "/pages/Home.es.vue" := by
  have unresolved : ∀ question, (fun _ : String => (none : Option Path)) question = none :=
    fun _ => rfl
  have path : pathOf "/pages/Home.es.vue?vue?type=style" = "/pages/Home.es.vue" := by
    decide +kernel
  have found : (Path.mk "/pages/Home.es.vue").extension? = some "vue" := by
    decide +kernel
  refine ⟨unresolved, ?_⟩
  have conserved := ((path_conserved_iff ⟨["es", "ease"], some ".vue"⟩ .empty (fun _ => none)
    "/pages/Home.es.vue?vue?type=style").2 unresolved).2
  rw [path] at conserved
  apply conserved
  intro extension aside
  rcases Option.some.inj (found.symm.trans aside.found) with rfl
  exact ⟨"/pages/Home.es".toList, by decide⟩

/--
Separators behind the last name: one of them brings another dot in, and two of them put the cut
inside the character of a suffix.
-/
theorem path_lost_behind_separator :
    resolve? ⟨["es", "ease"], some ".vue"⟩ .empty (fun _ => none) "/a.b/" =
        some ⟨"/a..b", some "a."⟩ ∧
      pathOf "/a..b" ≠ pathOf "/a.b/" ∧
        resolve? ⟨["es", "ease"], some ".vue"⟩ .empty (fun _ => none) "/x.é//" = none := by
  refine ⟨?_, ?_, ?_⟩
  · cbv
  · decide +kernel
  · cbv

end Request

end ModuleBridge
