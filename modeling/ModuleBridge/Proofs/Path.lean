import ModuleBridge.Path
import Mathlib.Data.List.Basic
import Std

/-!
# Plain paths

A plain path is written as its steps say: from the root, one name after another.  Plain
paths are the same when their steps are, so that the order of steps puts them in a line,
and cleaning gives every absolute path a plain form.
-/

namespace ModuleBridge

namespace Component

/-! ## The order of steps -/

/-- The text of a name; other steps have none. -/
def label : Component → String
  | .name text => text
  | _ => ""

/-- Steps are ordered by their rank first, and names by their text. -/
theorem order_eq : order = compareLex (compareOn rank) (compareOn label) := by
  funext left right
  cases left <;> cases right <;> rfl

instance : Std.TransCmp order := by
  rw [order_eq]
  infer_instance

instance : Std.LawfulEqCmp order where
  compare_self := by
    intro step
    cases step <;> simp [order]
  eq_of_compare := by
    intro left right equal
    cases left <;> cases right <;> simp_all [order, rank]

/-! ## Names -/

/-- A name that is read as it is written. -/
def Plain (name : String) : Prop :=
  ofPiece? name.toList = some (.name name) ∧ '/' ∉ name.toList

/-- A step that is read from a piece of a path is a `..` or a plain name. -/
theorem plain_of_piece
    {piece : List Char} {step : Component}
    (undivided : '/' ∉ piece) (read : ofPiece? piece = some step) :
    step = .parent ∨ ∃ name, Plain name ∧ step = .name name := by
  unfold ofPiece? at read
  split at read
  · cases read
  · cases read
  · exact .inl (Option.some.inj read).symm
  · rename_i nonempty single double
    refine .inr ⟨String.ofList piece, ⟨?_, by rwa [String.toList_ofList]⟩, ?_⟩
    · rw [String.toList_ofList, ofPiece?]
      · exact nonempty
      · exact single
      · exact double
    · exact (Option.some.inj read).symm

end Component

/-- A piece holds items of the whole, and none that divides it. -/
theorem mem_of_mem_splitOnP
    {α : Type} {divides : α → Bool} {items piece : List α}
    (member : piece ∈ items.splitOnP divides) :
    ∀ item ∈ piece, item ∈ items ∧ divides item = false := by
  induction items generalizing piece with
  | nil =>
      rw [List.splitOnP_nil, List.mem_singleton] at member
      rw [member]
      exact nofun
  | cons first rest inductionHypothesis =>
      have later : ∀ other ∈ rest.splitOnP divides, ∀ item ∈ other,
          item ∈ first :: rest ∧ divides item = false := by
        intro other among item here
        rcases inductionHypothesis among item here with ⟨within, undivided⟩
        exact ⟨List.mem_cons_of_mem first within, undivided⟩
      rw [List.splitOnP_cons_eq_if_modifyHead] at member
      split at member
      · rcases List.mem_cons.1 member with rfl | among
        · exact nofun
        · exact later piece among
      · rename_i other
        cases pieces : rest.splitOnP divides with
        | nil => exact absurd pieces (List.splitOnP_ne_nil _ _)
        | cons lead others =>
            rw [pieces, List.modifyHead_cons] at member
            rw [pieces] at later
            rcases List.mem_cons.1 member with rfl | among
            · rintro item (_ | ⟨_, here⟩)
              · exact ⟨List.mem_cons_self, by simpa using other⟩
              · exact later lead List.mem_cons_self item here
            · exact later piece (List.mem_cons_of_mem lead among)

theorem notMem_of_mem_splitOn
    {letters piece : List Char} {separator : Char} (member : piece ∈ letters.splitOn separator) :
    separator ∉ piece := by
  rw [List.splitOn_eq_splitOnP] at member
  intro divided
  have undivided := (mem_of_mem_splitOnP member separator divided).2
  rw [beq_self_eq_true] at undivided
  cases undivided

theorem mem_intercalate {separator : List Char} {pieces : List (List Char)} {letter : Char}
    (member : letter ∈ separator.intercalate pieces) :
    letter ∈ separator ∨ ∃ piece ∈ pieces, letter ∈ piece := by
  induction pieces with
  | nil => cases member
  | cons first rest inductionHypothesis =>
      cases rest with
      | nil =>
          rw [List.intercalate_singleton] at member
          exact .inr ⟨first, List.mem_cons_self, member⟩
      | cons second others =>
          rw [List.intercalate_cons_cons, List.append_assoc, List.mem_append, List.mem_append]
            at member
          rcases member with here | between | later
          · exact .inr ⟨first, List.mem_cons_self, here⟩
          · exact .inl between
          · rcases inductionHypothesis later with between | ⟨piece, listed, here⟩
            · exact .inl between
            · exact .inr ⟨piece, List.mem_cons_of_mem _ listed, here⟩

namespace Path

variable {left right path : Path}

/-! ## The order of paths -/

theorem le_trans {middle : Path} (first : left.le middle) (second : middle.le right) :
    left.le right :=
  have transitive : Std.TransCmp (List.compareLex Component.order) := inferInstance
  transitive.isLE_trans first second

theorem le_total (left right : Path) : (left.le right || right.le left) = true := by
  have oriented : Std.OrientedCmp (List.compareLex Component.order) := inferInstance
  have swapped : right.order left = (left.order right).swap := oriented.eq_swap
  rw [le, le, swapped]
  cases left.order right <;> rfl

theorem components_of_order (equal : left.order right = .eq) :
    left.components = right.components :=
  Std.LawfulEqCmp.eq_of_compare equal

theorem components_of_le (before : left.le right) (behind : right.le left) :
    left.components = right.components := by
  have oriented : Std.OrientedCmp (List.compareLex Component.order) := inferInstance
  have swapped : right.order left = (left.order right).swap := oriented.eq_swap
  rw [le] at before behind
  rw [swapped] at behind
  apply components_of_order
  cases compared : left.order right with
  | lt =>
      rw [compared] at behind
      cases behind
  | eq => rfl
  | gt =>
      rw [compared] at before
      cases before

/-! ## Plain forms -/

/-- A path that is written from the root, one name after another. -/
def IsPlain (path : Path) : Prop :=
  ∃ names : List String,
    (∀ name ∈ names, Component.Plain name) ∧ path = ofComponents (.root :: names.map .name)

/-- Below the root, the pieces of a plain path are its names. -/
theorem splitOn_ofComponents
    {first : String} {rest : List String}
    (plain : ∀ name ∈ first :: rest, Component.Plain name) :
    (ofComponents (.root :: (first :: rest).map .name)).text.toList.splitOn '/' =
      [] :: (first :: rest).map String.toList := by
  let pieces := (first :: rest).map String.toList
  have text :
      (ofComponents (.root :: (first :: rest).map .name)).text.toList =
        ['/'].intercalate ([] :: pieces) := by
    simp [ofComponents, pieces, Function.comp_def, Component.text]
  have undivided : ∀ piece ∈ [] :: pieces, '/' ∉ piece := by
    intro piece member
    rcases List.mem_cons.1 member with rfl | later
    · exact List.not_mem_nil
    · rcases List.mem_map.1 later with ⟨name, listed, rfl⟩
      exact (plain name listed).2
  rw [text, List.splitOn_intercalate '/' undivided (List.cons_ne_nil _ _)]

theorem components_ofComponents
    {names : List String} (plain : ∀ name ∈ names, Component.Plain name) :
    (ofComponents (.root :: names.map .name)).components = .root :: names.map .name := by
  cases names with
  | nil => rfl
  | cons first rest =>
      have read :
          ((first :: rest).map String.toList).filterMap Component.ofPiece? =
            (first :: rest).map .name := by
        rw [List.filterMap_map, ← List.filterMap_eq_map]
        refine List.filterMap_congr ?_
        intro name listed
        exact (plain name listed).1
      rw [components, splitOn_ofComponents plain, ← read]
      rfl

theorem IsPlain.eq_of_components
    (plain : left.IsPlain) (other : right.IsPlain) (same : left.components = right.components) :
    left = right := by
  rcases plain with ⟨names, plain, rfl⟩
  rcases other with ⟨others, plainOthers, rfl⟩
  rw [components_ofComponents plain, components_ofComponents plainOthers] at same
  rw [same]

theorem IsPlain.isAbsolute (plain : path.IsPlain) : path.isAbsolute = true := by
  rcases plain with ⟨names, -, rfl⟩
  simp [Path.isAbsolute, ofComponents]

theorem components_of_absolute (absolute : path.isAbsolute = true) :
    ∃ pieces : List (List Char),
      path.text.toList.splitOn '/' = [] :: pieces ∧
        (∀ piece ∈ pieces, '/' ∉ piece) ∧
          path.components = .root :: pieces.filterMap Component.ofPiece? := by
  rw [Path.isAbsolute, beq_iff_eq, List.head?_eq_some_iff] at absolute
  rcases absolute with ⟨rest, text⟩
  have pieces : path.text.toList.splitOn '/' = [] :: rest.splitOn '/' := by
    rw [text, List.splitOn_cons_eq_if_modifyHead, if_pos (beq_self_eq_true _)]
  refine ⟨rest.splitOn '/', pieces, fun piece member => notMem_of_mem_splitOn member, ?_⟩
  rw [components, pieces]
  cases split : rest.splitOn '/' with
  | nil => exact absurd split (List.splitOn_ne_nil _ _)
  | cons first others => rfl

/-- What cleaning has kept at a time: names below the root, the latest first. -/
def Kept (kept : List Component) : Prop :=
  ∃ names : List String,
    (∀ name ∈ names, Component.Plain name) ∧ kept = names.map .name ++ [.root]

theorem Kept.step
    {kept : List Component} {step : Component} {piece : List Char}
    (known : Kept kept) (undivided : '/' ∉ piece)
    (read : Component.ofPiece? piece = some step) :
    Kept (cleanStep kept step) := by
  rcases known with ⟨names, plain, rfl⟩
  rcases Component.plain_of_piece undivided read with rfl | ⟨name, here, rfl⟩
  · cases names with
    | nil => exact ⟨[], plain, rfl⟩
    | cons name before =>
        exact ⟨before, fun other member => plain other (List.mem_cons_of_mem _ member), rfl⟩
  · refine ⟨name :: names, ?_, rfl⟩
    intro other member
    rcases List.mem_cons.1 member with rfl | old
    · exact here
    · exact plain other old

theorem Kept.steps
    {kept : List Component} {pieces : List (List Char)}
    (known : Kept kept) (undivided : ∀ piece ∈ pieces, '/' ∉ piece) :
    Kept ((pieces.filterMap Component.ofPiece?).foldl cleanStep kept) := by
  induction pieces generalizing kept with
  | nil => exact known
  | cons piece rest inductionHypothesis =>
      have undividedRest := fun other member => undivided other (List.mem_cons_of_mem piece member)
      rw [List.filterMap_cons]
      split
      · exact inductionHypothesis known undividedRest
      · rename_i step read
        exact inductionHypothesis (known.step (undivided piece List.mem_cons_self) read)
          undividedRest

theorem plain_clean (absolute : path.isAbsolute = true) : path.clean.IsPlain := by
  rcases components_of_absolute absolute with ⟨pieces, -, undivided, steps⟩
  have root : Kept [.root] := ⟨[], nofun, rfl⟩
  rcases root.steps undivided with ⟨names, plain, kept⟩
  have cleaned : cleanComponents path.components = .root :: names.reverse.map .name := by
    rw [cleanComponents, steps, List.foldl_cons]
    change (List.foldl cleanStep [.root] _).reverse = _
    rw [kept, List.reverse_append, List.map_reverse]
    rfl
  refine ⟨names.reverse, fun name member => plain name (List.mem_reverse.1 member), ?_⟩
  rw [clean, cleaned]

theorem foldl_cleanStep_names (names : List String) (kept : List Component) :
    (names.map Component.name).foldl cleanStep kept = (names.map .name).reverse ++ kept := by
  induction names generalizing kept with
  | nil => rfl
  | cons name rest inductionHypothesis =>
      rw [List.map_cons, List.foldl_cons, inductionHypothesis, List.reverse_cons,
        List.append_assoc]
      rfl

/-- There is nothing to clean in a plain path. -/
theorem IsPlain.clean (plain : path.IsPlain) : path.clean = path := by
  rcases plain with ⟨names, plain, rfl⟩
  have cleaned :
      cleanComponents (.root :: names.map .name) = .root :: names.map Component.name := by
    rw [cleanComponents, List.foldl_cons]
    change (List.foldl cleanStep [.root] _).reverse = _
    rw [foldl_cleanStep_names, List.reverse_append, List.reverse_reverse]
    rfl
  rw [Path.clean, components_ofComponents plain, cleaned]

/-! ## The letters of a cleaned path -/

/-- A step is written in these letters, apart from separators and dots. -/
def SpelledIn (letters : List Char) (step : Component) : Prop :=
  ∀ letter ∈ step.text.toList, letter ∈ letters ∨ letter = '/' ∨ letter = '.'

theorem spelledIn_of_piece
    {letters piece : List Char} {step : Component}
    (within : ∀ letter ∈ piece, letter ∈ letters) (read : Component.ofPiece? piece = some step) :
    SpelledIn letters step := by
  unfold Component.ofPiece? at read
  split at read
  · cases read
  · cases read
  · cases read
    intro letter member
    exact .inr (.inr (by simpa [Component.text] using member))
  · cases read
    intro letter member
    rw [Component.text, String.toList_ofList] at member
    exact .inl (within letter member)

theorem spelledIn_components (path : Path) :
    ∀ step ∈ path.components, SpelledIn path.text.toList step := by
  have read : ∀ pieces : List (List Char),
      (∀ piece ∈ pieces, piece ∈ path.text.toList.splitOn '/') →
        ∀ step ∈ pieces.filterMap Component.ofPiece?, SpelledIn path.text.toList step := by
    intro pieces among step member
    rcases List.mem_filterMap.1 member with ⟨piece, listed, read⟩
    have whole := among piece listed
    rw [List.splitOn_eq_splitOnP] at whole
    exact spelledIn_of_piece (fun letter here => (mem_of_mem_splitOnP whole letter here).1) read
  have root : SpelledIn path.text.toList .root := by
    intro letter member
    exact .inr (.inl (by simpa [Component.text] using member))
  have current : SpelledIn path.text.toList .current := by
    intro letter member
    exact .inr (.inr (by simpa [Component.text] using member))
  unfold components
  split
  · exact nofun
  · rename_i rest split
    rintro step (_ | ⟨_, member⟩)
    · exact current
    · exact read rest (fun piece here => split ▸ List.mem_cons_of_mem _ here) step member
  · exact nofun
  · rename_i rest _ split
    rintro step (_ | ⟨_, member⟩)
    · exact root
    · exact read rest (fun piece here => split ▸ List.mem_cons_of_mem _ here) step member
  · rename_i split
    exact read _ fun piece here => split ▸ here

theorem mem_cleanStep {kept : List Component} {step other : Component}
    (member : other ∈ cleanStep kept step) : other = step ∨ other ∈ kept := by
  cases step with
  | current => exact .inr member
  | parent =>
      rw [cleanStep.eq_def] at member
      dsimp only at member
      split at member
      · exact .inr (List.mem_cons_of_mem _ member)
      · exact .inr member
      · exact List.mem_cons.1 member
  | root => exact List.mem_cons.1 member
  | name text => exact List.mem_cons.1 member

theorem mem_foldl_cleanStep {kept steps : List Component} {step : Component}
    (member : step ∈ steps.foldl cleanStep kept) : step ∈ kept ∨ step ∈ steps := by
  induction steps generalizing kept with
  | nil => exact .inl member
  | cons first rest inductionHypothesis =>
      rcases inductionHypothesis member with here | later
      · rcases mem_cleanStep here with rfl | before
        · exact .inr List.mem_cons_self
        · exact .inl before
      · exact .inr (List.mem_cons_of_mem _ later)

/-- The steps that remain are steps of the path. -/
theorem mem_cleanComponents {steps : List Component} {step : Component}
    (member : step ∈ cleanComponents steps) : step ∈ steps := by
  rcases mem_foldl_cleanStep (List.mem_reverse.1 member) with nothing | here
  · cases nothing
  · exact here

theorem spelledIn_ofComponents
    {letters : List Char} {steps : List Component}
    (spelled : ∀ step ∈ steps, SpelledIn letters step) :
    ∀ letter ∈ (ofComponents steps).text.toList,
      letter ∈ letters ∨ letter = '/' ∨ letter = '.' := by
  have joined : ∀ rest : List Component, (∀ step ∈ rest, SpelledIn letters step) →
      ∀ letter ∈ (String.intercalate "/" (rest.map Component.text)).toList,
        letter ∈ letters ∨ letter = '/' ∨ letter = '.' := by
    intro rest spelled letter member
    rw [String.toList_intercalate, List.map_map] at member
    rcases mem_intercalate member with between | ⟨piece, listed, here⟩
    · exact .inr (.inl (List.mem_singleton.1 between))
    · rcases List.mem_map.1 listed with ⟨step, among, rfl⟩
      exact spelled step among letter here
  unfold ofComponents
  split
  · intro letter member
    rw [String.toList_append, List.mem_append] at member
    rcases member with lead | rest
    · exact .inr (.inl (List.mem_singleton.1 lead))
    · exact joined _ (fun step among => spelled step (List.mem_cons_of_mem _ among)) letter rest
  · exact joined _ spelled

/-- Cleaning brings in no letters but separators and dots. -/
theorem mem_clean {letter : Char} (member : letter ∈ path.clean.text.toList) :
    letter ∈ path.text.toList ∨ letter = '/' ∨ letter = '.' := by
  have steps : ∀ step ∈ cleanComponents path.components, SpelledIn path.text.toList step :=
    fun step kept => spelledIn_components path step (mem_cleanComponents kept)
  unfold clean at member
  split at member
  · exact .inr (.inr (List.mem_singleton.1 member))
  · exact spelledIn_ofComponents steps letter member

end Path

end ModuleBridge
