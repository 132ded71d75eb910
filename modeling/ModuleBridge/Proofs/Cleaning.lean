import ModuleBridge.Proofs.Path

/-!
# Cleaned paths

A path says where it starts, at the root or at the place from which it is read, and which steps
lead on from there.  Cleaning reads these steps and remembers what is left of them: names below
the root, or names some directories further up.

What is left of a path is left again of the path that is written from it.  So cleaning twice is
cleaning once, the steps of another path can be read on from the cleaned path as well as from
the path itself, and exactly the paths without superfluous steps keep their steps.
-/

namespace ModuleBridge

namespace Component

/-- A step below the start of a path, which is read as it is written. -/
def Proper (step : Component) : Prop :=
  ofPiece? step.text.toList = some step ∧ '/' ∉ step.text.toList

theorem proper_parent : Proper .parent :=
  ⟨rfl, by decide⟩

theorem proper_of_piece
    {piece : List Char} {step : Component}
    (undivided : '/' ∉ piece) (read : ofPiece? piece = some step) :
    step.Proper := by
  rcases plain_of_piece undivided read with rfl | ⟨name, plain, rfl⟩
  · exact proper_parent
  · exact plain

theorem Proper.cases {step : Component} (proper : step.Proper) :
    step = .parent ∨ ∃ name, Plain name ∧ step = .name name :=
  plain_of_piece proper.2 proper.1

end Component

namespace Path

variable {path other : Path} {kept steps : List Component} {absolute : Bool}

/-! ## Where a path starts and how it goes on -/

/-- The steps between separators. -/
def stepsIn (letters : List Char) : List Component :=
  (letters.splitOn '/').filterMap Component.ofPiece?

/-- The steps of a path below its start. -/
def onward (path : Path) : List Component :=
  stepsIn path.text.toList

/-- What is left of a path before its first step. -/
def start (path : Path) : List Component :=
  if path.isAbsolute then [.root] else []

theorem stepsIn_append_cons (front back : List Char) :
    stepsIn (front ++ '/' :: back) = stepsIn front ++ stepsIn back := by
  rw [stepsIn, List.splitOn_append_cons_self, List.filterMap_append]
  rfl

theorem proper_onward (path : Path) : ∀ step ∈ path.onward, step.Proper := by
  intro step member
  rcases List.mem_filterMap.1 member with ⟨piece, listed, read⟩
  exact Component.proper_of_piece (notMem_of_mem_splitOn listed) read

theorem isAbsolute_iff : path.isAbsolute = true ↔ ∃ rest, path.text.toList = '/' :: rest := by
  rw [Path.isAbsolute, beq_iff_eq, List.head?_eq_some_iff]

/-- The steps of a path from the root. -/
theorem components_eq_root (fromRoot : path.isAbsolute = true) :
    path.components = .root :: path.onward := by
  rcases components_of_absolute fromRoot with ⟨pieces, split, -, components⟩
  rw [components, onward, stepsIn, split]
  rfl

/-- A relative path may have a `.` in front of its steps. -/
theorem components_of_relative (relative : path.isAbsolute = false) :
    path.components = path.onward ∨
      path.components = .current :: path.onward ∧
        ∃ rest, path.text.toList.splitOn '/' = ['.'] :: rest := by
  unfold components onward stepsIn
  split
  · rename_i pieces
    exact .inl (by rw [pieces]; rfl)
  · rename_i rest pieces
    exact .inr ⟨by rw [pieces]; rfl, rest, pieces⟩
  · rename_i pieces
    exact .inl (by rw [pieces]; rfl)
  · rename_i rest more pieces
    have joined : ['/'].intercalate (path.text.toList.splitOn '/') = path.text.toList :=
      List.intercalate_splitOn '/'
    rcases List.exists_cons_of_ne_nil fun none => more none with ⟨second, others, rfl⟩
    rw [pieces, List.intercalate_cons_cons] at joined
    have fromRoot : path.isAbsolute = true := isAbsolute_iff.2 ⟨_, joined.symm⟩
    rw [fromRoot] at relative
    cases relative
  · rename_i pieces
    exact .inl (by rw [pieces])

/-! ## Joining -/

theorem join_of_absolute (fromRoot : other.isAbsolute = true) (path : Path) :
    path.join other = other := by
  rw [join, fromRoot, Bool.true_or, if_pos rfl]

/-- How a joined path is written when the second part does not start at the root. -/
theorem text_join (relative : other.isAbsolute = false) (path : Path) :
    (path.text.toList = [] ∧ (path.join other).text.toList = other.text.toList) ∨
      (∃ front, path.text.toList = front ++ ['/'] ∧
        (path.join other).text.toList = front ++ '/' :: other.text.toList) ∨
      path.text.toList ≠ [] ∧
        (path.join other).text.toList = path.text.toList ++ '/' :: other.text.toList := by
  rw [join, relative, Bool.false_or]
  by_cases empty : path.text.isEmpty = true
  · rw [if_pos empty]
    rw [String.isEmpty_iff] at empty
    exact .inl ⟨by rw [empty]; rfl, rfl⟩
  · have written : path.text.toList ≠ [] := by
      intro nothing
      rw [String.isEmpty_iff, ← String.toList_inj, nothing] at empty
      exact empty rfl
    rw [if_neg empty]
    split
    · rename_i last
      rw [beq_iff_eq, List.getLast?_eq_some_iff] at last
      rcases last with ⟨front, ends⟩
      exact .inr (.inl ⟨front, ends, by rw [String.toList_append, ends]; simp⟩)
    · exact .inr (.inr ⟨written, by simp⟩)

/-- A relative path leads on from where the first path ends. -/
theorem onward_join (relative : other.isAbsolute = false) (path : Path) :
    (path.join other).onward = path.onward ++ other.onward := by
  unfold onward
  rcases text_join relative path with ⟨empty, text⟩ | ⟨front, ends, text⟩ | ⟨-, text⟩
  · rw [text, empty]
    rfl
  · rw [text, ends, stepsIn_append_cons, stepsIn_append_cons]
    change _ = stepsIn front ++ [] ++ _
    rw [List.append_nil]
  · rw [text, stepsIn_append_cons]

theorem isAbsolute_join_relative (relative : other.isAbsolute = false) (path : Path) :
    (path.join other).isAbsolute = path.isAbsolute := by
  rcases text_join relative path with ⟨empty, text⟩ | ⟨front, ends, text⟩ | ⟨written, text⟩
  · rw [Path.isAbsolute, text, Path.isAbsolute, empty]
    exact relative
  · rw [Path.isAbsolute, text, Path.isAbsolute, ends]
    cases front <;> rfl
  · rw [Path.isAbsolute, text, Path.isAbsolute]
    rcases List.exists_cons_of_ne_nil written with ⟨first, rest, letters⟩
    rw [letters]
    rfl

/-! ## What is left of a path -/

/-- What cleaning leaves of a path, the latest step first. -/
def remains (path : Path) : List Component :=
  path.onward.foldl cleanStep path.start

/-- The path that is written from what is left. -/
def written (kept : List Component) : Path :=
  match kept.reverse with
  | [] => ⟨"."⟩
  | steps => ofComponents steps

/--
What can be left of a path, the latest step first: names below the root, or names some
directories further up.
-/
inductive Remainder : Bool → List Component → Prop where
  | below (names : List String) :
      (∀ name ∈ names, Component.Plain name) → Remainder true (names.map .name ++ [.root])
  | beside (names : List String) (count : Nat) :
      (∀ name ∈ names, Component.Plain name) →
        Remainder false (names.map .name ++ List.replicate count .parent)

theorem cleanComponents_components (path : Path) :
    cleanComponents path.components = path.remains.reverse := by
  rw [remains, start, cleanComponents]
  cases fromRoot : path.isAbsolute with
  | true =>
      rw [components_eq_root fromRoot, if_pos rfl]
      rfl
  | false =>
      rw [if_neg Bool.false_ne_true]
      rcases components_of_relative fromRoot with steps | ⟨steps, -⟩
      · rw [steps]
      · rw [steps]
        rfl

theorem clean_eq (path : Path) : path.clean = written path.remains := by
  rw [clean, cleanComponents_components]
  rfl

/-- A further step takes the latest name back, or leads further up, or adds a name. -/
theorem Remainder.step
    {step : Component} (known : Remainder absolute kept) (proper : step.Proper) :
    Remainder absolute (cleanStep kept step) := by
  rcases proper.cases with rfl | ⟨name, plain, rfl⟩
  · cases known with
    | below names plain =>
        cases names with
        | nil => exact .below [] plain
        | cons name before => exact .below before (List.forall_mem_of_forall_mem_cons plain)
    | beside names count plain =>
        cases names with
        | nil =>
            cases count with
            | zero => exact .beside [] 1 plain
            | succ count => exact .beside [] (count + 2) plain
        | cons name before =>
            exact .beside before count (List.forall_mem_of_forall_mem_cons plain)
  · cases known with
    | below names others => exact .below (name :: names) (List.forall_mem_cons.2 ⟨plain, others⟩)
    | beside names count others =>
        exact .beside (name :: names) count (List.forall_mem_cons.2 ⟨plain, others⟩)

theorem Remainder.foldl
    (known : Remainder absolute kept) (proper : ∀ step ∈ steps, step.Proper) :
    Remainder absolute (steps.foldl cleanStep kept) :=
  List.foldlRecOn steps cleanStep known fun _ before step member =>
    before.step (proper step member)

theorem remainder_start (path : Path) : Remainder path.isAbsolute path.start := by
  rw [start]
  cases path.isAbsolute with
  | true => exact .below [] nofun
  | false => exact .beside [] 0 nofun

theorem remainder_remains (path : Path) : Remainder path.isAbsolute path.remains :=
  (remainder_start path).foldl (proper_onward path)

/-! ## Reading what was written -/

theorem foldl_cleanStep_parents (count before : Nat) :
    (List.replicate count Component.parent).foldl cleanStep (List.replicate before .parent) =
      List.replicate (before + count) .parent := by
  induction count generalizing before with
  | zero => rfl
  | succ count inductionHypothesis =>
      have further : cleanStep (List.replicate before .parent) .parent =
          List.replicate (before + 1) .parent := by
        cases before <;> rfl
      rw [List.replicate_succ, List.foldl_cons, further, inductionHypothesis]
      congr 1
      omega

/-- What is left of steps that are left is all of them. -/
theorem Remainder.foldl_reverse (known : Remainder absolute kept) :
    kept.reverse.foldl cleanStep [] = kept := by
  cases known with
  | below names plain =>
      rw [List.reverse_append, List.foldl_append, ← List.map_reverse]
      change (names.reverse.map Component.name).foldl cleanStep [.root] = _
      rw [foldl_cleanStep_names, List.map_reverse, List.reverse_reverse]
  | beside names count plain =>
      rw [List.reverse_append, List.foldl_append, List.reverse_replicate, ← List.map_reverse]
      have up := foldl_cleanStep_parents count 0
      rw [List.replicate_zero, Nat.zero_add] at up
      rw [up, foldl_cleanStep_names, List.map_reverse, List.reverse_reverse]

theorem ofComponents_of_proper
    {first : Component} {rest : List Component} (proper : first.Proper) :
    ofComponents (first :: rest) =
      ⟨String.intercalate "/" ((first :: rest).map Component.text)⟩ := by
  rcases proper.cases with rfl | ⟨name, -, rfl⟩ <;> rfl

/-- Proper steps are the pieces of the path that is written with them. -/
theorem splitOn_of_proper
    {first : Component} {rest : List Component}
    (proper : ∀ step ∈ first :: rest, step.Proper) :
    (ofComponents (first :: rest)).text.toList.splitOn '/' =
      (first :: rest).map fun step => step.text.toList := by
  let pieces := (first :: rest).map fun step => step.text.toList
  have text : (ofComponents (first :: rest)).text.toList = ['/'].intercalate pieces := by
    rw [ofComponents_of_proper (proper first List.mem_cons_self)]
    simp [pieces, Function.comp_def]
  have undivided : ∀ piece ∈ pieces, '/' ∉ piece := by
    intro piece member
    rcases List.mem_map.1 member with ⟨step, listed, rfl⟩
    exact (proper step listed).2
  rw [text, List.splitOn_intercalate '/' undivided (List.cons_ne_nil _ _)]

/-- Proper steps are read as they are written. -/
theorem components_of_proper
    {first : Component} {rest : List Component}
    (proper : ∀ step ∈ first :: rest, step.Proper) :
    (ofComponents (first :: rest)).isAbsolute = false ∧
      (ofComponents (first :: rest)).components = first :: rest := by
  have pieces := splitOn_of_proper proper
  have onward : (ofComponents (first :: rest)).onward = first :: rest := by
    have read : (first :: rest).filterMap (Component.ofPiece? ∘ fun step => step.text.toList) =
        (first :: rest).filterMap some := by
      apply List.filterMap_congr
      intro step member
      exact (proper step member).1
    rw [Path.onward, stepsIn, pieces, List.filterMap_map, read, List.filterMap_some]
  have read := (proper first List.mem_cons_self).1
  have relative : (ofComponents (first :: rest)).isAbsolute = false := by
    rw [← Bool.not_eq_true]
    intro fromRoot
    rcases components_of_absolute fromRoot with ⟨others, split, -, -⟩
    rw [pieces, List.map_cons] at split
    rw [List.head_eq_of_cons_eq split] at read
    cases read
  refine ⟨relative, ?_⟩
  rcases components_of_relative relative with steps | ⟨-, others, split⟩
  · rw [steps, onward]
  · rw [pieces, List.map_cons] at split
    rw [List.head_eq_of_cons_eq split] at read
    cases read

/-- The path that is written from what is left starts and goes on as that says. -/
theorem Remainder.read_written (known : Remainder absolute kept) :
    (written kept).isAbsolute = absolute ∧
      (written kept).components = if kept = [] then [.current] else kept.reverse := by
  cases known with
  | below names plain =>
      have reversed : (names.map Component.name ++ [Component.root]).reverse =
          .root :: names.reverse.map .name := by
        rw [List.reverse_append, List.map_reverse]
        rfl
      have plainBack : ∀ name ∈ names.reverse, Component.Plain name :=
        fun name member => plain name (List.mem_reverse.1 member)
      rw [if_neg (List.append_ne_nil_of_right_ne_nil _ (List.cons_ne_nil _ _)), written, reversed]
      exact ⟨IsPlain.isAbsolute ⟨_, plainBack, rfl⟩, components_ofComponents plainBack⟩
  | beside names count plain =>
      let steps := names.map Component.name ++ List.replicate count .parent
      have proper : ∀ step ∈ steps.reverse, step.Proper := by
        intro step member
        rcases List.mem_append.1 (List.mem_reverse.1 member) with named | up
        · rcases List.mem_map.1 named with ⟨name, listed, rfl⟩
          exact plain name listed
        · rw [List.eq_of_mem_replicate up]
          exact Component.proper_parent
      change (written steps).isAbsolute = false ∧ (written steps).components = _
      rw [written]
      cases reversed : steps.reverse with
      | nil =>
          rw [if_pos (List.reverse_eq_nil_iff.1 reversed)]
          exact ⟨rfl, rfl⟩
      | cons first rest =>
          rw [if_neg, ← reversed]
          · rw [reversed] at proper ⊢
            exact components_of_proper proper
          · intro nothing
            rw [show steps = [] from nothing] at reversed
            cases reversed

/-- What is left is left again of the path that is written from it. -/
theorem Remainder.remains_written (known : Remainder absolute kept) :
    (written kept).remains = kept := by
  have steps := cleanComponents_components (written kept)
  rw [known.read_written.2] at steps
  apply List.reverse_injective
  rw [← steps, cleanComponents]
  split
  · rename_i nothing
    rw [nothing]
    rfl
  · rw [known.foldl_reverse]

theorem remains_clean (path : Path) : path.clean.remains = path.remains := by
  rw [clean_eq]
  exact (remainder_remains path).remains_written

/-! ## Laws of cleaning -/

theorem isAbsolute_clean (path : Path) : path.clean.isAbsolute = path.isAbsolute := by
  rw [clean_eq]
  exact (remainder_remains path).read_written.1

theorem components_clean (path : Path) :
    path.clean.components = if path.remains = [] then [.current] else path.remains.reverse := by
  rw [clean_eq]
  exact (remainder_remains path).read_written.2

/-- What is left of a joined path depends on what is left of its first part. -/
theorem remains_join (path other : Path) :
    (path.join other).remains =
      if other.isAbsolute then other.remains else other.onward.foldl cleanStep path.remains := by
  cases fromRoot : other.isAbsolute with
  | true => rw [join_of_absolute fromRoot, if_pos rfl]
  | false =>
      rw [if_neg Bool.false_ne_true, remains, onward_join fromRoot, List.foldl_append, start,
        isAbsolute_join_relative fromRoot]
      rfl

theorem clean_join (path other : Path) :
    (path.join other).clean = (path.clean.join other).clean := by
  rw [clean_eq, clean_eq, remains_join, remains_join, remains_clean]

/-- Steps without a superfluous one: a lone `.`, names below the root, or names further up. -/
inductive Settled : List Component → Prop where
  | here : Settled [.current]
  | below (names : List String) :
      (∀ name ∈ names, Component.Plain name) → Settled (.root :: names.map .name)
  | beside (count : Nat) (names : List String) :
      (∀ name ∈ names, Component.Plain name) → 0 < count + names.length →
        Settled (List.replicate count .parent ++ names.map .name)

theorem settled_iff :
    Settled steps ↔
      steps = [.current] ∨ ∃ absolute kept, Remainder absolute kept ∧ kept ≠ [] ∧
        steps = kept.reverse := by
  constructor
  · rintro (_ | ⟨names, plain⟩ | ⟨count, names, plain, some⟩)
    · exact .inl rfl
    · have plainBack : ∀ name ∈ names.reverse, Component.Plain name :=
        fun name member => plain name (List.mem_reverse.1 member)
      exact .inr ⟨true, _, .below names.reverse plainBack, by simp, by simp⟩
    · have plainBack : ∀ name ∈ names.reverse, Component.Plain name :=
        fun name member => plain name (List.mem_reverse.1 member)
      refine .inr ⟨false, _, .beside names.reverse count plainBack, ?_, by simp⟩
      rw [← List.length_pos_iff]
      simpa [Nat.add_comm] using some
  · rintro (rfl | ⟨absolute, kept, known, some, rfl⟩)
    · exact .here
    · cases known with
      | below names plain =>
          rw [List.reverse_append, ← List.map_reverse]
          exact .below names.reverse fun name member => plain name (List.mem_reverse.1 member)
      | beside names count plain =>
          rw [List.reverse_append, List.reverse_replicate, ← List.map_reverse]
          refine .beside count names.reverse ?_ ?_
          · exact fun name member => plain name (List.mem_reverse.1 member)
          · rw [← List.length_pos_iff] at some
            simpa [Nat.add_comm] using some

theorem settled_clean (path : Path) : Settled path.clean.components := by
  rw [settled_iff, components_clean]
  split
  · exact .inl rfl
  · rename_i some
    exact .inr ⟨_, _, remainder_remains path, some, rfl⟩

/-- Cleaning leaves exactly the paths without superfluous steps their steps. -/
theorem components_clean_iff :
    path.clean.components = path.components ↔ Settled path.components := by
  constructor
  · intro same
    rw [← same]
    exact settled_clean path
  · intro settled
    have remains := cleanComponents_components path
    rw [components_clean]
    rcases settled_iff.1 settled with here | ⟨absolute, kept, known, some, steps⟩
    · rw [here] at remains ⊢
      rw [if_pos (List.reverse_eq_nil_iff.1 remains.symm)]
    · rw [steps, cleanComponents, known.foldl_reverse] at remains
      rw [← List.reverse_injective remains, if_neg some, steps]

/-! ## What a cleaned path holds -/

theorem Remainder.current_notMem (known : Remainder absolute kept) : .current ∉ kept := by
  cases known <;> simp

theorem Remainder.parent_notMem (known : Remainder true kept) : .parent ∉ kept := by
  cases known
  simp

theorem Remainder.ne_nil (known : Remainder true kept) : kept ≠ [] := by
  cases known
  simp

/-- What leads further up stands in front of the names. -/
theorem Remainder.leads_up (known : Remainder false kept) :
    ∃ count rest, kept.reverse = List.replicate count .parent ++ rest ∧ .parent ∉ rest := by
  cases known with
  | beside names count plain =>
      refine ⟨count, (names.map .name).reverse, ?_, by simp⟩
      rw [List.reverse_append, List.reverse_replicate]

/-- Only where nothing is left, a `.` is written. -/
theorem eq_current_of_mem (member : .current ∈ path.clean.components) : path.clean = ⟨"."⟩ := by
  rw [components_clean] at member
  split at member
  · rename_i nothing
    rw [clean_eq, nothing]
    rfl
  · exact absurd (List.mem_reverse.1 member) (remainder_remains path).current_notMem

theorem parent_notMem_clean (fromRoot : path.clean.isAbsolute = true) :
    .parent ∉ path.clean.components := by
  have known := remainder_remains path
  rw [← isAbsolute_clean, fromRoot] at known
  rw [components_clean, if_neg known.ne_nil, List.mem_reverse]
  exact known.parent_notMem

theorem parents_lead_clean (relative : path.clean.isAbsolute = false) :
    ∃ count rest, path.clean.components = List.replicate count .parent ++ rest ∧
      .parent ∉ rest := by
  have known := remainder_remains path
  rw [← isAbsolute_clean, relative] at known
  rw [components_clean]
  split
  · exact ⟨0, [.current], rfl, by decide⟩
  · exact known.leads_up

/-- A plain name is a path of one step. -/
theorem onward_of_plain {name : String} (plain : Component.Plain name) :
    (Path.mk name).isAbsolute = false ∧ (Path.mk name).onward = [.name name] := by
  constructor
  · rw [← Bool.not_eq_true]
    intro fromRoot
    rcases isAbsolute_iff.1 fromRoot with ⟨rest, letters⟩
    apply plain.2
    rw [letters]
    exact List.mem_cons_self
  · rw [onward, stepsIn, List.splitOn_eq_singleton plain.2]
    exact List.filterMap_cons_some plain.1

/-- A name is taken back by the `..` behind it. -/
theorem clean_join_back {name : String} (plain : Component.Plain name) (path : Path) :
    ((path.join ⟨name⟩).join ⟨".."⟩).clean = path.clean := by
  have up : (Path.mk "..").isAbsolute = false ∧ (Path.mk "..").onward = [.parent] := by decide
  rcases onward_of_plain plain with ⟨relative, step⟩
  rw [clean_eq, clean_eq, remains_join, up.1, if_neg Bool.false_ne_true, up.2, remains_join,
    relative, if_neg Bool.false_ne_true, step]
  rfl

/--
Cleaning a path twice is cleaning it once, and keeps it absolute or relative.  A cleaned path is
`.`, or there is no `.` among its steps; from the root, there is no `..` among them, and otherwise
`..` stands in front only.  What is joined to a path may be joined to the cleaned path as well.
Only superfluous steps are taken away: paths without any keep their steps, and a name is taken
back by the `..` behind it.
-/
theorem clean_lawful (path other : Path) :
    path.clean.clean = path.clean ∧
      path.clean.isAbsolute = path.isAbsolute ∧
      (.current ∈ path.clean.components → path.clean = ⟨"."⟩) ∧
      (path.clean.isAbsolute = true → .parent ∉ path.clean.components) ∧
      (path.clean.isAbsolute = false →
        ∃ count rest, path.clean.components = List.replicate count .parent ++ rest ∧
          .parent ∉ rest) ∧
      (path.join other).clean = (path.clean.join other).clean ∧
      (path.clean.components = path.components ↔ Settled path.components) ∧
      ∀ name, Component.Plain name → ((path.join ⟨name⟩).join ⟨".."⟩).clean = path.clean := by
  refine ⟨?_, isAbsolute_clean path, eq_current_of_mem, parent_notMem_clean, parents_lead_clean,
    clean_join path other, components_clean_iff, ?_⟩
  · rw [clean_eq, remains_clean, ← clean_eq]
  · exact fun name plain => clean_join_back plain path

end Path

end ModuleBridge
