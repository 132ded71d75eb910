import Mathlib
import ModuleBridge.Proofs.Disk
import ModuleBridge.Proofs.Graph

/-!
# Edits of the graph

What a graph holds after any edits: for each file the imports of its last record, where no
edit took them away again, and for each imported file the files that import it.  A file is
taken in its normal form everywhere, so that normal forms have to be stable.
-/

namespace ModuleBridge.Graph

/-- What is done to a graph. -/
inductive Edit where
  | record (file : Path) (imports : List Path)
  | remove (file : Path)
  | clear
  deriving DecidableEq, Repr

variable {normalise : Path → Path} {edits : List Edit} {edit : Edit} {graph : Graph}
  {file key user other : Path} {imports found : List Path}

/-- The graph after an edit. -/
def edited (normalise : Path → Path) (graph : Graph) : Edit → Graph
  | .record file imports => graph.record normalise file imports
  | .remove file => graph.remove normalise file
  | .clear => .empty

/-- The graph after edits one after another, from no imports on. -/
def after (normalise : Path → Path) (edits : List Edit) : Graph :=
  edits.foldl (edited normalise) .empty

theorem after_concat (edits : List Edit) (edit : Edit) :
    after normalise (edits ++ [edit]) = edited normalise (after normalise edits) edit := by
  rw [after, List.foldl_concat]
  rfl

/-! ## The last record of a file -/

/-- What an edit says of the imports of a file, if anything. -/
def Edit.Touches (normalise : Path → Path) (key : Path) : Edit → Prop
  | .record file _ | .remove file => normalise file = key
  | .clear => True

/-- These imports were recorded for a file, and no edit touched it since. -/
def LastRecorded
    (normalise : Path → Path) (edits : List Edit) (key : Path) (imports : List Path) : Prop :=
  ∃ before file later,
    edits = before ++ .record file imports :: later ∧ normalise file = key ∧
      ∀ edit ∈ later, ¬edit.Touches normalise key

theorem not_lastRecorded_nil : ¬LastRecorded normalise [] key imports := by
  rintro ⟨before, file, later, split, -⟩
  exact absurd split (by simp)

theorem lastRecorded_concat :
    LastRecorded normalise (edits ++ [edit]) key imports ↔
      (∃ file, edit = .record file imports ∧ normalise file = key) ∨
        LastRecorded normalise edits key imports ∧ ¬edit.Touches normalise key := by
  constructor
  · rintro ⟨before, file, later, split, same, untouched⟩
    rcases List.eq_nil_or_concat later with rfl | ⟨others, last, rfl⟩
    · rcases List.append_inj' split rfl with ⟨rfl, last⟩
      exact .inl ⟨file, List.head_eq_of_cons_eq last, same⟩
    · rw [List.concat_eq_append, ← List.cons_append, ← List.append_assoc] at split
      rcases List.append_inj' split rfl with ⟨rfl, ends⟩
      rcases List.head_eq_of_cons_eq ends with rfl
      rw [List.concat_eq_append, List.forall_mem_append, List.forall_mem_singleton] at untouched
      exact .inr ⟨⟨before, file, others, rfl, same, untouched.1⟩, untouched.2⟩
  · rintro (⟨file, rfl, same⟩ | ⟨⟨before, file, later, rfl, same, untouched⟩, last⟩)
    · exact ⟨edits, file, [], rfl, same, nofun⟩
    · refine ⟨before, file, later ++ [edit], by simp, same, ?_⟩
      rw [List.forall_mem_append, List.forall_mem_singleton]
      exact ⟨untouched, last⟩

theorem lastRecorded_of_touched (touched : edit.Touches normalise key) :
    LastRecorded normalise (edits ++ [edit]) key imports ↔ ∃ file, edit = .record file imports := by
  rw [lastRecorded_concat]
  constructor
  · rintro (⟨file, same, -⟩ | ⟨-, untouched⟩)
    · exact ⟨file, same⟩
    · exact absurd touched untouched
  · rintro ⟨file, rfl⟩
    exact .inl ⟨file, rfl, touched⟩

theorem lastRecorded_of_untouched (untouched : ¬edit.Touches normalise key) :
    LastRecorded normalise (edits ++ [edit]) key imports ↔
      LastRecorded normalise edits key imports := by
  rw [lastRecorded_concat]
  constructor
  · rintro (⟨file, rfl, same⟩ | ⟨last, -⟩)
    · exact absurd same untouched
    · exact last
  · exact fun last => .inr ⟨last, untouched⟩

/-- What is recorded for each file after an edit. -/
def entered (normalise : Path → Path) (recorded : Path → Option (List Path)) :
    Edit → Path → Option (List Path)
  | .record file imports =>
    Function.update recorded (normalise file)
      (some (importsOf normalise (normalise file) imports))
  | .remove file => Function.update recorded (normalise file) none
  | .clear => fun _ => none

/-- What is recorded for each file after edits one after another. -/
def recordedBy (normalise : Path → Path) (edits : List Edit) : Path → Option (List Path) :=
  edits.foldl (entered normalise) fun _ => none

theorem recordedBy_concat (edits : List Edit) (edit : Edit) :
    recordedBy normalise (edits ++ [edit]) =
      entered normalise (recordedBy normalise edits) edit := by
  rw [recordedBy, List.foldl_concat]
  rfl

theorem entered_of_untouched
    (recorded : Path → Option (List Path)) (untouched : ¬edit.Touches normalise key) :
    entered normalise recorded edit key = recorded key := by
  cases edit with
  | record file imports => exact Function.update_of_ne (Ne.symm untouched) _ _
  | remove file => exact Function.update_of_ne (Ne.symm untouched) _ _
  | clear => exact absurd trivial untouched

/-- What is recorded for a file are the imports of its last record. -/
theorem recordedBy_eq_some_iff :
    recordedBy normalise edits key = some found ↔
      ∃ imports, LastRecorded normalise edits key imports ∧
        found = importsOf normalise key imports := by
  induction edits using List.reverseRecOn with
  | nil =>
      refine iff_of_false nofun ?_
      rintro ⟨imports, last, -⟩
      exact not_lastRecorded_nil last
  | append_singleton edits edit inductionHypothesis =>
      rw [recordedBy_concat]
      by_cases touched : edit.Touches normalise key
      · simp only [lastRecorded_of_touched touched]
        cases edit with
        | record file given =>
            obtain rfl : normalise file = key := touched
            rw [entered, Function.update_self, Option.some.injEq]
            constructor
            · rintro rfl
              exact ⟨given, ⟨file, rfl⟩, rfl⟩
            · rintro ⟨imports, ⟨written, same⟩, rfl⟩
              cases same
              rfl
        | remove file =>
            obtain rfl : normalise file = key := touched
            rw [entered, Function.update_self]
            simp
        | clear => simp [entered]
      · simp only [lastRecorded_of_untouched touched]
        rw [entered_of_untouched _ touched, inductionHypothesis]

/-! ## Both listings after edits -/

/-- No file is listed without users. -/
def Filled (users : List (Path × List Path)) : Prop :=
  ∀ entry ∈ users, entry.2 ≠ []

theorem Filled.dropUser
    {users : List (Path × List Path)} (filled : Filled users) (file user : Path) :
    Filled (dropUser users file user) := by
  rintro ⟨other, left⟩ member
  rcases mem_dropUser_iff.1 member with ⟨listed, known, rest⟩
  split at rest
  · exact rest.2
  · rw [rest]
    exact filled (other, listed) known

theorem Filled.addUser
    {users : List (Path × List Path)} (filled : Filled users) (file user : Path) :
    Filled (addUser users file user) := by
  unfold Graph.addUser
  split
  · rw [Filled, List.forall_mem_append, List.forall_mem_singleton]
    exact ⟨filled, List.cons_ne_nil _ _⟩
  · split
    · exact filled
    · intro entry member
      rcases List.mem_map.1 member with ⟨old, listed, rfl⟩
      split
      · exact List.append_ne_nil_of_right_ne_nil _ (List.cons_ne_nil _ _)
      · exact filled old listed

theorem Filled.forget (filled : Filled graph.users) (file : Path) :
    Filled (graph.forget file).users := by
  unfold Graph.forget
  split
  · exact filled
  · exact List.foldlRecOn _ _ filled fun _ left other _ => left.dropUser other file

theorem Filled.edited (filled : Filled graph.users) (edit : Edit) :
    Filled (edited normalise graph edit).users := by
  cases edit with
  | record file imports =>
      have forgotten := filled.forget (normalise file)
      exact List.foldlRecOn _ _ forgotten fun _ more other _ => more.addUser other (normalise file)
  | remove file => exact filled.forget (normalise file)
  | clear => exact nofun

theorem Indexes.edited
    {recorded : Path → Option (List Path)} (indexes : graph.Indexes recorded) (edit : Edit) :
    (edited normalise graph edit).Indexes (entered normalise recorded edit) := by
  cases edit with
  | record file imports => exact indexes.record normalise file imports
  | remove file => exact indexes.forget (normalise file)
  | clear => exact .empty

theorem indexes_after (normalise : Path → Path) (edits : List Edit) :
    (after normalise edits).Indexes (recordedBy normalise edits) ∧
      Filled (after normalise edits).users := by
  induction edits using List.reverseRecOn with
  | nil => exact ⟨.empty, nofun⟩
  | append_singleton edits edit inductionHypothesis =>
      rw [after_concat, recordedBy_concat]
      exact ⟨inductionHypothesis.1.edited edit, inductionHypothesis.2.edited edit⟩

/-- What is recorded stands under a normal form. -/
theorem normal_of_recorded
    (stable : ∀ path, normalise (normalise path) = normalise path)
    (recorded : recordedBy normalise edits user = some found) :
    normalise user = user := by
  rcases recordedBy_eq_some_iff.1 recorded with ⟨imports, ⟨before, file, later, -, rfl, -⟩, -⟩
  exact stable file

/--
After any edits a file has imports exactly when it was recorded and not touched since, and they
are the normal forms of those of the record, without the file.  A file is used by exactly the
files that have it among their imports, in the order of their paths and each of them once; paths
are ordered by their steps, so that the order is strict where these tell normal forms apart.  No
file is listed without users, as its own user, or with a user that does not have it among its
imports.
-/
theorem after_edits
    (stable : ∀ path, normalise (normalise path) = normalise path) (edits : List Edit) :
    let graph := after normalise edits
    (∀ file,
        ((graph.uses? normalise file).isSome ↔
          ∃ imports, LastRecorded normalise edits (normalise file) imports) ∧
        ∀ imports, LastRecorded normalise edits (normalise file) imports →
          ∃ found, graph.uses? normalise file = some found ∧ found.Nodup ∧
            ∀ other, other ∈ found ↔ other ∈ imports.map normalise ∧ other ≠ normalise file) ∧
      (∀ file,
        (∀ user, user ∈ graph.usedBy normalise file ↔
          normalise user = user ∧
            ∃ imports, graph.uses? normalise user = some imports ∧ normalise file ∈ imports) ∧
        ((graph.usedBy normalise file).Pairwise fun left right =>
          left.le right = true ∧ left ≠ right) ∧
        ((∀ left right, (normalise left).components = (normalise right).components →
            normalise left = normalise right) →
          (graph.usedBy normalise file).Pairwise fun left right => left.order right = .lt)) ∧
      ∀ file users, (file, users) ∈ graph.users →
        users ≠ [] ∧ file ∉ users ∧
          ∀ user ∈ users, ∃ imports, graph.uses.lookup user = some imports ∧ file ∈ imports := by
  intro graph
  rcases indexes_after normalise edits with ⟨indexes, filled⟩
  have uses : ∀ file, graph.uses? normalise file = recordedBy normalise edits (normalise file) :=
    fun file => indexes.uses (normalise file)
  have normal : ∀ user imports, recordedBy normalise edits user = some imports →
      normalise user = user :=
    fun _ _ => normal_of_recorded stable
  refine ⟨fun file => ⟨?_, ?_⟩, fun file => ⟨?_, indexes.ordered_usedBy, ?_⟩, ?_⟩
  · rw [uses, Option.isSome_iff_exists]
    simp only [recordedBy_eq_some_iff]
    constructor
    · rintro ⟨found, imports, last, -⟩
      exact ⟨imports, last⟩
    · rintro ⟨imports, last⟩
      exact ⟨_, imports, last, rfl⟩
  · intro imports last
    refine ⟨importsOf normalise (normalise file) imports, ?_, nodup_importsOf, ?_⟩
    · rw [uses, recordedBy_eq_some_iff]
      exact ⟨imports, last, rfl⟩
    · exact fun other => mem_importsOf
  · intro user
    rw [indexes.mem_usedBy_iff, uses]
    constructor
    · rintro ⟨imports, recorded, member⟩
      rw [normal user imports recorded]
      exact ⟨rfl, imports, recorded, member⟩
    · rintro ⟨same, imports, recorded, member⟩
      rw [same] at recorded
      exact ⟨imports, recorded, member⟩
  · intro spelled
    apply indexes.strict_usedBy
    intro left right leftKnown rightKnown same
    rcases Option.isSome_iff_exists.1 leftKnown with ⟨imports, recorded⟩
    rcases Option.isSome_iff_exists.1 rightKnown with ⟨others, recordedOther⟩
    have normalLeft := normal left imports recorded
    have normalRight := normal right others recordedOther
    have together := spelled left right
    rw [normalLeft, normalRight] at together
    exact together same
  · intro file users member
    have listed : ∀ user ∈ users, ∃ imports,
        recordedBy normalise edits user = some imports ∧ file ∈ imports :=
      fun user among => (indexes.users file user).1 ⟨users, member, among⟩
    refine ⟨filled (file, users) member, ?_, ?_⟩
    · intro own
      rcases listed file own with ⟨imports, recorded, among⟩
      rcases recordedBy_eq_some_iff.1 recorded with ⟨given, -, rfl⟩
      exact (mem_importsOf.1 among).2 rfl
    · intro user among
      rw [indexes.uses]
      exact listed user among

/-- A file is recorded again, with itself and with one import that is written in two ways. -/
def rerecorded : List Edit :=
  [.record ⟨"/D.es"⟩ [⟨"/B.es"⟩], .record ⟨"/A.es"⟩ [⟨"/B.es"⟩],
    .record ⟨"/./A.es"⟩ [⟨"/A.es"⟩, ⟨"/C.es"⟩, ⟨"/./C.es"⟩], .remove ⟨"/B.es"⟩]

theorem after_edits_rerecorded :
    let graph := after Disk.empty.normalise rerecorded
    (∀ path, Disk.empty.normalise (Disk.empty.normalise path) = Disk.empty.normalise path) ∧
      (∃ found, graph.uses? Disk.empty.normalise ⟨"/A.es"⟩ = some found ∧ found.Nodup ∧
        ∀ other, other ∈ found ↔ other = ⟨"/C.es"⟩) ∧
      ⟨"/A.es"⟩ ∈ graph.usedBy Disk.empty.normalise ⟨"/C.es"⟩ ∧
      ⟨"/A.es"⟩ ∉ graph.usedBy Disk.empty.normalise ⟨"/B.es"⟩ ∧
      (graph.usedBy Disk.empty.normalise ⟨"/B.es"⟩).Pairwise fun left right =>
        left.order right = .lt := by
  intro graph
  have linkless : Disk.empty.Linkless := Disk.linkless_of_entries nofun
  have stable := Disk.idempotent_of_linkless linkless nofun
  have fileA : Disk.empty.normalise ⟨"/A.es"⟩ = ⟨"/A.es"⟩ := by cbv
  have fileB : Disk.empty.normalise ⟨"/B.es"⟩ = ⟨"/B.es"⟩ := by cbv
  have fileC : Disk.empty.normalise ⟨"/C.es"⟩ = ⟨"/C.es"⟩ := by cbv
  have detourA : Disk.empty.normalise ⟨"/./A.es"⟩ = ⟨"/A.es"⟩ := by cbv
  have detourC : Disk.empty.normalise ⟨"/./C.es"⟩ = ⟨"/C.es"⟩ := by cbv
  have last : LastRecorded Disk.empty.normalise rerecorded (Disk.empty.normalise ⟨"/A.es"⟩)
      [⟨"/A.es"⟩, ⟨"/C.es"⟩, ⟨"/./C.es"⟩] := by
    refine ⟨rerecorded.take 2, _, [.remove ⟨"/B.es"⟩], rfl, detourA.trans fileA.symm, ?_⟩
    rintro edit (_ | ⟨_, ⟨⟩⟩)
    rw [Edit.Touches, fileA, fileB]
    decide
  rcases after_edits stable rerecorded with ⟨uses, users, -⟩
  rcases (uses ⟨"/A.es"⟩).2 _ last with ⟨found, held, once, members⟩
  have only : ∀ other, other ∈ found ↔ other = ⟨"/C.es"⟩ := by
    intro other
    rw [members, fileA, List.map_cons, List.map_cons, List.map_cons, List.map_nil, fileA, fileC,
      detourC]
    constructor
    · rintro ⟨_ | ⟨_, _ | ⟨_, _ | ⟨_, ⟨⟩⟩⟩⟩, different⟩
      · exact absurd rfl different
      · rfl
      · rfl
    · rintro rfl
      exact ⟨by decide, by decide⟩
  refine ⟨stable, ⟨found, held, once, only⟩, ?_, ?_, (users _).2.2 (Disk.spelled_normalise nofun)⟩
  · rw [(users ⟨"/C.es"⟩).1, fileC]
    exact ⟨fileA, found, held, (only _).2 rfl⟩
  · rw [(users ⟨"/B.es"⟩).1, fileB]
    rintro ⟨-, imports, recorded, member⟩
    rw [held] at recorded
    cases recorded
    exact absurd ((only _).1 member) (by decide)

end ModuleBridge.Graph
