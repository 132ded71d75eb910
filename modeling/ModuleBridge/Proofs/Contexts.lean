import ModuleBridge.Contexts
import ModuleBridge.Proofs.Graph
import Mathlib.Data.List.Induction
import Mathlib.Order.Nat

/-!
# The deepest directory above a path

Files are added to directories one after another, directories and files in their normal
form.  A directory then has the files that were added to it, each once and in the order of
their first additions.

A change of a path affects the files of one directory only: the deepest of those that lie
above the path or are the path.  All of these are prefixes of the same steps, so that no two
of them are equally deep, and it does not matter in which order they are looked at.
-/

namespace ModuleBridge.Contexts

variable {contexts : Contexts} {normalise : Path → Path} {folder other file path : Path}
  {files : List Path}

/-! ## Adding a file -/

/-- A file is listed under a directory. -/
def Lists (contexts : Contexts) (folder file : Path) : Prop :=
  ∃ files, contexts.folders.lookup folder = some files ∧ file ∈ files

theorem tracks_of_lists (lists : contexts.Lists folder file) : contexts.tracks folder = true := by
  rcases lists with ⟨files, found, -⟩
  rw [tracks, found]
  rfl

/-- The first addition lists a file at the end; another one changes nothing. -/
theorem lookup_insert_self (contexts : Contexts) (folder file : Path) :
    let files := (contexts.folders.lookup folder).getD []
    (contexts.insert folder file).folders.lookup folder =
      some (if file ∈ files then files else files ++ [file]) := by
  cases known : contexts.folders.lookup folder with
  | none => simp [insert, known, List.lookup_append]
  | some files =>
      by_cases listed : file ∈ files
      · simp [insert, known, listed]
      · simp [insert, known, listed, Entries.lookup_set_self]

/-- Adding a file to a directory lists it there and changes no other listing. -/
theorem lists_insert_iff (contexts : Contexts) (added user folder file : Path) :
    (contexts.insert added user).Lists folder file ↔
      contexts.Lists folder file ∨ (folder = added ∧ file = user) := by
  by_cases other : folder = added
  · subst other
    simp only [Lists, lookup_insert_self, true_and]
    cases contexts.folders.lookup folder with
    | none => simp
    | some files =>
        by_cases listed : user ∈ files
        · simp only [Option.getD_some, if_pos listed, Option.some.injEq, exists_eq_left']
          refine ⟨.inl, ?_⟩
          rintro (before | rfl)
          · exact before
          · exact listed
        · simp [listed]
  · rw [Lists, lookup_insert_of_ne other, Lists]
    simp [other]

theorem tracks_insert_iff (contexts : Contexts) (added user folder : Path) :
    (contexts.insert added user).tracks folder = true ↔
      contexts.tracks folder = true ∨ folder = added := by
  by_cases other : folder = added
  · subst other
    simp
  · rw [tracks, lookup_insert_of_ne other, tracks]
    simp [other]

/-! ## Directories apart -/

/-- No two directories have the same steps. -/
def Apart (contexts : Contexts) : Prop :=
  (contexts.folders.map fun entry => entry.1.components).Nodup

theorem Apart.nodup (apart : contexts.Apart) : (contexts.folders.map Prod.fst).Nodup := by
  apply List.Nodup.of_map Path.components
  rw [List.map_map]
  exact apart

/-- A directory that is added may have the steps of no other one. -/
theorem Apart.insert
    (apart : contexts.Apart)
    (spelled : ∀ entry ∈ contexts.folders, entry.1.components = folder.components →
      entry.1 = folder)
    (file : Path) :
    (contexts.insert folder file).Apart := by
  unfold Contexts.insert
  split
  · rename_i unknown
    rw [List.lookup_eq_none_iff] at unknown
    rw [Apart, List.map_append, List.map_singleton]
    refine apart.append (List.nodup_singleton _) ?_
    intro steps known added
    rcases List.mem_map.1 known with ⟨entry, member, rfl⟩
    have same := spelled entry member (List.mem_singleton.1 added)
    simpa [same] using unknown entry member
  · split
    · exact apart
    · have keys := congrArg (List.map Path.components) <|
        Graph.map_fst_set contexts.folders folder (‹List Path› ++ [file])
      rw [List.map_map, List.map_map] at keys
      exact (congrArg List.Nodup keys).mpr apart

/-! ## The deepest directory -/

/-- A directory lies above a path or is the path, and no deeper one does. -/
structure DeepestAbove
    (contexts : Contexts) (path : Path) (entry : Path × List Path) : Prop where
  member : entry ∈ contexts.folders
  above : entry.1.components <+: path.components
  deepest :
    ∀ other ∈ contexts.folders, other.1.components <+: path.components →
      other.1.components.length ≤ entry.1.components.length

theorem deeper_eq_or (first second : Path × List Path) :
    deeper first second = first ∨ deeper first second = second := by
  unfold deeper
  split
  · exact .inl rfl
  · exact .inr rfl

theorem length_le_deeper (first second : Path × List Path) :
    first.1.components.length ≤ (deeper first second).1.components.length ∧
      second.1.components.length ≤ (deeper first second).1.components.length := by
  unfold deeper
  split
  · rename_i less
    exact ⟨le_rfl, less.le⟩
  · rename_i notLess
    exact ⟨Nat.le_of_not_lt notLess, le_rfl⟩

/-- Looking at entries one after another, one keeps one of them than which none is deeper. -/
theorem foldl_deeper (first : Path × List Path) (rest : List (Path × List Path)) :
    rest.foldl deeper first ∈ first :: rest ∧
      ∀ entry ∈ first :: rest,
        entry.1.components.length ≤ (rest.foldl deeper first).1.components.length := by
  induction rest generalizing first with
  | nil => simp
  | cons second rest inductionHypothesis =>
      rw [List.foldl_cons]
      rcases inductionHypothesis (deeper first second) with ⟨member, bound⟩
      have kept := bound _ List.mem_cons_self
      have less := length_le_deeper first second
      constructor
      · rcases List.mem_cons.1 member with same | later
        · rcases deeper_eq_or first second with isFirst | isSecond
          · rw [same, isFirst]
            exact List.mem_cons_self
          · rw [same, isSecond]
            exact List.mem_cons_of_mem _ List.mem_cons_self
        · exact List.mem_cons_of_mem _ (List.mem_cons_of_mem _ later)
      · intro entry member
        rcases List.mem_cons.1 member with rfl | member
        · exact less.1.trans kept
        · rcases List.mem_cons.1 member with rfl | later
          · exact less.2.trans kept
          · exact bound entry (List.mem_cons_of_mem _ later)

theorem mem_above_iff {entry : Path × List Path} :
    entry ∈ contexts.folders.filter (fun entry => path.startsWith entry.1) ↔
      entry ∈ contexts.folders ∧ entry.1.components <+: path.components := by
  rw [List.mem_filter, Path.startsWith, List.isPrefixOf_iff_prefix]

/-- Nothing is affected where no directory lies above the path nor is the path. -/
theorem affected?_eq_none_iff :
    contexts.affected? normalise path = none ↔
      ∀ entry ∈ contexts.folders, ¬entry.1.components <+: (normalise path).components := by
  have nothing :
      contexts.affected? normalise path = none ↔
        (contexts.folders.filter fun entry => (normalise path).startsWith entry.1) = [] := by
    unfold affected?
    dsimp only
    split
    · rename_i none
      exact iff_of_true rfl none
    · rename_i some
      refine iff_of_false nofun ?_
      rw [some]
      exact List.cons_ne_nil _ _
  rw [nothing, List.eq_nil_iff_forall_not_mem]
  simp only [mem_above_iff, not_and]

theorem exists_deepestAbove (affects : contexts.affected? normalise path = some files) :
    ∃ folder, contexts.DeepestAbove (normalise path) (folder, files) := by
  unfold affected? at affects
  dsimp only at affects
  split at affects
  · cases affects
  · rename_i first rest above
    cases affects
    have each (entry : Path × List Path) :
        entry ∈ first :: rest ↔
          entry ∈ contexts.folders ∧ entry.1.components <+: (normalise path).components := by
      rw [← above]
      exact mem_above_iff
    rcases foldl_deeper first rest with ⟨member, bound⟩
    rcases (each _).1 member with ⟨listed, isAbove⟩
    refine ⟨(rest.foldl deeper first).1, listed, isAbove, ?_⟩
    intro other among alsoAbove
    exact bound other ((each other).2 ⟨among, alsoAbove⟩)

/-- Two directories above the same path are not equally deep. -/
theorem DeepestAbove.unique
    {entry another : Path × List Path} (apart : contexts.Apart)
    (first : contexts.DeepestAbove path entry) (second : contexts.DeepestAbove path another) :
    entry = another := by
  have depth : entry.1.components.length = another.1.components.length :=
    le_antisymm (second.deepest entry first.member first.above)
      (first.deepest another second.member second.above)
  have same : entry.1.components = another.1.components :=
    (List.prefix_of_prefix_length_le first.above second.above depth.le).eq_of_length depth
  exact List.inj_on_of_nodup_map apart first.member second.member same

/-- A change affects the files of the deepest directory above the path. -/
theorem affected?_eq_some_iff (apart : contexts.Apart) :
    contexts.affected? normalise path = some files ↔
      ∃ folder, contexts.DeepestAbove (normalise path) (folder, files) := by
  constructor
  · exact exists_deepestAbove
  · rintro ⟨folder, deepest⟩
    cases affects : contexts.affected? normalise path with
    | none => exact absurd deepest.above (affected?_eq_none_iff.1 affects _ deepest.member)
    | some found =>
        rcases exists_deepestAbove affects with ⟨same, found⟩
        exact congrArg (fun entry => some entry.2) (found.unique apart deepest)

/-- The order of the directories does not matter. -/
theorem affected?_perm
    {folders : List (Path × List Path)} (apart : contexts.Apart)
    (reordered : folders.Perm contexts.folders) :
    affected? normalise ⟨folders⟩ path = contexts.affected? normalise path := by
  have stillApart : Apart ⟨folders⟩ := (reordered.map _).nodup_iff.2 apart
  have same (entry : Path × List Path) :
      DeepestAbove ⟨folders⟩ (normalise path) entry ↔
        contexts.DeepestAbove (normalise path) entry := by
    have members (entry : Path × List Path) : entry ∈ folders ↔ entry ∈ contexts.folders :=
      reordered.mem_iff
    constructor
    · rintro ⟨member, above, deepest⟩
      exact ⟨(members _).1 member, above, fun other among => deepest other ((members _).2 among)⟩
    · rintro ⟨member, above, deepest⟩
      exact ⟨(members _).2 member, above, fun other among => deepest other ((members _).1 among)⟩
  ext files
  simp only [affected?_eq_some_iff apart, affected?_eq_some_iff stillApart, same]

/-! ## Additions one after another -/

/-- A file is added to a directory. -/
structure Addition where
  folder : Path
  file : Path
  deriving DecidableEq, Repr

variable {additions others : List Addition}

/-- The directories after an addition. -/
def added (normalise : Path → Path) (contexts : Contexts) (addition : Addition) : Contexts :=
  (contexts.add normalise addition.folder addition.file).1

/-- The directories after additions one after another. -/
def after (normalise : Path → Path) (contexts : Contexts) (additions : List Addition) : Contexts :=
  additions.foldl (added normalise) contexts

/-- Files were added to a directory. -/
def Reaches (normalise : Path → Path) (additions : List Addition) (folder : Path) : Prop :=
  ∃ addition ∈ additions, normalise addition.folder = folder

/-- The files that were added to a directory, in their normal form. -/
def addedTo (normalise : Path → Path) (additions : List Addition) (folder : Path) : List Path :=
  (additions.filter fun addition => normalise addition.folder = folder).map fun addition =>
    normalise addition.file

theorem after_append (additions others : List Addition) :
    after normalise contexts (additions ++ others) =
      after normalise (after normalise contexts additions) others :=
  List.foldl_append

theorem after_concat (additions : List Addition) (addition : Addition) :
    after normalise contexts (additions ++ [addition]) =
      (after normalise contexts additions).insert (normalise addition.folder)
        (normalise addition.file) := by
  rw [after, List.foldl_concat]
  rfl

theorem reaches_append_iff :
    Reaches normalise (additions ++ others) folder ↔
      Reaches normalise additions folder ∨ Reaches normalise others folder := by
  unfold Reaches
  simp only [List.mem_append, or_and_right, exists_or]

theorem reaches_singleton_iff {addition : Addition} :
    Reaches normalise [addition] folder ↔ normalise addition.folder = folder := by
  unfold Reaches
  simp only [List.mem_singleton, exists_eq_left]

theorem addedTo_eq_nil_iff :
    addedTo normalise additions folder = [] ↔ ¬Reaches normalise additions folder := by
  simp [addedTo, Reaches]

/-- The directories to which files were added are tracked. -/
theorem tracks_after_iff :
    (after normalise contexts additions).tracks folder = true ↔
      contexts.tracks folder = true ∨ Reaches normalise additions folder := by
  induction additions using List.reverseRecOn with
  | nil => simp [after, Reaches]
  | append_singleton additions addition inductionHypothesis =>
      rw [after_concat, tracks_insert_iff, inductionHypothesis, reaches_append_iff,
        reaches_singleton_iff, or_assoc, eq_comm (a := folder)]

/-- A directory lists the files that were added to it, each where it was added first. -/
theorem listed_after :
    ((after normalise empty additions).folders.lookup folder).getD [] =
      (addedTo normalise additions folder).eraseDups := by
  induction additions using List.reverseRecOn with
  | nil => rfl
  | append_singleton additions addition inductionHypothesis =>
      rw [after_concat]
      by_cases here : normalise addition.folder = folder
      · have last :
            addedTo normalise (additions ++ [addition]) folder =
              addedTo normalise additions folder ++ [normalise addition.file] := by
          simp [addedTo, here]
        rw [here, lookup_insert_self, Option.getD_some, inductionHypothesis, last,
          List.eraseDups_append]
        split
        · rename_i known
          rw [List.mem_eraseDups] at known
          simp [List.removeAll, known]
        · rename_i new
          rw [List.mem_eraseDups] at new
          simp [List.removeAll, new, List.eraseDups_cons]
      · have same :
            addedTo normalise (additions ++ [addition]) folder =
              addedTo normalise additions folder := by
          simp [addedTo, here]
        rw [lookup_insert_of_ne (Ne.symm here), inductionHypothesis, same]

theorem tracks_after_empty_iff :
    (after normalise empty additions).tracks folder = true ↔
      Reaches normalise additions folder :=
  tracks_after_iff.trans (or_iff_right Bool.false_ne_true)

/-- Adding tells whether nothing was added to the directory before. -/
theorem isNew_add_iff :
    ((after normalise empty additions).add normalise folder file).2 = true ↔
      ∀ addition ∈ additions, normalise addition.folder ≠ normalise folder := by
  rw [add, Bool.not_eq_true', Bool.eq_false_iff, Ne, tracks_after_empty_iff]
  simp only [Reaches, not_exists, not_and, ne_eq]

theorem lookup_after_iff :
    (after normalise empty additions).folders.lookup folder = some files ↔
      Reaches normalise additions folder ∧
        files = (addedTo normalise additions folder).eraseDups := by
  rw [← tracks_after_empty_iff, ← listed_after, tracks]
  cases (after normalise empty additions).folders.lookup folder with
  | none => simp
  | some found => simp [eq_comm]

/-! ## The deepest directory to which files were added -/

/-- Files were added to a directory that lies above a path or is the path. -/
def Above
    (normalise : Path → Path) (additions : List Addition) (path folder : Path) : Prop :=
  Reaches normalise additions folder ∧ folder.components <+: (normalise path).components

/-- Of the directories above a path to which files were added, every other one is less deep. -/
structure Deepest
    (normalise : Path → Path) (additions : List Addition) (path folder : Path) : Prop where
  above : Above normalise additions path folder
  shorter :
    ∀ other, Above normalise additions path other → other ≠ folder →
      other.components.length < folder.components.length

theorem reaches_of_mem
    {entry : Path × List Path} (member : entry ∈ (after normalise empty additions).folders) :
    Reaches normalise additions entry.1 := by
  have tracked : (after normalise empty additions).tracks entry.1 = true := by
    rw [tracks, Option.isSome_iff_ne_none]
    intro unknown
    rw [List.lookup_eq_none_iff] at unknown
    simpa using unknown entry member
  exact tracks_after_empty_iff.1 tracked

section

variable
  (spelled : ∀ left right : Path, (normalise left).components = (normalise right).components →
    normalise left = normalise right)

include spelled

theorem Reaches.eq_of_components
    (first : Reaches normalise additions folder) (second : Reaches normalise others other)
    (same : folder.components = other.components) : folder = other := by
  rcases first with ⟨addition, -, rfl⟩
  rcases second with ⟨another, -, rfl⟩
  exact spelled addition.folder another.folder same

/-- Of the directories above one path, no two are equally deep. -/
theorem Above.eq_of_length
    (first : Above normalise additions path folder) (second : Above normalise others path other)
    (depth : folder.components.length = other.components.length) :
    folder = other := by
  apply first.1.eq_of_components spelled second.1
  exact (List.prefix_of_prefix_length_le first.2 second.2 depth.le).eq_of_length depth

theorem apart_after (additions : List Addition) : (after normalise empty additions).Apart := by
  induction additions using List.reverseRecOn with
  | nil => exact List.nodup_nil
  | append_singleton additions addition inductionHypothesis =>
      rw [after_concat]
      refine inductionHypothesis.insert ?_ _
      intro entry member same
      have reaches : Reaches normalise [addition] (normalise addition.folder) :=
        reaches_singleton_iff.2 rfl
      exact (reaches_of_mem member).eq_of_components spelled reaches same

theorem mem_after_iff :
    (folder, files) ∈ (after normalise empty additions).folders ↔
      Reaches normalise additions folder ∧
        files = (addedTo normalise additions folder).eraseDups := by
  rw [← Entries.lookup_eq_some_iff (apart_after spelled additions).nodup, lookup_after_iff]

theorem deepestAbove_after_iff :
    (after normalise empty additions).DeepestAbove (normalise path) (folder, files) ↔
      Deepest normalise additions path folder ∧
        files = (addedTo normalise additions folder).eraseDups := by
  constructor
  · rintro ⟨member, above, deepest⟩
    rcases (mem_after_iff spelled).1 member with ⟨reaches, listed⟩
    refine ⟨⟨⟨reaches, above⟩, ?_⟩, listed⟩
    intro other otherAbove different
    have known := (mem_after_iff spelled).2 ⟨otherAbove.1, rfl⟩
    refine lt_of_le_of_ne (deepest _ known otherAbove.2) ?_
    intro depth
    exact different (otherAbove.eq_of_length spelled ⟨reaches, above⟩ depth)
  · rintro ⟨⟨⟨reaches, above⟩, shorter⟩, listed⟩
    refine ⟨(mem_after_iff spelled).2 ⟨reaches, listed⟩, above, ?_⟩
    intro other among otherAbove
    by_cases same : other.1 = folder
    · exact (congrArg (fun each : Path => each.components.length) same).le
    · exact (shorter other.1 ⟨reaches_of_mem among, otherAbove⟩ same).le

/-- A change affects the files that were added to the deepest directory above the path. -/
theorem affected?_after_eq_some_iff :
    (after normalise empty additions).affected? normalise path = some files ↔
      ∃ folder, Deepest normalise additions path folder ∧
        files = (addedTo normalise additions folder).eraseDups := by
  rw [affected?_eq_some_iff (apart_after spelled additions)]
  simp only [deepestAbove_after_iff spelled]

/-- Nothing is affected where files were added to no directory above the path. -/
theorem affected?_after_eq_none_iff :
    (after normalise empty additions).affected? normalise path = none ↔
      ∀ folder, ¬Above normalise additions path folder := by
  rw [affected?_eq_none_iff]
  constructor
  · rintro none folder ⟨reaches, above⟩
    exact none _ ((mem_after_iff spelled).2 ⟨reaches, rfl⟩) above
  · intro none entry member above
    exact none entry.1 ⟨reaches_of_mem member, above⟩

/-- Additions elsewhere do not matter, unless they are to a deeper directory above the path. -/
theorem affected?_after_of_addedTo
    (deepest : Deepest normalise additions path folder)
    (same : addedTo normalise others folder = addedTo normalise additions folder)
    (noDeeper :
      ∀ other, Above normalise others path other → other ≠ folder →
        ¬folder.components.length < other.components.length) :
    (after normalise empty others).affected? normalise path =
      (after normalise empty additions).affected? normalise path := by
  have reaches : Reaches normalise others folder := by
    have some := mt addedTo_eq_nil_iff.1 (not_not_intro deepest.above.1)
    rw [← same] at some
    exact not_not.1 (mt addedTo_eq_nil_iff.2 some)
  have above : Above normalise others path folder := ⟨reaches, deepest.above.2⟩
  have stillDeepest : Deepest normalise others path folder := by
    refine ⟨above, ?_⟩
    intro other otherAbove different
    refine lt_of_le_of_ne (not_lt.1 (noDeeper other otherAbove different)) ?_
    intro depth
    exact different (otherAbove.eq_of_length spelled above depth)
  have found := (affected?_after_eq_some_iff spelled).2 ⟨folder, deepest, rfl⟩
  have alsoFound := (affected?_after_eq_some_iff spelled).2 ⟨folder, stillDeepest, rfl⟩
  rw [found, alsoFound, same]

end

end ModuleBridge.Contexts
