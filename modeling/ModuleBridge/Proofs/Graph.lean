import ModuleBridge.Graph
import ModuleBridge.Proofs.Path
import Mathlib.Data.List.Nodup
import Mathlib.Logic.Function.Basic

/-!
# The index of the importers

A graph keeps every import twice, under the file that imports and under the one that is
imported.  Whatever is recorded or forgotten, the second listing stays an index of the
first: it holds for every file, each of them once, the files that were last recorded with
an import of it.
-/

namespace ModuleBridge.Graph

/-- A listing of the users of files: a file is listed once, and so is each of its users. -/
structure Tidy (users : List (Path × List Path)) : Prop where
  files : (users.map Prod.fst).Nodup
  users : ∀ entry ∈ users, entry.2.Nodup

/-- A user is listed for a file. -/
def Listed (users : List (Path × List Path)) (file user : Path) : Prop :=
  ∃ known, (file, known) ∈ users ∧ user ∈ known

variable {users : List (Path × List Path)} {file other user known : Path} {imports : List Path}

theorem mem_importsOf {normalise : Path → Path} :
    file ∈ importsOf normalise user imports ↔ file ∈ imports.map normalise ∧ file ≠ user := by
  rw [importsOf, List.mem_eraseDups, List.mem_filter, bne_iff_ne]

theorem nodup_eraseDups (files : List Path) : files.eraseDups.Nodup := by
  match files with
  | [] => exact List.nodup_nil
  | file :: rest =>
      rw [List.eraseDups_cons, List.nodup_cons]
      refine ⟨?_, nodup_eraseDups _⟩
      rw [List.mem_eraseDups, List.mem_filter]
      simp
termination_by files.length
decreasing_by exact Nat.lt_succ_of_le (List.length_filter_le _ _)

theorem nodup_importsOf {normalise : Path → Path} :
    (importsOf normalise user imports).Nodup :=
  nodup_eraseDups _

theorem Tidy.lookup_eq_some_iff (tidy : Tidy users) {known : List Path} :
    users.lookup file = some known ↔ (file, known) ∈ users :=
  Entries.lookup_eq_some_iff tidy.files

theorem Tidy.mem_lookup_iff (tidy : Tidy users) :
    user ∈ (users.lookup file).getD [] ↔ Listed users file user := by
  cases found : users.lookup file with
  | none =>
      rw [List.lookup_eq_none_iff] at found
      constructor
      · intro member
        cases member
      · rintro ⟨known, member, -⟩
        simpa using found (file, known) member
  | some known =>
      constructor
      · exact fun member => ⟨known, tidy.lookup_eq_some_iff.1 found, member⟩
      · rintro ⟨other, member, listed⟩
        rw [tidy.lookup_eq_some_iff.2 member] at found
        rcases Option.some.inj found with rfl
        exact listed

theorem Tidy.nodup_lookup (tidy : Tidy users) : ((users.lookup file).getD []).Nodup := by
  cases found : users.lookup file with
  | none => exact List.nodup_nil
  | some known => exact tidy.users (file, known) (tidy.lookup_eq_some_iff.1 found)

/-! ## Taking a user away -/

theorem mem_dropUser_iff {left : List Path} :
    (file, left) ∈ dropUser users other user ↔
      ∃ listed, (file, listed) ∈ users ∧
        if file = other then left = listed.filter (fun known => known != user) ∧ left ≠ []
        else left = listed := by
  rw [dropUser, List.mem_filterMap]
  constructor
  · rintro ⟨⟨first, listed⟩, member, kept⟩
    dsimp only at kept
    by_cases same : first = other
    · subst same
      rw [if_pos (beq_self_eq_true first)] at kept
      split at kept
      · cases kept
      · rename_i something
        cases kept
        rw [List.isEmpty_iff] at something
        exact ⟨listed, member, by rw [if_pos rfl]; exact ⟨rfl, something⟩⟩
    · rw [if_neg (by simpa using same)] at kept
      cases kept
      exact ⟨_, member, by rw [if_neg same]⟩
  · rintro ⟨listed, member, rest⟩
    refine ⟨(file, listed), member, ?_⟩
    by_cases same : file = other
    · subst same
      rw [if_pos rfl] at rest
      rcases rest with ⟨rfl, something⟩
      simpa using something
    · rw [if_neg same] at rest
      simp [same, rest]

theorem sublist_dropUser :
    ((dropUser users file user).map Prod.fst).Sublist (users.map Prod.fst) := by
  induction users with
  | nil => exact .slnil
  | cons entry rest inductionHypothesis =>
      rcases entry with ⟨first, listed⟩
      unfold dropUser at inductionHypothesis ⊢
      rw [List.filterMap_cons, List.map_cons]
      split
      · exact inductionHypothesis.cons first
      · rename_i left kept
        have same : left.1 = first := by
          dsimp only at kept
          split at kept
          · rename_i here
            rw [beq_iff_eq] at here
            split at kept
            · cases kept
            · cases kept
              exact here.symm
          · cases kept
            rfl
        rw [List.map_cons, same]
        exact inductionHypothesis.cons_cons first

theorem Tidy.dropUser (tidy : Tidy users) (file user : Path) :
    Tidy (dropUser users file user) := by
  refine ⟨sublist_dropUser.nodup tidy.files, ?_⟩
  rintro ⟨other, left⟩ member
  rcases mem_dropUser_iff.1 member with ⟨listed, known, rest⟩
  have once : listed.Nodup := tidy.users (other, listed) known
  split at rest
  · rw [rest.1]
    exact once.filter _
  · rwa [rest]

theorem listed_dropUser :
    Listed (dropUser users other user) file known ↔
      Listed users file known ∧ ¬(file = other ∧ known = user) := by
  constructor
  · rintro ⟨left, member, stays⟩
    rcases mem_dropUser_iff.1 member with ⟨listed, member, rest⟩
    split at rest
    · rw [rest.1, List.mem_filter] at stays
      refine ⟨⟨listed, member, stays.1⟩, ?_⟩
      rintro ⟨-, rfl⟩
      simp at stays
    · rename_i different
      rw [rest] at stays
      exact ⟨⟨listed, member, stays⟩, fun same => different same.1⟩
  · rintro ⟨⟨listed, member, stays⟩, apart⟩
    by_cases same : file = other
    · have left : known ∈ listed.filter fun each => each != user := by
        rw [List.mem_filter]
        exact ⟨stays, bne_iff_ne.2 fun gone => apart ⟨same, gone⟩⟩
      refine ⟨_, mem_dropUser_iff.2 ⟨listed, member, ?_⟩, left⟩
      rw [if_pos same]
      exact ⟨rfl, List.ne_nil_of_mem left⟩
    · refine ⟨listed, mem_dropUser_iff.2 ⟨listed, member, ?_⟩, stays⟩
      rw [if_neg same]

theorem Tidy.dropAll (tidy : Tidy users) (imports : List Path) (user : Path) :
    Tidy (imports.foldl (fun users file => Graph.dropUser users file user) users) := by
  induction imports generalizing users with
  | nil => exact tidy
  | cons file rest inductionHypothesis => exact inductionHypothesis (tidy.dropUser file user)

theorem listed_dropAll :
    Listed (imports.foldl (fun users file => dropUser users file user) users) file known ↔
      Listed users file known ∧ ¬(file ∈ imports ∧ known = user) := by
  induction imports generalizing users with
  | nil => simp
  | cons first rest inductionHypothesis =>
      rw [List.foldl_cons, inductionHypothesis, listed_dropUser, List.mem_cons, or_and_right,
        not_or, and_assoc]

/-! ## Adding a user -/

theorem map_fst_set (users : List (Path × List Path)) (file : Path) (listed : List Path) :
    (Entries.set users file listed).map Prod.fst = users.map Prod.fst := by
  rw [Entries.set, List.map_map]
  refine List.map_congr_left ?_
  intro entry _
  by_cases same : entry.1 = file <;> simp [same]

theorem lookup_addUser_self (users : List (Path × List Path)) (file user : Path) :
    (addUser users file user).lookup file =
      some (((users.lookup file).getD []).concat user) ∧
        user ∉ (users.lookup file).getD [] ∨
      addUser users file user = users ∧ user ∈ (users.lookup file).getD [] := by
  unfold addUser
  cases found : users.lookup file with
  | none =>
      left
      simp [List.lookup_append, found]
  | some known =>
      by_cases listed : user ∈ known
      · right
        simp [listed]
      · left
        simp [listed, Entries.lookup_set_self, found]

theorem lookup_addUser_of_ne (different : file ≠ other) :
    (addUser users other user).lookup file = users.lookup file := by
  have apart : (file == other) = false := by simpa using different
  unfold addUser
  split
  · simp [List.lookup_append, List.lookup_cons, apart]
  · split
    · rfl
    · exact Entries.lookup_set_of_ne different _ _

theorem Tidy.addUser (tidy : Tidy users) (file user : Path) :
    Tidy (addUser users file user) := by
  unfold Graph.addUser
  split
  · rename_i unknown
    rw [List.lookup_eq_none_iff] at unknown
    constructor
    · rw [List.map_append, List.map_singleton, List.nodup_append]
      refine ⟨tidy.files, List.nodup_singleton file, ?_⟩
      intro other member last here same
      rcases List.mem_map.1 member with ⟨entry, listed, rfl⟩
      rw [List.mem_singleton.1 here] at same
      exact absurd same.symm (bne_iff_ne.1 (unknown entry listed))
    · intro entry member
      rcases List.mem_append.1 member with old | new
      · exact tidy.users entry old
      · rcases List.mem_singleton.1 new with rfl
        exact List.nodup_singleton user
  · rename_i known found
    split
    · exact tidy
    · rename_i unlisted
      have once := tidy.users (file, known) (tidy.lookup_eq_some_iff.1 found)
      constructor
      · rw [map_fst_set]
        exact tidy.files
      · intro entry member
        rcases List.mem_map.1 member with ⟨old, listed, rfl⟩
        split
        · rw [← List.concat_eq_append]
          exact once.concat (by simpa using unlisted)
        · exact tidy.users old listed

theorem listed_addUser (tidy : Tidy users) :
    Listed (addUser users other user) file known ↔
      Listed users file known ∨ file = other ∧ known = user := by
  rw [← tidy.mem_lookup_iff, ← (tidy.addUser other user).mem_lookup_iff]
  by_cases same : file = other
  · subst same
    rcases lookup_addUser_self users file user with
      ⟨added, -⟩ | ⟨known, listed⟩
    · simp [added]
    · rw [known]
      constructor
      · exact .inl
      · rintro (listed | ⟨-, rfl⟩)
        · assumption
        · assumption
  · rw [lookup_addUser_of_ne same]
    simp [same]

theorem Tidy.addAll (tidy : Tidy users) (imports : List Path) (user : Path) :
    Tidy (imports.foldl (fun users file => Graph.addUser users file user) users) := by
  induction imports generalizing users with
  | nil => exact tidy
  | cons file rest inductionHypothesis => exact inductionHypothesis (tidy.addUser file user)

theorem listed_addAll (tidy : Tidy users) :
    Listed (imports.foldl (fun users file => addUser users file user) users) file known ↔
      Listed users file known ∨ file ∈ imports ∧ known = user := by
  induction imports generalizing users with
  | nil => simp
  | cons first rest inductionHypothesis =>
      rw [List.foldl_cons, inductionHypothesis (tidy.addUser first user), listed_addUser tidy,
        List.mem_cons, or_and_right, or_assoc]

/-! ## The index -/

/-- The graph holds what was recorded for each file, and an index of it. -/
structure Indexes (graph : Graph) (recorded : Path → Option (List Path)) : Prop where
  uses : ∀ file, graph.uses.lookup file = recorded file
  tidy : Tidy graph.users
  users : ∀ file user,
    Listed graph.users file user ↔ ∃ imports, recorded user = some imports ∧ file ∈ imports

namespace Indexes

variable {graph : Graph} {recorded : Path → Option (List Path)}

theorem empty : Graph.empty.Indexes fun _ => none := by
  refine ⟨fun _ => rfl, ⟨List.nodup_nil, nofun⟩, ?_⟩
  simp [Graph.empty, Listed]

theorem forget (indexes : graph.Indexes recorded) (file : Path) :
    (graph.forget file).Indexes (Function.update recorded file none) := by
  unfold Graph.forget
  split
  · rename_i unknown
    rw [indexes.uses] at unknown
    rwa [← unknown, Function.update_eq_self]
  · rename_i imports known
    rw [indexes.uses] at known
    refine ⟨?_, indexes.tidy.dropAll imports file, ?_⟩
    · intro other
      by_cases same : other = file
      · subst same
        rw [Function.update_self, Entries.lookup_without_self]
      · rw [Function.update_of_ne same, Entries.lookup_without_of_ne same, indexes.uses]
    · intro other user
      rw [listed_dropAll, indexes.users]
      by_cases same : user = file
      · subst same
        simp [known]
      · simp [same]

/-- What is recorded for a file takes the place of what was recorded before. -/
theorem record (indexes : graph.Indexes recorded) (normalise : Path → Path) (file : Path)
    (imports : List Path) :
    (graph.record normalise file imports).Indexes
      (Function.update recorded (normalise file)
        (some (importsOf normalise (normalise file) imports))) := by
  have forgotten := indexes.forget (normalise file)
  unfold Graph.record
  refine ⟨?_, forgotten.tidy.addAll _ _, ?_⟩
  · intro other
    rw [List.lookup_cons]
    by_cases same : other = normalise file
    · subst same
      rw [beq_self_eq_true, Function.update_self]
    · have apart : (other == normalise file) = false := by simpa using same
      rw [apart, Function.update_of_ne same, forgotten.uses, Function.update_of_ne same]
  · intro other user
    rw [listed_addAll forgotten.tidy, forgotten.users]
    by_cases same : user = normalise file
    · subst same
      simp
    · simp [same]

/-! ## The users of a file -/

variable {normalise : Path → Path}

theorem mem_usedBy_iff (indexes : graph.Indexes recorded) :
    user ∈ graph.usedBy normalise file ↔
      ∃ imports, recorded user = some imports ∧ normalise file ∈ imports := by
  rw [usedBy, (List.mergeSort_perm _ _).mem_iff, indexes.tidy.mem_lookup_iff, indexes.users]

/-- Imports are recorded for the users. -/
theorem isSome_of_mem_usedBy
    (indexes : graph.Indexes recorded) (member : user ∈ graph.usedBy normalise file) :
    (recorded user).isSome := by
  rcases indexes.mem_usedBy_iff.1 member with ⟨imports, known, -⟩
  rw [known]
  rfl

/-- The users come in the order of their paths, each of them once. -/
theorem ordered_usedBy (indexes : graph.Indexes recorded) :
    (graph.usedBy normalise file).Pairwise fun left right =>
      left.le right = true ∧ left ≠ right := by
  have transitive : ∀ left middle right : Path, left.le middle → middle.le right → left.le right :=
    fun _ _ _ => Path.le_trans
  have sorted : (graph.usedBy normalise file).Pairwise fun left right => left.le right = true := by
    rw [usedBy]
    exact List.pairwise_mergeSort transitive Path.le_total _
  have once : (graph.usedBy normalise file).Nodup :=
    (List.mergeSort_perm _ _).nodup_iff.2 indexes.tidy.nodup_lookup
  exact sorted.and once

/-- Where users with the same steps are one, the order is strict. -/
theorem strict_usedBy
    (indexes : graph.Indexes recorded)
    (spelled : ∀ left right, (recorded left).isSome → (recorded right).isSome →
      left.components = right.components → left = right) :
    (graph.usedBy normalise file).Pairwise fun left right => left.order right = .lt := by
  refine indexes.ordered_usedBy.imp_of_mem ?_
  rintro left right leftUser rightUser ⟨ordered, different⟩
  rw [Path.le] at ordered
  cases compared : left.order right with
  | lt => rfl
  | eq =>
      have same := Path.components_of_order compared
      exact absurd (spelled left right (indexes.isSome_of_mem_usedBy leftUser)
        (indexes.isSome_of_mem_usedBy rightUser) same) different
  | gt =>
      rw [compared] at ordered
      cases ordered

/-- Plain users with the same steps are one. -/
theorem spelled_of_plain
    (plain : ∀ user imports, recorded user = some imports → user.IsPlain)
    (left right : Path) (leftKnown : (recorded left).isSome)
    (rightKnown : (recorded right).isSome) (same : left.components = right.components) :
    left = right := by
  rcases Option.isSome_iff_exists.1 leftKnown with ⟨imports, known⟩
  rcases Option.isSome_iff_exists.1 rightKnown with ⟨others, knownOther⟩
  exact (plain left imports known).eq_of_components (plain right others knownOther) same

theorem increasing_usedBy
    (indexes : graph.Indexes recorded)
    (plain : ∀ user imports, recorded user = some imports → user.IsPlain) :
    (graph.usedBy normalise file).Pairwise fun left right => left.order right = .lt :=
  indexes.strict_usedBy (spelled_of_plain plain)

/-- Indexes of the same imports list the same users, where users with the same steps are one. -/
theorem usedBy_eq
    {other : Graph} (indexes : graph.Indexes recorded) (same : other.Indexes recorded)
    (spelled : ∀ left right, (recorded left).isSome → (recorded right).isSome →
      left.components = right.components → left = right) :
    other.usedBy normalise file = graph.usedBy normalise file := by
  have members : ∀ user,
      user ∈ other.usedBy normalise file ↔ user ∈ graph.usedBy normalise file := by
    intro user
    rw [same.mem_usedBy_iff, indexes.mem_usedBy_iff]
  have once : ∀ {graph : Graph}, graph.Indexes recorded →
      (graph.usedBy normalise file).Nodup :=
    fun indexes => indexes.ordered_usedBy.imp And.right
  have perm : (other.usedBy normalise file).Perm (graph.usedBy normalise file) :=
    (List.perm_ext_iff_of_nodup (once same) (once indexes)).2 members
  refine perm.eq_of_pairwise ?_ (same.ordered_usedBy.imp And.left)
    (indexes.ordered_usedBy.imp And.left)
  intro left right leftUser rightUser before behind
  exact spelled left right (same.isSome_of_mem_usedBy leftUser)
    (indexes.isSome_of_mem_usedBy rightUser) (Path.components_of_le before behind)

end Indexes

end ModuleBridge.Graph
