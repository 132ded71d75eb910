import ModuleBridge.Debouncer
import ModuleBridge.Proofs.Disk
import Mathlib.Data.List.DropRight
import Mathlib.Data.List.Nodup

/-!
# Windows of changes

A debouncer takes in changes until a batch is ready.  Of the changes of one file the batch
reports a single one: the first since the file was last removed.  So a file that changed
and is there in the end is in the batch, but when it was removed in between it is most
often the creation that is reported, whatever was modified later.
-/

namespace ModuleBridge

namespace Debouncer

variable {path : Path} {kind : ChangeKind} {kinds : List ChangeKind}
  {changes : List (Path × ChangeKind)} {debouncer later : Debouncer}
  {batch : List (Path × ChangeKind)} {now : Nat}

/-! ## Changes of one file -/

/-- What is pending for a file after a further change. -/
def merged (pending? : Option ChangeKind) (kind : ChangeKind) : Option ChangeKind :=
  (merge? pending? kind).getD pending?

/-- The changes since the file was last removed. -/
def sinceRemoval (kinds : List ChangeKind) : List ChangeKind :=
  kinds.rtakeWhile (· ≠ .removed)

theorem sinceRemoval_removed (kinds : List ChangeKind) :
    sinceRemoval (kinds ++ [.removed]) = [] :=
  List.rtakeWhile_concat_neg _ _ _ (by decide)

theorem sinceRemoval_concat (other : kind ≠ .removed) (kinds : List ChangeKind) :
    sinceRemoval (kinds ++ [kind]) = sinceRemoval kinds ++ [kind] :=
  List.rtakeWhile_concat_pos _ _ _ (by simpa using other)

theorem ne_removed_of_mem (member : kind ∈ sinceRemoval kinds) : kind ≠ .removed := by
  simpa using List.mem_rtakeWhile_imp member

/-- What is pending is the first change since the last removal, or else that removal at most. -/
theorem foldl_merged (kinds : List ChangeKind) :
    kinds.foldl merged none = (sinceRemoval kinds).head? ∨
      sinceRemoval kinds = [] ∧ kinds.foldl merged none = some .removed := by
  induction kinds using List.reverseRecOn with
  | nil => exact .inl rfl
  | append_singleton kinds kind inductionHypothesis =>
      rw [List.foldl_concat]
      -- A removal cuts off what came before it; any other change adds nothing to the first.
      by_cases removed : kind = .removed
      · subst removed
        rw [sinceRemoval_removed]
        generalize kinds.foldl merged none = pending?
        rcases pending? with none | _ | _ | _
        · exact .inr ⟨rfl, rfl⟩
        · exact .inl rfl
        · exact .inr ⟨rfl, rfl⟩
        · exact .inr ⟨rfl, rfl⟩
      · refine .inl ?_
        rw [sinceRemoval_concat removed]
        rcases inductionHypothesis with first | ⟨nothing, pending⟩
        · rw [first]
          cases since : sinceRemoval kinds with
          | nil => rfl
          | cons head rest =>
              have counts : head ≠ .removed := ne_removed_of_mem (since ▸ List.mem_cons_self)
              cases head <;> cases kind <;> first | rfl | contradiction
        · rw [nothing, pending]
          cases kind <;> rfl

/--
The changes are those of a file that was there or was not, and is there now or is not: it is
created only while it is not there, and removed only while it is.
-/
inductive Consistent (before : Bool) : List ChangeKind → Bool → Prop
  | start : Consistent before [] before
  | created {kinds : List ChangeKind} (earlier : Consistent before kinds false) :
      Consistent before (kinds ++ [.created]) true
  | removed {kinds : List ChangeKind} (earlier : Consistent before kinds true) :
      Consistent before (kinds ++ [.removed]) false
  | modified {kinds : List ChangeKind} {there : Bool} (earlier : Consistent before kinds there) :
      Consistent before (kinds ++ [.modified]) there

/-- A file that is there in the end was not removed last. -/
theorem Consistent.since_ne_nil {before : Bool} (consistent : Consistent before kinds true)
    (changed : kinds ≠ []) : sinceRemoval kinds ≠ [] := by
  cases consistent with
  | start => exact absurd rfl changed
  | created earlier =>
      rw [sinceRemoval_concat (by decide)]
      exact List.concat_ne_nil _ _
  | modified earlier =>
      rw [sinceRemoval_concat (by decide)]
      exact List.concat_ne_nil _ _

/-- A file that changed and is there in the end is pending, as created or as modified. -/
theorem Consistent.pending {before : Bool} (consistent : Consistent before kinds true)
    (changed : kinds ≠ []) :
    kinds.foldl merged none = some .created ∨ kinds.foldl merged none = some .modified := by
  rcases foldl_merged kinds with first | ⟨nothing, -⟩
  · cases since : sinceRemoval kinds with
    | nil => exact absurd since (consistent.since_ne_nil changed)
    | cons head rest =>
        have counts : head ≠ .removed := ne_removed_of_mem (since ▸ List.mem_cons_self)
        rw [first, since]
        cases head with
        | created => exact .inl rfl
        | modified => exact .inr rfl
        | removed => exact absurd rfl counts
  · exact absurd nothing (consistent.since_ne_nil changed)

/-- The changes that an event tells of, under normal forms, but for artifacts of editors. -/
def accepted (normalise : Path → Path) (event : FileEvent) (paths : List Path) :
    List (Path × ChangeKind) :=
  match event.change? with
  | none => []
  | some kind =>
    (paths.filter fun path => !isArtifact path).map fun path => (normalise path, kind)

/--
A debouncer with nothing pending has taken in changes since, while no batch was ready.
Every event comes with the disk of its time.
-/
inductive Collects : List (Path × ChangeKind) → Debouncer → Prop
  | start (debouncer : Debouncer) (empty : debouncer.pending = []) : Collects [] debouncer
  | event {changes : List (Path × ChangeKind)} {debouncer : Debouncer}
      (earlier : Collects changes debouncer) (disk : Disk) (now : Nat) (event : FileEvent)
      {paths : List Path} (absolute : ∀ path ∈ paths, path.isAbsolute = true) :
      Collects (changes ++ accepted disk.normalise event paths)
        (debouncer.push disk.normalise now event paths)
  | waited {changes : List (Path × ChangeKind)} {debouncer later : Debouncer}
      (earlier : Collects changes debouncer) (now : Nat)
      (unready : debouncer.flush now = (later, none)) : Collects changes later

/-- The kinds of the changes of one file. -/
def kindsOf (path : Path) (changes : List (Path × ChangeKind)) : List ChangeKind :=
  (changes.filter fun change => change.1 = path).map Prod.snd

/-- The pending changes are those that are left of the changes of each file. -/
structure Gathers (changes : List (Path × ChangeKind)) (debouncer : Debouncer) : Prop where
  pending : ∀ path, debouncer.pending? path = (kindsOf path changes).foldl merged none
  nodup : (debouncer.pending.map Prod.fst).Nodup

@[simp]
theorem kindsOf_append (path : Path) (changes others : List (Path × ChangeKind)) :
    kindsOf path (changes ++ others) = kindsOf path changes ++ kindsOf path others := by
  simp [kindsOf]

theorem nodup_put {debouncer : Debouncer} (nodup : (debouncer.pending.map Prod.fst).Nodup)
    (path : Path) (kind? : Option ChangeKind) :
    ((debouncer.put path kind?).pending.map Prod.fst).Nodup := by
  have others : ((Entries.without debouncer.pending path).map Prod.fst).Nodup :=
    nodup.sublist (List.filter_sublist.map Prod.fst)
  cases kind? with
  | none => simpa [put] using others
  | some kind =>
      have apart : path ∉ (Entries.without debouncer.pending path).map Prod.fst := by
        simp [Entries.without]
      rw [put, List.map_append]
      exact List.concat_eq_append ▸ others.concat apart

/-- Where nothing is pending and nothing came in, the two agree. -/
theorem gathers_of_empty (empty : debouncer.pending = []) : Gathers [] debouncer where
  pending := by
    intro path
    rw [pending?, empty]
    rfl
  nodup := by simp [empty]

/-- Only what is pending counts. -/
theorem Gathers.of_pending
    (gathers : Gathers changes debouncer) (same : later.pending = debouncer.pending) :
    Gathers changes later where
  pending := by
    intro path
    rw [pending?, same]
    exact gathers.pending path
  nodup := same ▸ gathers.nodup

theorem Gathers.record (gathers : Gathers changes debouncer) (normalise : Path → Path)
    (now : Nat) {path : Path} (kind : ChangeKind) (counts : isArtifact path = false) :
    Gathers (changes ++ [(normalise path, kind)]) (debouncer.record normalise now path kind) := by
  have pendings : ∀ other,
      (kindsOf other (changes ++ [(normalise path, kind)])).foldl merged none =
        if other = normalise path then
          merged (debouncer.pending? (normalise path)) kind
        else debouncer.pending? other := by
    intro other
    rw [kindsOf_append, List.foldl_append, ← gathers.pending]
    by_cases here : other = normalise path
    · subst here
      simp [kindsOf]
    · simp [kindsOf, here, Ne.symm here]
  unfold Debouncer.record
  rw [if_neg (by simp [counts])]
  dsimp only
  split
  · rename_i kind? adds
    refine ⟨?_, nodup_put gathers.nodup _ _⟩
    intro other
    change (debouncer.put (normalise path) kind?).pending? other = _
    rw [pendings other, merged, adds]
    by_cases here : other = normalise path
    · rw [if_pos here, here, pending?_put_self]
      rfl
    · rw [if_neg here, pending?_put_of_ne here]
  · rename_i adds
    refine ⟨?_, gathers.nodup⟩
    intro other
    rw [pendings other, merged, adds]
    by_cases here : other = normalise path
    · rw [if_pos here, here]
      rfl
    · rw [if_neg here]

theorem Gathers.push (gathers : Gathers changes debouncer) (normalise : Path → Path)
    (now : Nat) (event : FileEvent) (paths : List Path) :
    Gathers (changes ++ accepted normalise event paths)
      (debouncer.push normalise now event paths) := by
  unfold Debouncer.push accepted
  cases event.change? with
  | none => rwa [List.append_nil]
  | some kind =>
      dsimp only
      induction paths generalizing changes debouncer with
      | nil => rwa [List.filter_nil, List.map_nil, List.append_nil]
      | cons path rest inductionHypothesis =>
          rw [List.foldl_cons]
          cases artifact : isArtifact path with
          | true =>
              have ignored : debouncer.record normalise now path kind = debouncer :=
                if_pos artifact
              rw [ignored, List.filter_cons_of_neg (by simp [artifact])]
              exact inductionHypothesis gathers
          | false =>
              rw [List.filter_cons_of_pos (by simp [artifact]), List.map_cons,
                List.append_cons]
              exact inductionHypothesis (gathers.record normalise now kind artifact)

/-- A flush without a batch leaves what is pending. -/
theorem pending_of_unready (unready : debouncer.flush now = (later, none)) :
    later.pending = debouncer.pending := by
  unfold flush at unready
  split at unready
  · cases unready
    rfl
  · split at unready
    · cases unready
    · cases unready
      rfl

theorem gathers_of_collects (collects : Collects changes debouncer) :
    Gathers changes debouncer := by
  induction collects with
  | start debouncer empty => exact gathers_of_empty empty
  | event earlier disk now event absolute gathers => exact gathers.push disk.normalise now event _
  | waited earlier now unready gathers => exact gathers.of_pending (pending_of_unready unready)

/-- A batch reports of a file what is left of its changes. -/
theorem Gathers.mem_batch_iff
    (gathers : Gathers changes debouncer) (flushed : debouncer.flush now = (later, some batch)) :
    (path, kind) ∈ batch ↔ (kindsOf path changes).foldl merged none = some kind := by
  rw [(flush_perm flushed).mem_iff, ← gathers.pending, pending?,
    Entries.lookup_eq_some_iff gathers.nodup]

/-- A batch reports of a file the first change since its last removal, or that removal. -/
theorem mem_batch_iff (collects : Collects changes debouncer)
    (flushed : debouncer.flush now = (later, some batch)) :
    (path, kind) ∈ batch ↔ (kindsOf path changes).foldl merged none = some kind :=
  (gathers_of_collects collects).mem_batch_iff flushed

end Debouncer

end ModuleBridge
