import ModuleBridge.Proofs.Debouncer.Timing

/-!
# Files that appear and vanish between two batches

A file that was not there before the changes of a batch is reported as created when it is there
behind them, and not at all otherwise.  A file that was there and is gone is reported as removed
only if it was not created again in between: `reported_iff` says so, and
`disappearance_cancelled` is the shortest course of events in which nothing tells of the loss.
-/

namespace ModuleBridge

namespace Debouncer

variable {path : Path} {kinds : List ChangeKind} {debouncer : Debouncer}
  {forms : Set (Path → Path)} {begun clock window cooldown : Nat} {past : List Occurrence}

/--
The changes of a file that was there or was not, and is there now or is not: it is created only
while it is not there, and modified or removed only while it is.
-/
inductive Lives (before : Bool) : List ChangeKind → Bool → Prop
  | start : Lives before [] before
  | created {kinds : List ChangeKind} (earlier : Lives before kinds false) :
      Lives before (kinds ++ [.created]) true
  | modified {kinds : List ChangeKind} (earlier : Lives before kinds true) :
      Lives before (kinds ++ [.modified]) true
  | removed {kinds : List ChangeKind} (earlier : Lives before kinds true) :
      Lives before (kinds ++ [.removed]) false

/-- The changes of a file that was not there come to its creation, or to nothing. -/
theorem Lives.foldl_of_absent {there : Bool} (lives : Lives false kinds there) :
    kinds.foldl merged none = if there then some .created else none := by
  induction lives with
  | start => rfl
  | created earlier inductionHypothesis => simp [inductionHypothesis, merged, merge?]
  | modified earlier inductionHypothesis => simp [inductionHypothesis, merged, merge?]
  | removed earlier inductionHypothesis => simp [inductionHypothesis, merged, merge?]

/-- A file that was there and was not created again is there, or its removal is pending. -/
theorem Lives.foldl_of_uncreated
    {there : Bool} (lives : Lives true kinds there) (uncreated : .created ∉ kinds) :
    if there then kinds.foldl merged none = none ∨ kinds.foldl merged none = some .modified
    else kinds.foldl merged none = some .removed := by
  induction lives with
  | start => simp
  | created earlier inductionHypothesis => simp at uncreated
  | modified earlier inductionHypothesis =>
      have before := inductionHypothesis (by simpa using uncreated)
      rw [if_pos rfl] at before
      rcases before with nothing | modified
      · simp [nothing, merged, merge?]
      · simp [modified, merged, merge?]
  | removed earlier inductionHypothesis =>
      have before := inductionHypothesis (by simpa using uncreated)
      rw [if_pos rfl] at before
      rcases before with nothing | modified
      · simp [nothing, merged, merge?]
      · simp [modified, merged, merge?]

/-- From its first creation on, a file that was there is taken for one that was not. -/
theorem Lives.foldl_of_created
    {there : Bool} (lives : Lives true kinds there) (created : .created ∈ kinds) :
    kinds.foldl merged none = if there then some .created else none := by
  induction lives with
  | start => cases created
  | created earlier inductionHypothesis =>
      rename_i kinds
      by_cases again : .created ∈ kinds
      · simp [inductionHypothesis again, merged, merge?]
      · have removed : kinds.foldl merged none = some .removed :=
          earlier.foldl_of_uncreated again
        simp [removed, merged, merge?]
  | modified earlier inductionHypothesis =>
      simp [inductionHypothesis (by simpa using created), merged, merge?]
  | removed earlier inductionHypothesis =>
      simp [inductionHypothesis (by simpa using created), merged, merge?]

/--
Of a file that lives through the changes since the last batch, and is not there behind them: a
batch reports the removal exactly if the file was there and was not created in between, and
nothing otherwise.  A file that was not there and is there is reported as created.  What is to
be reported is in every flush from some time on.
-/
theorem reported_iff
    (run : Run forms (start window cooldown) begun past clock debouncer) {before there : Bool}
    (lives : Lives before (kindsOf path (fresh past)) there) :
    (∀ now next batch, debouncer.flush now = (next, some batch) → ∀ kind,
        (before = true → there = false →
          ((path, kind) ∈ batch ↔
            kind = .removed ∧ .created ∉ kindsOf path (fresh past))) ∧
        (before = false → there = true → ((path, kind) ∈ batch ↔ kind = .created)) ∧
        (before = false → there = false → (path, kind) ∉ batch)) ∧
      (before ≠ there → (before = true → .created ∉ kindsOf path (fresh past)) →
        ∃ due, ∀ now, due ≤ now → (debouncer.flush now).2.isSome = true) := by
  constructor
  · intro now next batch flushed kind
    rw [(gathers_of_run run).mem_batch_iff flushed]
    refine ⟨?vanished, ?appeared, ?absent⟩
    case vanished =>
      rintro rfl rfl
      by_cases created : .created ∈ kindsOf path (fresh past)
      · simp [lives.foldl_of_created created, created]
      · have removed : (kindsOf path (fresh past)).foldl merged none = some .removed :=
          lives.foldl_of_uncreated created
        simp [removed, created, eq_comm]
    case appeared =>
      rintro rfl rfl
      simp [lives.foldl_of_absent, eq_comm]
    case absent =>
      rintro rfl rfl
      simp [lives.foldl_of_absent]
  · intro changed uncreated
    have reported : ∃ kind, outcome past path = some kind := by
      cases before with
      | false =>
          cases there with
          | false => exact absurd rfl changed
          | true => exact ⟨.created, lives.foldl_of_absent⟩
      | true =>
          cases there with
          | false => exact ⟨.removed, lives.foldl_of_uncreated (uncreated rfl)⟩
          | true => exact absurd rfl changed
    rcases reported with ⟨kind, reported⟩
    apply exists_due run
    intro empty
    rw [← pending?_eq_outcome run, pending?, empty] at reported
    cases reported

/-- A file was modified and vanished. -/
def vanishedPast : List Occurrence :=
  [.change 0 (sample false) .modified, .change 1 (sample false) .removed]

def vanished : Debouncer :=
  { standard with pending := [(sample false, .removed)], lastEvent? := some 1 }

theorem run_vanished : Run {id} standard 0 vanishedPast 1 vanished := by
  have begun : Run {id} standard 0 [] 0 standard := .start
  have modified := begun.record (Set.mem_singleton _) (sample false) .modified
  have removed := (modified.wait (Nat.zero_le 1)).record
    (Set.mem_singleton _) (sample false) .removed
  simpa [taken, acceptedChange, record, merge?, pending?, put, standard, start, Entries.without,
    vanishedPast, vanished] using removed

/-- The file was there before: its removal is reported. -/
theorem reported_iff_vanished :
    Run {id} standard 0 vanishedPast 1 vanished ∧
      Lives true (kindsOf (sample false) (fresh vanishedPast)) false ∧
      ∃ next batch, vanished.flush second = (next, some batch) ∧
        (sample false, .removed) ∈ batch := by
  have kinds : kindsOf (sample false) (fresh vanishedPast) = [.modified, .removed] := by decide
  have lives : Lives true (kindsOf (sample false) (fresh vanishedPast)) false :=
    kinds ▸ .removed (.modified .start)
  have reported := reported_iff run_vanished lives
  have ready : vanished.isReady second = true := by decide
  have flushed := flush_of_ready ready
  refine ⟨run_vanished, lives, _, _, flushed, ?_⟩
  rw [(reported.1 _ _ _ flushed _).1 rfl rfl, kinds]
  decide

/-- A file vanished, came back and vanished again. -/
def cancelledPast : List Occurrence :=
  [.change 0 (sample false) .removed, .change 0 (sample false) .created,
    .change 0 (sample false) .removed]

/-- The file was there before and is not there now, but no flush tells of it. -/
theorem disappearance_cancelled :
    Lives true (kindsOf (sample false) (fresh cancelledPast)) false ∧
      ∃ debouncer, Run {id} (start 0 0) 0 cancelledPast 0 debouncer ∧
        debouncer.pending = [] ∧ ∀ now, (debouncer.flush now).2 = none := by
  have kinds : kindsOf (sample false) (fresh cancelledPast) = [.removed, .created, .removed] := by
    decide
  have begun : Run {id} (start 0 0) 0 [] 0 (start 0 0) := .start
  have removed := begun.record (Set.mem_singleton _) (sample false) .removed
  have back := removed.record (Set.mem_singleton _) (sample false) .created
  have gone := back.record (Set.mem_singleton _) (sample false) .removed
  refine ⟨kinds ▸ .removed (.created (.removed .start)),
    { start 0 0 with lastEvent? := some 0 }, ?_, rfl, ?_⟩
  · simpa [taken, acceptedChange, record, merge?, pending?, put, start, Entries.without,
      cancelledPast] using gone
  · intro now
    rw [flush_of_empty rfl]

end Debouncer

end ModuleBridge
