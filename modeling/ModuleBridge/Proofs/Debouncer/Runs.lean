import ModuleBridge.Proofs.Windows
import Mathlib.Data.Set.Insert

/-!
# Runs of a debouncer

A run is what is done with a debouncer in the course of time: changes come in, alone or with
an event, and batches are asked for.  The past of a run tells which changes were taken in and
when batches were given.

A batch is what the changes since the last one come to, path by path: `batches_are_merges`
says that it lists, in the order of paths and each path once, exactly the paths whose changes
do not cancel out, and that nothing else that is done with a debouncer touches what is pending.
-/

namespace ModuleBridge

namespace Debouncer

variable {path : Path} {kind : ChangeKind} {debouncer next : Debouncer}
  {batch : List (Path × ChangeKind)} {normalise : Path → Path} {now : Nat}

/-! ## What one call does -/

/-- A change of an artifact is not taken in. -/
theorem record_of_artifact (artifact : isArtifact path = true) :
    debouncer.record normalise now path kind = debouncer := by
  simp [record, artifact]

/-- A change that makes a difference to what is pending restarts the quiet window. -/
theorem record_of_merge
    (counts : isArtifact path = false) {kind? : Option ChangeKind}
    (merges : merge? (debouncer.pending? (normalise path)) kind = some kind?) :
    debouncer.record normalise now path kind =
      { debouncer.put (normalise path) kind? with lastEvent? := some now } := by
  simp [record, counts, merges]

/-- A change that makes none leaves the debouncer as it is. -/
theorem record_of_repeat
    (counts : isArtifact path = false)
    (repeats : merge? (debouncer.pending? (normalise path)) kind = none) :
    debouncer.record normalise now path kind = debouncer := by
  simp [record, counts, repeats]

/-- A change of one path leaves the others alone. -/
theorem pending?_record_of_ne {other : Path} (different : other ≠ normalise path) :
    (debouncer.record normalise now path kind).pending? other = debouncer.pending? other := by
  cases counts : isArtifact path with
  | true => rw [record_of_artifact counts]
  | false =>
      cases merges : merge? (debouncer.pending? (normalise path)) kind with
      | none => rw [record_of_repeat counts merges]
      | some kind? =>
          rw [record_of_merge counts merges]
          exact pending?_put_of_ne different debouncer kind?

/-- An event leaves the paths that it does not tell of alone. -/
theorem pending?_push_of_ne
    {event : FileEvent} {paths : List Path} {other : Path}
    (different : ∀ path ∈ paths, other ≠ normalise path) :
    (debouncer.push normalise now event paths).pending? other = debouncer.pending? other := by
  unfold push
  cases event.change? with
  | none => rfl
  | some kind =>
      induction paths generalizing debouncer with
      | nil => rfl
      | cons path rest inductionHypothesis =>
          rw [List.forall_mem_cons] at different
          exact (inductionHypothesis different.2).trans (pending?_record_of_ne different.1)

/-- An event of artifacts is not taken in. -/
theorem push_of_artifacts
    {event : FileEvent} {paths : List Path}
    (artifacts : ∀ path ∈ paths, isArtifact path = true) :
    debouncer.push normalise now event paths = debouncer := by
  unfold push
  cases event.change? with
  | none => rfl
  | some kind =>
      induction paths with
      | nil => rfl
      | cons path rest inductionHypothesis =>
          rw [List.forall_mem_cons] at artifacts
          simpa [record_of_artifact artifacts.1] using inductionHypothesis artifacts.2

/-- A batch can be taken when window and cooldown are over and something is pending. -/
theorem isReady_iff :
    debouncer.isReady now = true ↔
      (∃ event, debouncer.lastEvent? = some event ∧ debouncer.window ≤ now - event) ∧
        (∀ flush, debouncer.lastFlush? = some flush → debouncer.cooldown ≤ now - flush) ∧
          debouncer.pending ≠ [] := by
  unfold isReady
  cases debouncer.lastEvent? with
  | none => simp
  | some event =>
      cases debouncer.lastFlush? with
      | none => simp
      | some flush => simp [and_assoc]

/-- Without anything pending, a flush only forgets the last event. -/
theorem flush_of_empty (empty : debouncer.pending = []) :
    debouncer.flush now = ({ debouncer with lastEvent? := none }, none) := by
  simp [flush, empty]

/-- A flush that comes too early changes nothing. -/
theorem flush_of_unready
    (pending : debouncer.pending ≠ []) (unready : debouncer.isReady now = false) :
    debouncer.flush now = (debouncer, none) := by
  simp [flush, pending, unready]

/-- A flush takes everything when a batch is ready. -/
theorem flush_of_ready (ready : debouncer.isReady now = true) :
    debouncer.flush now =
      ({ debouncer with pending := [], lastEvent? := none, lastFlush? := some now },
        some (debouncer.pending.mergeSort fun left right => left.1.le right.1)) := by
  have pending := (isReady_iff.1 ready).2.2
  simp [flush, pending, ready]

theorem isReady_of_flushed (flushed : debouncer.flush now = (next, some batch)) :
    debouncer.isReady now = true := by
  by_cases empty : debouncer.pending = []
  · simp [flush_of_empty empty] at flushed
  · cases ready : debouncer.isReady now with
    | true => rfl
    | false => simp [flush_of_unready empty ready] at flushed

theorem isSome_flush : (debouncer.flush now).2.isSome = debouncer.isReady now := by
  cases ready : debouncer.isReady now with
  | true => simp [flush_of_ready ready]
  | false =>
      by_cases empty : debouncer.pending = []
      · simp [flush_of_empty empty]
      · simp [flush_of_unready empty ready]

/-! ## Runs -/

/-- What happens to a debouncer: a change is taken in, or a batch is given. -/
inductive Occurrence where
  | change (time : Nat) (path : Path) (kind : ChangeKind)
  | batch (time : Nat)
  deriving DecidableEq, Repr, Inhabited

/-- The change that an occurrence is. -/
def Occurrence.change? : Occurrence → Option (Path × ChangeKind)
  | .change _ path kind => some (path, kind)
  | .batch _ => none

/-- The time of an occurrence. -/
def Occurrence.time : Occurrence → Nat
  | .change time _ _ => time
  | .batch time => time

/-- Changes that are taken in at a time. -/
def taken (now : Nat) (changes : List (Path × ChangeKind)) : List Occurrence :=
  changes.map fun change => .change now change.1 change.2

/-- The batch that a flush gives at a time, if it gives one. -/
def given (now : Nat) (batch? : Option (List (Path × ChangeKind))) : List Occurrence :=
  (batch?.map fun _ => .batch now).toList

/-- The change that is taken in where a path is told of: none for an artifact. -/
def acceptedChange (normalise : Path → Path) (path : Path) (kind : ChangeKind) :
    List (Path × ChangeKind) :=
  if isArtifact path then [] else [(normalise path, kind)]

/--
What is done with a debouncer from a time on, by a clock that does not run backwards.  Every
call comes with the normal forms of its moment, which are some of `forms`.
-/
inductive Run (forms : Set (Path → Path)) (first : Debouncer) (begun : Nat) :
    List Occurrence → Nat → Debouncer → Prop
  | start : Run forms first begun [] begun first
  | wait
      {past : List Occurrence} {clock now : Nat} {debouncer : Debouncer}
      (earlier : Run forms first begun past clock debouncer) (later : clock ≤ now) :
      Run forms first begun past now debouncer
  | push
      {past : List Occurrence} {now : Nat} {debouncer : Debouncer} {normalise : Path → Path}
      (earlier : Run forms first begun past now debouncer)
      (known : normalise ∈ forms) (event : FileEvent) (paths : List Path) :
      Run forms first begun (past ++ taken now (accepted normalise event paths)) now
        (debouncer.push normalise now event paths)
  | record
      {past : List Occurrence} {now : Nat} {debouncer : Debouncer} {normalise : Path → Path}
      (earlier : Run forms first begun past now debouncer)
      (known : normalise ∈ forms) (path : Path) (kind : ChangeKind) :
      Run forms first begun (past ++ taken now (acceptedChange normalise path kind)) now
        (debouncer.record normalise now path kind)
  | flush
      {past : List Occurrence} {now : Nat} {debouncer : Debouncer}
      (earlier : Run forms first begun past now debouncer) :
      Run forms first begun (past ++ given now (debouncer.flush now).2) now
        (debouncer.flush now).1

variable {forms : Set (Path → Path)} {first : Debouncer} {begun clock window cooldown : Nat}
  {past : List Occurrence}

theorem Run.change
    (run : Run forms first begun past now debouncer)
    (known : normalise ∈ forms) (counts : isArtifact path = false) :
    Run forms first begun (past ++ [.change now (normalise path) kind]) now
      (debouncer.record normalise now path kind) := by
  simpa [acceptedChange, counts, taken] using run.record known path kind

/--
What holds at the start, as time goes by, behind a change that is taken in and behind a flush
holds in every run: an event is its changes one by one.
-/
theorem Run.preserves
    {motive : List Occurrence → Nat → Debouncer → Prop}
    (start : motive [] begun first)
    (wait :
      ∀ {past clock now debouncer}, motive past clock debouncer → clock ≤ now →
        motive past now debouncer)
    (change :
      ∀ {past now debouncer normalise path kind}, Run forms first begun past now debouncer →
        motive past now debouncer → normalise ∈ forms → isArtifact path = false →
          motive (past ++ [.change now (normalise path) kind]) now
            (debouncer.record normalise now path kind))
    (flush :
      ∀ {past now debouncer}, Run forms first begun past now debouncer →
        motive past now debouncer →
          motive (past ++ given now (debouncer.flush now).2) now (debouncer.flush now).1)
    (run : Run forms first begun past clock debouncer) : motive past clock debouncer := by
  induction run with
  | start => exact start
  | wait earlier later reached => exact wait reached later
  | push earlier known event paths reached =>
      unfold accepted Debouncer.push
      cases event.change? with
      | none => simpa [taken] using reached
      | some kind =>
          rename_i past now debouncer normalise
          induction paths generalizing past debouncer with
          | nil => simpa [taken] using reached
          | cons path rest inductionHypothesis =>
              cases counts : isArtifact path with
              | true =>
                  simpa [counts, record_of_artifact counts] using
                    inductionHypothesis earlier reached
              | false =>
                  have told :
                      Run forms first begun (past ++ [.change now (normalise path) kind]) now
                        (debouncer.record normalise now path kind) :=
                    earlier.change known counts
                  simpa [counts, taken] using
                    inductionHypothesis told (change earlier reached known counts)
  | record earlier known path kind reached =>
      cases counts : isArtifact path with
      | true => simpa [acceptedChange, counts, record_of_artifact counts, taken] using reached
      | false =>
          simpa [acceptedChange, counts, taken] using change earlier reached known counts
  | flush earlier reached => exact flush earlier reached

/-! ## The changes since the last batch -/

/-- The changes since the last batch. -/
def fresh (past : List Occurrence) : List (Path × ChangeKind) :=
  (past.rtakeWhile fun occurrence => occurrence.change?.isSome).filterMap Occurrence.change?

@[simp]
theorem fresh_nil : fresh [] = [] := rfl

@[simp]
theorem fresh_change (past : List Occurrence) (time : Nat) (path : Path) (kind : ChangeKind) :
    fresh (past ++ [.change time path kind]) = fresh past ++ [(path, kind)] := by
  rw [fresh, List.rtakeWhile_concat_pos _ _ _ (by rfl), List.filterMap_append]
  rfl

@[simp]
theorem fresh_batch (past : List Occurrence) (time : Nat) :
    fresh (past ++ [.batch time]) = [] := by
  rw [fresh, List.rtakeWhile_concat_neg _ _ _ (by simp [Occurrence.change?]),
    List.filterMap_nil]

/-- What the changes of a path since the last batch come to. -/
def outcome (past : List Occurrence) (path : Path) : Option ChangeKind :=
  (kindsOf path (fresh past)).foldl merged none

/-- What is pending is what the changes since the last batch come to. -/
theorem gathers_of_run
    (run : Run forms (start window cooldown) begun past clock debouncer) :
    Gathers (fresh past) debouncer := by
  refine run.preserves (motive := fun past _ debouncer => Gathers (fresh past) debouncer)
    ?start ?wait ?change ?flush
  case start => exact gathers_of_empty rfl
  case wait =>
    intro past clock now debouncer gathers later
    exact gathers
  case change =>
    intro past now debouncer normalise path kind run gathers known counts
    simpa using gathers.record normalise now kind counts
  case flush =>
    intro past now debouncer run gathers
    cases ready : debouncer.isReady now with
    | true => simpa [flush_of_ready ready, given] using gathers_of_empty rfl
    | false =>
        by_cases empty : debouncer.pending = []
        · have kept : Gathers (fresh past) { debouncer with lastEvent? := none } :=
            gathers.of_pending rfl
          simpa [flush_of_empty empty, given] using kept
        · simpa [flush_of_unready empty ready, given] using gathers

theorem pending?_eq_outcome
    (run : Run forms (start window cooldown) begun past clock debouncer) (path : Path) :
    debouncer.pending? path = outcome past path :=
  (gathers_of_run run).pending path

/-- A change since the last batch is one of the past. -/
theorem exists_change_of_mem_fresh (member : (path, kind) ∈ fresh past) :
    ∃ time, .change time path kind ∈ past := by
  rcases List.mem_filterMap.1 member with ⟨occurrence, recent, told⟩
  have among := (List.rtakeWhile_suffix _ past).mem recent
  cases occurrence with
  | change time path kind =>
      cases told
      exact ⟨time, among⟩
  | batch time => cases told

/-- A path that a change was taken in for is a normal form. -/
theorem normal_of_run
    (run : Run forms first begun past clock debouncer) :
    ∀ time path kind, .change time path kind ∈ past →
      ∃ normalise ∈ forms, ∃ written, path = normalise written := by
  refine run.preserves
    (motive := fun past _ _ => ∀ time path kind, .change time path kind ∈ past →
      ∃ normalise ∈ forms, ∃ written, path = normalise written)
    ?start ?wait ?change ?flush
  case start => simp
  case wait =>
    intro past clock now debouncer normal later
    exact normal
  case change =>
    intro past now debouncer normalise written kind run normal known counts time path kind member
    simp only [List.mem_append, List.mem_singleton, Occurrence.change.injEq] at member
    rcases member with before | ⟨-, rfl, -⟩
    · exact normal time path kind before
    · exact ⟨normalise, known, written, rfl⟩
  case flush =>
    intro past now debouncer run normal time path kind member
    apply normal time path kind
    simpa [given] using member

/-! ## Batches -/

/-- What is pending for a path comes from a change of it. -/
theorem Gathers.exists_change
    {changes : List (Path × ChangeKind)}
    (gathers : Gathers changes debouncer) (pending : debouncer.pending? path = some kind) :
    ∃ change ∈ changes, change.1 = path := by
  rw [gathers.pending] at pending
  cases kinds : kindsOf path changes with
  | nil => simp [kinds] at pending
  | cons first rest =>
      have member : first ∈ kindsOf path changes := by simp [kinds]
      simp only [kindsOf, List.mem_map, List.mem_filter, decide_eq_true_eq] at member
      rcases member with ⟨change, ⟨among, here⟩, -⟩
      exact ⟨change, among, here⟩

/-- A batch is in the order of its paths, and has each of them once. -/
theorem pairwise_batch
    {changes : List (Path × ChangeKind)} (gathers : Gathers changes debouncer)
    (spelled :
      ∀ left ∈ changes, ∀ right ∈ changes,
        left.1.components = right.1.components → left.1 = right.1)
    (flushed : debouncer.flush now = (next, some batch)) :
    batch.Pairwise fun left right => left.1.order right.1 = .lt := by
  have perm := flush_perm flushed
  have sorted : batch.Pairwise fun left right => left.1.le right.1 := by
    rw [flush_of_ready (isReady_of_flushed flushed)] at flushed
    cases flushed
    apply List.pairwise_mergeSort
    · intro left middle right first second
      exact Path.le_trans first second
    · intro left right
      exact Path.le_total left.1 right.1
  have apart : batch.Pairwise fun left right => left.1 ≠ right.1 :=
    List.pairwise_map.1 ((perm.map Prod.fst).nodup_iff.2 gathers.nodup)
  have told : ∀ entry ∈ batch, ∃ change ∈ changes, change.1 = entry.1 := by
    intro entry member
    have pending : debouncer.pending? entry.1 = some entry.2 :=
      (Entries.lookup_eq_some_iff gathers.nodup).2 (perm.mem_iff.1 member)
    exact gathers.exists_change pending
  apply (sorted.and apart).imp_of_mem
  intro left right first second ⟨before, different⟩
  rcases told left first with ⟨leftChange, leftAmong, leftHere⟩
  rcases told right second with ⟨rightChange, rightAmong, rightHere⟩
  cases order : left.1.order right.1 with
  | lt => rfl
  | eq =>
      have same := spelled leftChange leftAmong rightChange rightAmong
      rw [leftHere, rightHere] at same
      exact absurd (same (Path.components_of_order order)) different
  | gt => simp [Path.le, order] at before

/--
Whatever was done with a debouncer, under normal forms that are spelled in one way: a batch
lists, in the strict order of the paths, exactly the paths whose changes since the last batch
come to something, with what they come to, and leaves nothing pending.  A flush without a batch
leaves what is pending, a change or an event leaves it for all paths that it does not tell of,
and artifacts, metadata and other events change nothing at all.
-/
theorem batches_are_merges
    (spelled :
      ∀ left right, (normalise left).components = (normalise right).components →
        normalise left = normalise right)
    (run : Run {normalise} (start window cooldown) begun past clock debouncer) :
    (∀ now next batch, debouncer.flush now = (next, some batch) →
        (batch.Pairwise fun left right => left.1.order right.1 = .lt) ∧
          (∀ path kind, (path, kind) ∈ batch ↔ outcome past path = some kind) ∧
            next.pending = []) ∧
      (∀ now next, debouncer.flush now = (next, none) → next.pending = debouncer.pending) ∧
      (∀ now path kind other, other ≠ normalise path →
        (debouncer.record normalise now path kind).pending? other = debouncer.pending? other) ∧
      (∀ now event paths other, (∀ path ∈ paths, other ≠ normalise path) →
        (debouncer.push normalise now event paths).pending? other = debouncer.pending? other) ∧
      (∀ now path kind, isArtifact path = true →
        debouncer.record normalise now path kind = debouncer) ∧
      (∀ now event paths,
        event = .metadata ∨ event = .other ∨ (∀ path ∈ paths, isArtifact path = true) →
          debouncer.push normalise now event paths = debouncer) := by
  refine ⟨?batch, ?unready, ?record, ?push, ?artifact, ?ignored⟩
  case batch =>
    intro now next batch flushed
    refine ⟨?sorted, fun path kind => (gathers_of_run run).mem_batch_iff flushed,
      ?emptied⟩
    case sorted =>
      apply pairwise_batch (gathers_of_run run) _ flushed
      -- Both paths are normal forms, so that their spelling follows from their steps.
      intro left leftFresh right rightFresh same
      rcases exists_change_of_mem_fresh leftFresh with ⟨leftTime, leftPast⟩
      rcases exists_change_of_mem_fresh rightFresh with ⟨rightTime, rightPast⟩
      rcases normal_of_run run _ _ _ leftPast with ⟨_, rfl, leftWritten, leftNormal⟩
      rcases normal_of_run run _ _ _ rightPast with ⟨_, rfl, rightWritten, rightNormal⟩
      rw [leftNormal, rightNormal] at same ⊢
      exact spelled leftWritten rightWritten same
    case emptied =>
      rw [flush_of_ready (isReady_of_flushed flushed)] at flushed
      cases flushed
      rfl
  case unready =>
    intro now next unready
    exact pending_of_unready unready
  case record =>
    intro now path kind other different
    exact pending?_record_of_ne different
  case push =>
    intro now event paths other different
    exact pending?_push_of_ne different
  case artifact =>
    intro now path kind artifact
    exact record_of_artifact artifact
  case ignored =>
    intro now event paths ignored
    rcases ignored with rfl | rfl | artifacts
    · rfl
    · rfl
    · exact push_of_artifacts artifacts

/-- Two files of a directory; neither is an artifact. -/
def sample (second : Bool) : Path :=
  if second then ⟨"/w/b.es"⟩ else ⟨"/w/a.es"⟩

@[simp]
theorem isArtifact_sample (second : Bool) : isArtifact (sample second) = false := by
  cases second <;> decide

theorem plain_sample (second : Bool) : (sample second).IsPlain := by
  cases second with
  | false => exact ⟨["w", "a.es"], by simp [Component.Plain, Component.ofPiece?], rfl⟩
  | true => exact ⟨["w", "b.es"], by simp [Component.Plain, Component.ofPiece?], rfl⟩

theorem normalise_sample (second : Bool) :
    Disk.empty.normalise (sample second) = sample second := by
  apply Disk.normalise_of_linkless
  · apply Disk.linkless_of_entries
    simp [Disk.empty]
  · exact plain_sample second

/-- The second file changed before the first one, which vanished then. -/
def crossedPast : List Occurrence :=
  [.change 0 (sample true) .modified, .change 0 (sample false) .modified,
    .change 1 (sample false) .removed]

def crossed : Debouncer :=
  { standard with
    pending := [(sample true, .modified), (sample false, .removed)], lastEvent? := some 1 }

theorem run_crossed : Run {Disk.empty.normalise} standard 0 crossedPast 1 crossed := by
  have begun : Run {Disk.empty.normalise} standard 0 [] 0 standard := .start
  have told := begun.push (Set.mem_singleton _) .modified [sample true, sample false]
  have gone := (told.wait (Nat.zero_le 1)).record (Set.mem_singleton _) (sample false) .removed
  have apart : (sample false == sample true) = false := by decide
  have other : (sample true != sample false) = true := by decide
  simpa [taken, accepted, acceptedChange, FileEvent.change?, normalise_sample, push, record,
    merge?, pending?, put, standard, start, Entries.without, List.lookup_cons, apart, other,
    crossedPast, crossed] using gone

/-- The batch has both files, in the order of their paths. -/
theorem batches_are_merges_crossed :
    Run {Disk.empty.normalise} standard 0 crossedPast 1 crossed ∧
      ∃ next batch, crossed.flush second = (next, some batch) ∧
        (batch.Pairwise fun left right => left.1.order right.1 = .lt) ∧
        (sample true, .modified) ∈ batch ∧ (sample false, .removed) ∈ batch ∧
        next.pending = [] := by
  have working : Disk.PlainPlace Disk.empty.working := by simp [Disk.PlainPlace, Disk.empty]
  have ready : crossed.isReady second = true := by decide
  have flushed := flush_of_ready ready
  have reported :=
    (batches_are_merges (Disk.spelled_normalise working) run_crossed).1 second _ _ flushed
  refine ⟨run_crossed, _, _, flushed, reported.1, ?_, ?_, reported.2.2⟩
  · rw [reported.2.1]
    decide
  · rw [reported.2.1]
    decide

end Debouncer

end ModuleBridge
