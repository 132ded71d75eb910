import ModuleBridge.Proofs.Debouncer.Runs

/-!
# When a debouncer gives a batch

A batch waits until the quiet window is over since the last change that made a difference to
what is pending, and the cooldown since the last batch.  `given_iff_quiet` says that it waits for
nothing else, so that a change which repeats what is pending already does not prolong the wait.

The time to the next wake is exact: `wakes_once` says that no flush before it gives a batch,
that a flush at it does when anything is pending, and that a debouncer idles from then on until
the next change.
-/

namespace ModuleBridge

namespace Debouncer

variable {path : Path} {kind : ChangeKind} {debouncer next : Debouncer}
  {normalise : Path → Path} {now : Nat} {forms : Set (Path → Path)} {first : Debouncer}
  {begun clock window cooldown : Nat} {past : List Occurrence}

/-! ## Changes that repeat others -/

/-- A change adds nothing to a pending one when both are removals, or neither is. -/
theorem merge?_eq_none_iff {pending? : Option ChangeKind} :
    merge? pending? kind = none ↔
      ∃ held, pending? = some held ∧ (held = .removed ↔ kind = .removed) := by
  rcases pending? with _ | held
  · simp [merge?]
  · cases held <;> cases kind <;> simp [merge?]

/-- A change repeats what the changes of its path come to. -/
def Repeats (past : List Occurrence) (path : Path) (kind : ChangeKind) : Prop :=
  ∃ held, outcome past path = some held ∧ (held = .removed ↔ kind = .removed)

/-- A change was taken in at a time, and was such behind what came before it. -/
def TakenAt (such : List Occurrence → Path → ChangeKind → Prop) (past : List Occurrence)
    (time : Nat) : Prop :=
  ∃ before path kind after,
    past = before ++ .change time path kind :: after ∧ such before path kind

/-- A change was taken in at a time, and repeated what was pending. -/
def RepeatedAt : List Occurrence → Nat → Prop :=
  TakenAt Repeats

/-- A change was taken in at a time, and made a difference to what was pending. -/
def StirredAt : List Occurrence → Nat → Prop :=
  TakenAt fun before path kind => ¬ Repeats before path kind

theorem TakenAt.mem
    {such : List Occurrence → Path → ChangeKind → Prop} {time : Nat}
    (taken : TakenAt such past time) : ∃ path kind, .change time path kind ∈ past := by
  rcases taken with ⟨before, path, kind, after, rfl, -⟩
  exact ⟨path, kind, by simp⟩

/-- The last occurrence is such a change, or one before it is. -/
theorem takenAt_concat
    {such : List Occurrence → Path → ChangeKind → Prop} {time : Nat} {last : Occurrence} :
    TakenAt such (past ++ [last]) time ↔
      TakenAt such past time ∨
        ∃ path kind, last = .change time path kind ∧ such past path kind := by
  constructor
  · rintro ⟨before, path, kind, after, split, holds⟩
    rcases List.eq_nil_or_concat after with rfl | ⟨rest, final, rfl⟩
    · rcases List.append_inj' split rfl with ⟨rfl, same⟩
      exact .inr ⟨path, kind, List.singleton_inj.1 same, holds⟩
    · have split : past ++ [last] = (before ++ .change time path kind :: rest) ++ [final] := by
        simpa using split
      rcases List.append_inj' split rfl with ⟨rfl, -⟩
      exact .inl ⟨before, path, kind, rest, rfl, holds⟩
  · rintro (⟨before, path, kind, after, rfl, holds⟩ | ⟨path, kind, rfl, holds⟩)
    · exact ⟨before, path, kind, after ++ [last], by simp, holds⟩
    · exact ⟨past, path, kind, [], rfl, holds⟩

/-- A change either repeats what is pending or makes a difference. -/
theorem forall_change_iff {bound : Nat → Prop} :
    (∀ time path kind, .change time path kind ∈ past → bound time) ↔
      (∀ time, StirredAt past time → bound time) ∧ ∀ time, RepeatedAt past time → bound time := by
  constructor
  · intro every
    constructor
    · intro time stirred
      rcases stirred.mem with ⟨path, kind, member⟩
      exact every time path kind member
    · intro time repeated
      rcases repeated.mem with ⟨path, kind, member⟩
      exact every time path kind member
  · rintro ⟨stirred, repeated⟩ time path kind member
    rcases List.mem_iff_append.1 member with ⟨before, after, split⟩
    by_cases repeats : Repeats before path kind
    · exact repeated time ⟨before, path, kind, after, split, repeats⟩
    · exact stirred time ⟨before, path, kind, after, split, repeats⟩

/-! ## What a debouncer remembers of its past -/

/-- The times that a debouncer keeps are those of its past. -/
structure Remembers (window cooldown : Nat) (past : List Occurrence) (clock : Nat)
    (debouncer : Debouncer) : Prop where
  window : debouncer.window = window
  cooldown : debouncer.cooldown = cooldown
  bounded : ∀ occurrence ∈ past, occurrence.time ≤ clock
  batch : ∀ time, debouncer.lastFlush? = some time → .batch time ∈ past
  lastBatch :
    ∀ time, .batch time ∈ past → ∃ last, debouncer.lastFlush? = some last ∧ time ≤ last
  event : ∀ time, debouncer.lastEvent? = some time → StirredAt past time
  /-- While anything is pending, the last change that made a difference is known. -/
  lastEvent :
    debouncer.pending ≠ [] →
      ∃ last, debouncer.lastEvent? = some last ∧ ∀ time, StirredAt past time → time ≤ last

theorem StirredAt.le_clock
    (remembers : Remembers window cooldown past clock debouncer) {time : Nat}
    (stirred : StirredAt past time) : time ≤ clock := by
  rcases stirred.mem with ⟨path, kind, member⟩
  exact remembers.bounded _ member

theorem Remembers.wait
    (remembers : Remembers window cooldown past clock debouncer) (later : clock ≤ now) :
    Remembers window cooldown past now debouncer :=
  { remembers with
    bounded := fun occurrence member => (remembers.bounded occurrence member).trans later }

theorem Remembers.record
    (remembers : Remembers window cooldown past now debouncer)
    (settled : debouncer.pending? (normalise path) = outcome past (normalise path))
    (counts : isArtifact path = false) :
    Remembers window cooldown (past ++ [.change now (normalise path) kind]) now
      (debouncer.record normalise now path kind) := by
  have bounded :
      ∀ occurrence ∈ past ++ [.change now (normalise path) kind], occurrence.time ≤ now := by
    simpa [or_imp, forall_and, Occurrence.time] using remembers.bounded
  cases merges : merge? (debouncer.pending? (normalise path)) kind with
  | none =>
      have repeats : Repeats past (normalise path) kind := by
        rw [settled] at merges
        exact merge?_eq_none_iff.1 merges
      have same :
          ∀ time, StirredAt (past ++ [.change now (normalise path) kind]) time ↔
            StirredAt past time := by
        intro time
        simp only [StirredAt, takenAt_concat, Occurrence.change.injEq]
        constructor
        · rintro (before | ⟨path, kind, ⟨-, rfl, rfl⟩, counts⟩)
          · exact before
          · exact absurd repeats counts
        · exact .inl
      rw [record_of_repeat counts merges]
      exact
        { window := remembers.window
          cooldown := remembers.cooldown
          bounded := bounded
          batch := by simpa using remembers.batch
          lastBatch := by simpa using remembers.lastBatch
          event := by simpa [same] using remembers.event
          lastEvent := by simpa [same] using remembers.lastEvent }
  | some kind? =>
      have counting : ¬ Repeats past (normalise path) kind := by
        intro repeats
        rw [settled, merge?_eq_none_iff.2 repeats] at merges
        cases merges
      rw [record_of_merge counts merges]
      exact
        { window := remembers.window
          cooldown := remembers.cooldown
          bounded := bounded
          batch := by simpa [put] using remembers.batch
          lastBatch := by simpa [put] using remembers.lastBatch
          event := by
            intro time here
            cases here
            exact takenAt_concat.2 (.inr ⟨normalise path, kind, rfl, counting⟩)
          lastEvent := by
            intro pending
            refine ⟨now, rfl, ?_⟩
            intro time stirred
            rcases stirred.mem with ⟨path, kind, member⟩
            exact bounded _ member }

theorem Remembers.flush
    (remembers : Remembers window cooldown past now debouncer) :
    Remembers window cooldown (past ++ given now (debouncer.flush now).2) now
      (debouncer.flush now).1 := by
  cases ready : debouncer.isReady now with
  | true =>
      have same : ∀ time, StirredAt (past ++ [.batch now]) time ↔ StirredAt past time := by
        intro time
        simp [StirredAt, takenAt_concat]
      simp only [flush_of_ready ready, given, Option.map_some, Option.toList_some]
      exact
        { window := remembers.window
          cooldown := remembers.cooldown
          bounded := by simpa [or_imp, forall_and, Occurrence.time] using remembers.bounded
          batch := by simp
          lastBatch := by
            intro time member
            refine ⟨now, rfl, ?_⟩
            simp only [List.mem_append, List.mem_singleton, Occurrence.batch.injEq] at member
            rcases member with before | rfl
            · exact remembers.bounded _ before
            · exact le_rfl
          event := by simp
          lastEvent := by simp }
  | false =>
      by_cases empty : debouncer.pending = []
      · simp only [flush_of_empty empty, given, Option.map_none, Option.toList_none,
          List.append_nil]
        exact
          { remembers with
            event := by simp
            lastEvent := by simp [empty] }
      · simpa [flush_of_unready empty ready, given] using remembers

theorem remembers_of_run
    (run : Run forms (start window cooldown) begun past clock debouncer) :
    Remembers window cooldown past clock debouncer := by
  refine run.preserves (motive := Remembers window cooldown) ?start ?wait ?change ?flush
  case start =>
    constructor <;> simp [start]
  case wait =>
    intro past clock now debouncer remembers later
    exact remembers.wait later
  case change =>
    intro past now debouncer normalise path kind run remembers known counts
    exact remembers.record (pending?_eq_outcome run _) counts
  case flush =>
    intro past now debouncer run remembers
    exact remembers.flush

/-! ## The quiet window and the cooldown -/

/-- A flush gives a batch when window and cooldown are over, by the times of the past. -/
theorem Remembers.isReady_iff
    (remembers : Remembers window cooldown past clock debouncer) (later : clock ≤ now) :
    debouncer.isReady now = true ↔
      debouncer.pending ≠ [] ∧ (∀ time, StirredAt past time → time + window ≤ now) ∧
        ∀ time, .batch time ∈ past → time + cooldown ≤ now := by
  rw [Debouncer.isReady_iff, remembers.window, remembers.cooldown]
  constructor
  · rintro ⟨⟨event, lastEvent, quiet⟩, cooled, pending⟩
    rcases remembers.lastEvent pending with ⟨last, known, latest⟩
    cases lastEvent.symm.trans known
    refine ⟨pending, ?_, ?_⟩
    · intro time stirred
      have before := latest time stirred
      have past := (remembers.event _ lastEvent).le_clock remembers
      omega
    · intro time given
      rcases remembers.lastBatch time given with ⟨last, known, before⟩
      have elapsed := cooled last known
      have past : last ≤ clock := remembers.bounded _ (remembers.batch last known)
      omega
  · rintro ⟨pending, quiet, cooled⟩
    refine ⟨?_, ?_, pending⟩
    · rcases remembers.lastEvent pending with ⟨last, known, latest⟩
      have elapsed := quiet last (remembers.event last known)
      exact ⟨last, known, by omega⟩
    · intro last known
      have elapsed := cooled last (remembers.batch last known)
      omega

/--
A flush gives a batch exactly when something is pending, every change that made a difference is
at least a window ago, and every batch at least a cooldown.  Then no change at all came within
the window just when none that repeats what is pending did.
-/
theorem given_iff_quiet
    (run : Run forms (start window cooldown) begun past clock debouncer)
    {now : Nat} (later : clock ≤ now) :
    ((debouncer.flush now).2.isSome = true ↔
        debouncer.pending ≠ [] ∧ (∀ time, StirredAt past time → time + window ≤ now) ∧
          ∀ time, .batch time ∈ past → time + cooldown ≤ now) ∧
      ((debouncer.flush now).2.isSome = true →
        ((∀ time path kind, .change time path kind ∈ past → time + window ≤ now) ↔
          ∀ time, RepeatedAt past time → time + window ≤ now)) := by
  have ready := (remembers_of_run run).isReady_iff later
  rw [isSome_flush]
  constructor
  · exact ready
  · intro given
    rw [forall_change_iff]
    exact and_iff_right (ready.1 given).2.1

/-- A file that was modified, and 200 milliseconds later once more. -/
def busyPast : List Occurrence :=
  [.change 0 (sample false) .modified,
    .change (200 * millisecond) (sample false) .modified]

def busy : Debouncer :=
  { standard with pending := [(sample false, .modified)], lastEvent? := some 0 }

theorem run_busy : Run {id} standard 0 busyPast (200 * millisecond) busy := by
  have begun : Run {id} standard 0 [] 0 standard := .start
  have first := begun.record (Set.mem_singleton _) (sample false) .modified
  have second := (first.wait (Nat.zero_le (200 * millisecond))).record
    (Set.mem_singleton _) (sample false) .modified
  simpa [taken, acceptedChange, record, merge?, pending?, put, standard, start, Entries.without,
    busyPast, busy] using second

theorem repeatedAt_busyPast : RepeatedAt busyPast (200 * millisecond) :=
  ⟨[.change 0 (sample false) .modified], sample false, .modified, [], rfl, .modified,
    by decide, by decide⟩

/-- A batch is given 300 milliseconds behind the first change, whatever came since. -/
theorem given_iff_quiet_busy :
    Run {id} standard 0 busyPast (200 * millisecond) busy ∧
      (busy.flush (300 * millisecond)).2.isSome = true ∧
      ¬ ∀ time path kind, .change time path kind ∈ busyPast →
        time + 300 * millisecond ≤ 300 * millisecond := by
  have later : 200 * millisecond ≤ 300 * millisecond := by decide
  have quiet := given_iff_quiet run_busy later
  have given : (busy.flush (300 * millisecond)).2.isSome = true := by
    rw [isSome_flush]
    decide
  refine ⟨run_busy, given, ?_⟩
  rw [quiet.2 given]
  intro elapsed
  exact absurd (elapsed _ repeatedAt_busyPast) (by decide)

/-- The window behind a change is cut short: the file was modified within it. -/
theorem batch_within_window :
    Run {id} standard 0 busyPast (200 * millisecond) busy ∧
      (busy.flush (300 * millisecond)).2 = some [(sample false, .modified)] ∧
      .change (200 * millisecond) (sample false) .modified ∈ busyPast ∧
      300 * millisecond < 200 * millisecond + standard.window := by
  refine ⟨run_busy, ?_, by simp [busyPast], by decide⟩
  have ready : busy.isReady (300 * millisecond) = true := by decide
  rw [flush_of_ready ready]
  simp [busy]

/-! ## Waking up -/

/-- What is left of the quiet window at a time. -/
def windowLeft (debouncer : Debouncer) (now : Nat) : Nat :=
  match debouncer.lastEvent? with
  | none => 0
  | some event => event + debouncer.window - now

/-- What is left of the cooldown at a time. -/
def cooldownLeft (debouncer : Debouncer) (now : Nat) : Nat :=
  match debouncer.lastFlush? with
  | none => 0
  | some flush => flush + debouncer.cooldown - now

/-- The times that a debouncer keeps are over. -/
def TimesOver (debouncer : Debouncer) (now : Nat) : Prop :=
  (∀ event, debouncer.lastEvent? = some event → event ≤ now) ∧
    ∀ flush, debouncer.lastFlush? = some flush → flush ≤ now

/-- A debouncer wakes up when window and cooldown are over, but for a least sleep. -/
theorem nextWake_of_event
    (elapsed : debouncer.TimesOver now) {event : Nat} (known : debouncer.lastEvent? = some event) :
    debouncer.nextWake now =
      max (max (debouncer.windowLeft now) (debouncer.cooldownLeft now)) millisecond := by
  have before := elapsed.1 event known
  unfold nextWake windowLeft cooldownLeft
  simp only [known]
  cases flushed : debouncer.lastFlush? with
  | none =>
      dsimp only
      congr 2
      omega
  | some flush =>
      have earlier := elapsed.2 flush flushed
      dsimp only
      congr 2 <;> omega

/-- A batch is ready from the end of window and cooldown on. -/
theorem isReady_iff_le
    (elapsed : debouncer.TimesOver now) {event : Nat} (known : debouncer.lastEvent? = some event)
    (pending : debouncer.pending ≠ []) {time : Nat} (later : now ≤ time) :
    debouncer.isReady time = true ↔
      now + max (debouncer.windowLeft now) (debouncer.cooldownLeft now) ≤ time := by
  have before := elapsed.1 event known
  rw [isReady_iff]
  unfold windowLeft cooldownLeft
  simp only [known, Option.some.injEq, exists_eq_left', pending, ne_eq, not_false_eq_true,
    and_true]
  cases flushed : debouncer.lastFlush? with
  | none =>
      simp only [reduceCtorEq, false_implies, implies_true, and_true]
      omega
  | some flush =>
      have earlier := elapsed.2 flush flushed
      simp only [Option.some.injEq, forall_eq']
      omega

theorem Remembers.timesOver
    (remembers : Remembers window cooldown past clock debouncer) (later : clock ≤ now) :
    debouncer.TimesOver now := by
  constructor
  · intro event known
    exact ((remembers.event event known).le_clock remembers).trans later
  · intro flush known
    exact (remembers.bounded _ (remembers.batch flush known)).trans later

/-- What is pending is given by every flush from some time on. -/
theorem exists_due
    (run : Run forms (start window cooldown) begun past clock debouncer)
    (pending : debouncer.pending ≠ []) :
    ∃ due, ∀ now, due ≤ now → (debouncer.flush now).2.isSome = true := by
  have remembers := remembers_of_run run
  rcases remembers.lastEvent pending with ⟨last, known, -⟩
  refine ⟨clock + max (debouncer.windowLeft clock) (debouncer.cooldownLeft clock), ?_⟩
  intro now due
  rw [isSome_flush, isReady_iff_le (remembers.timesOver le_rfl) known pending (by omega)]
  exact due

/-- A debouncer that waits for nothing. -/
def Idles (debouncer : Debouncer) : Prop :=
  debouncer.pending = [] ∧ debouncer.lastEvent? = none

theorem Idles.nextWake (idles : debouncer.Idles) : debouncer.nextWake now = idle := by
  simp [Debouncer.nextWake, idles.2]

theorem Idles.flush (idles : debouncer.Idles) : debouncer.flush now = (debouncer, none) := by
  rw [flush_of_empty idles.1, ← idles.2]

theorem idles_of_ready (ready : debouncer.isReady now = true) :
    (debouncer.flush now).1.Idles := by
  rw [flush_of_ready ready]
  exact ⟨rfl, rfl⟩

theorem idles_of_empty (empty : debouncer.pending = []) : (debouncer.flush now).1.Idles := by
  rw [flush_of_empty empty]
  exact ⟨empty, rfl⟩

/-- A debouncer that idles does so until a change is taken in. -/
theorem Idles.of_run
    (idles : first.Idles) (run : Run forms first begun past clock debouncer)
    (unstirred : ∀ time path kind, .change time path kind ∉ past) : debouncer.Idles := by
  refine run.preserves
    (motive := fun past _ debouncer =>
      (∀ time path kind, .change time path kind ∉ past) → debouncer.Idles)
    ?start ?wait ?change ?flush unstirred
  case start =>
    intro unstirred
    exact idles
  case wait =>
    intro past clock now debouncer idles later
    exact idles
  case change =>
    intro past now debouncer normalise path kind run idles known counts unstirred
    exact absurd (by simp) (unstirred now (normalise path) kind)
  case flush =>
    intro past now debouncer run idles unstirred
    apply idles_of_empty
    apply (idles _).1
    intro time path kind member
    exact unstirred time path kind (List.mem_append_left _ member)

/--
The time to the next wake is exact.  While anything is pending, no flush gives a batch before
window and cooldown are over, every later one does, and so does the one at the next wake; it
gives what is pending.  When nothing is pending, the flush at the next wake gives nothing.
Either way the debouncer sleeps for the idle time from then on, and its flushes give nothing,
until another change is taken in.
-/
theorem wakes_once
    (run : Run forms (start window cooldown) begun past clock debouncer)
    {now : Nat} (later : clock ≤ now) :
    let wake := now + debouncer.nextWake now
    (debouncer.pending ≠ [] →
        (∀ time, now ≤ time →
          time < now + max (debouncer.windowLeft now) (debouncer.cooldownLeft now) →
            debouncer.flush time = (debouncer, none)) ∧
          (∀ time, now + max (debouncer.windowLeft now) (debouncer.cooldownLeft now) ≤ time →
            (debouncer.flush time).2.isSome = true) ∧
          ∃ next batch, debouncer.flush wake = (next, some batch) ∧
            batch.Perm debouncer.pending) ∧
      (debouncer.pending = [] → (debouncer.flush wake).2 = none) ∧
      ∀ {others : Set (Path → Path)} {future : List Occurrence} {till : Nat} {sleeper : Debouncer},
        Run others (debouncer.flush wake).1 wake future till sleeper →
          (∀ time path kind, .change time path kind ∉ future) →
            ∀ time, sleeper.nextWake time = idle ∧ sleeper.flush time = (sleeper, none) := by
  intro wake
  have remembers := remembers_of_run run
  have elapsed := remembers.timesOver later
  have woken : debouncer.pending ≠ [] → debouncer.isReady wake = true := by
    intro pending
    rcases remembers.lastEvent pending with ⟨last, known, -⟩
    rw [isReady_iff_le elapsed known pending (Nat.le_add_right _ _)]
    have sleeps := nextWake_of_event elapsed known
    omega
  refine ⟨?pending, ?empty, ?idle⟩
  case pending =>
    intro pending
    rcases remembers.lastEvent pending with ⟨last, known, -⟩
    refine ⟨?early, ?late, ?woken⟩
    case early =>
      intro time behind early
      apply flush_of_unready pending
      rw [← Bool.not_eq_true, isReady_iff_le elapsed known pending behind]
      exact Nat.not_le.2 early
    case late =>
      intro time due
      rw [isSome_flush, isReady_iff_le elapsed known pending (by omega)]
      exact due
    case woken =>
      exact ⟨_, _, flush_of_ready (woken pending), List.mergeSort_perm _ _⟩
  case empty =>
    intro empty
    rw [flush_of_empty empty]
  case idle =>
    intro others future till sleeper slept unstirred time
    have idles : (debouncer.flush wake).1.Idles := by
      by_cases empty : debouncer.pending = []
      · exact idles_of_empty empty
      · exact idles_of_ready (woken empty)
    have sleeping := idles.of_run slept unstirred
    exact ⟨sleeping.nextWake, sleeping.flush⟩

/-- A file changed anew, 100 milliseconds behind a batch. -/
def coolingPast : List Occurrence :=
  [.change 0 (sample false) .modified, .batch (1000 * millisecond),
    .change (1100 * millisecond) (sample false) .modified]

def cooling : Debouncer :=
  { standard with
    pending := [(sample false, .modified)]
    lastEvent? := some (1100 * millisecond)
    lastFlush? := some (1000 * millisecond) }

theorem run_cooling : Run {id} standard 0 coolingPast (1100 * millisecond) cooling := by
  have begun : Run {id} standard 0 [] 0 standard := .start
  have first := begun.record (Set.mem_singleton _) (sample false) .modified
  have batch := (first.wait (Nat.zero_le (1000 * millisecond))).flush
  have later : 1000 * millisecond ≤ 1100 * millisecond := by decide
  have again := (batch.wait later).record (Set.mem_singleton _) (sample false) .modified
  simpa [taken, given, acceptedChange, record, merge?, pending?, put, flush, isReady, standard,
    start, Entries.without, millisecond, coolingPast, cooling] using again

/-- The cooldown is the longer wait: 600 milliseconds are left of it. -/
theorem wakes_once_cooling :
    Run {id} standard 0 coolingPast (1100 * millisecond) cooling ∧
      cooling.nextWake (1200 * millisecond) = 600 * millisecond ∧
      cooling.flush (1799 * millisecond) = (cooling, none) ∧
      ∃ next batch, cooling.flush (1800 * millisecond) = (next, some batch) ∧
        batch.Perm [(sample false, .modified)] ∧
        ∀ time, next.nextWake time = idle := by
  have later : 1100 * millisecond ≤ 1200 * millisecond := by decide
  have woken := wakes_once run_cooling later
  have pending : cooling.pending ≠ [] := by simp [cooling]
  have sleeps : cooling.nextWake (1200 * millisecond) = 600 * millisecond := by decide
  have wake : 1200 * millisecond + cooling.nextWake (1200 * millisecond) =
      1800 * millisecond := by decide
  rw [wake] at woken
  rcases (woken.1 pending).2.2 with ⟨next, batch, flushed, perm⟩
  refine ⟨run_cooling, sleeps, (woken.1 pending).1 _ (by decide) (by decide), next, batch,
    flushed, perm, ?_⟩
  intro time
  have slept : Run {id} (cooling.flush (1800 * millisecond)).1 (1800 * millisecond) []
      (1800 * millisecond) (cooling.flush (1800 * millisecond)).1 := .start
  have sleeping := woken.2.2 slept (by simp) time
  rw [flushed] at sleeping
  exact sleeping.1

end Debouncer

end ModuleBridge
