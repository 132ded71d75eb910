import ModuleBridge.Console
import ModuleBridge.Entries
import ModuleBridge.Path

/-!
# Debouncing file events

Changes of files are collected until none came for a quiet window, and batches
keep a cooldown between them.  Changes of one file merge: what appeared and
vanished again is no change, and what vanished and came back is reported as the
later event says.

Times are nanoseconds on a clock that does not run backwards.
-/

namespace ModuleBridge

/-- What happened to a file. -/
inductive ChangeKind where
  | created
  | modified
  | removed
  deriving DecidableEq, Repr, Inhabited

/-- The word for a kind of change. -/
def ChangeKind.label : ChangeKind → String
  | .created => "created"
  | .modified => "modified"
  | .removed => "removed"

/-- What a file watcher reports. -/
inductive FileEvent where
  | created
  | removed
  /-- Permissions or times changed. -/
  | metadata
  /-- Content changed, or the file was renamed. -/
  | modified
  /-- A file was only opened, or something unknown happened. -/
  | other
  deriving DecidableEq, Repr, Inhabited

/-- The change that an event stands for. -/
def FileEvent.change? : FileEvent → Option ChangeKind
  | .created => some .created
  | .removed => some .removed
  | .modified => some .modified
  | .metadata | .other => none

/-- Changes that wait for their batch. -/
structure Debouncer where
  pending : List (Path × ChangeKind)
  lastEvent? : Option Nat
  lastFlush? : Option Nat
  window : Nat
  cooldown : Nat
  deriving DecidableEq, Repr, Inhabited

namespace Debouncer

/-- A millisecond in nanoseconds. -/
def millisecond : Nat := 1000000

/-- A second in nanoseconds. -/
def second : Nat := 1000 * millisecond

/-- How long to sleep when nothing waits. -/
def idle : Nat := 3600 * second

/-- A debouncer that has seen nothing. -/
def start (window cooldown : Nat) : Debouncer :=
  ⟨[], none, none, window, cooldown⟩

/-- The usual timing. -/
def standard : Debouncer :=
  start (300 * millisecond) (800 * millisecond)

/-- Extensions of the files that editors leave beside the file that is edited. -/
def artifactExtensions : List String :=
  ["bck", "bak", "backup", "swp", "swo", "tmp"]

/-- A file that an editor made for itself. -/
def isArtifact (path : Path) : Bool :=
  let name := path.fileName?.getD ""
  artifactExtensions.contains (path.extension?.getD "") ||
    name.toList.getLast? == some '~' || name.toList.head? == some '.'

/-- What a further change makes of a pending one; `none` where it adds nothing. -/
def merge? : Option ChangeKind → ChangeKind → Option (Option ChangeKind)
  | none, kind => some (some kind)
  | some .removed, .created => some (some .created)
  | some .removed, .modified => some (some .modified)
  | some .modified, .removed => some (some .removed)
  | some .created, .removed => some none
  | some _, _ => none

/-- The pending change of a path, in its normal form. -/
def pending? (debouncer : Debouncer) (path : Path) : Option ChangeKind :=
  debouncer.pending.lookup path

/-- Puts another pending change for a path, or none. -/
def put (debouncer : Debouncer) (path : Path) (kind? : Option ChangeKind) : Debouncer :=
  let others := Entries.without debouncer.pending path
  { debouncer with pending := others ++ (kind?.map fun kind => (path, kind)).toList }

/-- What is put for a path is what is pending for it. -/
@[simp]
theorem pending?_put_self (debouncer : Debouncer) (path : Path) (kind? : Option ChangeKind) :
    (debouncer.put path kind?).pending? path = kind? := by
  cases kind? <;> simp [put, pending?, List.lookup_append]

/-- What is put for one path leaves the others alone. -/
theorem pending?_put_of_ne {path other : Path} (different : other ≠ path) (debouncer : Debouncer)
    (kind? : Option ChangeKind) :
    (debouncer.put path kind?).pending? other = debouncer.pending? other := by
  have apart : (other == path) = false := by simpa using different
  cases kind? with
  | none => simp [put, pending?, Entries.lookup_without_of_ne different]
  | some kind =>
    simp [put, pending?, List.lookup_append, List.lookup_cons, apart,
      Entries.lookup_without_of_ne different]

/-- Takes a change of a path at a time; changes of editor artifacts do not count. -/
def record (normalise : Path → Path) (debouncer : Debouncer) (now : Nat) (path : Path)
    (kind : ChangeKind) : Debouncer :=
  if isArtifact path then
    debouncer
  else
    let path := normalise path
    match merge? (debouncer.pending? path) kind with
    | some kind? => { debouncer.put path kind? with lastEvent? := some now }
    | none => debouncer

/-- Tells of a change that is about to be the first one pending for its path. -/
def announce (normalise : Path → Path) (debouncer : Debouncer) (path : Path) (kind : ChangeKind)
    (console : Console) : Console :=
  if isArtifact path ∨ (debouncer.pending? (normalise path)).isSome then console
  else console.debug "watch" (kind.label ++ " " ++ (normalise path).text)

/-- Takes an event of a file watcher. -/
def push (normalise : Path → Path) (debouncer : Debouncer) (now : Nat) (event : FileEvent)
    (paths : List Path) : Debouncer :=
  match event.change? with
  | none => debouncer
  | some kind =>
    paths.foldl (fun debouncer path => debouncer.record normalise now path kind) debouncer

/-- Tells of the changes that an event is about to bring. -/
def announceEvent (normalise : Path → Path) (debouncer : Debouncer) (now : Nat)
    (event : FileEvent) (paths : List Path) (console : Console) : Console :=
  match event.change?, paths with
  | some kind, path :: rest =>
    announceEvent normalise (debouncer.record normalise now path kind) now event rest
      (debouncer.announce normalise path kind console)
  | _, _ => console

/-- A batch can be taken: there is one, the window is over, and so is the cooldown. -/
def isReady (debouncer : Debouncer) (now : Nat) : Bool :=
  match debouncer.lastEvent? with
  | none => false
  | some event =>
    debouncer.window ≤ now - event &&
      (debouncer.lastFlush?.all fun flush => debouncer.cooldown ≤ now - flush) &&
      !debouncer.pending.isEmpty

/-- Takes the pending changes in the order of their paths, when a batch is ready. -/
def flush (debouncer : Debouncer) (now : Nat) :
    Debouncer × Option (List (Path × ChangeKind)) :=
  if debouncer.pending.isEmpty then
    ({ debouncer with lastEvent? := none }, none)
  else if debouncer.isReady now then
    let batch := debouncer.pending.mergeSort fun left right => left.1.le right.1
    ({ debouncer with pending := [], lastEvent? := none, lastFlush? := some now }, some batch)
  else
    (debouncer, none)

/-- A batch holds the pending changes, each once. -/
theorem flush_perm {debouncer later : Debouncer} {now : Nat} {batch : List (Path × ChangeKind)}
    (flushed : debouncer.flush now = (later, some batch)) : batch.Perm debouncer.pending := by
  unfold flush at flushed
  split at flushed
  · simp at flushed
  · split at flushed
    · simp only [Prod.mk.injEq, Option.some.injEq] at flushed
      exact flushed.2 ▸ List.mergeSort_perm _ _
    · simp at flushed

/-- The time until a batch could be ready; at least a millisecond. -/
def nextWake (debouncer : Debouncer) (now : Nat) : Nat :=
  match debouncer.lastEvent? with
  | none => idle
  | some event =>
    let windowLeft := debouncer.window - (now - event)
    let cooldownLeft := match debouncer.lastFlush? with
      | none => 0
      | some flush => debouncer.cooldown - (now - flush)
    max (max windowLeft cooldownLeft) millisecond

end Debouncer

end ModuleBridge
