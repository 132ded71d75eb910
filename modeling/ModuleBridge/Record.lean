import ModuleBridge.Analysis
import ModuleBridge.Artifact
import ModuleBridge.Digest
import ModuleBridge.Entries

/-!
# Records

What is known about one source file: its text, the analysis of that text, the
last artifact built from it, and what each observer of the file dealt with
last.  Texts are told apart by their digests.

Another text clears what was derived from the one before and counts the
revision up; an analysis or an artifact made at an older revision is dropped.
-/

namespace ModuleBridge

/-- Who judges incoming text against the text it dealt with last. -/
inductive Observer where
  /-- Hot updates asked for by a pipeline. -/
  | pipeline (id : Nat)
  /-- The watcher of files built by auxiliary pipelines. -/
  | watcher
  deriving DecidableEq, Repr, Inhabited

/-- The observer as it is written into a log. -/
def Observer.describe : Observer → String
  | .pipeline id => "Pipeline(PluginId(" ++ toString id ++ "))"
  | .watcher => "Watcher"

/-- Whether an incoming text differs from the one it is compared with. -/
inductive Fed where
  | unchanged
  | changed
  deriving DecidableEq, Repr, Inhabited

/-- Whether a file is followed by hot updates, and how far it is behind. -/
inductive WatchState where
  | unwatched
  | clean
  | dirty
  deriving DecidableEq, Repr, Inhabited

/-- An analysis with the digest of the text it was made from. -/
structure Analysed where
  digest : Digest
  analysis : Analysis
  sections : Snapshot
  deriving DecidableEq, Repr, Inhabited

/-- The last artifact, with what it was built for. -/
structure Slot where
  plugin : Nat
  revision : Nat
  selector? : Option String
  artifact : Artifact
  deriving DecidableEq, Repr, Inhabited

/-- The text an observer dealt with last. -/
structure Memory where
  digest : Digest
  /-- The sections it acted on last. -/
  sections? : Option Snapshot
  deriving DecidableEq, Repr, Inhabited

/-- An analysed text at its revision, as pipelines see it. -/
structure View where
  path : Path
  revision : Nat
  source : String
  analysis : Analysis
  sections : Snapshot
  deriving DecidableEq, Repr, Inhabited

/-- What an observer is told about a text. -/
structure Observation where
  change : Fed
  previous? : Option Snapshot
  deriving DecidableEq, Repr, Inhabited

/-- All that is known about a file. -/
structure Record where
  path : Path
  source? : Option String
  digest? : Option Digest
  /-- Counts the texts the file has had. -/
  revision : Nat
  analysed? : Option Analysed
  slot? : Option Slot
  watch : WatchState
  memories : List (Observer × Memory)
  deriving DecidableEq, Repr, Inhabited

namespace Record

/-- A file of which nothing is known. -/
def fresh (path : Path) : Record :=
  ⟨path, none, none, 0, none, none, .unwatched, []⟩

/-- The analysis was made from the text there is. -/
def isValid (record : Record) : Bool :=
  match record.analysed?, record.digest? with
  | some analysed, some digest => analysed.digest == digest
  | _, _ => false

/-- The text is the one there is. -/
def matchesText (record : Record) (text : String) : Bool :=
  record.digest? == some (Digest.of text)

/-- The analysis there is. -/
def analysis? (record : Record) : Option Analysis :=
  record.analysed?.map Analysed.analysis

/-- The sections of the analysed text. -/
def sections? (record : Record) : Option Snapshot :=
  record.analysed?.map Analysed.sections

/-- The diagnostics of the analysis. -/
def diagnostics (record : Record) : List Diagnostic :=
  (record.analysis?.map Analysis.diagnostics).getD []

/-- The imports found by the analysis. -/
def dependencies (record : Record) : List Path :=
  (record.analysis?.map Analysis.dependencies).getD []

/-- The analysis says that the file never produces code. -/
def isDescriptionOnly (record : Record) : Bool :=
  record.analysis?.any Analysis.descriptionOnly

/-- The analysed text as pipelines see it. -/
def view? (record : Record) : Option View := do
  let analysed ← record.analysed?
  let source ← record.source?
  some ⟨record.path, record.revision, source, analysed.analysis, analysed.sections⟩

/-- The text that is to be analysed, and its revision. -/
def pending? (record : Record) : Option (String × Nat) :=
  record.source?.map fun source => (source, record.revision)

/-- Takes a text in; one with another digest replaces the text and clears what was derived. -/
def replace (record : Record) (text : String) (digest : Digest) : Record :=
  if record.digest? = some digest then
    record
  else
    { record with
      source? := some text
      digest? := some digest
      revision := record.revision + 1
      analysed? := none
      slot? := none }

/-- A text with the digest of the one there is changes nothing. -/
theorem replace_of_digest {record : Record} {digest : Digest}
    (same : record.digest? = some digest) (text : String) :
    record.replace text digest = record := by
  simp [replace, same]

/-- After a text came in, its digest is the record's. -/
@[simp]
theorem digest?_replace (record : Record) (text : String) (digest : Digest) :
    (record.replace text digest).digest? = some digest := by
  by_cases same : record.digest? = some digest <;> simp [replace, same]

/-- The revision is never counted down. -/
theorem revision_le_replace (record : Record) (text : String) (digest : Digest) :
    record.revision ≤ (record.replace text digest).revision := by
  by_cases same : record.digest? = some digest <;> simp [replace, same]

/-- Whether a text differs from the one that is compared by its digest. -/
def judge (last? : Option Digest) (digest : Digest) : Fed :=
  if last? = some digest then .unchanged else .changed

/-- Takes a text in and tells whether it is another one. -/
def feed (record : Record) (text : String) : Record × Fed :=
  let digest := Digest.of text
  (record.replace text digest, judge record.digest? digest)

/-- What an observer dealt with last. -/
def memory? (record : Record) (observer : Observer) : Option Memory :=
  record.memories.lookup observer

/-- Gives an observer another memory. -/
def remember (record : Record) (observer : Observer) (memory : Memory) : Record :=
  { record with memories := (observer, memory) :: Entries.without record.memories observer }

/-- An observer remembers what it was given. -/
@[simp]
theorem memory?_remember_self (record : Record) (observer : Observer) (memory : Memory) :
    (record.remember observer memory).memory? observer = some memory := by
  simp [remember, memory?]

/-- What one observer is given, the others do not notice. -/
theorem memory?_remember_of_ne {observer other : Observer} (different : other ≠ observer)
    (record : Record) (memory : Memory) :
    (record.remember observer memory).memory? other = record.memory? other := by
  have apart : (other == observer) = false := by simpa using different
  simp [remember, memory?, List.lookup_cons, apart, Entries.lookup_without_of_ne different]

/--
Takes a text in on behalf of an observer.  It is compared with what this
observer dealt with last, or with the text there is.
-/
def observe (record : Record) (observer : Observer) (text : String) : Record × Observation :=
  let digest := Digest.of text
  let (last?, previous?) := match record.memory? observer with
    | some memory => (some memory.digest, memory.sections?)
    | none => (record.digest?, record.sections?)
  ((record.replace text digest).remember observer ⟨digest, previous?⟩,
    ⟨judge last? digest, previous?⟩)

/-- An observer has dealt with the text of a revision; one of an older revision does not count. -/
def markSeen (record : Record) (observer : Observer) (revision : Nat) : Record :=
  match record.digest? with
  | some digest =>
    if record.revision = revision then record.remember observer ⟨digest, record.sections?⟩
    else record
  | none => record

/-- Stores the analysis of the text of a revision; tells whether it is still that text. -/
def storeAnalysis (record : Record) (revision : Nat) (analysis : Analysis)
    (sections : Snapshot) : Record × Bool :=
  match record.digest? with
  | some digest =>
    if record.revision = revision then
      ({ record with analysed? := some ⟨digest, analysis, sections⟩ }, true)
    else
      (record, false)
  | none => (record, false)

/-- A stored analysis makes the record valid. -/
theorem isValid_storeAnalysis {record : Record} {revision : Nat} {analysis : Analysis}
    {sections : Snapshot} (stored : (record.storeAnalysis revision analysis sections).2 = true) :
    (record.storeAnalysis revision analysis sections).1.isValid = true := by
  unfold storeAnalysis at stored ⊢
  split at stored
  · rename_i digest known
    split at stored
    · rename_i current
      simp [known, current, isValid]
    · simp at stored
  · simp at stored

/-- The artifact built by a pipeline from a revision for a selector. -/
def builtFor? (record : Record) (plugin revision : Nat) (selector? : Option String) :
    Option Artifact :=
  (record.slot?.filter fun slot =>
    slot.plugin == plugin && slot.revision == revision && slot.selector? == selector?).map
      Slot.artifact

/-- The artifact to serve again: one that read no directories. -/
def reusable? (record : Record) (plugin revision : Nat) (selector? : Option String) :
    Option Artifact :=
  (record.builtFor? plugin revision selector?).filter fun artifact => !artifact.hasGroups

/-- The last artifact read directories. -/
def readFolders (record : Record) : Bool :=
  record.slot?.any fun slot => slot.artifact.hasGroups

/-- Stores an artifact; tells whether the text is still the one it was built from. -/
def storeBuild (record : Record) (slot : Slot) : Record × Bool :=
  if record.revision = slot.revision ∧ record.analysed?.isSome then
    ({ record with slot? := some slot }, true)
  else
    (record, false)

/-- Puts the record into a watch state. -/
def setWatch (record : Record) (watch : WatchState) : Record :=
  { record with watch := watch }

/-- A file that was not followed is clean once it has been analysed. -/
def markWatched (record : Record) : Record :=
  if record.watch = .unwatched then record.setWatch .clean else record

end Record

end ModuleBridge
