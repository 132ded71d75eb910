import ModuleBridge.Bridge

/-!
# Making files ready

A file is ready when its record holds the analysis of the text it holds.  A
text that is not known yet is read from disk.  When another text comes in while
the analyzer runs, its answer is dropped and the new text is analysed.
-/

namespace ModuleBridge

/-- Whether making a file ready took an analysis. -/
inductive Readiness where
  | cached
  | analysed
  deriving DecidableEq, Repr, Inhabited

/-- The fault of a record without an analysis. -/
def Fault.noAnalysis (path : Path) : Fault :=
  .analysis path "compilation has no analysis"

namespace Bridge

/-- The text of a file on disk. -/
def sourceOnDisk (disk : Disk) (path : Path) : Except Fault String :=
  match disk.readText path with
  | .ok text => .ok text
  | .error .missing => .error (.notFound path)
  | .error .unreadable => .error (.unreadable path)

/-- Reads the text of a file from disk; what is read was there before the wait. -/
def readSource (setting : Setting) (path : Path) : Attempt String := do
  let outcome := sourceOnDisk setting.disk path
  wait setting (.reading path)
  outcome

/-- Reads the text of a record that has none. -/
def loadSource (setting : Setting) (key : Path) : Attempt Unit := do
  let text ← readSource setting key
  changeRecord key fun record => (record.feed text).1

/-- Stores an analysis and the imports found; tells whether its text is still there. -/
def keepAnalysis (setting : Setting) (key : Path) (revision : Nat) (text : String)
    (analysis : Analysis) : Work Bool := do
  let stored ← updateRecord key fun record =>
    record.storeAnalysis revision analysis (analysis.sections text)
  if stored then
    changeRegistry fun registry =>
      { registry with
        graph := registry.graph.record setting.normalise key analysis.dependencies }
  else
    debug "analyze" ("dropped stale analysis of " ++ key.display)
  return stored

/-- Lets the analyzer look at the text of a revision; tells whether that text is still there. -/
def analyse (setting : Setting) (key : Path) (text : String) (revision : Nat) :
    Attempt Bool := do
  changeRegistry fun registry => { registry with analyses := registry.analyses + 1 }
  debug "analyze"
    (key.display ++ " (rev " ++ toString revision ++ ", " ++ (Digest.of text).short ++ ")")
  note (.analyse key)
  wait setting (.analysing key)
  match setting.analyzer.analyse key text with
  | .error message => throw (.analysis key message)
  | .ok analysis => keepAnalysis setting key revision text analysis

/--
Reads and analyses until the record is valid.  Every step but two needs an
interruption of the schedule, so `bound` need not exceed its length by more.
-/
def settle (setting : Setting) (key : Path) : Nat → Readiness → Attempt Readiness
  | bound, readiness => do
    let record ← recordAt key
    if record.isValid then
      return readiness
    match bound with
    | 0 => throw (.noAnalysis key)
    | bound + 1 =>
      match record.pending? with
      | none =>
        loadSource setting key
        settle setting key bound readiness
      | some (text, revision) =>
        let stored ← analyse setting key text revision
        settle setting key bound (if stored then .analysed else readiness)

/-- Makes a file ready: its key, and whether that took an analysis. -/
def ready (setting : Setting) (path : Path) : Attempt (Path × Readiness) := do
  let key ← openRecord setting path
  let bound := (← get).schedule.length + 2
  let readiness ← settle setting key bound .cached
  changeRecord key Record.markWatched
  return (key, readiness)

/-- The view of a ready record. -/
def viewAt (key : Path) : Attempt View := do
  match (← recordAt key).view? with
  | some view => return view
  | none => throw (.noAnalysis key)

/-- A call that makes a file ready, started together with others. -/
inductive Started where
  | done (outcome : Except Fault (Path × Readiness))
  /-- It waits for the disk. -/
  | reading (key : Path)
  /-- It waits for the call that was started for the same file before it. -/
  | behind (path : Path)

/-- Starts a call that makes a file ready; `readers` are the files that wait for the disk. -/
def startReady (setting : Setting) (readers : List Path) (path : Path) : Work Started := do
  let key ← openRecord setting path
  let record ← recordAt key
  if readers.contains key then
    return .behind path
  else if !record.isValid && record.source?.isNone then
    return .reading key
  else
    return .done (← (ready setting path).run)

/-- Starts calls in order; each runs until it has to wait for the disk. -/
def startAll (setting : Setting) (readers : List Path) : List Path → Work (List Started)
  | [] => return []
  | path :: rest => do
    let started ← startReady setting readers path
    let readers := match started with
      | .reading key => key :: readers
      | .done _ | .behind _ => readers
    return started :: (← startAll setting readers rest)

/-- Goes on when the disk was read, whatever text has come in since the call was started. -/
def resume (setting : Setting) (key : Path) : Attempt (Path × Readiness) := do
  let bound := (← get).schedule.length + 1
  loadSource setting key
  let readiness ← settle setting key bound .cached
  changeRecord key Record.markWatched
  return (key, readiness)

/-- Goes on with a call that was started. -/
def finish (setting : Setting) : Started → Work (Except Fault (Path × Readiness))
  | .done outcome => return outcome
  | .reading key => (resume setting key).run
  | .behind path => (ready setting path).run

/-- Makes files ready at the same time: those that wait for the disk come behind the others. -/
def readyAll (setting : Setting) (paths : List Path) :
    Work (List (Except Fault (Path × Readiness))) := do
  (← startAll setting [] paths).mapM (finish setting)

end Bridge

end ModuleBridge
