import ModuleBridge.Proofs.Bridge.Owners

/-!
# Jobs

A job is something that a bridge is asked for, in surroundings of its own.  In
every run of jobs, whatever comes in meanwhile, a pipeline is only given files
under the normal form of a path that a job is about and that the pipeline owns.
What a pipeline is served for a file that it does not own has nothing of the file
in it.
-/

namespace ModuleBridge

/-- Something that a bridge is asked for. -/
inductive Service where
  | load (plugin : Plugin) (id : String)
  | transform (plugin : Plugin) (code id : String)
  | hotUpdate (plugin : Plugin) (file : Path) (text : String)
  | crossBuild (path : Path)
  | rebuild (path : Path)
  | dispatch (changes : List (Path × ChangeKind))

/-- A service in its surroundings. -/
structure Job where
  setting : Setting
  service : Service

namespace Job

open Bridge

/-- The bridge after a job. -/
def run (job : Job) (bridge : Bridge) : Bridge :=
  match job.service with
  | .load plugin id => endOf (load job.setting plugin id).run bridge
  | .transform plugin code id => endOf (transform job.setting plugin code id).run bridge
  | .hotUpdate plugin file text => endOf (hotUpdate job.setting plugin file text) bridge
  | .crossBuild path => endOf (crossBuild job.setting path) bridge
  | .rebuild path => endOf (rebuildChanged job.setting path).run bridge
  | .dispatch changes => endOf (dispatch job.setting changes) bridge

/-- The bridge after jobs one after another. -/
def runAll (jobs : List Job) (bridge : Bridge) : Bridge :=
  jobs.foldl (fun bridge job => job.run bridge) bridge

/-- The pipeline that asks, where one does, is bound. -/
def AskedBy (plugins : Plugins) (job : Job) : Prop :=
  match job.service with
  | .load plugin _ | .transform plugin _ _ | .hotUpdate plugin _ _ => plugin ∈ plugins.items
  | .crossBuild _ | .rebuild _ | .dispatch _ => True

/--
The paths that a job is about, where pipelines may be given them.  All are normal
forms but for a cross build, which takes the path as it is written.
-/
def Names (job : Job) (path : Path) : Prop :=
  match job.service with
  | .load _ id | .transform _ _ id => path = Event.fileOf job.setting id
  | .hotUpdate _ _ _ => False
  | .crossBuild written => path = written
  | .rebuild written => path = job.setting.normalise written
  | .dispatch changes => ∃ change ∈ changes, path = job.setting.normalise change.1

/-- A pipeline that is given a file owns a path of the job, and the file is its normal form. -/
def Hands (plugins : Plugins) (job : Job) (call : Call) : Prop :=
  ∀ worker file, call.handed? = some (worker, file) →
    ∃ path, job.Names path ∧ (plugins.owner path).id = worker ∧ file = job.setting.normalise path

/-- The normal forms of the paths that a job is about have the owners of the paths. -/
def KeepsOwners (plugins : Plugins) (job : Job) : Prop :=
  ∀ path, job.Names path → plugins.owner (job.setting.normalise path) = plugins.owner path

theorem hands_of_free
    {call : Call} (free : call.handed? = none) (plugins : Plugins) (job : Job) :
    job.Hands plugins call := by
  intro worker file handed
  rw [free] at handed
  cases handed

theorem hands_of_named
    {job : Job} {path : Path} (names : job.Names path) {plugins : Plugins} {call : Call}
    (own :
      call.handed? = some ((plugins.owner path).id, job.setting.normalise path)) :
    job.Hands plugins call := by
  intro worker file handed
  rcases Prod.mk.inj (Option.some.inj (own.symm.trans handed)) with ⟨owner, normal⟩
  exact ⟨path, names, owner, normal.symm⟩

end Job

namespace Bridge

variable {setting : Setting} {plugins : Plugins} {allowed : Call → Prop}

/-! ## Batches -/

/-- What is told of a rebuild. -/
def tellRebuilt (path : Path) (outcome : Except Fault (List String)) : Work (List SessionEvent) :=
  match outcome with
  | .ok [] => return []
  | .ok pipelines => do
    log "watch"
      ("rebuilt " ++ path.display ++ " (" ++ String.intercalate ", " pipelines ++ ")")
    return [.rebuilt path pipelines]
  | .error fault => do
    log "watch" (path.display ++ ": " ++ fault.message)
    return []

theorem endOf_dispatch_cons
    (setting : Setting) (change : Path × ChangeKind) (rest : List (Path × ChangeKind))
    (bridge : Bridge) :
    endOf (dispatch setting (change :: rest)) bridge =
      endOf (dispatch setting rest) (endOf (answer setting change) bridge) := by
  simp only [dispatch, List.mapM_cons, endOf_bind, endOf_pure]

section

variable {rel : Bridge → Bridge → Prop} [IsPreorder Bridge rel]
  (prints : ∀ show? : Console → Console, Keeps rel (print show?))

include prints

theorem keeps_tellRebuilt (path : Path) (outcome : Except Fault (List String)) :
    Keeps rel (tellRebuilt path outcome) := by
  unfold tellRebuilt
  split
  · exact keeps_pure _
  · exact keeps_bind (prints _) fun _ => keeps_pure _
  · exact keeps_bind (prints _) fun _ => keeps_pure _

theorem keeps_answerListed (path : Path) (kind : ChangeKind) :
    Keeps rel (answerListed setting path kind) := by
  refine keeps_bind (keeps_bind keeps_get fun _ => keeps_pure _) ?_
  intro dependents?
  cases dependents? with
  | none => exact keeps_pure _
  | some dependents => exact keeps_bind (prints _) fun _ => keeps_pure _

/-- Answering a change is a rebuild at most, apart from what is printed. -/
theorem keeps_answer
    {change : Path × ChangeKind} (rebuilds : Keeps rel (rebuildChanged setting change.1).run) :
    Keeps rel (answer setting change) := by
  rcases change with ⟨path, kind⟩
  cases kind with
  | modified => exact keeps_bind rebuilds fun outcome => keeps_tellRebuilt prints path outcome
  | created => exact keeps_answerListed prints path _
  | removed => exact keeps_answerListed prints path _

end

/-! ## Runs -/

/-- A job leaves a bridge orderly, and gives files to owners of the paths it is about. -/
theorem serves_run
    {job : Job} (asked : job.AskedBy plugins) (bridge : Bridge) :
    Serves plugins (job.Hands plugins) bridge (job.run bridge) := by
  have free : ∀ call : Call, call.handed? = none → job.Hands plugins call :=
    fun call none => Job.hands_of_free none plugins job
  have own : ∀ path, job.Names path → ∀ call : Call,
      call.handed? = some ((plugins.owner path).id, job.setting.normalise path) →
        job.Hands plugins call :=
    fun path names call handed => Job.hands_of_named names handed
  rcases job with ⟨setting, service⟩
  cases service with
  | load plugin id => exact serves_load free asked (own _ rfl) bridge
  | transform plugin code id =>
      refine keeps_ite ?_ ?_ bridge
      · exact serves_load free asked (own _ rfl)
      · exact keeps_attempt_pure _
  | hotUpdate plugin file text =>
      refine keeps_ite ?_ (keeps_pure _) bridge
      exact keeps_bind (serves_update free _ _ file text) fun _ => keeps_pure _
  | crossBuild path => exact serves_crossBuild free (own _ rfl) bridge
  | rebuild path => exact serves_rebuildChanged free (own _ rfl) bridge
  | dispatch changes =>
      refine keeps_bind (keeps_mapM_of_mem ?_) (fun _ => keeps_pure _) bridge
      intro change member
      exact keeps_answer (fun show? => serves_of_apart (apart_print show?) (blind_print show?))
        (serves_rebuildChanged free (own _ ⟨change, member, rfl⟩))

theorem Makes.mono
    {wider : Call → Prop} {before after : Bridge}
    (makes : Makes allowed before after) (permits : ∀ call, allowed call → wider call) :
    Makes wider before after := by
  rcases makes with ⟨calls, journal, permitted⟩
  exact ⟨calls, journal, fun call made => permits call (permitted call made)⟩

/-- Of the calls that jobs make, each gives a file to an owner as one of the jobs may. -/
theorem serves_runAll
    {jobs : List Job} (asked : ∀ job ∈ jobs, job.AskedBy plugins)
    (permits : ∀ job ∈ jobs, ∀ call, job.Hands plugins call → allowed call)
    (bridge : Bridge) :
    Serves plugins allowed bridge (Job.runAll jobs bridge) := by
  induction jobs generalizing bridge with
  | nil => exact refl_of _ bridge
  | cons job rest inductionHypothesis =>
      have first : Serves plugins allowed bridge (job.run bridge) := by
        intro orderly
        rcases serves_run (asked job List.mem_cons_self) bridge orderly with
          ⟨orderlyThen, calls⟩
        exact ⟨orderlyThen, calls.mono (permits job List.mem_cons_self)⟩
      have later :=
        inductionHypothesis (fun other member => asked other (List.mem_cons_of_mem job member))
          (fun other member => permits other (List.mem_cons_of_mem job member)) (job.run bridge)
      exact trans_of (Serves plugins allowed) first later

/-! ## Files that a pipeline does not own -/

/-- What a pipeline is served in place of a file that it does not own. -/
def standIn (plugins : Plugins) (plugin : Plugin) (path : Path) (found : List Path) : Served :=
  if (plugins.owner path).target = .server ∧ plugin.target = .bundled then
    .ofCode (Stub.aggregate found)
  else .ofCode (Stub.inert path plugin.name)

theorem resultOf_serve_of_other
    {plugin : Plugin} {path : Path} {bridge : Bridge}
    (bound : bridge.plugins.Bound) (member : plugin ∈ bridge.plugins.items)
    (other : (bridge.plugins.owner path).id ≠ plugin.id) (resource : Resource) (key : Path) :
    resultOf (serve setting plugin resource path key).run bridge =
      .ok (standIn bridge.plugins plugin path
        (resultOf (localDependencies setting path) bridge)) := by
  rw [serve]
  rw [run_get_bind, resultOf_bind, resultOf_get, endOf_get,
    Plugins.sight_of_other bound member other, standIn]
  by_cases aggregates :
      (bridge.plugins.owner path).target = .server ∧ plugin.target = .bundled
  · rw [if_pos aggregates, if_pos aggregates]
    rfl
  · rw [if_neg aggregates, if_neg aggregates]
    rfl

/-- A preparation leaves the pipelines as they are. -/
theorem plugins_prepare (plugin : Plugin) (path : Path) (bridge : Bridge) :
    (endOf (prepare setting plugin path).run bridge).plugins = bridge.plugins := by
  have routine :
      Follows anything (Routine setting anything fun _ _ => True) bridge
        (endOf (prepare setting plugin path).run bridge) :=
    routine_prepare (fun _ _ => trivial) (fun _ => trivial) bridge
  exact (routine fun _ _ _ _ => trivial).plugins

/-- Past analysis, a pipeline is served a stand-in for a file that it does not own. -/
theorem resultOf_load_of_other
    {plugin : Plugin} {id : String} {found : Path × Readiness} {bridge : Bridge}
    (bound : bridge.plugins.Bound) (member : plugin ∈ bridge.plugins.items)
    (other : (bridge.plugins.owner (Event.fileOf setting id)).id ≠ plugin.id)
    (accepted : setting.filter.accepts id = true)
    (readied : resultOf (ready setting (Event.fileOf setting id)).run bridge = .ok found) :
    let path := Event.fileOf setting id
    let prepared := endOf (prepare setting plugin path).run bridge
    resultOf (load setting plugin id).run bridge =
      .ok (some (standIn bridge.plugins plugin path
        (resultOf (localDependencies setting path) prepared))) := by
  intro path prepared
  have prepares := (prepare_of_ready nobody plugin watching_watcherMarks readied).2
  have stays : prepared.plugins = bridge.plugins := plugins_prepare plugin path bridge
  rw [← stays] at bound member other ⊢
  have serves :
      resultOf
          (serve setting plugin (Resource.parse setting.config.resolve id) path
            (setting.normalise path)).run
          prepared = _ :=
    resultOf_serve_of_other bound member other _ _
  rw [load_of_accepted accepted, (attempt_of_ok prepares _).1, (attempt_of_ok serves _).1]
  rfl

end Bridge

end ModuleBridge
