import ModuleBridge.Proofs.Bridge.TwinLoads

/-!
# Runs by twins

Two runs do the same jobs one after another, but what the one finds on disk for
some file or is handed as its text, the other may find or be handed otherwise.  As
long as both texts can be analysed and have the same imports, the runs stay twins.
-/

namespace ModuleBridge.Bridge

variable {file : Path} {setting : Setting} {disk : Disk} {left right : Bridge}

/-! ## Jobs side by side -/

section

variable {α β : Type}

/-- Work that goes on from different results is to leave twins from any two. -/
theorem paired_bind_any
    {first second : Work α} {next after : α → Work β}
    (begun : Paired file first second)
    (rest : ∀ value other, Paired file (next value) (after other)) :
    Paired file (first >>= next) (second >>= after) :=
  fun left right twins => rest _ _ _ _ (begun left right twins)

theorem paired_mapM
    {items : List α} {body other : α → Work β}
    (each : ∀ item, Paired file (body item) (other item)) :
    Paired file (items.mapM body) (items.mapM other) := by
  induction items with
  | nil => exact (matched_pure []).paired
  | cons item rest inductionHypothesis =>
      rw [List.mapM_cons, List.mapM_cons]
      refine paired_bind_any (each item) ?_
      intro _ _
      refine paired_bind_any inductionHypothesis ?_
      intro _ _
      exact paired_of_apart (keeps_pure _) (keeps_pure _)

end

section

variable (besides : setting.Besides file disk)

include besides

theorem paired_crossBuild (path : Path) :
    Paired file (crossBuild setting path) (crossBuild (setting.onDisk disk) path) := by
  by_cases here : setting.normalise path = file
  · have awayThere :
        Keeps (Away ((setting.onDisk disk).normalise path))
          (crossBuild (setting.onDisk disk) path) :=
      away_crossBuild path
    rw [besides.normalise, here] at awayThere
    have away : Keeps (Away (setting.normalise path)) (crossBuild setting path) :=
      away_crossBuild path
    rw [here] at away
    exact paired_of_away away awayThere
  · exact (matched_crossBuild besides here).paired

/-- An update of the file itself may be given different texts. -/
theorem paired_update_file
    {written : Path} (here : setting.normalise (setting.normalise written) = file)
    (requester : Nat) (suffix? : Option String) (text other : String) :
    Paired file (update setting requester suffix? written text)
      (update (setting.onDisk disk) requester suffix? written other) := by
  have there :
      (setting.onDisk disk).normalise ((setting.onDisk disk).normalise written) = file := by
    rw [besides.normalise, besides.normalise, here]
  exact paired_of_away ((Away.bears setting file).update here requester suffix? text)
    ((Away.bears (setting.onDisk disk) file).update there requester suffix? other)

omit besides in
theorem paired_hotUpdate
    {path : Path} {text other : String} {plugin : Plugin}
    (updates :
      Paired file (update setting plugin.id plugin.options.formationSuffix? path text)
        (update (setting.onDisk disk) plugin.id plugin.options.formationSuffix? path other)) :
    Paired file (hotUpdate setting plugin path text)
      (hotUpdate (setting.onDisk disk) plugin path other) := by
  by_cases takes : (setting.config.hotEnabled && setting.filter.accepts path.text) = true
  · have takesThere :
        ((setting.onDisk disk).config.hotEnabled &&
          (setting.onDisk disk).filter.accepts path.text) = true := takes
    rw [hotUpdate, if_pos takes, hotUpdate, if_pos takesThere]
    exact paired_bind_any updates fun _ _ => paired_of_apart (keeps_pure _) (keeps_pure _)
  · have leavesThere :
        ¬((setting.onDisk disk).config.hotEnabled &&
          (setting.onDisk disk).filter.accepts path.text) = true := takes
    rw [hotUpdate, if_neg takes, hotUpdate, if_neg leavesThere]
    exact (matched_pure _).paired

variable (stable : setting.normalise file = file)

include stable

theorem paired_rebuildChanged (path : Path) :
    Paired file (rebuildChanged setting path).run
      (rebuildChanged (setting.onDisk disk) path).run := by
  by_cases here : setting.normalise (setting.normalise path) = file
  · have awayThere :
        Keeps
          (Away ((setting.onDisk disk).normalise ((setting.onDisk disk).normalise path)))
          (rebuildChanged (setting.onDisk disk) path).run :=
      away_rebuildChanged path
    rw [besides.normalise, besides.normalise, here] at awayThere
    have away :
        Keeps (Away (setting.normalise (setting.normalise path)))
          (rebuildChanged setting path).run :=
      away_rebuildChanged path
    rw [here] at away
    exact paired_of_away away awayThere
  · have read : setting.normalise path ≠ file := by
      intro same
      rw [same] at here
      exact here stable
    exact (matched_rebuildChanged besides read here).paired

theorem paired_answer (change : Path × ChangeKind) :
    Paired file (answer setting change) (answer (setting.onDisk disk) change) := by
  rcases change with ⟨path, kind⟩
  cases kind with
  | modified =>
      refine paired_bind_any (paired_rebuildChanged besides stable path) ?_
      intro outcome other
      exact paired_of_apart (keeps_tellRebuilt apart_print path outcome)
        (keeps_tellRebuilt apart_print path other)
  | created =>
      exact paired_of_apart (keeps_answerListed apart_print path _)
        (keeps_answerListed apart_print path _)
  | removed =>
      exact paired_of_apart (keeps_answerListed apart_print path _)
        (keeps_answerListed apart_print path _)

end

/-! ## Runs side by side -/

/-- What is asked brings no result. -/
def harmless (_ : Path) (action : Record.Action) : Prop :=
  ∀ record origin, Record.Timely origin record action

/-- A job asks for no results beyond the routine. -/
theorem follows_run (job : Job) (bridge : Bridge) :
    Follows nobody (Routine job.setting nobody harmless) bridge (job.run bridge) := by
  have watching : Watching harmless := fun _ _ _ _ => trivial
  rcases job with ⟨setting, service⟩
  cases service with
  | load plugin id => exact routine_load watching (fun _ _ _ => trivial) bridge
  | transform plugin code id =>
      refine keeps_ite ?_ (keeps_attempt_pure _) bridge
      exact routine_load watching fun _ _ _ => trivial
  | hotUpdate plugin path text =>
      refine keeps_ite (keeps_bind ?_ fun _ => keeps_pure _) (keeps_pure _) bridge
      exact routine_update ⟨fun _ _ _ => trivial, fun _ _ _ => trivial⟩ (fun _ _ => trivial) _
  | crossBuild path => exact routine_crossBuild watching path bridge
  | rebuild path => exact routine_rebuildChanged watching (fun _ _ _ _ => trivial) bridge
  | dispatch changes =>
      refine keeps_bind (keeps_mapM_of_mem ?_) (fun _ => keeps_pure _) bridge
      intro change _
      exact keeps_answer (fun show? => keeps_follows_of_apart (apart_print show?))
        (routine_rebuildChanged watching fun _ _ _ _ => trivial)

theorem steady_job_run
    {analyzer : Analyzer} {job : Job} {bridge : Bridge}
    (same : job.setting.analyzer = analyzer) (steady : Steady analyzer bridge) :
    Steady analyzer (job.run bridge) ∧ (job.run bridge).plugins = bridge.plugins := by
  subst same
  have progress := follows_run job bridge steady.quiet
  exact ⟨progress.steady (fun _ _ timely => timely) steady, progress.plugins⟩

/--
Services that are the same but for texts of a file: a new text for it, or the
code that the host has for a module, as long as it has some in both.
-/
inductive Alike (file : Path) (setting : Setting) : Service → Service → Prop where
  | same (service : Service) : Alike file setting service service
  | update (plugin : Plugin) {path : Path} (text other : String)
      (here : setting.normalise (setting.normalise path) = file) :
      Alike file setting (.hotUpdate plugin path text) (.hotUpdate plugin path other)
  | transform (plugin : Plugin) {code other : String} (id : String)
      (same : other.isEmpty = code.isEmpty) :
      Alike file setting (.transform plugin code id) (.transform plugin other id)

/-- A job of two runs that differ only in the text of a file, and what is on disk in the other. -/
structure Fork where
  setting : Setting
  disk : Disk
  service : Service
  other : Service

/-- The job of the one run. -/
def Fork.first (fork : Fork) : Job := ⟨fork.setting, fork.service⟩

/-- The job of the other run. -/
def Fork.second (fork : Fork) : Job := ⟨fork.setting.onDisk fork.disk, fork.other⟩

/-- The jobs of both differ in no more than the text of the file. -/
structure Fork.About (file : Path) (analyzer : Analyzer) (fork : Fork) : Prop where
  analyzer : fork.setting.analyzer = analyzer
  besides : fork.setting.Besides file fork.disk
  stable : fork.setting.normalise file = file
  alike : Alike file fork.setting fork.service fork.other

/--
Bridges that two runs come to from one bridge, when they differ in no more than the
text of a file, which at every job can be analysed and has the same imports in both.
-/
inductive Parallel (file : Path) (analyzer : Analyzer) (origin : Bridge) :
    Bridge → Bridge → Prop where
  | start : Parallel file analyzer origin origin origin
  | next {left right : Bridge} (fork : Fork)
      (before : Parallel file analyzer origin left right)
      (about : fork.About file analyzer)
      (same : SameImports file fork.setting fork.disk left right) :
      Parallel file analyzer origin (fork.first.run left) (fork.second.run right)

/-- A job of both runs leaves twins. -/
theorem twins_run
    {analyzer : Analyzer} {fork : Fork}
    (steady : Steady analyzer left) (steadyRight : Steady analyzer right)
    (twins : Twins file left right) (about : fork.About file analyzer)
    (same : SameImports file fork.setting fork.disk left right) :
    Twins file (fork.first.run left) (fork.second.run right) := by
  rcases fork with ⟨setting, disk, service, another⟩
  rcases about with ⟨rfl, besides, stable, alike⟩
  dsimp only at steady steadyRight besides stable alike same
  have transforms : ∀ plugin id code other, other.isEmpty = code.isEmpty →
      Twins file (endOf (transform setting plugin code id).run left)
        (endOf (transform (setting.onDisk disk) plugin other id).run right) := by
    intro plugin id code other empty
    by_cases loads : (setting.filter.accepts id && code.isEmpty) = true
    · have loadsThere :
          ((setting.onDisk disk).filter.accepts id && other.isEmpty) = true := by
        rw [empty]
        exact loads
      rw [transform, if_pos loads, transform, if_pos loadsThere]
      exact twins_load besides steady steadyRight twins same plugin id
    · have leavesThere :
          ¬((setting.onDisk disk).filter.accepts id && other.isEmpty) = true := by
        rw [empty]
        exact loads
      rw [transform, if_neg loads, transform, if_neg leavesThere]
      exact twins
  cases alike with
  | same =>
      cases service with
      | load plugin id => exact twins_load besides steady steadyRight twins same plugin id
      | transform plugin code id => exact transforms plugin id code code rfl
      | hotUpdate plugin path text =>
          by_cases here : setting.normalise (setting.normalise path) = file
          · exact paired_hotUpdate (paired_update_file besides here _ _ text text) _ _ twins
          · exact paired_hotUpdate (paired_update besides here _ _ text) _ _ twins
      | crossBuild path => exact paired_crossBuild besides path left right twins
      | rebuild path => exact paired_rebuildChanged besides stable path left right twins
      | dispatch changes =>
          exact paired_bind_any (paired_mapM (paired_answer besides stable))
            (fun _ _ => paired_of_apart (keeps_pure _) (keeps_pure _)) left right twins
  | update plugin text other here =>
      exact paired_hotUpdate (paired_update_file besides here _ _ text other) _ _ twins
  | transform plugin id empty => exact transforms plugin id _ _ empty

/-- Two runs that differ in no more than the text of a file come to twins. -/
theorem Parallel.twins
    {analyzer : Analyzer} {origin : Bridge} (idle : origin.schedule = [])
    (steady : Steady analyzer origin)
    (parallel : Parallel file analyzer origin left right) :
    Twins file left right ∧ Steady analyzer left ∧ Steady analyzer right ∧
      left.plugins = origin.plugins := by
  induction parallel with
  | start => exact ⟨⟨rfl, idle, idle, fun _ _ => rfl⟩, steady, steady, rfl⟩
  | @next left right fork before about same inductionHypothesis =>
      rcases inductionHypothesis with ⟨twins, steadyLeft, steadyRight, plugins⟩
      have first :
          Steady analyzer (fork.first.run left) ∧ (fork.first.run left).plugins = left.plugins :=
        steady_job_run about.analyzer steadyLeft
      have second :
          Steady analyzer (fork.second.run right) ∧
            (fork.second.run right).plugins = right.plugins :=
        steady_job_run about.analyzer steadyRight
      exact ⟨twins_run steadyLeft steadyRight twins about same, first.1, second.1,
        first.2.trans plugins⟩

end ModuleBridge.Bridge
