import ModuleBridge.Proofs.Bridge.Evolution

/-!
# Builds and loads follow the routine

Builds wait for pipelines, and what they built is stored only for the text it
was built from.  Auxiliary builds mark a file as seen by the watcher.  Serving a
module and walking through imports make files ready and build them, and do
nothing else to the records.
-/

namespace ModuleBridge.Bridge

variable {setting : Setting} {scheduled : Feed → Prop} {asked : Path → Record.Action → Prop}
  {key : Path}

/-! ## Work of builds apart from the records -/

section

variable {rel : Bridge → Bridge → Prop} [IsPreorder Bridge rel]
  (prints : ∀ show? : Console → Console, Keeps rel (print show?))

include prints

theorem keeps_sift (diagnostics : List Diagnostic) (fault : String → Fault) :
    Keeps rel (sift diagnostics fault).run := by
  rw [sift]
  rw [run_lift_bind]
  refine keeps_bind (prints _) ?_
  intro _
  split
  · exact keeps_attempt_bind (keeps_throw _) fun _ => keeps_attempt_pure _
  · exact keeps_attempt_pure _

theorem keeps_accept (plugin : Plugin) (resource : String) (answer : BuildAnswer) :
    Keeps rel (accept plugin resource answer).run := by
  cases answer with
  | built artifact diagnostics => exact keeps_attempt_pure _
  | nothing => exact keeps_throw _
  | failed message => exact keeps_throw _
  | crashed reason? =>
      rw [accept]
      rw [run_lift_bind]
      refine keeps_bind (prints _) ?_
      intro _
      exact keeps_throw _

end

theorem apart_sift (diagnostics : List Diagnostic) (fault : String → Fault) :
    Keeps Apart (sift diagnostics fault).run :=
  keeps_sift apart_print diagnostics fault

theorem apart_accept (plugin : Plugin) (resource : String) (answer : BuildAnswer) :
    Keeps Apart (accept plugin resource answer).run :=
  keeps_accept apart_print plugin resource answer

/-- A build that is accepted was answered. -/
theorem accept_ok
    {plugin : Plugin} {resource : String} {answer : BuildAnswer} {bridge : Bridge}
    {artifact : Artifact} {diagnostics : List Diagnostic}
    (accepted :
      resultOf (accept plugin resource answer).run bridge = .ok (artifact, diagnostics)) :
    answer = .built artifact diagnostics := by
  cases answer with
  | built _ _ =>
      cases accepted
      rfl
  | nothing => cases accepted
  | failed message => cases accepted
  | crashed reason? => cases accepted

theorem run_viewAt (bridge : Bridge) :
    (viewAt key).run.run bridge =
      match (bridge.registry.find key).view? with
      | some view => (.ok view, bridge)
      | none => (.error (.noAnalysis key), bridge) := by
  rw [viewAt]
  rw [run_lift_bind]
  change (match (bridge.registry.find key).view? with
    | some view => _
    | none => _ : Attempt View).run.run bridge = _
  cases (bridge.registry.find key).view? <;> rfl

theorem keeps_viewAt
    {rel : Bridge → Bridge → Prop} [IsPreorder Bridge rel] (key : Path) :
    Keeps rel (viewAt key).run := by
  intro bridge
  rw [endOf, run_viewAt]
  cases (bridge.registry.find key).view? <;> exact refl_of rel bridge

/-! ## Builds -/

theorem routine_callBuild (plugin : Plugin) (view : View) (selector? : Option String) :
    Keeps (Follows scheduled (Routine setting scheduled asked))
      (callBuild setting plugin view selector?) := by
  apply keeps_bind (keeps_follows_of_apart (apart_debug _ _))
  intro _
  apply keeps_bind (keeps_follows_of_apart (apart_note _))
  intro _
  apply keeps_bind (routine_wait _)
  intro _
  exact keeps_pure _

/-- The answer of a pipeline does not depend on what comes in meanwhile. -/
theorem resultOf_callBuild
    (plugin : Plugin) (view : View) (selector? : Option String) (bridge : Bridge) :
    resultOf (callBuild setting plugin view selector?) bridge =
      (setting.pipeline plugin.id).build view ⟨selector?, plugin.options⟩ := rfl

theorem routine_keepBuild
    (scheduled : Feed → Prop) (asked : Path → Record.Action → Prop) (resource : String)
    {bridge : Bridge} {view : View} {slot : Slot}
    (answered : (setting.origin key).built view slot)
    (revision : view.revision = slot.revision)
    (dated : DatedAt key view.source slot.revision bridge) :
    Follows scheduled (Routine setting scheduled asked) bridge
      (endOf (keepBuild key slot resource) bridge) := by
  have stores :
      Routine setting scheduled asked key (bridge.registry.find key) (.storeBuild slot) :=
    .built view slot answered revision dated
  refine trans_of (Follows scheduled (Routine setting scheduled asked))
    (follows_act stores) ?_
  simp only [keepBuild, endOf_bind, endOf_updateRecord, resultOf_updateRecord, endOf_ite]
  split
  · exact follows_of_apart (apart_debug _ _ _)
  · exact refl_of (Follows scheduled (Routine setting scheduled asked)) _

/-- A build without what the pipeline is to forget before it. -/
def buildAndKeep (setting : Setting) (key : Path) (plugin : Plugin) (view : View)
    (selector? : Option String) (resource : String) : Attempt (Artifact × List Diagnostic) := do
  let answer ← callBuild setting plugin view selector?
  let (artifact, diagnostics) ← accept plugin resource answer
  let warnings ← sift diagnostics (.build resource)
  keepBuild key ⟨plugin.id, view.revision, selector?, artifact⟩ resource
  return (artifact, warnings)

section

variable {plugin : Plugin} {view : View} {selector? : Option String} {resource : String}

theorem keeps_produce
    {rel : Bridge → Bridge → Prop} [IsPreorder Bridge rel]
    (clears : Keeps rel (note (.clear plugin.id view.path)))
    (builds : Keeps rel (buildAndKeep setting key plugin view selector? resource).run) :
    Keeps rel (produce setting key plugin view selector? resource).run := by
  have cleared : ∀ record : Record,
      Keeps rel
        (if record.readFolders = true then
            liftM (note (.clear plugin.id view.path)) >>= fun _ =>
              buildAndKeep setting key plugin view selector? resource
          else buildAndKeep setting key plugin view selector? resource).run := by
    intro record
    split
    · exact keeps_bind clears fun _ => builds
    · exact builds
  exact keeps_bind (keeps_recordAt key) cleared

theorem keeps_buildAndKeep
    {rel : Bridge → Bridge → Prop} [IsPreorder Bridge rel]
    (prints : ∀ show? : Console → Console, Keeps rel (print show?))
    (calls : Keeps rel (callBuild setting plugin view selector?))
    (stores : ∀ slot, Keeps rel (keepBuild key slot resource)) :
    Keeps rel (buildAndKeep setting key plugin view selector? resource).run := by
  rw [buildAndKeep]
  rw [run_lift_bind]
  refine keeps_bind calls ?_
  intro answer
  refine keeps_attempt_bind (keeps_accept prints _ _ _) ?_
  intro accepted
  refine keeps_attempt_bind (keeps_sift prints _ _) ?_
  intro warnings
  exact keeps_attempt_bind (keeps_lift (stores _)) fun _ => keeps_attempt_pure _

theorem carries_of_routine
    {α : Type} {work : Work α} {text : String} {revision : Nat}
    (kept : Keeps (Follows scheduled (Routine setting scheduled asked)) work) :
    Keeps (Carries scheduled (Routine setting scheduled asked) (DatedAt key text revision))
      work :=
  keeps_carries (fun _ _ progress => DatedAt.stable progress) kept

/-- What a pipeline builds from a view is stored for the text of the view. -/
theorem carries_buildAndKeep :
    Keeps (Carries scheduled (Routine setting scheduled asked)
        (DatedAt key view.source view.revision))
      (buildAndKeep setting key plugin view selector? resource).run := by
  rw [buildAndKeep]
  rw [run_lift_bind]
  intro bridge
  rw [endOf_bind, resultOf_callBuild]
  apply trans_of _ (carries_of_routine (routine_callBuild plugin view selector?) bridge)
  refine attempt_bind_of
    (carries_of_routine (keeps_follows_of_apart (apart_accept _ _ _)) _) ?_
  rintro ⟨artifact, diagnostics⟩ accepted
  have answered := accept_ok accepted
  refine attempt_bind_of
    (carries_of_routine (keeps_follows_of_apart (apart_sift _ _)) _) ?_
  intro warnings _ fits dated
  have origin :
      (setting.origin key).built view ⟨plugin.id, view.revision, selector?, artifact⟩ :=
    ⟨plugin.options, diagnostics, answered⟩
  have stores := routine_keepBuild scheduled asked resource origin rfl dated
  exact ⟨stores fits, DatedAt.stable (stores fits) dated⟩

theorem carries_produce :
    Keeps (Carries scheduled (Routine setting scheduled asked)
        (DatedAt key view.source view.revision))
      (produce setting key plugin view selector? resource).run :=
  keeps_produce (carries_of_routine (keeps_follows_of_apart (apart_note _)))
    carries_buildAndKeep

end

/-- What a build does with a file that is ready. -/
def buildReady (setting : Setting) (key : Path) (plugin : Plugin) (selector? : Option String)
    (resource : String) : Attempt Built := do
  let view ← viewAt key
  let warnings ← sift view.analysis.diagnostics (.analysis view.path)
  match (← recordAt key).reusable? plugin.id view.revision selector? with
  | some artifact =>
    debug "build" ("reuse " ++ view.path.display ++ " (" ++ plugin.name ++ ")")
    return ⟨key, artifact, warnings, view.revision, true⟩
  | none =>
    let (artifact, further) ← produce setting key plugin view selector? resource
    return ⟨key, artifact, warnings ++ further, view.revision, false⟩

section

variable {plugin : Plugin} {selector? : Option String} {resource : String} {bridge : Bridge}

theorem build_eq (path : Path) :
    build setting path plugin selector? resource =
      ready setting path >>= fun found =>
        buildReady setting found.1 plugin selector? resource := rfl

/-- From one bridge: a build is kept when what is seen is built. -/
theorem buildReady_of
    {rel : Bridge → Bridge → Prop} [IsPreorder Bridge rel]
    (prints : ∀ show? : Console → Console, Keeps rel (print show?))
    (produces : ∀ view, resultOf (viewAt key).run bridge = .ok view →
      Keeps rel (produce setting key plugin view selector? resource).run) :
    rel bridge (endOf (buildReady setting key plugin selector? resource).run bridge) := by
  refine attempt_bind_of (keeps_viewAt _ _) ?_
  intro view seen
  refine keeps_attempt_bind (keeps_sift prints _ _) ?_ _
  intro warnings
  rw [run_lift_bind]
  refine keeps_bind (keeps_recordAt _) ?_
  intro record
  cases record.reusable? plugin.id view.revision selector? with
  | some artifact =>
      dsimp only
      rw [run_lift_bind]
      exact keeps_bind (prints _) fun _ => keeps_attempt_pure _
  | none => exact keeps_attempt_bind (produces view seen) fun _ => keeps_attempt_pure _

/-- From one bridge: a build is kept when its file is made ready and what is seen is built. -/
theorem build_of
    {rel : Bridge → Bridge → Prop} [IsPreorder Bridge rel] {path : Path}
    (prints : ∀ show? : Console → Console, Keeps rel (print show?))
    (readies : rel bridge (endOf (ready setting path).run bridge))
    (produces : ∀ view,
      resultOf (viewAt (setting.normalise path)).run (endOf (ready setting path).run bridge) =
          .ok view →
        Keeps rel
          (produce setting (setting.normalise path) plugin view selector? resource).run) :
    rel bridge (endOf (build setting path plugin selector? resource).run bridge) := by
  rw [build_eq]
  refine attempt_bind_of readies ?_
  rintro ⟨key, readiness⟩ succeeded
  rcases key_of_ready succeeded with rfl
  exact buildReady_of prints produces

end

/-- What is stored was built for the text it was built from. -/
theorem routine_buildReady
    (key : Path) (plugin : Plugin) (selector? : Option String) (resource : String) :
    Keeps (Follows scheduled (Routine setting scheduled asked))
      (buildReady setting key plugin selector? resource).run := by
  intro bridge
  refine attempt_bind_of (keeps_viewAt key bridge) ?_
  intro view seen
  have dated : DatedAt key view.source view.revision (endOf (viewAt key).run bridge) := by
    rw [resultOf, run_viewAt] at seen
    rw [endOf, run_viewAt]
    cases held : (bridge.registry.find key).view? with
    | none =>
        rw [held] at seen
        cases seen
    | some other =>
        rw [held] at seen
        rcases Except.ok.inj seen with rfl
        exact Record.dated_of_view held
  refine follows_of_carries ?_ dated
  refine attempt_bind_of
    (carries_of_routine (keeps_follows_of_apart (apart_sift _ _)) _) ?_
  intro warnings _
  rw [run_lift_bind]
  refine keeps_bind (keeps_recordAt key) ?_ _
  intro record
  cases record.reusable? plugin.id view.revision selector? with
  | some artifact =>
      dsimp only
      rw [run_lift_bind]
      apply keeps_bind (carries_of_routine (keeps_follows_of_apart (apart_debug _ _)))
      intro _
      exact keeps_attempt_pure _
  | none => exact keeps_attempt_bind carries_produce fun _ => keeps_attempt_pure _

/-- A build makes the file ready and stores what was built for the text it was built from. -/
theorem routine_build
    (path : Path) (plugin : Plugin) (selector? : Option String) (resource : String) :
    Keeps (Follows scheduled (Routine setting scheduled asked))
      (build setting path plugin selector? resource).run := by
  rw [build_eq]
  exact keeps_attempt_bind (routine_ready path) fun found => routine_buildReady found.1 plugin _ _

/-! ## Auxiliary builds -/

/-- The watcher may be told what it has seen. -/
def Watching (asked : Path → Record.Action → Prop) : Prop :=
  ∀ key revision, asked key (.markSeen .watcher revision)

section

variable (watching : Watching asked)

include watching

theorem routine_buildAside (path : Path) (plugin : Plugin) :
    Keeps (Follows scheduled (Routine setting scheduled asked))
      (buildAside setting path plugin) := by
  apply keeps_bind (routine_build path plugin none path.display)
  intro outcome
  cases outcome with
  | error fault =>
      apply keeps_bind (keeps_follows_of_apart (apart_log _ _))
      intro _
      exact keeps_pure _
  | ok built =>
      have marks : ∀ record,
          Routine setting scheduled asked built.key record
            (.markSeen .watcher built.revision) :=
        fun _ => .asked _ (watching _ _)
      apply keeps_bind (follows_change marks)
      intro _
      apply keeps_bind (keeps_follows_of_apart (apart_watchBuilt path))
      intro isNew
      exact keeps_when (keeps_follows_of_apart (apart_debug _ _)) _

theorem routine_crossBuild (path : Path) :
    Keeps (Follows scheduled (Routine setting scheduled asked)) (crossBuild setting path) := by
  refine keeps_bind keeps_get ?_
  intro bridge
  refine keeps_bind ?_ fun _ => keeps_pure _
  exact keeps_filterM fun plugin => routine_buildAside watching path plugin

end

end ModuleBridge.Bridge
