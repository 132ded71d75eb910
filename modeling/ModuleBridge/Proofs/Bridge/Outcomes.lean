import ModuleBridge.Proofs.Bridge.Influx

/-!
# Outcomes of builds

What a build returns is a function of the record that was made ready, of the pipeline
that is called, and of its answer; neither the console nor the journal nor the texts
that come in meanwhile have a part in it.

Where the pipeline is called, the journal tells so: the file is cleared first where the
last artifact read directories, and then it is built, once.
-/

namespace ModuleBridge

/-- The warnings among diagnostics, or the fault of the errors. -/
def sifted (diagnostics : List Diagnostic) (fault : String → Fault) :
    Except Fault (List Diagnostic) :=
  let findings := Findings.ofList diagnostics
  if findings.hasErrors then .error (fault findings.errorMessage) else .ok findings.warnings

/-- The artifact and the diagnostics of an answer, or the fault of one that failed. -/
def BuildAnswer.accepted (answer : BuildAnswer) (resource : String) :
    Except Fault (Artifact × List Diagnostic) :=
  match answer with
  | .built artifact diagnostics => .ok (artifact, diagnostics)
  | .nothing => .error (.noResult resource)
  | .failed message => .error (.build resource message)
  | .crashed reason? => .error (.build resource (Bridge.crashMessage reason?))

/-- The artifact and the warnings of an answer, or its fault. -/
def BuildAnswer.delivered (answer : BuildAnswer) (resource : String) :
    Except Fault (Artifact × List Diagnostic) :=
  match answer.accepted resource with
  | .error fault => .error fault
  | .ok (artifact, diagnostics) =>
    (sifted diagnostics (.build resource)).map fun warnings => (artifact, warnings)

theorem sifted_of_errors
    {diagnostics : List Diagnostic} (errors : diagnostics.any Diagnostic.isError = true)
    (fault : String → Fault) :
    sifted diagnostics fault = .error (fault (Findings.ofList diagnostics).errorMessage) := by
  rw [sifted, Findings.hasErrors_ofList, if_pos errors]

theorem sifted_of_no_errors
    {diagnostics : List Diagnostic} (clean : diagnostics.any Diagnostic.isError = false)
    (fault : String → Fault) :
    sifted diagnostics fault = .ok (Findings.ofList diagnostics).warnings := by
  rw [sifted, Findings.hasErrors_ofList, clean, if_neg Bool.false_ne_true]

theorem sifted_eq_ok_iff
    {diagnostics warnings : List Diagnostic} {fault : String → Fault} :
    sifted diagnostics fault = .ok warnings ↔
      (∀ found ∈ diagnostics, found.isError = false) ∧
        warnings = (Findings.ofList diagnostics).warnings := by
  cases errors : diagnostics.any Diagnostic.isError with
  | true =>
      rw [sifted_of_errors errors]
      rcases List.any_eq_true.1 errors with ⟨found, member, bad⟩
      refine ⟨nofun, ?_⟩
      rintro ⟨clean, -⟩
      rw [clean found member] at bad
      cases bad
  | false =>
      rw [sifted_of_no_errors errors]
      have clean := List.any_eq_false.1 errors
      refine ⟨?_, ?_⟩
      · rintro ⟨⟩
        exact ⟨fun found member => Bool.eq_false_iff.2 (clean found member), rfl⟩
      · rintro ⟨-, rfl⟩
        rfl

/-- An answer is delivered when it is an artifact without errors. -/
theorem BuildAnswer.delivered_eq_ok_iff
    {answer : BuildAnswer} {resource : String} {artifact : Artifact}
    {warnings : List Diagnostic} :
    answer.delivered resource = .ok (artifact, warnings) ↔
      ∃ diagnostics, answer = .built artifact diagnostics ∧
        sifted diagnostics (.build resource) = .ok warnings := by
  cases answer with
  | built other diagnostics =>
      change (sifted diagnostics (.build resource)).map (fun found => (other, found)) = _ ↔ _
      cases sifts : sifted diagnostics (.build resource) with
      | error fault =>
          refine ⟨nofun, ?_⟩
          rintro ⟨_, ⟨⟩, delivered⟩
          rw [sifts] at delivered
          cases delivered
      | ok found =>
          refine ⟨?_, ?_⟩
          · rintro ⟨⟩
            exact ⟨diagnostics, rfl, sifts⟩
          · rintro ⟨_, ⟨⟩, delivered⟩
            rw [sifts] at delivered
            cases delivered
            rfl
  | nothing => exact ⟨nofun, by rintro ⟨_, ⟨⟩, _⟩⟩
  | failed message => exact ⟨nofun, by rintro ⟨_, ⟨⟩, _⟩⟩
  | crashed reason? => exact ⟨nofun, by rintro ⟨_, ⟨⟩, _⟩⟩

theorem delivered_of_clean
    {answer : BuildAnswer} {artifact : Artifact} {diagnostics : List Diagnostic}
    (same : answer = .built artifact diagnostics)
    (clean : ∀ found ∈ diagnostics, found.isError = false) (resource : String) :
    answer.delivered resource = .ok (artifact, (Findings.ofList diagnostics).warnings) :=
  BuildAnswer.delivered_eq_ok_iff.2 ⟨diagnostics, same, sifted_eq_ok_iff.2 ⟨clean, rfl⟩⟩

namespace Bridge

variable {setting : Setting} {key : Path}

/-! ## Without effect -/

/-- Lines were printed at most. -/
def Printed (before after : Bridge) : Prop :=
  ∃ console, after = { before with console := console }

instance : IsPreorder Bridge Printed where
  refl bridge := ⟨bridge.console, rfl⟩
  trans := by
    rintro before _ _ ⟨first, rfl⟩ ⟨second, rfl⟩
    exact ⟨second, rfl⟩

theorem printed_print (show? : Console → Console) : Keeps Printed (print show?) :=
  fun _ => ⟨_, rfl⟩

theorem influx_of_printed {before after : Bridge} (printed : Printed before after) :
    Influx before after := by
  rcases printed with ⟨console, rfl⟩
  exact influx_print (fun _ => console) before

theorem journal_wait (setting : Setting) (moment : Moment) (bridge : Bridge) :
    (endOf (wait setting moment) bridge).journal = bridge.journal := by
  rcases endOf_wait setting moment bridge with ⟨console, waited⟩
  rw [waited]

/-! ## Answers of pipelines -/

theorem resultOf_sift
    (diagnostics : List Diagnostic) (fault : String → Fault) (bridge : Bridge) :
    resultOf (sift diagnostics fault).run bridge = sifted diagnostics fault := by
  rw [sift, run_lift_bind, resultOf_bind, sifted]
  dsimp only
  split <;> rfl

theorem resultOf_accept
    (plugin : Plugin) (resource : String) (answer : BuildAnswer) (bridge : Bridge) :
    resultOf (accept plugin resource answer).run bridge = answer.accepted resource := by
  cases answer <;> rfl

/-- The calls by which a pipeline is asked to build a view. -/
def buildCalls (record : Record) (plugin : Plugin) (view : View) (selector? : Option String) :
    List Call :=
  (if record.readFolders then [.clear plugin.id view.path] else []) ++
    [.build plugin.id view.path view.revision selector? plugin.options.ssr]

/-- What a pipeline answers when it is asked to build a view. -/
def answerOf (setting : Setting) (plugin : Plugin) (view : View) (selector? : Option String) :
    BuildAnswer :=
  (setting.pipeline plugin.id).build view ⟨selector?, plugin.options⟩

variable {plugin : Plugin} {view : View} {selector? : Option String} {resource : String}

/-- The bridge in which a pipeline has forgotten a file, where it has to. -/
def cleared (key : Path) (plugin : Plugin) (view : View) (bridge : Bridge) : Bridge :=
  if (bridge.registry.find key).readFolders then endOf (note (.clear plugin.id view.path)) bridge
  else bridge

/-- The bridge in which a pipeline has answered. -/
def answered (setting : Setting) (key : Path) (plugin : Plugin) (view : View)
    (selector? : Option String) (bridge : Bridge) : Bridge :=
  endOf (callBuild setting plugin view selector?) (cleared key plugin view bridge)

theorem run_produce (bridge : Bridge) :
    (produce setting key plugin view selector? resource).run.run bridge =
      (buildAndKeep setting key plugin view selector? resource).run.run
        (cleared key plugin view bridge) := by
  rw [produce, run_lift_bind, cleared]
  change (ite _ _ _ : Attempt (Artifact × List Diagnostic)).run.run bridge = _
  split <;> rfl

theorem influx_answered (bridge : Bridge) :
    Influx bridge (answered setting key plugin view selector? bridge) := by
  have clears : Influx bridge (cleared key plugin view bridge) := by
    rw [cleared]
    split
    · exact influx_note _ bridge
    · exact refl_of Influx bridge
  have calls : Keeps Influx (callBuild setting plugin view selector?) := by
    refine keeps_bind (influx_debug _ _) ?_
    intro _
    refine keeps_bind (influx_note _) ?_
    intro _
    exact keeps_bind (influx_wait _) fun _ => keeps_pure _
  exact trans_of Influx clears (calls _)

theorem journal_answered (bridge : Bridge) :
    (answered setting key plugin view selector? bridge).journal =
      bridge.journal ++ buildCalls (bridge.registry.find key) plugin view selector? := by
  have calls :
      (answered setting key plugin view selector? bridge).journal =
        (cleared key plugin view bridge).journal ++
          [.build plugin.id view.path view.revision selector? plugin.options.ssr] :=
    journal_wait setting (.building plugin.id view.path) _
  rw [calls, cleared, buildCalls]
  split
  · exact List.append_assoc _ _ _
  · rfl

/-- While a pipeline builds, the records only see the texts that others feed. -/
theorem registry_answered (bridge : Bridge) :
    (answered setting key plugin view selector? bridge).registry =
      (arriving (.building plugin.id view.path) bridge.schedule).foldl (Registry.take setting)
        bridge.registry := by
  have same :
      (cleared key plugin view bridge).schedule = bridge.schedule ∧
        (cleared key plugin view bridge).registry = bridge.registry := by
    rw [cleared]
    split
    · exact ⟨rfl, rfl⟩
    · exact ⟨rfl, rfl⟩
  let asked : Bridge :=
    endOf (note (.build plugin.id view.path view.revision selector? plugin.options.ssr))
      (endOf (debug "build" (view.path.display ++ " with " ++ plugin.name))
        (cleared key plugin view bridge))
  rcases endOf_wait setting (.building plugin.id view.path) asked with ⟨console, waited⟩
  have calls : answered setting key plugin view selector? bridge = _ := waited
  rw [calls, ← same.1, ← same.2]
  rfl

/-- The bridge in which an artifact was offered to the record under a key. -/
def offered (key : Path) (slot : Slot) (bridge : Bridge) : Bridge :=
  endOf (updateRecord key fun record => record.storeBuild slot) bridge

/-- What is done with the answer of a pipeline. -/
def keepAnswer (key : Path) (plugin : Plugin) (view : View) (selector? : Option String)
    (resource : String) (answer : BuildAnswer) : Attempt (Artifact × List Diagnostic) := do
  let (artifact, diagnostics) ← accept plugin resource answer
  let warnings ← sift diagnostics (.build resource)
  keepBuild key ⟨plugin.id, view.revision, selector?, artifact⟩ resource
  return (artifact, warnings)

theorem run_buildAndKeep (bridge : Bridge) :
    (buildAndKeep setting key plugin view selector? resource).run.run bridge =
      (keepAnswer key plugin view selector? resource
        (answerOf setting plugin view selector?)).run.run
          (endOf (callBuild setting plugin view selector?) bridge) := rfl

theorem printed_offered
    (key : Path) (slot : Slot) {before after : Bridge} (printed : Printed before after) :
    Printed (offered key slot before) (offered key slot after) := by
  rcases printed with ⟨console, rfl⟩
  exact ⟨console, rfl⟩

theorem printed_keepBuild (slot : Slot) (bridge : Bridge) :
    Printed (offered key slot bridge) (endOf (keepBuild key slot resource) bridge) := by
  simp only [keepBuild, endOf_bind, resultOf_updateRecord, endOf_ite]
  split
  · exact printed_print _ _
  · exact refl_of Printed _

/-- How the answer of a pipeline is dealt with: an artifact without errors is offered. -/
inductive Keeping
    (key : Path) (plugin : Plugin) (view : View) (selector? : Option String)
    (before : Bridge) : Except Fault (Artifact × List Diagnostic) → Bridge → Prop where
  | refused {after : Bridge} (fault : Fault) (printed : Printed before after) :
      Keeping key plugin view selector? before (.error fault) after
  | built {after : Bridge} (artifact : Artifact) (warnings : List Diagnostic)
      (printed :
        Printed (offered key ⟨plugin.id, view.revision, selector?, artifact⟩ before) after) :
      Keeping key plugin view selector? before (.ok (artifact, warnings)) after

theorem keeping (answer : BuildAnswer) (bridge : Bridge) :
    resultOf (keepAnswer key plugin view selector? resource answer).run bridge =
        answer.delivered resource ∧
      Keeping key plugin view selector? bridge (answer.delivered resource)
        (endOf (keepAnswer key plugin view selector? resource answer).run bridge) := by
  let accepting := accept plugin resource answer
  have accepts := resultOf_accept plugin resource answer bridge
  rcases keeps_accept printed_print plugin resource answer bridge with ⟨console, told⟩
  rw [keepAnswer, BuildAnswer.delivered]
  cases accepted : answer.accepted resource with
  | error fault =>
      rw [accepted] at accepts
      rw [(attempt_of_error accepts _).1, (attempt_of_error accepts _).2]
      exact ⟨rfl, .refused fault ⟨console, told⟩⟩
  | ok found =>
      rcases found with ⟨artifact, diagnostics⟩
      let sifting := sift diagnostics (.build resource)
      let current := endOf accepting.run bridge
      have sifts : resultOf sifting.run current = sifted diagnostics (.build resource) :=
        resultOf_sift _ _ _
      rcases keeps_sift printed_print diagnostics (.build resource) current with ⟨further, shown⟩
      rw [accepted] at accepts
      rw [(attempt_of_ok accepts _).1, (attempt_of_ok accepts _).2]
      dsimp only
      cases outcome : sifted diagnostics (.build resource) with
      | error fault =>
          rw [outcome] at sifts
          refine ⟨(attempt_of_error sifts _).1, ?_⟩
          refine .refused fault ?_
          rw [(attempt_of_error sifts _).2]
          exact trans_of Printed ⟨console, told⟩ ⟨further, shown⟩
      | ok warnings =>
          rw [outcome] at sifts
          refine ⟨(attempt_of_ok sifts _).1, .built artifact warnings ?_⟩
          have offers := printed_offered key ⟨plugin.id, view.revision, selector?, artifact⟩
            (trans_of Printed ⟨console, told⟩ ⟨further, shown⟩)
          rw [(attempt_of_ok sifts _).2]
          exact trans_of Printed offers (printed_keepBuild _ _)

/-- The pipeline answers, and its answer is dealt with. -/
theorem keeping_produce (bridge : Bridge) :
    resultOf (produce setting key plugin view selector? resource).run bridge =
        (answerOf setting plugin view selector?).delivered resource ∧
      Keeping key plugin view selector? (answered setting key plugin view selector? bridge)
        ((answerOf setting plugin view selector?).delivered resource)
        (endOf (produce setting key plugin view selector? resource).run bridge) := by
  rw [resultOf_of_run (run_produce bridge), resultOf_of_run (run_buildAndKeep _),
    endOf_of_run (run_produce bridge), endOf_of_run (run_buildAndKeep _)]
  exact keeping _ _

/-! ## Whole builds -/

/-- What a build returns, by the record that was made ready. -/
def builtFrom (setting : Setting) (key : Path) (record : Record) (plugin : Plugin)
    (selector? : Option String) (resource : String) : Except Fault Built :=
  match record.view? with
  | none => .error (.noAnalysis key)
  | some view =>
    match sifted view.analysis.diagnostics (.analysis view.path) with
    | .error fault => .error fault
    | .ok warnings =>
      match record.reusable? plugin.id view.revision selector? with
      | some artifact => .ok ⟨key, artifact, warnings, view.revision, true⟩
      | none =>
        ((answerOf setting plugin view selector?).delivered resource).map
          fun (artifact, further) =>
            ⟨key, artifact, warnings ++ further, view.revision, false⟩

/-- What a build does with a view once its analysis has been sifted. -/
def buildSifted (setting : Setting) (key : Path) (plugin : Plugin) (selector? : Option String)
    (resource : String) (view : View) (warnings : List Diagnostic) : Attempt Built := do
  match (← recordAt key).reusable? plugin.id view.revision selector? with
  | some artifact =>
    debug "build" ("reuse " ++ view.path.display ++ " (" ++ plugin.name ++ ")")
    return ⟨key, artifact, warnings, view.revision, true⟩
  | none =>
    let (artifact, further) ← produce setting key plugin view selector? resource
    return ⟨key, artifact, warnings ++ further, view.revision, false⟩

/--
How a build ends that starts from a file that is ready.  The artifact there is is
served again, or the pipeline is called and its artifact offered to the record.
-/
inductive Building
    (setting : Setting) (key : Path) (plugin : Plugin) (selector? : Option String)
    (resource : String) (before : Bridge) : Except Fault Built → Bridge → Prop where
  | refused {after : Bridge} (fault : Fault) (printed : Printed before after) :
      Building setting key plugin selector? resource before (.error fault) after
  | reused {after : Bridge} (view : View) (artifact : Artifact) (warnings : List Diagnostic)
      (viewed : (before.registry.find key).view? = some view)
      (stored :
        (before.registry.find key).reusable? plugin.id view.revision selector? = some artifact)
      (printed : Printed before after) :
      Building setting key plugin selector? resource before
        (.ok ⟨key, artifact, warnings, view.revision, true⟩) after
  | failed {after : Bridge} (view : View) (middle : Bridge) (fault : Fault)
      (viewed : (before.registry.find key).view? = some view)
      (printed : Printed before middle)
      (refused : Printed (answered setting key plugin view selector? middle) after) :
      Building setting key plugin selector? resource before (.error fault) after
  | built {after : Bridge} (view : View) (middle : Bridge) (artifact : Artifact)
      (warnings further : List Diagnostic)
      (viewed : (before.registry.find key).view? = some view)
      (printed : Printed before middle)
      (delivered :
        (answerOf setting plugin view selector?).delivered resource = .ok (artifact, further))
      (kept :
        Printed
          (offered key ⟨plugin.id, view.revision, selector?, artifact⟩
            (answered setting key plugin view selector? middle))
          after) :
      Building setting key plugin selector? resource before
        (.ok ⟨key, artifact, warnings ++ further, view.revision, false⟩) after

variable {bridge : Bridge} {warnings : List Diagnostic} {fault : Fault}

/-- A file without a view is not built. -/
theorem buildReady_of_unviewed (unviewed : (bridge.registry.find key).view? = none) :
    resultOf (buildReady setting key plugin selector? resource).run bridge =
        .error (.noAnalysis key) ∧
      endOf (buildReady setting key plugin selector? resource).run bridge = bridge := by
  have views : (viewAt key).run.run bridge = _ := run_viewAt bridge
  rw [unviewed] at views
  have unseen : resultOf (viewAt key).run bridge = .error (.noAnalysis key) :=
    congrArg Prod.fst views
  rw [buildReady, (attempt_of_error unseen _).1, (attempt_of_error unseen _).2, endOf, views]
  exact ⟨rfl, rfl⟩

theorem buildReady_of_viewed (viewed : (bridge.registry.find key).view? = some view) :
    (buildReady setting key plugin selector? resource).run.run bridge =
      (sift view.analysis.diagnostics (.analysis view.path) >>= fun warnings =>
        buildSifted setting key plugin selector? resource view warnings).run.run bridge := by
  have views : (viewAt key).run.run bridge = _ := run_viewAt bridge
  rw [viewed] at views
  have seen : resultOf (viewAt key).run bridge = .ok view := congrArg Prod.fst views
  have stays : endOf (viewAt key).run bridge = bridge := congrArg Prod.snd views
  have goesOn := attempt_of_ok seen fun view =>
    sift view.analysis.diagnostics (.analysis view.path) >>= fun warnings =>
      buildSifted setting key plugin selector? resource view warnings
  rw [stays] at goesOn
  exact Prod.ext goesOn.1 goesOn.2

/-- Errors of the analysis end a build before the pipeline is asked. -/
theorem buildReady_of_errors
    (viewed : (bridge.registry.find key).view? = some view)
    (errors : sifted view.analysis.diagnostics (.analysis view.path) = .error fault) :
    resultOf (buildReady setting key plugin selector? resource).run bridge = .error fault ∧
      Printed bridge (endOf (buildReady setting key plugin selector? resource).run bridge) := by
  have run : (buildReady setting key plugin selector? resource).run.run bridge = _ :=
    buildReady_of_viewed viewed
  have sifts := resultOf_sift view.analysis.diagnostics (.analysis view.path) bridge
  rw [errors] at sifts
  rw [resultOf_of_run run, endOf_of_run run, (attempt_of_error sifts _).1,
    (attempt_of_error sifts _).2]
  exact ⟨rfl, keeps_sift printed_print _ _ _⟩

/-- Without errors the build goes on, and the warnings were printed. -/
theorem buildReady_of_clean
    (viewed : (bridge.registry.find key).view? = some view)
    (clean : sifted view.analysis.diagnostics (.analysis view.path) = .ok warnings) :
    ∃ current, Printed bridge current ∧
      (buildReady setting key plugin selector? resource).run.run bridge =
        (buildSifted setting key plugin selector? resource view warnings).run.run current := by
  have run : (buildReady setting key plugin selector? resource).run.run bridge = _ :=
    buildReady_of_viewed viewed
  have sifts := resultOf_sift view.analysis.diagnostics (.analysis view.path) bridge
  rw [clean] at sifts
  have goesOn := attempt_of_ok sifts fun warnings =>
    buildSifted setting key plugin selector? resource view warnings
  exact ⟨_, keeps_sift printed_print _ _ _, run.trans (Prod.ext goesOn.1 goesOn.2)⟩

/-- An artifact that can be served again is, and the pipeline is not asked. -/
theorem buildSifted_of_reusable
    {artifact : Artifact}
    (stored :
      (bridge.registry.find key).reusable? plugin.id view.revision selector? = some artifact) :
    resultOf (buildSifted setting key plugin selector? resource view warnings).run bridge =
        .ok ⟨key, artifact, warnings, view.revision, true⟩ ∧
      Printed bridge
        (endOf (buildSifted setting key plugin selector? resource view warnings).run bridge) := by
  rw [buildSifted, run_lift_bind, resultOf_bind, endOf_bind, resultOf_recordAt, endOf_recordAt,
    stored]
  exact ⟨rfl, printed_print _ bridge⟩

/-- Where there is no such artifact the pipeline is asked. -/
theorem buildSifted_of_asked
    (nothing : (bridge.registry.find key).reusable? plugin.id view.revision selector? = none) :
    resultOf (buildSifted setting key plugin selector? resource view warnings).run bridge =
        ((answerOf setting plugin view selector?).delivered resource).map
          (fun (artifact, further) => ⟨key, artifact, warnings ++ further, view.revision, false⟩) ∧
      Keeping key plugin view selector? (answered setting key plugin view selector? bridge)
        ((answerOf setting plugin view selector?).delivered resource)
        (endOf (buildSifted setting key plugin selector? resource view warnings).run bridge) := by
  rw [buildSifted, run_lift_bind, resultOf_bind, endOf_bind, resultOf_recordAt, endOf_recordAt,
    nothing]
  dsimp only
  rcases keeping_produce bridge with ⟨delivers, kept⟩
  cases delivered : (answerOf setting plugin view selector?).delivered resource with
  | error fault =>
      rw [delivered] at delivers kept
      rw [(attempt_of_error delivers _).1, (attempt_of_error delivers _).2]
      exact ⟨rfl, kept⟩
  | ok found =>
      rw [delivered] at delivers kept
      rw [(attempt_of_ok delivers _).1, (attempt_of_ok delivers _).2]
      exact ⟨rfl, kept⟩

theorem building
    (setting : Setting) (key : Path) (plugin : Plugin) (selector? : Option String)
    (resource : String) (bridge : Bridge) :
    resultOf (buildReady setting key plugin selector? resource).run bridge =
        builtFrom setting key (bridge.registry.find key) plugin selector? resource ∧
      Building setting key plugin selector? resource bridge
        (builtFrom setting key (bridge.registry.find key) plugin selector? resource)
        (endOf (buildReady setting key plugin selector? resource).run bridge) := by
  rw [builtFrom]
  cases viewed : (bridge.registry.find key).view? with
  | none =>
      rcases buildReady_of_unviewed viewed with ⟨result, stays⟩
      rw [result, stays]
      exact ⟨rfl, .refused _ (refl_of Printed bridge)⟩
  | some view =>
      dsimp only
      cases outcome : sifted view.analysis.diagnostics (.analysis view.path) with
      | error fault =>
          rcases buildReady_of_errors viewed outcome with ⟨result, printed⟩
          exact ⟨result, .refused fault printed⟩
      | ok warnings =>
          rcases buildReady_of_clean viewed outcome with ⟨current, printed, run⟩
          have same : current.registry.find key = bridge.registry.find key := by
            rcases printed with ⟨console, told⟩
            rw [told]
          rw [resultOf_of_run run, endOf_of_run run, ← same]
          dsimp only
          cases stored :
              (current.registry.find key).reusable? plugin.id view.revision selector? with
          | some artifact =>
              rcases buildSifted_of_reusable stored with ⟨result, further⟩
              refine ⟨result, .reused view artifact warnings viewed (same ▸ stored) ?_⟩
              exact trans_of Printed printed further
          | none =>
              rcases buildSifted_of_asked stored with ⟨result, kept⟩
              refine ⟨result, ?_⟩
              dsimp only
              generalize endOf _ current = after at kept ⊢
              cases delivered : (answerOf setting plugin view selector?).delivered resource with
              | error fault =>
                  rw [delivered] at kept
                  cases kept with
                  | refused _ refused => exact .failed view current fault viewed printed refused
              | ok found =>
                  rcases found with ⟨artifact, further⟩
                  rw [delivered] at kept
                  cases kept with
                  | built _ _ kept =>
                      exact .built view current artifact warnings further viewed printed delivered
                        kept

/-- A build of a file that can be made ready. -/
theorem building_of_ready
    {path : Path} {readiness : Readiness} {bridge : Bridge}
    (succeeded : resultOf (ready setting path).run bridge = .ok (key, readiness))
    (plugin : Plugin) (selector? : Option String) (resource : String) :
    let readied := endOf (ready setting path).run bridge
    let outcome := builtFrom setting key (readied.registry.find key) plugin selector? resource
    resultOf (build setting path plugin selector? resource).run bridge = outcome ∧
      Building setting key plugin selector? resource readied outcome
        (endOf (build setting path plugin selector? resource).run bridge) := by
  intro readied outcome
  rw [build_eq, (attempt_of_ok succeeded _).1, (attempt_of_ok succeeded _).2]
  exact building setting key plugin selector? resource readied

/-- A build that succeeds made its file ready. -/
theorem ready_of_built
    {path : Path} {bridge : Bridge} {built : Built}
    (succeeded :
      resultOf (build setting path plugin selector? resource).run bridge = .ok built) :
    ∃ readiness,
      resultOf (ready setting path).run bridge = .ok (setting.normalise path, readiness) := by
  cases outcome : resultOf (ready setting path).run bridge with
  | error fault =>
      rw [build_eq, (attempt_of_error outcome _).1] at succeeded
      cases succeeded
  | ok found =>
      rcases found with ⟨key, readiness⟩
      rcases key_of_ready outcome with rfl
      exact ⟨readiness, rfl⟩

end Bridge

end ModuleBridge
