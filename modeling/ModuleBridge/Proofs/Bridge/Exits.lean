import ModuleBridge.Proofs.Bridge.Settling
import ModuleBridge.Proofs.Bridge.Upkeep

/-!
# Exits of builds

A build of a file that was made ready has four exits: errors of the analysis, an artifact
that is served again, an answer of the pipeline that is of no use, and an artifact that is
built.  The exits at which it fails leave every record as it was when the file was ready,
but for texts that others feed while the pipeline builds.
-/

namespace ModuleBridge

/-- None of the diagnostics is an error. -/
def Harmless (diagnostics : List Diagnostic) : Prop :=
  ∀ found ∈ diagnostics, found.isError = false

theorem sifted_of_harmless
    {diagnostics : List Diagnostic} (harmless : Harmless diagnostics)
    (fault : String → Fault) :
    sifted diagnostics fault = .ok (diagnostics.filter fun found => !found.isError) :=
  sifted_eq_ok_iff.2 ⟨harmless, rfl⟩

theorem sifted_of_not_harmless
    {diagnostics : List Diagnostic} (harmful : ¬Harmless diagnostics) (fault : String → Fault) :
    ∃ raised, sifted diagnostics fault = .error raised := by
  cases outcome : sifted diagnostics fault with
  | error raised => exact ⟨raised, rfl⟩
  | ok warnings => exact absurd (sifted_eq_ok_iff.1 outcome).1 harmful

namespace BuildAnswer

/-- The answer is an artifact without errors. -/
def IsUseful (answer : BuildAnswer) : Prop :=
  ∃ artifact diagnostics, answer = .built artifact diagnostics ∧ Harmless diagnostics

theorem delivered_of_not_isUseful
    {answer : BuildAnswer} (useless : ¬answer.IsUseful) (resource : String) :
    ∃ fault, answer.delivered resource = .error fault := by
  cases outcome : answer.delivered resource with
  | error fault => exact ⟨fault, rfl⟩
  | ok found =>
      rcases found with ⟨artifact, warnings⟩
      rcases delivered_eq_ok_iff.1 outcome with ⟨diagnostics, built, sifts⟩
      exact absurd ⟨artifact, diagnostics, built, (sifted_eq_ok_iff.1 sifts).1⟩ useless

end BuildAnswer

namespace Bridge

variable {setting : Setting} {path key : Path} {plugin : Plugin} {selector? : Option String}
  {resource : String} {view : View} {before after bridge : Bridge}

/-- A file that was made ready can be viewed. -/
theorem exists_view_of_ready
    {readiness : Readiness}
    (coherent :
      (bridge.registry.find (setting.normalise path)).Coherent
        (setting.analyzer.findings (setting.normalise path)))
    (succeeded : resultOf (ready setting path).run bridge = .ok (key, readiness)) :
    let record := (endOf (ready setting path).run bridge).registry.find key
    ∃ view, record.view? = some view ∧ view.path = record.path ∧
      view.revision = record.revision ∧ view.analysis.diagnostics = record.diagnostics := by
  intro record
  rcases key_of_ready succeeded with rfl
  rcases ready_settled path coherent with ⟨calls, told, ended, -, -⟩
  rcases Record.exists_view ended.coherent (valid_of_ready succeeded) with
    ⟨view, viewed, diagnostics⟩
  refine ⟨view, viewed, ?_, (Record.fields_of_view viewed).2.2, diagnostics⟩
  simp only [Record.view?, Option.bind_eq_bind, Option.bind_eq_some_iff] at viewed
  rcases viewed with ⟨_, -, _, -, built⟩
  rcases Option.some.inj built with rfl
  rfl

/-- The exits of a build that sees a view of its file. -/
inductive Exit
    (setting : Setting) (key : Path) (plugin : Plugin) (selector? : Option String) (view : View)
    (before : Bridge) : Except Fault Built → Bridge → Prop where
  | stopped {after : Bridge} (fault : Fault)
      (harmful : ¬Harmless view.analysis.diagnostics)
      (registry : after.registry = before.registry)
      (journal : after.journal = before.journal) :
      Exit setting key plugin selector? view before (.error fault) after
  | reused {after : Bridge} (artifact : Artifact)
      (harmless : Harmless view.analysis.diagnostics)
      (stored :
        (before.registry.find key).reusable? plugin.id view.revision selector? = some artifact) :
      Exit setting key plugin selector? view before
        (.ok ⟨key, artifact, view.analysis.diagnostics.filter fun found => !found.isError,
          view.revision, true⟩)
        after
  | failed {after : Bridge} (fault : Fault)
      (harmless : Harmless view.analysis.diagnostics)
      (nothing :
        (before.registry.find key).reusable? plugin.id view.revision selector? = none)
      (useless : ¬(answerOf setting plugin view selector?).IsUseful)
      (registry :
        after.registry =
          (arriving (.building plugin.id view.path) before.schedule).foldl (Registry.take setting)
            before.registry)
      (journal :
        after.journal =
          before.journal ++ buildCalls (before.registry.find key) plugin view selector?) :
      Exit setting key plugin selector? view before (.error fault) after
  | built {after : Bridge} (artifact : Artifact) (diagnostics : List Diagnostic)
      (harmless : Harmless view.analysis.diagnostics)
      (nothing :
        (before.registry.find key).reusable? plugin.id view.revision selector? = none)
      (answer : answerOf setting plugin view selector? = .built artifact diagnostics)
      (useful : Harmless diagnostics) :
      Exit setting key plugin selector? view before
        (.ok ⟨key, artifact,
          (view.analysis.diagnostics.filter fun found => !found.isError) ++
            diagnostics.filter fun found => !found.isError,
          view.revision, false⟩)
        after

/-- A build that asks the pipeline fails or builds, by the answer. -/
theorem exit_of_asked
    (harmless : Harmless view.analysis.diagnostics)
    (nothing : (before.registry.find key).reusable? plugin.id view.revision selector? = none)
    (printed : Printed before bridge) :
    let work := buildSifted setting key plugin selector? resource view
      (view.analysis.diagnostics.filter fun found => !found.isError)
    Exit setting key plugin selector? view before (resultOf work.run bridge)
      (endOf work.run bridge) := by
  intro work
  rcases printed with ⟨console, rfl⟩
  let asked : Bridge := { before with console := console }
  have empty : (asked.registry.find key).reusable? plugin.id view.revision selector? = none :=
    nothing
  rcases buildSifted_of_asked empty with ⟨result, kept⟩
  rw [show resultOf work.run asked = _ from result]
  by_cases useful : (answerOf setting plugin view selector?).IsUseful
  · rcases useful with ⟨artifact, diagnostics, answer, useful⟩
    rw [delivered_of_clean answer useful]
    exact .built artifact diagnostics harmless nothing answer useful
  · rcases BuildAnswer.delivered_of_not_isUseful useful resource with ⟨fault, delivered⟩
    rw [delivered] at kept ⊢
    cases kept with
    | refused _ refused =>
        rcases refused with ⟨shown, told⟩
        refine .failed fault harmless nothing useful ?_ ?_
        · rw [told]
          exact registry_answered _
        · rw [told]
          exact journal_answered _

/-- How a build of a file that can be viewed ends. -/
theorem exit_of_viewed (viewed : (before.registry.find key).view? = some view) :
    Exit setting key plugin selector? view before
      (resultOf (buildReady setting key plugin selector? resource).run before)
      (endOf (buildReady setting key plugin selector? resource).run before) := by
  by_cases harmless : Harmless view.analysis.diagnostics
  · have sifts := sifted_of_harmless harmless (.analysis view.path)
    rcases buildReady_of_clean viewed sifts with ⟨current, printed, run⟩
    rw [resultOf_of_run run, endOf_of_run run]
    cases stored : (before.registry.find key).reusable? plugin.id view.revision selector? with
    | none => exact exit_of_asked harmless stored printed
    | some artifact =>
        rcases printed with ⟨console, rfl⟩
        let told : Bridge := { before with console := console }
        have storedStill :
            (told.registry.find key).reusable? plugin.id view.revision selector? = some artifact :=
          stored
        rw [(buildSifted_of_reusable storedStill).1]
        exact .reused artifact harmless stored
  · rcases sifted_of_not_harmless harmless (.analysis view.path) with ⟨fault, sifts⟩
    rcases buildReady_of_errors viewed sifts with ⟨result, console, told⟩
    rw [result]
    refine .stopped fault harmless ?_ ?_
    · rw [told]
    · rw [told]

namespace Exit

variable {outcome : Except Fault Built}

theorem succeeds_iff (ended : Exit setting key plugin selector? view before outcome after) :
    (∃ built, outcome = .ok built) ↔
      Harmless view.analysis.diagnostics ∧
        (((before.registry.find key).reusable? plugin.id view.revision selector?).isSome ∨
          (answerOf setting plugin view selector?).IsUseful) := by
  cases ended with
  | stopped fault harmful => simp [harmful]
  | reused artifact harmless stored => simp [harmless, stored]
  | failed fault harmless nothing useless => simp [nothing, useless]
  | built artifact diagnostics harmless nothing answer useful =>
      have isUseful : (answerOf setting plugin view selector?).IsUseful :=
        ⟨artifact, diagnostics, answer, useful⟩
      simp [harmless, isUseful]

/-- Stopped by its analysis, a build leaves the records and the journal alone. -/
theorem of_stopped
    {fault : Fault} (ended : Exit setting key plugin selector? view before (.error fault) after)
    (harmful : ¬Harmless view.analysis.diagnostics) :
    after.registry = before.registry ∧ after.journal = before.journal := by
  cases ended with
  | stopped _ _ registry journal => exact ⟨registry, journal⟩
  | failed _ harmless => exact absurd harmless harmful

/-- Failed behind the pipeline, a build leaves the records to those who feed them. -/
theorem of_failed
    {fault : Fault} (ended : Exit setting key plugin selector? view before (.error fault) after)
    (harmless : Harmless view.analysis.diagnostics) :
    after.registry =
        (arriving (.building plugin.id view.path) before.schedule).foldl (Registry.take setting)
          before.registry ∧
      after.journal =
        before.journal ++ buildCalls (before.registry.find key) plugin view selector? := by
  cases ended with
  | stopped _ harmful => exact absurd harmless harmful
  | failed _ _ _ _ registry journal => exact ⟨registry, journal⟩

theorem of_reused
    {built : Built} (ended : Exit setting key plugin selector? view before (.ok built) after)
    (cached : built.cached = true) :
    (before.registry.find key).reusable? plugin.id view.revision selector? =
        some built.artifact ∧
      built.warnings = view.analysis.diagnostics.filter fun found => !found.isError := by
  cases ended with
  | reused artifact _ stored => exact ⟨stored, rfl⟩
  | built => cases cached

theorem of_built
    {built : Built} (ended : Exit setting key plugin selector? view before (.ok built) after)
    (uncached : built.cached = false) :
    ∃ diagnostics,
      answerOf setting plugin view selector? = .built built.artifact diagnostics ∧
        built.warnings =
          (view.analysis.diagnostics.filter fun found => !found.isError) ++
            diagnostics.filter fun found => !found.isError := by
  cases ended with
  | reused => cases uncached
  | built artifact diagnostics _ _ answer => exact ⟨diagnostics, answer, rfl⟩

end Exit

/--
From every coherent record, whatever the pipeline answers: a build succeeds exactly when the
file is made ready, no finding of its analysis is an error, and an artifact can be served
again or the pipeline answers with one whose diagnostics hold no error.  A file that is not
made ready is all that happens then.  Where the build fails for errors of the analysis, the
records are those of the file that is ready, and no collaborator was called; where it fails
behind the pipeline, they saw only the texts that others fed while it was building.  What is
built comes with the warnings of the analysis and behind them those of the build.
-/
theorem build_exits
    (setting : Setting) (path : Path) (plugin : Plugin) (selector? : Option String)
    (resource : String) (bridge : Bridge)
    (coherent :
      (bridge.registry.find (setting.normalise path)).Coherent
        (setting.analyzer.findings (setting.normalise path))) :
    let key := setting.normalise path
    let readied := endOf (ready setting path).run bridge
    let record := readied.registry.find key
    let outcome := resultOf (build setting path plugin selector? resource).run bridge
    let last := endOf (build setting path plugin selector? resource).run bridge
    let isReady := ∃ readiness, resultOf (ready setting path).run bridge = .ok (key, readiness)
    ((∃ built, outcome = .ok built) ↔
      isReady ∧ Harmless record.diagnostics ∧
        ((record.reusable? plugin.id record.revision selector?).isSome ∨
          ∃ view, record.view? = some view ∧
            (answerOf setting plugin view selector?).IsUseful)) ∧
    (¬isReady → last = readied) ∧
    (∀ fault, outcome = .error fault → isReady → ¬Harmless record.diagnostics →
      last.registry = readied.registry ∧ last.journal = readied.journal) ∧
    (∀ fault, outcome = .error fault → isReady → Harmless record.diagnostics →
      last.registry =
          (arriving (.building plugin.id record.path) readied.schedule).foldl
            (Registry.take setting) readied.registry ∧
        ∃ view, record.view? = some view ∧
          last.journal = readied.journal ++ buildCalls record plugin view selector?) ∧
    (∀ built, outcome = .ok built → built.cached = true →
      record.reusable? plugin.id record.revision selector? = some built.artifact ∧
        built.warnings = record.diagnostics.filter fun found => !found.isError) ∧
    (∀ built, outcome = .ok built → built.cached = false →
      ∃ view diagnostics, record.view? = some view ∧
        answerOf setting plugin view selector? = .built built.artifact diagnostics ∧
          built.warnings =
            (record.diagnostics.filter fun found => !found.isError) ++
              diagnostics.filter fun found => !found.isError) := by
  intro key readied record outcome last isReady
  cases readies : resultOf (ready setting path).run bridge with
  | error fault =>
      have unready : ¬isReady := by
        rintro ⟨readiness, succeeded⟩
        rw [readies] at succeeded
        cases succeeded
      have refused : outcome = .error fault := (attempt_of_error readies _).1
      have stays : last = readied := (attempt_of_error readies _).2
      refine ⟨⟨?_, fun ready => absurd ready.1 unready⟩, fun _ => stays, ?_, ?_, ?_, ?_⟩
      · rintro ⟨built, succeeded⟩
        rw [refused] at succeeded
        cases succeeded
      · intro _ _ ready
        exact absurd ready unready
      · intro _ _ ready
        exact absurd ready unready
      · intro built succeeded
        rw [refused] at succeeded
        cases succeeded
      · intro built succeeded
        rw [refused] at succeeded
        cases succeeded
  | ok found =>
      rcases found with ⟨found, readiness⟩
      rcases key_of_ready readies with rfl
      have ready : isReady := ⟨readiness, readies⟩
      rcases exists_view_of_ready coherent readies with
        ⟨view, viewed, samePath, sameRevision, sameDiagnostics⟩
      change record.view? = some view at viewed
      have exits :
          Exit setting key plugin selector? view readied outcome last := by
        have continues := attempt_of_ok readies fun found =>
          buildReady setting found.1 plugin selector? resource
        rw [← build_eq] at continues
        rw [show outcome = _ from continues.1, show last = _ from continues.2]
        exact exit_of_viewed viewed
      have asks :
          (answerOf setting plugin view selector?).IsUseful ↔
            ∃ seen, record.view? = some seen ∧
              (answerOf setting plugin seen selector?).IsUseful := by
        rw [viewed]
        simp
      rw [← sameDiagnostics, ← sameRevision, ← samePath]
      refine ⟨?_, fun unready => absurd ready unready, ?_, ?_, ?_, ?_⟩
      · rw [exits.succeeds_iff, asks]
        exact ⟨fun succeeds => ⟨ready, succeeds⟩, And.right⟩
      · intro fault failed _ harmful
        exact (failed ▸ exits).of_stopped harmful
      · intro fault failed _ harmless
        rcases (failed ▸ exits).of_failed harmless with ⟨registry, journal⟩
        exact ⟨registry, view, viewed, journal⟩
      · intro built succeeded cached
        exact (succeeded ▸ exits).of_reused cached
      · intro built succeeded uncached
        rcases (succeeded ▸ exits).of_built uncached with ⟨diagnostics, answer, warnings⟩
        exact ⟨view, diagnostics, viewed, answer, warnings⟩

/-! ## An artifact with an error -/

/-- Surroundings with one file on disk, in which every pipeline finds an error. -/
def brokenSetting : Setting :=
  { lonelySetting with
    pipeline _ :=
      ⟨fun view _ => .built (.ofCode view.source) [.ofError "broken"], fun _ => .ok none,
        fun _ => .ok [], fun _ _ _ => .ok none⟩ }

/-- The file is analysed and the pipeline asked, but what it made is not kept. -/
theorem build_exits_broken :
    let key := brokenSetting.normalise ⟨"/a.es"⟩
    let readied := endOf (ready brokenSetting ⟨"/a.es"⟩).run plainBridge
    let last := endOf (build brokenSetting ⟨"/a.es"⟩ default none "a").run plainBridge
    (plainBridge.registry.find key).Coherent (brokenSetting.analyzer.findings key) ∧
      (readied.registry.find key).analysed?.isSome ∧
      (∃ fault,
        resultOf (build brokenSetting ⟨"/a.es"⟩ default none "a").run plainBridge =
          .error fault) ∧
      last.registry = readied.registry := by
  intro key readied last
  have coherent : (plainBridge.registry.find key).Coherent (brokenSetting.analyzer.findings key) :=
    Record.coherent_fresh _ _
  have steady : Steady brokenSetting.analyzer plainBridge := steady_plainBridge
  have readies : Follows nobody (Routine brokenSetting nobody nothing) plainBridge readied :=
    routine_ready ⟨"/a.es"⟩ plainBridge
  have known : textOf? brokenSetting key plainBridge = some "a" := by
    have normal : brokenSetting.normalise ⟨"/a.es"⟩ = ⟨"/a.es"⟩ := by cbv
    rw [show key = ⟨"/a.es"⟩ from normal]
    cbv
  rcases build_exits brokenSetting ⟨"/a.es"⟩ default none "a" plainBridge coherent with
    ⟨succeeds, -, -, fails, -, -⟩
  cases readied_of_steady steady known with
  | refused message refused failed => cases refused
  | ready analysis readiness succeeded holds =>
      have isReady : ∃ readiness,
          resultOf (ready brokenSetting ⟨"/a.es"⟩).run plainBridge = .ok (key, readiness) :=
        ⟨readiness, succeeded⟩
      have analysed : (readied.registry.find key).analysed? = some _ := holds.2.2
      have harmless : Harmless (readied.registry.find key).diagnostics := by
        rw [Record.diagnostics, Record.analysis?, analysed, ← Except.ok.inj holds.1]
        exact clean_nil
      have empty : (readied.registry.find key).slot? = none :=
        slot?_of_readying (readying brokenSetting ⟨"/a.es"⟩ plainBridge) rfl
      have unbuilt :
          ¬∃ built,
            resultOf (build brokenSetting ⟨"/a.es"⟩ default none "a").run plainBridge =
              .ok built := by
        rw [succeeds, reusable?_of_unbuilt empty]
        rintro ⟨-, -, stored | ⟨view, -, artifact, diagnostics, answer, useful⟩⟩
        · exact absurd stored Bool.false_ne_true
        · rcases (BuildAnswer.built.inj answer).2 with rfl
          exact absurd (useful _ List.mem_cons_self) (by decide)
      cases outcome :
        resultOf (build brokenSetting ⟨"/a.es"⟩ default none "a").run plainBridge with
      | ok built => exact absurd ⟨built, outcome⟩ unbuilt
      | error fault =>
          rcases fails fault outcome isReady harmless with ⟨registry, -⟩
          rw [arriving_of_quiet (readies steady.quiet).fits] at registry
          exact ⟨coherent, by rw [analysed]; rfl, ⟨fault, rfl⟩, registry⟩

end Bridge

end ModuleBridge
