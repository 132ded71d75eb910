import ModuleBridge.Proofs.Bridge.Slots

/-!
# Artifacts that are served again

A build that finds its artifact in the slot returns what was built before.  It does not
ask the pipeline again, and so it knows neither the options that the pipeline has by now
nor the warnings that the pipeline raised when it built the artifact.
-/

namespace ModuleBridge

/-- The record with nothing in its slot. -/
def Record.emptied (record : Record) : Record :=
  { record with slot? := none }

theorem Record.emptied_markWatched (record : Record) :
    record.emptied.markWatched = record.markWatched.emptied := by
  have same : record.emptied.watch = record.watch := rfl
  rw [markWatched, markWatched, same]
  split <;> rfl

theorem Record.emptied_of_empty {record : Record} (nothing : record.slot? = none) :
    record.emptied = record := by
  rw [emptied, ← nothing]

theorem Findings.warnings_eq_nil_iff
    {diagnostics : List Diagnostic} (clean : ∀ found ∈ diagnostics, found.isError = false) :
    (Findings.ofList diagnostics).warnings = [] ↔ diagnostics = [] := by
  rw [ofList, List.filter_eq_nil_iff]
  refine ⟨?_, ?_⟩
  · intro none
    apply List.eq_nil_iff_forall_not_mem.2
    intro found member
    apply none found member
    rw [clean found member]
    rfl
  · rintro rfl found member
    cases member

/-- The analyzer finds no errors. -/
def Analyzer.IsClean (analyzer : Analyzer) : Prop :=
  ∀ key text analysis, analyzer.analyse key text = .ok analysis →
    ∀ problem ∈ analysis.diagnostics, problem.isError = false

namespace Bridge

variable {settings : Setting → Prop} {setting : Setting} {key : Path} {before : Bridge}
  {plugin : Plugin} {selector? : Option String} {resource : String} {built : Built}

/-- The bridge in which the slot of a file is empty. -/
def emptied (key : Path) (bridge : Bridge) : Bridge :=
  match (bridge.registry.find key).slot? with
  | none => bridge
  | some _ =>
    { bridge with registry := bridge.registry.put key (bridge.registry.find key).emptied }

/-- The same artifact comes with the same warnings. -/
def SameAnswer (built : Built) (outcome : Except Fault Built) : Prop :=
  ∃ other, outcome = .ok other ∧ other.artifact = built.artifact ∧ other.warnings = built.warnings

/-- What a build returns that finds nothing in the slot. -/
def builtAnew (setting : Setting) (key : Path) (view : View) (plugin : Plugin)
    (selector? : Option String) (resource : String) (warnings : List Diagnostic) :
    Except Fault Built :=
  ((answerOf setting plugin view selector?).delivered resource).map fun (artifact, further) =>
    ⟨key, artifact, warnings ++ further, view.revision, false⟩

theorem builtAnew_eq_ok_iff
    {view : View} {warnings : List Diagnostic} :
    builtAnew setting key view plugin selector? resource warnings = .ok built ↔
      ∃ artifact further,
        (answerOf setting plugin view selector?).delivered resource = .ok (artifact, further) ∧
          built = ⟨key, artifact, warnings ++ further, view.revision, false⟩ := by
  rw [builtAnew]
  cases (answerOf setting plugin view selector?).delivered resource with
  | error fault =>
      refine ⟨fun failed => ?_, ?_⟩
      · cases failed
      · rintro ⟨artifact, further, failed, -⟩
        cases failed
  | ok found =>
      rcases found with ⟨artifact, further⟩
      refine ⟨?_, ?_⟩
      · intro succeeded
        exact ⟨artifact, further, rfl, (Except.ok.inj succeeded).symm⟩
      · rintro ⟨_, _, same, rfl⟩
        cases same
        rfl

/-- A build that succeeds has seen a view, and serves what is in the slot or what it builds. -/
inductive Answered
    (setting : Setting) (key : Path) (record : Record) (plugin : Plugin)
    (selector? : Option String) (resource : String) (view : View) (warnings : List Diagnostic) :
    Built → Prop where
  | reused (artifact : Artifact)
      (stored : record.reusable? plugin.id view.revision selector? = some artifact) :
      Answered setting key record plugin selector? resource view warnings
        ⟨key, artifact, warnings, view.revision, true⟩
  | anew (built : Built)
      (outcome : builtAnew setting key view plugin selector? resource warnings = .ok built)
      (uncached : built.cached = false) :
      Answered setting key record plugin selector? resource view warnings built

theorem answered_of_builtFrom
    {record : Record}
    (succeeded : builtFrom setting key record plugin selector? resource = .ok built) :
    ∃ view warnings,
      record.view? = some view ∧
        Answered setting key record plugin selector? resource view warnings built ∧
        builtFrom setting key record.emptied plugin selector? resource =
          builtAnew setting key view plugin selector? resource warnings := by
  have viewedSame : record.emptied.view? = record.view? := rfl
  rw [builtFrom] at succeeded
  rw [builtFrom, viewedSame]
  cases viewed : record.view? with
  | none =>
      rw [viewed] at succeeded
      cases succeeded
  | some view =>
      rw [viewed] at succeeded
      dsimp only at succeeded ⊢
      cases sifts : sifted view.analysis.diagnostics (.analysis view.path) with
      | error fault =>
          rw [sifts] at succeeded
          cases succeeded
      | ok warnings =>
          rw [sifts] at succeeded
          dsimp only at succeeded ⊢
          refine ⟨view, warnings, rfl, ?_, rfl⟩
          cases stored : record.reusable? plugin.id view.revision selector? with
          | some artifact =>
              rw [stored] at succeeded
              rcases Except.ok.inj succeeded with rfl
              exact .reused artifact stored
          | none =>
              rw [stored] at succeeded
              refine .anew built succeeded ?_
              rcases builtAnew_eq_ok_iff.1 succeeded with ⟨artifact, further, -, rfl⟩
              rfl

/-- Built anew, an artifact comes with the same warnings when it is the same and has none. -/
theorem sameAnswer_builtAnew_iff
    {view : View} :
    SameAnswer built
        (builtAnew setting key view plugin selector? resource built.warnings) ↔
      answerOf setting plugin view selector? = .built built.artifact [] := by
  refine ⟨?_, ?_⟩
  · rintro ⟨other, succeeded, artifact, warnings⟩
    rcases builtAnew_eq_ok_iff.1 succeeded with ⟨_, further, delivered, rfl⟩
    rcases BuildAnswer.delivered_eq_ok_iff.1 delivered with ⟨diagnostics, answer, sifts⟩
    rcases sifted_eq_ok_iff.1 sifts with ⟨clean, found⟩
    have none : further = [] := List.append_right_eq_self.1 warnings
    rw [found, Findings.warnings_eq_nil_iff clean] at none
    rw [answer, none, ← artifact]
  · intro answer
    have delivered :
        (answerOf setting plugin view selector?).delivered resource = .ok (built.artifact, []) :=
      BuildAnswer.delivered_eq_ok_iff.2 ⟨[], answer, rfl⟩
    exact ⟨_, builtAnew_eq_ok_iff.2 ⟨_, _, delivered, rfl⟩, rfl, List.append_nil _⟩

/-! ## Emptied slots -/

theorem find_emptied
    {bridge : Bridge} {slot : Slot} (stored : (bridge.registry.find key).slot? = some slot) :
    ((emptied key bridge).registry.find key) = (bridge.registry.find key).emptied := by
  rw [emptied, stored]
  exact Registry.find_put_self (Registry.registered_of_slot stored) _

theorem find_watched
    {bridge : Bridge} (registered : (bridge.registry.get? key).isSome) :
    (watched key bridge).registry.find key = (bridge.registry.find key).markWatched :=
  Registry.find_put_self registered _

/-- A build and one with the slot emptied before it come to records that differ in the slot only. -/
theorem resultOf_build_emptied
    {path : Path} (accounted : Accounted settings before)
    (succeeded :
      resultOf (build setting path plugin selector? resource).run before = .ok built) :
    let record :=
      (endOf (ready setting path).run before).registry.find (setting.normalise path)
    builtFrom setting (setting.normalise path) record plugin selector? resource = .ok built ∧
      resultOf (build setting path plugin selector? resource).run
          (emptied (setting.normalise path) before) =
        builtFrom setting (setting.normalise path) record.emptied plugin selector? resource := by
  intro record
  let key := setting.normalise path
  cases stored : (before.registry.find key).slot? with
  | none =>
      have same : emptied key before = before := by
        rw [emptied, stored]
      have nothing : record.slot? = none := (slot?_of_ready accounted setting path).trans stored
      rcases ready_of_built succeeded with ⟨readiness, readied⟩
      have result : _ = builtFrom setting key record plugin selector? resource :=
        (building_of_ready readied plugin selector? resource).1
      rw [same, Record.emptied_of_empty nothing, ← result]
      exact ⟨succeeded, rfl⟩
  | some slot =>
      have registered := Registry.registered_of_slot stored
      have registeredThen : ((emptied key before).registry.get? key).isSome := by
        rw [emptied, stored]
        exact Registry.isSome_put registered _ _
      have valid := (accounted key).isValid_of_slot stored
      have validThen : ((emptied key before).registry.find key).isValid = true := by
        rw [find_emptied stored]
        exact valid
      rcases ready_of_valid registered valid with ⟨readies, ends⟩
      rcases ready_of_valid registeredThen validThen with ⟨readiesThen, endsThen⟩
      have found : record = (before.registry.find key).markWatched := by
        rw [← find_watched registered, ← ends]
      have foundThen :
          (endOf (ready setting path).run (emptied key before)).registry.find key =
            record.emptied := by
        rw [endsThen, find_watched registeredThen, find_emptied stored, found,
          Record.emptied_markWatched]
      rw [(building_of_ready readies plugin selector? resource).1] at succeeded
      rw [(building_of_ready readiesThen plugin selector? resource).1, foundThen]
      exact ⟨succeeded, rfl⟩

/-! ## Reuse and building anew -/

/-- How an artifact that is served again compares with one that is built anew. -/
structure Reuse
    (setting : Setting) (key : Path) (plugin : Plugin) (selector? : Option String)
    (before : Bridge) (built : Built) (anew : Except Fault Built) (view : View)
    (options : Options) (diagnostics : List Diagnostic) : Prop where
  viewed : (before.registry.find key).view? = some view
  /-- The pipeline was called for the view, with the options of that time. -/
  called : .build plugin.id key built.revision selector? options.ssr ∈ before.journal
  answer :
    (setting.pipeline plugin.id).build view ⟨selector?, options⟩ =
      .built built.artifact diagnostics
  clean : ∀ found ∈ diagnostics, found.isError = false
  /-- With the options of that time, the warnings of the pipeline are what is missing. -/
  missing :
    options = plugin.options →
      anew = .ok { built with
        warnings := built.warnings ++ (Findings.ofList diagnostics).warnings, cached := false }
  /-- The answers agree when the pipeline would give the artifact now, without a warning. -/
  agrees :
    SameAnswer built anew ↔ answerOf setting plugin view selector? = .built built.artifact []

theorem reuse_of_stored
    {path : Path} {view : View} {artifact : Artifact} {warnings : List Diagnostic}
    (accounted : Accounted settings before)
    (same : ∀ other, settings other → other.pipeline = setting.pipeline)
    (viewed :
      ((endOf (ready setting path).run before).registry.find
        (setting.normalise path)).view? = some view)
    (reusable :
      ((endOf (ready setting path).run before).registry.find
        (setting.normalise path)).reusable? plugin.id view.revision selector? = some artifact) :
    ∃ options diagnostics,
      Reuse setting (setting.normalise path) plugin selector? before
        ⟨setting.normalise path, artifact, warnings, view.revision, true⟩
        (builtAnew setting (setting.normalise path) view plugin selector? resource warnings)
        view options diagnostics := by
  let key := setting.normalise path
  have stored : (before.registry.find key).slot? = _ :=
    (slot?_of_ready accounted setting path).symm.trans (Record.slot?_of_reusable reusable).1
  rw [(ready_of_slot accounted stored).2, Record.view?_of_core (core_watched _ _ _)] at viewed
  rcases (accounted key).slot _ stored with
    ⟨other, viewedOther, -, maker, options, diagnostics, among, answer, clean, called⟩
  rcases Option.some.inj (viewed.symm.trans viewedOther) with rfl
  rw [same maker among] at answer
  rw [Record.path_view viewed, (accounted key).path] at called
  refine ⟨options, diagnostics,
    { viewed := viewed
      called := called
      answer := answer
      clean := clean
      missing := ?_
      agrees := sameAnswer_builtAnew_iff }⟩
  rintro rfl
  exact builtAnew_eq_ok_iff.2 ⟨artifact, _, delivered_of_clean answer clean resource, rfl⟩

/-! ## Where nobody interrupts -/

theorem registry_answered_of_quiet
    {view : View} {bridge : Bridge} (quiet : Fits nobody bridge) :
    (answered setting key plugin view selector? bridge).registry = bridge.registry := by
  rw [registry_answered, arriving_of_quiet quiet]
  rfl

theorem slot?_offered_of_quiet
    {view : View} {bridge : Bridge} (quiet : Fits nobody bridge)
    (viewed : (bridge.registry.find key).view? = some view) (artifact : Artifact) :
    ((offered key ⟨plugin.id, view.revision, selector?, artifact⟩
        (answered setting key plugin view selector? bridge)).registry.find key).slot? =
      some ⟨plugin.id, view.revision, selector?, artifact⟩ := by
  have same : (answered setting key plugin view selector? bridge).registry = bridge.registry :=
    registry_answered_of_quiet quiet
  rcases Record.fields_of_view viewed with ⟨analysed, source, revision⟩
  refine slot?_offered ?_ ?_ ?_
  · rw [same, Registry.get?_of_held source]
    rfl
  · rw [same]
    exact revision.symm
  · rw [same]
    exact analysed

/-- Where nobody interrupts, what is built is in the slot afterwards. -/
theorem stored_of_quiet
    {path : Path} (quiet : Fits nobody before)
    (succeeded :
      resultOf (build setting path plugin selector? resource).run before = .ok built)
    (uncached : built.cached = false) :
    ((endOf (build setting path plugin selector? resource).run before).registry.find
        (setting.normalise path)).slot? =
      some ⟨plugin.id, built.revision, selector?, built.artifact⟩ := by
  rcases ready_of_built succeeded with ⟨readiness, readied⟩
  rcases building_of_ready readied plugin selector? resource with ⟨result, building⟩
  rw [← result, succeeded] at building
  have readies :
      Follows nobody (Routine setting nobody nothing) before
        (endOf (ready setting path).run before) :=
    routine_ready path before
  have quietThen := (readies quiet).fits
  cases building with
  | reused view artifact warnings viewed reusable printed => cases uncached
  | built view middle artifact warnings further viewed printed delivered kept =>
      have quietMiddle : Fits nobody middle := by
        rcases printed with ⟨console, rfl⟩
        exact quietThen
      have viewedMiddle :
          (middle.registry.find (setting.normalise path)).view? = some view := by
        rcases printed with ⟨console, rfl⟩
        exact viewed
      rcases kept with ⟨shown, ended⟩
      rw [ended]
      exact slot?_offered_of_quiet quietMiddle viewedMiddle artifact

/-- An artifact in the slot that read no directories is served again. -/
theorem resultOf_build_of_slot
    {path : Path} {artifact : Artifact} {view : View} {warnings : List Diagnostic}
    (accounted : Accounted settings before)
    (stored :
      (before.registry.find (setting.normalise path)).slot? =
        some ⟨plugin.id, view.revision, selector?, artifact⟩)
    (alone : artifact.hasGroups = false)
    (viewed : (before.registry.find (setting.normalise path)).view? = some view)
    (sifts : sifted view.analysis.diagnostics (.analysis view.path) = .ok warnings)
    (resource : String) :
    resultOf (build setting path plugin selector? resource).run before =
      .ok ⟨setting.normalise path, artifact, warnings, view.revision, true⟩ := by
  let key := setting.normalise path
  rcases ready_of_slot accounted stored with ⟨readies, ends⟩
  have same := core_watched key key before
  have storedThen : ((watched key before).registry.find key).slot? = _ :=
    (slot?_watched key key before).trans stored
  have reusable :
      ((watched key before).registry.find key).reusable? plugin.id view.revision selector? =
        some artifact := by
    simp [Record.reusable?, Record.builtFor?, storedThen, alone]
  rw [(building_of_ready readies plugin selector? resource).1, ends, builtFrom,
    Record.view?_of_core same, viewed]
  dsimp only
  rw [sifts]
  dsimp only
  rw [reusable]

/-- Where the slot is empty, the pipeline is called. -/
theorem uncached_of_empty
    {path : Path} (accounted : Accounted settings before)
    (nothing : (before.registry.find (setting.normalise path)).slot? = none)
    (succeeded :
      resultOf (build setting path plugin selector? resource).run before = .ok built) :
    built.cached = false := by
  rcases answered_of_builtFrom (resultOf_build_emptied accounted succeeded).1 with
    ⟨view, warnings, viewed, answered, -⟩
  cases answered with
  | anew _ outcome uncached => exact uncached
  | reused artifact reusable =>
      have stored := (Record.slot?_of_reusable reusable).1
      rw [slot?_of_ready accounted, nothing] at stored
      cases stored

/-- What is served again differs from what a pipeline builds anew that raises a warning. -/
theorem not_sameAnswer_of_warning
    {path : Path} (accounted : Accounted settings before)
    (succeeded :
      resultOf (build setting path plugin selector? resource).run before = .ok built)
    (cached : built.cached = true)
    (raises : ∀ view artifact, answerOf setting plugin view selector? ≠ .built artifact []) :
    ¬ SameAnswer built
      (resultOf (build setting path plugin selector? resource).run
        (emptied (setting.normalise path) before)) := by
  rcases resultOf_build_emptied accounted succeeded with ⟨outcome, outcomeAnew⟩
  rcases answered_of_builtFrom outcome with ⟨view, warnings, viewed, answered, isAnew⟩
  rw [outcomeAnew, isAnew]
  cases answered with
  | anew _ outcome uncached =>
      rw [uncached] at cached
      cases cached
  | reused artifact reusable =>
      intro same
      exact raises view artifact (sameAnswer_builtAnew_iff.1 same)

/-- Where nobody interrupts, an artifact that was built is served again. -/
theorem cached_again
    {ledger : Ledger} {path : Path}
    (reached : Reached settings before ledger) (present : settings setting)
    (steady : Steady setting.analyzer before) (findsNone : setting.analyzer.IsClean)
    (empty : (before.registry.find (setting.normalise path)).slot? = none)
    (succeeded :
      resultOf (build setting path plugin selector? resource).run before = .ok built)
    (alone : built.artifact.hasGroups = false) :
    ∃ again,
      resultOf (build setting path plugin selector? resource).run
          (endOf (build setting path plugin selector? resource).run before) = .ok again ∧
        again.cached = true := by
  let last := endOf (build setting path plugin selector? resource).run before
  have accounted : Accounted settings last :=
    accounted_of_leads reached (leads_build present path plugin selector? resource before)
  have builds :
      Follows nobody (Routine setting nobody nothing) before last :=
    routine_build path plugin selector? resource before
  have innocent : Innocent nothing := fun _ _ asked => absurd asked id
  have steadyLast : Steady setting.analyzer last :=
    (builds steady.quiet).steady innocent steady
  have uncached := uncached_of_empty (accounted_of_reached reached) empty succeeded
  have stored := stored_of_quiet steady.quiet succeeded uncached
  rcases (accounted (setting.normalise path)).slot _ stored with ⟨view, viewed, revision, -⟩
  have valid := (accounted (setting.normalise path)).isValid_of_slot stored
  rcases exists_holds_of_valid (steadyLast.coherent _) valid with ⟨text, analysis, holds⟩
  rcases Option.some.inj (viewed.symm.trans (view_of_holds holds)) with rfl
  have clean := findsNone _ text analysis holds.1
  dsimp only at revision
  rw [← revision] at stored
  exact ⟨_, resultOf_build_of_slot accounted stored alone viewed
    (sifted_eq_ok_iff.2 ⟨clean, rfl⟩) resource, rfl⟩

/-! ## A pipeline that raises a warning -/

/-- Surroundings with one file on disk, in which every pipeline raises a warning. -/
def loudSetting : Setting :=
  { lonelySetting with
    pipeline := fun _ =>
      ⟨fun view _ => .built (.ofCode view.source) [⟨.warning, "unused", none, none⟩],
        fun _ => .ok none, fun _ => .ok [], fun _ _ _ => .ok none⟩ }

/-- A bridge in which a file was built once, with a warning. -/
def onceBuilt : Bridge :=
  Happening.runAll [.build loudSetting ⟨"/a.es"⟩ default none "a"] plainBridge

/-- Nothing but the loud surroundings. -/
def loudOnly (setting : Setting) : Prop := setting = loudSetting

theorem cached_onceBuilt :
    ∃ ledger built,
      Reached loudOnly onceBuilt ledger ∧
        resultOf (build loudSetting ⟨"/a.es"⟩ default none "a").run onceBuilt = .ok built ∧
        built.cached = true := by
  have present : loudOnly loudSetting := rfl
  have start : Reached loudOnly plainBridge .blank := .start _ rfl
  have steady : Steady loudSetting.analyzer plainBridge := steady_plainBridge
  have findsNone : loudSetting.analyzer.IsClean := by
    rintro key text _ ⟨⟩ problem member
    cases member
  have normal : loudSetting.normalise ⟨"/a.es"⟩ = ⟨"/a.es"⟩ := by cbv
  have known :
      textOf? loudSetting (loudSetting.normalise ⟨"/a.es"⟩) plainBridge = some "a" := by
    rw [normal]
    cbv
  have succeeds :
      ∃ built,
        resultOf (build loudSetting ⟨"/a.es"⟩ default none "a").run plainBridge = .ok built :=
    exists_built steady known rfl clean_nil
      (fun view _ => ⟨_, _, rfl, by rintro _ (_ | ⟨_, ⟨⟩⟩); rfl⟩) "a"
  rcases succeeds with ⟨first, succeeded⟩
  rcases truthful_of_build start present succeeded with ⟨view, truthful⟩
  rcases truthful.made with ⟨_, options, diagnostics, rfl, -, answer, -⟩
  have alone : first.artifact.hasGroups = false := by
    rw [← (BuildAnswer.built.inj answer).1]
    rfl
  rcases cached_again start present steady findsNone rfl succeeded alone with
    ⟨again, succeededAgain, cached⟩
  rcases leads_build present ⟨"/a.es"⟩ default none "a" plainBridge _ start with
    ⟨ledger, reached⟩
  exact ⟨ledger, again, reached, succeededAgain, cached⟩

/--
Wherever a session has come to, a build that calls its pipeline returns what it would
return with the slot empty.  An artifact that is served again comes without the warnings
that its pipeline raised, and as it was built with the options of that time; so the
answers agree when the pipeline would give this artifact now, and no warning.
-/
theorem same_answer_when_emptied
    {ledger : Ledger} {path : Path}
    (same : ∀ other, settings other → other.pipeline = setting.pipeline)
    (reached : Reached settings before ledger)
    (succeeded :
      resultOf (build setting path plugin selector? resource).run before = .ok built) :
    let key := setting.normalise path
    let anew :=
      resultOf (build setting path plugin selector? resource).run (emptied key before)
    (built.cached = false → anew = .ok built) ∧
      (built.cached = true →
        ∃ view options diagnostics,
          Reuse setting key plugin selector? before built anew view options diagnostics) := by
  intro key anew
  have accounted := accounted_of_reached reached
  rcases resultOf_build_emptied accounted succeeded with ⟨outcome, outcomeAnew⟩
  rcases answered_of_builtFrom outcome with ⟨view, warnings, viewed, answered, isAnew⟩
  have anewIs : anew = _ := outcomeAnew.trans isAnew
  rw [anewIs]
  cases answered with
  | anew _ outcome uncached =>
      refine ⟨fun _ => outcome, ?_⟩
      intro cached
      rw [uncached] at cached
      cases cached
  | reused artifact stored =>
      refine ⟨?_, fun _ => ⟨view, reuse_of_stored accounted same viewed stored⟩⟩
      intro uncached
      cases uncached

theorem same_answer_when_emptied_once :
    ∃ built,
      resultOf (build loudSetting ⟨"/a.es"⟩ default none "a").run onceBuilt = .ok built ∧
        ∃ view options diagnostics,
          Reuse loudSetting (loudSetting.normalise ⟨"/a.es"⟩) default none onceBuilt built
            (resultOf (build loudSetting ⟨"/a.es"⟩ default none "a").run
              (emptied (loudSetting.normalise ⟨"/a.es"⟩) onceBuilt))
            view options diagnostics := by
  rcases cached_onceBuilt with ⟨ledger, built, reached, succeeded, cached⟩
  have same : ∀ other, loudOnly other → other.pipeline = loudSetting.pipeline :=
    fun other loud => by rw [loud]
  exact ⟨built, succeeded, (same_answer_when_emptied same reached succeeded).2 cached⟩

/-- A file is built twice; the second time, the warning of its pipeline is lost. -/
theorem warning_lost_on_reuse :
    ∃ built,
      resultOf (build loudSetting ⟨"/a.es"⟩ default none "a").run onceBuilt = .ok built ∧
        ¬ SameAnswer built
          (resultOf (build loudSetting ⟨"/a.es"⟩ default none "a").run
            (emptied (loudSetting.normalise ⟨"/a.es"⟩) onceBuilt)) := by
  rcases cached_onceBuilt with ⟨ledger, built, reached, succeeded, cached⟩
  refine ⟨built, succeeded,
    not_sameAnswer_of_warning (accounted_of_reached reached) succeeded cached ?_⟩
  rintro view artifact ⟨⟩

end Bridge

end ModuleBridge
