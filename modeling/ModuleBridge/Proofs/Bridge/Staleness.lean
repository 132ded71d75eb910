import Mathlib
import ModuleBridge.Proofs.Bridge.Dealings

/-!
# Stale modules

A module is stale when the text it was last served from differs from the text of
its file in a section that the module depends on.  A pipeline remembers one
baseline for all modules of a file, and every load of the file moves it, whichever
module is loaded.  So a module that an update leaves out is as fresh as the text
by which the baseline was moved last without a comparison for this module.
-/

namespace ModuleBridge

/-- The parts of a text on which modules with this tag depend. -/
def ModuleTag.relevant : ModuleTag → Snapshot → List String
  | .direct, _ => []
  | .expansion, sections => [sections.script]
  | .style, sections => [sections.style]
  | .standard, sections => [sections.script, sections.markup]

/-- A module is to be loaded again exactly when a part on which it depends differs. -/
theorem ModuleTag.invalidates_between (tag : ModuleTag) (before after : Snapshot) :
    (SectionChange.between (some before) after).invalidates tag = true ↔
      tag.relevant before ≠ tag.relevant after := by
  cases tag with
  | direct => simp [SectionChange.invalidates, relevant]
  | expansion => simp [SectionChange.invalidates, SectionChange.between, relevant]
  | style => simp [SectionChange.invalidates, SectionChange.between, relevant]
  | standard =>
      simp [SectionChange.invalidates, SectionChange.between, relevant]
      exact Decidable.imp_iff_not_or.symm

/-- The parts of an analysed text on which modules with this tag depend. -/
def Analyzer.relevant (analyzer : Analyzer) (key : Path) (tag : ModuleTag) (text : String) :
    Option (List String) :=
  match analyzer.analyse key text with
  | .ok analysis => some (tag.relevant (analysis.sections text))
  | .error _ => none

theorem Analyzer.relevant_of_ok
    {analyzer : Analyzer} {key : Path} {text : String} {analysis : Analysis}
    (found : analyzer.analyse key text = .ok analysis) (tag : ModuleTag) :
    analyzer.relevant key tag text = some (tag.relevant (analysis.sections text)) := by
  rw [Analyzer.relevant, found]

/-- What a pipeline did to a file, as one module of the file sees it. -/
structure Trail where
  /-- The text that became the baseline last without a comparison for the module. -/
  basis : String
  /-- A text that an update refused since. -/
  refused? : Option String
  /-- The text that the module was last served from, if no update has reported it since. -/
  served? : Option String
  deriving DecidableEq, Repr

/-- The module was served from a text that differs in what it depends on. -/
def Trail.IsStale (trail : Trail) (relevant : String → Option (List String)) (text : String) :
    Prop :=
  ∃ served, trail.served? = some served ∧ relevant served ≠ relevant text

theorem Trail.isStale_congr
    (trail : Trail) {relevant : String → Option (List String)} {text other : String}
    (alike : relevant text = relevant other) :
    trail.IsStale relevant text ↔ trail.IsStale relevant other := by
  unfold Trail.IsStale
  rw [alike]

/-- The pipeline's update was answered, where the host listed some modules of the file. -/
def Trail.answered
    (trail : Trail) (listed : List HostModule) (target : HostModule) (text : String) :
    HotUpdate → Trail
  | .unchanged => trail
  | .failed _ => { trail with refused? := some text }
  | .updated modules _ =>
    { basis := if target ∈ listed ∧ target ∉ modules then trail.basis else text
      refused? := none
      served? := if target ∈ modules then none else trail.served? }

namespace Event

open Bridge

/-- The load serves code. -/
def serves (setting : Setting) (plugin : Plugin) (id : String) (bridge : Bridge) : Bool :=
  match resultOf (load setting plugin id).run bridge with
  | .ok (some _) => true
  | .ok none | .error _ => false

/-- What a pipeline did to a file after an operation, as a module sees it. -/
def track (requester : Nat) (key : Path) (target : HostModule) (event : Event)
    (bridge : Bridge) (trail? : Option Trail) : Option Trail :=
  if event.Concerns requester key then
    match event.operation with
    | .update asking suffix? file text =>
      trail?.map fun trail =>
        trail.answered
          (event.setting.modulesOf (moduleKey suffix? (event.setting.normalise file)))
          target text (resultOf (update event.setting asking suffix? file text) bridge)
    | .load plugin id =>
      match loadedText? event.setting id bridge with
      | some text =>
        let served? :=
          if id = target.id ∧ serves event.setting plugin id bridge then some text
          else trail?.bind Trail.served?
        some ⟨text, none, served?⟩
      | none => trail?
    | .rebuild _ | .invalidate _ _ => trail?
  else
    trail?

/-- What a pipeline did to a file in operations one after another. -/
def trail? (requester : Nat) (key : Path) (target : HostModule) :
    List Event → Bridge → Option Trail → Option Trail
  | [], _, so => so
  | event :: rest, bridge, so =>
    trail? requester key target rest (event.run bridge)
      (event.track requester key target bridge so)

end Event

namespace Bridge

variable {analyzer : Analyzer} {requester : Nat} {key : Path} {texts : Set String}
  {target : HostModule} {event : Event} {bridge : Bridge}

/-- A module that is listed but not reported depends on nothing that differs. -/
theorem relevant_of_unreported
    {setting : Setting} {suffix? : Option String} {file : Path} {before after : Snapshot}
    (listed : target ∈ setting.modulesOf (moduleKey suffix? file))
    (unreported :
      target ∉ invalidated setting suffix? file (.between (some before) after)) :
    (ModuleTag.ofUrl target.url).relevant before =
      (ModuleTag.ofUrl target.url).relevant after := by
  by_cases same :
      (ModuleTag.ofUrl target.url).relevant before =
        (ModuleTag.ofUrl target.url).relevant after
  · exact same
  · have depends := (ModuleTag.invalidates_between _ before after).2 same
    exact absurd (List.mem_filter.2 ⟨listed, depends⟩) unreported

/-- The trail tells of what the pipeline dealt with. -/
def Tracks
    (analyzer : Analyzer) (key : Path) (tag : ModuleTag)
    (dealt? : Option Dealings) (trail? : Option Trail) : Prop :=
  ∀ trail, trail? = some trail →
    ∃ dealings,
      dealt? = some dealings ∧
        dealings.last = trail.refused?.getD dealings.baseline ∧
        analyzer.relevant key tag dealings.baseline =
          analyzer.relevant key tag trail.basis

theorem tracks_update
    {setting : Setting} {suffix? : Option String} {file : Path} {text : String}
    {dealt? : Option Dealings} {trail? : Option Trail}
    (recalls :
      Recalls setting.analyzer requester (setting.normalise (setting.normalise file)) texts
        bridge dealt?)
    (tracks :
      Tracks setting.analyzer (setting.normalise (setting.normalise file))
        (ModuleTag.ofUrl target.url) dealt? trail?)
    (distinct : Set.InjOn Digest.of texts) (brought : text ∈ texts)
    (isLocal : bridge.plugins.isServerScoped (setting.normalise file) = false) :
    let answer := resultOf (update setting requester suffix? file text) bridge
    Tracks setting.analyzer (setting.normalise (setting.normalise file))
      (ModuleTag.ofUrl target.url)
      (dealt?.map fun dealings => dealings.answered text answer)
      (trail?.map fun trail =>
        trail.answered (setting.modulesOf (moduleKey suffix? (setting.normalise file)))
          target text answer) := by
  intro answer after answered
  rcases Option.map_eq_some_iff.1 answered with ⟨trail, rfl, rfl⟩
  rcases tracks trail rfl with ⟨dealings, rfl, last, alike⟩
  refine ⟨dealings.answered text answer, rfl, ?_⟩
  rcases answer_of_recalls recalls distinct brought isLocal with ⟨acted, found, told⟩
  cases told with
  | unchanged same answered remembered =>
      have repeated : dealings.last = text :=
        distinct (recalls.last dealings rfl) brought same
      rw [show answer = _ from answered]
      exact ⟨repeated.symm.trans last, alike⟩
  | server modules other server answered remembered => cases server
  | «local» other isLocal told =>
      cases told with
      | failed diagnostics unsound answered remembered =>
          rw [show answer = _ from answered]
          exact ⟨rfl, alike⟩
      | updated analysis accepted sound answered remembered =>
          rw [show answer = _ from answered]
          refine ⟨rfl, ?_⟩
          dsimp only [Trail.answered, Dealings.answered]
          -- The baseline moves to the new text.  The basis stays only where the module was
          -- compared and left out, and then the two texts are alike for it.
          split
          · rename_i compared
            have same := relevant_of_unreported compared.1 compared.2
            rw [← alike, Analyzer.relevant_of_ok accepted, Analyzer.relevant_of_ok found,
              same]
          · rfl

theorem tracks_track
    {dealt? : Option Dealings} {trail? : Option Trail}
    (recalls : Recalls event.setting.analyzer requester key texts bridge dealt?)
    (tracks :
      Tracks event.setting.analyzer key (ModuleTag.ofUrl target.url) dealt? trail?)
    (distinct : Set.InjOn Digest.of texts)
    (brings : ∀ text, event.Brings text → text ∈ texts)
    (isLocal : event.IsLocal bridge.plugins key) :
    Tracks event.setting.analyzer key (ModuleTag.ofUrl target.url)
      (event.deal requester key bridge dealt?)
      (event.track requester key target bridge trail?) := by
  unfold Event.deal Event.track
  split
  · rename_i concerns
    rcases event with ⟨setting, operation⟩
    cases operation with
    | update asking suffix? file text =>
        rcases concerns with ⟨rfl, rfl⟩
        exact tracks_update recalls tracks distinct (brings text (.inl rfl)) (isLocal rfl)
    | load plugin id =>
        dsimp only
        cases Event.loadedText? setting id bridge with
        | none => exact tracks
        | some text =>
            -- Whichever module is loaded, its text becomes both the baseline and the basis.
            rintro _ ⟨⟩
            exact ⟨_, rfl, rfl, rfl⟩
    | rebuild path => exact concerns.elim
    | invalidate path text => exact concerns.elim
  · exact tracks

theorem tracks_trail?
    {events : List Event} {dealt? : Option Dealings} {trail? : Option Trail}
    (recalls : Recalls analyzer requester key texts bridge dealt?)
    (tracks : Tracks analyzer key (ModuleTag.ofUrl target.url) dealt? trail?)
    (distinct : Set.InjOn Digest.of texts)
    (admitted : ∀ event ∈ events, Admits analyzer key texts bridge.plugins event) :
    Tracks analyzer key (ModuleTag.ofUrl target.url)
      (Event.dealings? requester key events bridge dealt?)
      (Event.trail? requester key target events bridge trail?) := by
  induction events generalizing bridge dealt? trail? with
  | nil => exact tracks
  | cons event rest inductionHypothesis =>
      rcases admitted event List.mem_cons_self with ⟨rfl, brings, isLocal⟩
      have plugins : (event.run bridge).plugins = bridge.plugins :=
        (progress_run recalls.steady.quiet).plugins
      apply inductionHypothesis
      · exact recalls_deal recalls distinct brings isLocal
      · exact tracks_track recalls tracks distinct brings isLocal
      · intro other later
        rw [plugins]
        exact admitted other (List.mem_cons_of_mem event later)

theorem tracks_of_undisturbed
    {start : Bridge} {events : List Event} {asked : Event}
    (undisturbed : Undisturbed analyzer key start (events ++ [asked])) (requester : Nat)
    (target : HostModule) :
    Tracks analyzer key (ModuleTag.ofUrl target.url)
      (Event.dealings? requester key events start none)
      (Event.trail? requester key target events start none) := by
  have begins :
      Recalls analyzer requester key
        {text | ∃ event ∈ events ++ [asked], event.Brings text} start none :=
    recalls_start undisturbed.fresh undisturbed.uninterrupted
  exact tracks_trail? begins nofun undisturbed.distinct undisturbed.admits

/-! ## Two modules of a file, loaded at different times -/

/-- The watcher hands over the text "b". -/
def rebuildPaired : Event :=
  ⟨pairedSetting "b", .rebuild ⟨"/a.es"⟩⟩

/-- A style of the file is loaded while its text is "b". -/
def loadStylePaired : Event :=
  ⟨pairedSetting "b", .load default "/a.es?type=style"⟩

theorem isDescriptionOnly_plain
    {record : Record} (coherent : record.Coherent (plainAnalyzer.findings key)) :
    record.isDescriptionOnly = false := by
  unfold Record.isDescriptionOnly Record.analysis?
  cases stored : record.analysed? with
  | none => rfl
  | some analysed =>
      rcases coherent.analysed analysed stored with ⟨text, -, -, found, -⟩
      rw [Option.map_some, ← Except.ok.inj found]
      rfl

theorem steady_loadPaired : Steady plainAnalyzer (loadPaired.run plainBridge) :=
  steady_run loadPaired (steady_start rfl rfl)

theorem held_loadPaired :
    ((loadPaired.run plainBridge).registry.find ⟨"/a.es"⟩).source? = some "a" := by
  have steady : Steady plainAnalyzer plainBridge := steady_start rfl rfl
  cases loadEnd (pairedSetting "a") default "/a.es" steady with
  | idle unloaded remembered =>
      rw [loadedText?_loadPaired] at unloaded
      cases unloaded
  | loaded text analysis loaded found held remembered =>
      rw [loadedText?_loadPaired] at loaded
      rcases Option.some.inj loaded with rfl
      rw [fileOf_paired, normalise_paired] at held
      exact held

theorem held_rebuildPaired :
    ((rebuildPaired.run (loadPaired.run plainBridge)).registry.find ⟨"/a.es"⟩).source? =
      some "b" := by
  have normal := normalise_paired "b"
  have apart : Digest.of "a" ≠ Digest.of "b" := by decide +kernel
  have known :
      resultOf (record? (pairedSetting "b") ((pairedSetting "b").normalise ⟨"/a.es"⟩))
          (loadPaired.run plainBridge) =
        some ((loadPaired.run plainBridge).registry.find ⟨"/a.es"⟩) := by
    rw [resultOf_record?, normal, normal]
    exact Registry.get?_of_held held_loadPaired
  have faithful : ∀ held,
      ((loadPaired.run plainBridge).registry.find ⟨"/a.es"⟩).source? = some held →
        Digest.of held = Digest.of "b" → held = "b" := by
    intro held source same
    rw [held_loadPaired] at source
    rcases Option.some.inj source with rfl
    exact absurd same apart
  have followed := isDescriptionOnly_plain (steady_loadPaired.coherent ⟨"/a.es"⟩)
  have rebuilt :
      ((endOf (rebuildChanged (pairedSetting "b") ⟨"/a.es"⟩).run
        (loadPaired.run plainBridge)).registry.find
          ((pairedSetting "b").normalise
            ((pairedSetting "b").normalise ⟨"/a.es"⟩))).source? = some "b" := by
    refine source?_rebuild steady_loadPaired known followed ?_ ?_
    · rw [normal]
      exact sourceOnDisk_paired "b"
    · rw [normal, normal]
      exact faithful
  rw [normal, normal] at rebuilt
  exact rebuilt

set_option maxRecDepth 20000 in
theorem serves_paired :
    Event.serves (pairedSetting "a") default "/a.es" plainBridge = true := by cbv

theorem track_loadPaired :
    loadPaired.track 0 ⟨"/a.es"⟩ ⟨"/a.es", "/a.es"⟩ plainBridge none =
      some ⟨"a", none, some "a"⟩ := by
  rw [Event.track, if_pos concerns_loadPaired, loadPaired]
  dsimp only
  rw [loadedText?_loadPaired]
  dsimp only
  rw [if_pos ⟨rfl, serves_paired⟩]

theorem loadedText?_loadStylePaired :
    Event.loadedText? (pairedSetting "b") "/a.es?type=style"
        (rebuildPaired.run (loadPaired.run plainBridge)) =
      some "b" :=
  loadedText?_paired (steady_run rebuildPaired steady_loadPaired) (by cbv) (by cbv)
    (textOf?_of_held held_rebuildPaired)

theorem concerns_loadStylePaired : loadStylePaired.Concerns 0 ⟨"/a.es"⟩ := by
  have parsed : Event.fileOf (pairedSetting "b") "/a.es?type=style" = ⟨"/a.es"⟩ := by cbv
  refine ⟨rfl, ?_⟩
  rw [loadStylePaired, parsed, normalise_paired]

theorem trail?_paired :
    Event.trail? 0 ⟨"/a.es"⟩ ⟨"/a.es", "/a.es"⟩
        [loadPaired, rebuildPaired, loadStylePaired] plainBridge none =
      some ⟨"b", none, some "a"⟩ := by
  rw [Event.trail?, track_loadPaired]
  change
    loadStylePaired.track 0 ⟨"/a.es"⟩ ⟨"/a.es", "/a.es"⟩
      (rebuildPaired.run (loadPaired.run plainBridge)) (some ⟨"a", none, some "a"⟩) = _
  rw [Event.track, if_pos concerns_loadStylePaired, loadStylePaired]
  dsimp only
  rw [loadedText?_loadStylePaired]
  rfl

theorem dealings?_paired :
    Event.dealings? 0 ⟨"/a.es"⟩ [loadPaired, rebuildPaired, loadStylePaired] plainBridge
        none =
      some ⟨"b", "b"⟩ := by
  change
    loadStylePaired.deal 0 ⟨"/a.es"⟩ (rebuildPaired.run (loadPaired.run plainBridge))
      (loadPaired.deal 0 ⟨"/a.es"⟩ plainBridge none) = _
  rw [Event.deal, if_pos concerns_loadStylePaired, loadStylePaired]
  dsimp only
  rw [loadedText?_loadStylePaired]

/-! ## What makes a module stale -/

/--
After every undisturbed session, for every module of the file that the host
lists.  When an update does not report the module, it stays stale exactly when
it differs, in what it depends on, from the text that became the baseline last
without a comparison for the module: by a load of the file, whichever module was
loaded, or by an update while the host did not list the module.  When an update
repeats a refused text, that text counts instead.
-/
theorem isStale_iff_of_trail
    {start : Bridge} {events : List Event} {trail : Trail}
    (setting : Setting) (requester : Nat) (suffix? : Option String) (file : Path)
    (text : String) (target : HostModule)
    (undisturbed :
      Undisturbed setting.analyzer (setting.normalise (setting.normalise file)) start
        (events ++ [⟨setting, .update requester suffix? file text⟩]))
    (walked :
      Event.trail? requester (setting.normalise (setting.normalise file)) target events
        start none = some trail)
    (listed : target ∈ setting.modulesOf (moduleKey suffix? (setting.normalise file))) :
    let answer :=
      resultOf (update setting requester suffix? file text) (Event.runAll events start)
    let relevant :=
      setting.analyzer.relevant (setting.normalise (setting.normalise file))
        (ModuleTag.ofUrl target.url)
    (answer = .unchanged →
        (trail.IsStale relevant text ↔
          trail.IsStale relevant (trail.refused?.getD trail.basis))) ∧
      ∀ modules renderOnly, answer = .updated modules renderOnly → target ∉ modules →
        (trail.IsStale relevant text ↔ trail.IsStale relevant trail.basis) := by
  intro answer relevant
  rcases tracks_of_undisturbed undisturbed requester target trail walked with
    ⟨dealings, dealt, last, alike⟩
  rcases answer_of_undisturbed undisturbed dealt with
    ⟨sameText, acted, after?, found, told⟩
  cases told with
  | unchanged same answered remembered =>
      have repeated : dealings.last = text := sameText same
      constructor
      · intro _
        apply trail.isStale_congr
        rw [← repeated, last]
        cases trail.refused? with
        | some refused => rfl
        | none => exact alike
      · intro modules renderOnly updated
        cases (answered.symm.trans updated)
  | server modules other server answered remembered => cases server
  | «local» other isLocal told =>
      cases told with
      | failed diagnostics unsound answered remembered =>
          constructor
          · intro unchanged
            cases (answered.symm.trans unchanged)
          · intro modules renderOnly updated
            cases (answered.symm.trans updated)
      | updated analysis accepted sound answered remembered =>
          constructor
          · intro unchanged
            cases (answered.symm.trans unchanged)
          · intro modules renderOnly updated unreported
            have reported := answered.symm.trans updated
            injection reported with sameModules
            rw [← sameModules] at unreported
            have same := relevant_of_unreported listed unreported
            have alikeNow : relevant text = relevant dealings.baseline := by
              dsimp only [relevant]
              rw [Analyzer.relevant_of_ok accepted, Analyzer.relevant_of_ok found, same]
            exact trail.isStale_congr (alikeNow.trans alike)

theorem isStale_iff_of_trail_repeated :
    let setting := pairedSetting "a"
    ∃ trail,
      Event.trail? 0 ⟨"/a.es"⟩ ⟨"/a.es", "/a.es"⟩ [loadPaired] plainBridge none =
          some trail ∧
        resultOf (update setting 0 none ⟨"/a.es"⟩ "a") (loadPaired.run plainBridge) =
          .unchanged ∧
        ¬trail.IsStale (setting.analyzer.relevant ⟨"/a.es"⟩ (.ofUrl "/a.es")) "a" := by
  intro setting
  let asked : Event := ⟨setting, .update 0 none ⟨"/a.es"⟩ "a"⟩
  have normal := normalise_paired "a"
  have undisturbed :
      Undisturbed plainAnalyzer ⟨"/a.es"⟩ plainBridge ([loadPaired] ++ [asked]) := by
    refine undisturbed_paired ?_ ?_
    · simp [asked, setting, loadPaired]
    · simp [asked, loadPaired, Operation.text?]
  have unchanged :
      resultOf (update setting 0 none ⟨"/a.es"⟩ "a") (loadPaired.run plainBridge) =
        .unchanged := by
    rcases
      answer_of_undisturbed (by rw [normal, normal]; exact undisturbed)
        (by rw [normal, normal]; exact dealings?_loadPaired)
      with ⟨-, acted, after?, -, told⟩
    cases told with
    | unchanged same answered remembered => exact answered
    | server modules other server answered remembered => cases server
    | «local» other isLocal told => exact absurd rfl other
  rcases
    isStale_iff_of_trail setting 0 none ⟨"/a.es"⟩ "a" ⟨"/a.es", "/a.es"⟩
      (by rw [normal, normal]; exact undisturbed)
      (by rw [normal, normal]; exact track_loadPaired) (by rw [normal]; decide)
    with ⟨whenUnchanged, -⟩
  refine ⟨_, track_loadPaired, unchanged, ?_⟩
  intro stale
  rw [normal, normal] at whenUnchanged
  rcases (whenUnchanged unchanged).1 stale with ⟨served, loaded, differs⟩
  rcases Option.some.inj loaded with rfl
  exact differs rfl

/--
The module was served from "a" and no update reported it; a style of the file is
loaded after the text became "b".  The update to "b" is then answered as
unchanged, and the module stays with a script that is gone.
-/
theorem isStale_of_loaded_style :
    let setting := pairedSetting "b"
    let session : List Event := [loadPaired, rebuildPaired, loadStylePaired]
    ∃ trail,
      Event.trail? 0 ⟨"/a.es"⟩ ⟨"/a.es", "/a.es"⟩ session plainBridge none = some trail ∧
        resultOf (update setting 0 none ⟨"/a.es"⟩ "b") (Event.runAll session plainBridge) =
          .unchanged ∧
        ⟨"/a.es", "/a.es"⟩ ∈ setting.modulesOf (moduleKey none ⟨"/a.es"⟩) ∧
        ModuleTag.ofUrl "/a.es" = .standard ∧
        trail.IsStale (setting.analyzer.relevant ⟨"/a.es"⟩ .standard) "b" := by
  intro setting session
  let asked : Event := ⟨setting, .update 0 none ⟨"/a.es"⟩ "b"⟩
  have normal := normalise_paired "b"
  have undisturbed :
      Undisturbed plainAnalyzer ⟨"/a.es"⟩ plainBridge (session ++ [asked]) := by
    refine undisturbed_paired ?_ ?_
    · simp [session, asked, setting, loadPaired, rebuildPaired, loadStylePaired]
    · simp [session, asked, loadPaired, rebuildPaired, loadStylePaired, Operation.text?]
  rcases
    answer_of_undisturbed (by rw [normal, normal]; exact undisturbed)
      (by rw [normal, normal]; exact dealings?_paired)
    with ⟨-, acted, after?, -, told⟩
  have unchanged :
      resultOf (update setting 0 none ⟨"/a.es"⟩ "b") (Event.runAll session plainBridge) =
        .unchanged := by
    cases told with
    | unchanged same answered remembered => exact answered
    | server modules other server answered remembered => cases server
    | «local» other isLocal told => exact absurd rfl other
  refine ⟨⟨"b", none, some "a"⟩, trail?_paired, unchanged, ?_, by cbv, "a", rfl, ?_⟩
  · decide
  · have before : setting.analyzer.relevant ⟨"/a.es"⟩ .standard "a" = some ["a", ""] := by cbv
    have after : setting.analyzer.relevant ⟨"/a.es"⟩ .standard "b" = some ["b", ""] := by cbv
    rw [before, after]
    decide

end Bridge

end ModuleBridge
