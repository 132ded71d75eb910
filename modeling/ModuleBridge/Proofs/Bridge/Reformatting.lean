import ModuleBridge.Proofs.Bridge.Dealings
import ModuleBridge.Proofs.Layout

/-!
# Reformatting

A text is compared by its digest and by the sections that a pipeline acted on.  Where these
sections are there, they are those of the text with that digest, provided that an update can
be answered by it: every operation keeps this.  An update that brings the same text in another
layout then concerns no module.
-/

namespace ModuleBridge

open Bridge
open String (utf8Len)

/-- Where nothing is compared with, any text is another one. -/
theorem Record.observe_of_uncompared
    {origin : Provenance} {record : Record} {observer : Observer}
    (coherent : record.Coherent origin) (uncompared : record.compared? observer = none)
    (text : String) :
    (record.observe observer text).2 = ⟨.changed, none⟩ := by
  rw [compared?] at uncompared
  rw [observe]
  cases remembered : record.memory? observer with
  | some memory =>
      rw [remembered] at uncompared
      cases uncompared
  | none =>
      rw [remembered] at uncompared
      have undigested : record.digest? = none := Option.map_eq_none_iff.1 uncompared
      have unanalysed : record.analysed? = none := by
        cases stored : record.analysed? with
        | none => rfl
        | some analysed =>
            rcases coherent.analysed analysed stored with ⟨held, source, -⟩
            rw [coherent.digest, source] at undigested
            cases undigested
      simp [undigested, sections?, unanalysed, judge]

/-- An update can be answered by an analysis that finds these blocks in the text. -/
def Analyzer.Yields (analyzer : Analyzer) (key : Path) (text : String) (blocks : List Block) :
    Prop :=
  ∃ analysis,
    analyzer.analyse key text = .ok analysis ∧ analysis.IsSound ∧ analysis.blocks = blocks

/-- The sections that are remembered beside a text are those of the text, where it is accepted. -/
def Memory.IsFaithful
    (analyzer : Analyzer) (key : Path) (texts : Set String) (memory : Memory) : Prop :=
  ∀ text ∈ texts, memory.digest = Digest.of text →
    ∀ blocks, analyzer.Yields key text blocks →
      ∀ sections, memory.sections? = some sections → sections = Snapshot.extract text blocks

namespace Bridge

variable {analyzer : Analyzer} {requester : Nat} {key : Path} {texts : Set String}
  {event : Event} {bridge : Bridge} {text : String} {analysis : Analysis}

/-! ## What is remembered of accepted texts -/

theorem isFaithful_of_found
    (distinct : Set.InjOn Digest.of texts) (brought : text ∈ texts)
    (found : analyzer.analyse key text = .ok analysis) :
    Memory.IsFaithful analyzer key texts
      ⟨Digest.of text, some (analysis.sections text)⟩ := by
  rintro other otherBrought same blocks ⟨further, foundOther, -, rfl⟩ sections ⟨⟩
  obtain rfl : text = other := distinct brought otherBrought same
  obtain rfl : analysis = further := Except.ok.inj (found.symm.trans foundOther)
  rfl

theorem isFaithful_of_unsound
    (distinct : Set.InjOn Digest.of texts) (brought : text ∈ texts)
    (unsound : ¬analyzer.Accepts key text) (sections? : Option Snapshot) :
    Memory.IsFaithful analyzer key texts ⟨Digest.of text, sections?⟩ := by
  rintro other otherBrought same blocks ⟨analysis, found, sound, -⟩
  obtain rfl : text = other := distinct brought otherBrought same
  exact absurd ⟨analysis, found, sound⟩ unsound

/-- What a pipeline remembers of the file is faithful. -/
structure Minds
    (analyzer : Analyzer) (requester : Nat) (key : Path) (texts : Set String)
    (bridge : Bridge) : Prop where
  steady : Steady analyzer bridge
  held : ∀ text, (bridge.registry.find key).source? = some text → text ∈ texts
  remembered :
    ∀ memory, (bridge.registry.find key).memory? (.pipeline requester) = some memory →
      memory.IsFaithful analyzer key texts

/-- The record's own text and sections are faithful, too. -/
theorem Minds.compared
    (minds : Minds analyzer requester key texts bridge) (distinct : Set.InjOn Digest.of texts)
    {memory : Memory}
    (compared : (bridge.registry.find key).compared? (.pipeline requester) = some memory) :
    memory.IsFaithful analyzer key texts := by
  let record := bridge.registry.find key
  rw [Record.compared?] at compared
  cases remembered : record.memory? (.pipeline requester) with
  | some own =>
      rw [remembered] at compared
      cases compared
      exact minds.remembered _ remembered
  | none =>
      rw [remembered] at compared
      rcases Option.map_eq_some_iff.1 compared with ⟨digest, known, rfl⟩
      rintro other brought rfl blocks yields sections acted
      rcases Option.map_eq_some_iff.1 acted with ⟨analysed, stored, rfl⟩
      have valid : record.isValid = true := by
        rw [(minds.steady.coherent key).isValid_iff, stored]
        rfl
      rcases exists_holds_of_valid (minds.steady.coherent key) valid with
        ⟨text, analysis, found, source, analysedIs⟩
      rw [(minds.steady.coherent key).digest, source] at known
      rw [analysedIs] at stored
      cases stored
      exact isFaithful_of_found distinct (minds.held text source) found other brought
        (Option.some.inj known) blocks yields _ rfl

theorem minds_start
    {start : Bridge} (fresh : start.registry = .empty) (uninterrupted : start.schedule = []) :
    Minds analyzer requester key texts start where
  steady := steady_start fresh uninterrupted
  held := by
    intro text source
    rw [find_start fresh] at source
    cases source
  remembered := by
    intro memory remembered
    rw [find_start fresh] at remembered
    cases remembered

theorem minds_update
    {setting : Setting} {suffix? : Option String} {file : Path}
    (minds :
      Minds setting.analyzer requester (setting.normalise (setting.normalise file)) texts bridge)
    (distinct : Set.InjOn Digest.of texts) (brought : text ∈ texts)
    (isLocal : bridge.plugins.isServerScoped (setting.normalise file) = false)
    {memory : Memory}
    (remembered :
      ((endOf (update setting requester suffix? file text) bridge).registry.find
        (setting.normalise (setting.normalise file))).memory? (.pipeline requester) =
          some memory) :
    memory.IsFaithful setting.analyzer (setting.normalise (setting.normalise file)) texts := by
  let key := setting.normalise (setting.normalise file)
  have faithful : ∀ held, (bridge.registry.find key).source? = some held →
      Digest.of held = Digest.of text → held = text := by
    intro held source same
    exact distinct (minds.held held source) brought same
  have localFaithful : ∀ {previous? answer after?},
      LocalAnswer setting requester suffix? (setting.normalise file) text previous?
        ⟨Digest.of text, previous?⟩ answer after? →
      after? = some memory → memory.IsFaithful setting.analyzer key texts := by
    rintro previous? answer after? answered rfl
    cases answered with
    | failed diagnostics unsound answered remembered =>
        cases remembered
        exact isFaithful_of_unsound distinct brought unsound previous?
    | updated analysis found sound answered remembered =>
        cases remembered
        exact isFaithful_of_found distinct brought found
  cases compared : (bridge.registry.find key).compared? (.pipeline requester) with
  | none =>
      have told : observation setting requester file text bridge = ⟨.changed, none⟩ :=
        Record.observe_of_uncompared (minds.steady.coherent key) compared text
      exact localFaithful (localAnswer_of_told minds.steady isLocal told faithful) remembered
  | some before =>
      have answered :
          Answer setting requester suffix? (setting.normalise file) text false before
            (resultOf (update setting requester suffix? file text) bridge) (some memory) := by
        rw [← isLocal, ← remembered]
        exact answer_of_compared minds.steady compared faithful
      cases answered with
      | unchanged same answered after =>
          cases after
          intro other otherBrought digest
          exact minds.compared distinct compared other otherBrought (same.trans digest)
      | server modules other server answered after => cases server
      | «local» other isLocal answered => exact localFaithful answered rfl

theorem minds_run
    (minds : Minds event.setting.analyzer requester key texts bridge)
    (distinct : Set.InjOn Digest.of texts)
    (brings : ∀ text, event.Brings text → text ∈ texts)
    (isLocal : event.IsLocal bridge.plugins key) :
    Minds event.setting.analyzer requester key texts (event.run bridge) where
  steady := steady_run event minds.steady
  held := held_of_progress event (progress_run minds.steady.quiet) brings minds.held
  remembered := by
    intro memory remembered
    by_cases concerns : event.Concerns requester key
    · rcases event with ⟨setting, operation⟩
      cases operation with
      | update asking suffix? file text =>
          rcases concerns with ⟨rfl, rfl⟩
          exact minds_update minds distinct (brings text (.inl rfl)) (isLocal rfl) remembered
      | load plugin id =>
          rcases concerns with ⟨rfl, rfl⟩
          cases loadEnd setting plugin id minds.steady with
          | idle unloaded same =>
              rw [same] at remembered
              exact minds.remembered memory remembered
          | loaded text analysis loaded found held same =>
              rw [same] at remembered
              cases remembered
              have brought : text ∈ texts :=
                held_of_progress _ (progress_run minds.steady.quiet) brings minds.held text held
              exact isFaithful_of_found distinct brought found
      | rebuild path => exact concerns.elim
      | invalidate path text => exact concerns.elim
    · rw [memory?_run_of_foreign minds.steady.quiet concerns] at remembered
      exact minds.remembered memory remembered

theorem minds_runAll
    {events : List Event}
    (minds : Minds analyzer requester key texts bridge)
    (distinct : Set.InjOn Digest.of texts)
    (admitted : ∀ event ∈ events, Admits analyzer key texts bridge.plugins event) :
    Minds analyzer requester key texts (Event.runAll events bridge) := by
  induction events generalizing bridge with
  | nil => exact minds
  | cons event rest inductionHypothesis =>
      rcases admitted event List.mem_cons_self with ⟨rfl, brings, isLocal⟩
      have plugins : (event.run bridge).plugins = bridge.plugins :=
        (progress_run minds.steady.quiet).plugins
      apply inductionHypothesis (minds_run minds distinct brings isLocal)
      intro other later
      rw [plugins]
      exact admitted other (List.mem_cons_of_mem event later)

/-! ## An update in another layout -/

/-- The pipeline's next update is compared with this text, and with sections acted on. -/
def StandsAt (requester : Nat) (key : Path) (text : String) (bridge : Bridge) : Prop :=
  ∃ sections,
    (bridge.registry.find key).compared? (.pipeline requester) =
      some ⟨Digest.of text, some sections⟩

/-- A pipeline that loaded the file stands at the text it dealt with last. -/
theorem standsAt_of_dealings
    {start : Bridge} {events : List Event} {asked : Event} {baseline : String}
    (undisturbed : Undisturbed analyzer key start (events ++ [asked]))
    (dealt : Event.dealings? requester key events start none = some ⟨text, baseline⟩) :
    StandsAt requester key text (Event.runAll events start) := by
  rcases (recalls_of_undisturbed undisturbed requester).1.remembered _ dealt with
    ⟨acted, -, remembered⟩
  exact ⟨_, Record.compared?_of_memory remembered⟩

theorem invalidated_of_same
    (setting : Setting) (suffix? : Option String) (file : Path) (sections : Snapshot) :
    invalidated setting suffix? file (.between (some sections) sections) = [] := by
  refine List.filter_eq_nil_iff.2 ?_
  intro found _
  cases ModuleTag.ofUrl found.url <;> simp [SectionChange.between, SectionChange.invalidates]

theorem renderOnly_of_same (sections : Snapshot) :
    (SectionChange.between (some sections) sections).renderOnly = false := by
  simp [SectionChange.between, SectionChange.renderOnly]

/-- Another text with the same sections concerns no module. -/
theorem answer_of_same_sections
    {setting : Setting} {suffix? : Option String} {file : Path} {source other : String}
    {blocks others : List Block}
    (minds :
      Minds setting.analyzer requester (setting.normalise (setting.normalise file)) texts bridge)
    (distinct : Set.InjOn Digest.of texts) (brought : source ∈ texts) (incoming : other ∈ texts)
    (isLocal : bridge.plugins.isServerScoped (setting.normalise file) = false)
    (stands : StandsAt requester (setting.normalise (setting.normalise file)) source bridge)
    (yields :
      setting.analyzer.Yields (setting.normalise (setting.normalise file)) source blocks)
    (yieldsOther :
      setting.analyzer.Yields (setting.normalise (setting.normalise file)) other others)
    (same : Snapshot.extract source blocks = Snapshot.extract other others)
    (differ : source ≠ other) :
    resultOf (update setting requester suffix? file other) bridge = .updated [] false := by
  rcases stands with ⟨sections, compared⟩
  have sectionsAre : sections = Snapshot.extract source blocks :=
    minds.compared distinct compared source brought rfl blocks yields sections rfl
  have faithful : ∀ held,
      (bridge.registry.find (setting.normalise (setting.normalise file))).source? = some held →
        Digest.of held = Digest.of other → held = other := by
    intro held holding digest
    exact distinct (minds.held held holding) incoming digest
  have answered :
      Answer setting requester suffix? (setting.normalise file) other
        (bridge.plugins.isServerScoped (setting.normalise file))
        ⟨Digest.of source, some sections⟩
        (resultOf (update setting requester suffix? file other) bridge) _ :=
    answer_of_compared minds.steady compared faithful
  rw [isLocal] at answered
  rcases yieldsOther with ⟨analysis, found, sound, rfl⟩
  cases answered with
  | unchanged digest answered remembered =>
      exact absurd (distinct brought incoming digest) differ
  | server modules digest server answered remembered => cases server
  | «local» digest isLocal answered =>
      cases answered with
      | failed diagnostics unsound answered remembered =>
          exact absurd ⟨analysis, found, sound⟩ unsound
      | updated further foundAgain soundAgain answered remembered =>
          obtain rfl : analysis = further := Except.ok.inj (found.symm.trans foundAgain)
          have unmoved : sections = analysis.sections other := sectionsAre.trans same
          rw [answered, ← unmoved, invalidated_of_same, renderOnly_of_same]

/-! ## A file in two layouts -/

/-- What stands from the first "<" up to the last ">" is markup. -/
def tagAnalyzer : Analyzer where
  analyse _ text :=
    let before := text.toList.takeWhile (· != '<')
    let behind := text.toList.reverse.takeWhile (· != '>')
    .ok
      ⟨true, [⟨.markup, utf8Len before, utf8Len text.toList - utf8Len behind⟩], [], [], false⟩
  resolve _ := none

/-- A line break stands before the tag and one behind it. -/
def broken : String := "a\n<x/>\n"

/-- The tag is indented, and nothing stands behind it. -/
def indented : String := "a\r\n\t<x/>"

theorem toList_broken : broken.toList = ['a', '\n', '<', 'x', '/', '>', '\n'] := rfl

theorem toList_indented : indented.toList = ['a', '\r', '\n', '\t', '<', 'x', '/', '>'] := rfl

theorem separate_broken : Snapshot.Separate broken.toList [⟨.markup, 2, 6⟩] := by
  rw [toList_broken]
  refine ⟨?_, by simp, by simp⟩
  rintro block (_ | ⟨_, ⟨⟩⟩)
  exact ⟨['a', '\n'], ['<', 'x', '/', '>'], ['\n'], rfl, rfl, rfl⟩

theorem separate_indented : Snapshot.Separate indented.toList [⟨.markup, 4, 8⟩] := by
  rw [toList_indented]
  refine ⟨?_, by simp, by simp⟩
  rintro block (_ | ⟨_, ⟨⟩⟩)
  exact ⟨['a', '\r', '\n', '\t'], ['<', 'x', '/', '>'], [], rfl, rfl, rfl⟩

theorem reformatted_tagged :
    Snapshot.Reformatted broken.toList [⟨.markup, 2, 6⟩] indented.toList [⟨.markup, 4, 8⟩] := by
  rw [toList_broken, toList_indented]
  refine
    ⟨⟨[⟨['a', '\n'], ⟨.markup, 2, 6⟩, ['<', 'x', '/', '>']⟩], ['\n']⟩,
      ⟨[⟨['a', '\r', '\n', '\t'], ⟨.markup, 4, 8⟩, ['<', 'x', '/', '>']⟩], []⟩,
      ⟨rfl, ⟨rfl, rfl, trivial⟩, .refl _⟩, ⟨rfl, ⟨rfl, rfl, trivial⟩, .refl _⟩, ?_⟩
  exact ⟨.cons ⟨by decide, rfl, rfl⟩ .nil, by decide⟩

/-- A file with this text is all there is; the host has two modules of it. -/
def taggedSetting (text : String) : Setting :=
  { pairedSetting text with analyzer := tagAnalyzer }

/-- The module of the file is loaded while a line break follows its tag. -/
def loadTagged : Event :=
  ⟨taggedSetting broken, .load default "/a.es"⟩

/-- The tag is indented and nothing follows it. -/
def updateTagged : Event :=
  ⟨taggedSetting indented, .update 0 none ⟨"/a.es"⟩ indented⟩

theorem fileOf_tagged (text : String) :
    Event.fileOf (taggedSetting text) "/a.es" = ⟨"/a.es"⟩ := by cbv

theorem normalise_tagged (text : String) :
    (taggedSetting text).normalise ⟨"/a.es"⟩ = ⟨"/a.es"⟩ := by cbv

theorem undisturbed_tagged :
    Undisturbed tagAnalyzer ⟨"/a.es"⟩ plainBridge ([loadTagged] ++ [updateTagged]) where
  fresh := rfl
  uninterrupted := rfl
  analyzer := by simp [loadTagged, updateTagged, taggedSetting]
  isLocal := by
    rintro event (_ | ⟨_, _ | ⟨_, ⟨⟩⟩⟩)
    · trivial
    · exact fun _ => rfl
  distinct := by
    have known : ∀ text, (∃ event ∈ [loadTagged] ++ [updateTagged], event.Brings text) →
        text = broken ∨ text = indented := by
      rintro text ⟨event, _ | ⟨_, _ | ⟨_, ⟨⟩⟩⟩, brings⟩
      · have paired : Event.Brings ⟨pairedSetting broken, .load default "/a.es"⟩ text := brings
        rcases brings_paired paired with handed | same
        · cases handed
        · exact .inl same
      · have paired :
            Event.Brings ⟨pairedSetting indented, updateTagged.operation⟩ text := brings
        rcases brings_paired paired with handed | same
        · exact .inr (Option.some.inj handed).symm
        · exact .inr same
    have apart : Digest.of broken ≠ Digest.of indented := by decide +kernel
    intro left leftBrought right rightBrought same
    rcases known left leftBrought with rfl | rfl
    · rcases known right rightBrought with rfl | rfl
      · rfl
      · exact absurd same apart
    · rcases known right rightBrought with rfl | rfl
      · exact absurd same.symm apart
      · rfl

theorem loadedText?_tagged :
    Event.loadedText? (taggedSetting broken) "/a.es" plainBridge = some broken := by
  have steady : Steady tagAnalyzer plainBridge := steady_start rfl rfl
  refine loadedText?_of_known steady (by cbv) ?_ rfl
  rw [fileOf_tagged, normalise_tagged]
  change (sourceOnDisk (pairedSetting broken).disk _).toOption = _
  rw [sourceOnDisk_paired]
  rfl

theorem dealings?_tagged :
    Event.dealings? 0 ⟨"/a.es"⟩ [loadTagged] plainBridge none =
      some ⟨broken, broken⟩ := by
  have concerns : loadTagged.Concerns 0 ⟨"/a.es"⟩ :=
    ⟨rfl, by rw [loadTagged, fileOf_tagged, normalise_tagged]⟩
  change loadTagged.deal 0 ⟨"/a.es"⟩ plainBridge none = _
  rw [Event.deal, if_pos concerns, loadTagged]
  dsimp only
  rw [loadedText?_tagged]

/-! ## The answer -/

/--
Two texts whose gaps and blocks agree but for their layout have one snapshot.  After every
session that leaves a pipeline at the first of them, its update to the second concerns no
module, unless the texts are one.
-/
theorem reformatting_concerns_no_module
    {source other : String} {blocks others : List Block}
    (separate : Snapshot.Separate source.toList blocks)
    (separateOther : Snapshot.Separate other.toList others)
    (reformatted : Snapshot.Reformatted source.toList blocks other.toList others) :
    Snapshot.extract source blocks = Snapshot.extract other others ∧
      ∀ (setting : Setting) (requester : Nat) (suffix? : Option String) (file : Path)
        (start : Bridge) (events : List Event),
        let key := setting.normalise (setting.normalise file)
        Undisturbed setting.analyzer key start
            (events ++ [⟨setting, .update requester suffix? file other⟩]) →
          (∃ event ∈ events, event.Brings source) →
          StandsAt requester key source (Event.runAll events start) →
          setting.analyzer.Yields key source blocks →
          setting.analyzer.Yields key other others →
          source ≠ other →
          resultOf (update setting requester suffix? file other)
            (Event.runAll events start) = .updated [] false := by
  have same : Snapshot.extract source blocks = Snapshot.extract other others :=
    Snapshot.extract_eq_of_reformatted separate separateOther reformatted
  refine ⟨same, ?_⟩
  intro setting requester suffix? file start events key undisturbed brought stands yields
    yieldsOther differ
  let asked : Event := ⟨setting, .update requester suffix? file other⟩
  let texts : Set String := {text | ∃ event ∈ events ++ [asked], event.Brings text}
  have last : asked ∈ events ++ [asked] := List.mem_append_right _ List.mem_cons_self
  have begins : Minds setting.analyzer requester key texts start :=
    minds_start undisturbed.fresh undisturbed.uninterrupted
  have minds := minds_runAll begins undisturbed.distinct undisturbed.admits
  have known : source ∈ texts := by
    rcases brought with ⟨event, member, brings⟩
    exact ⟨event, List.mem_append_left _ member, brings⟩
  have isLocal :
      (Event.runAll events start).plugins.isServerScoped (setting.normalise file) = false := by
    rw [(recalls_of_undisturbed undisturbed requester).2]
    exact undisturbed.isLocal asked last rfl
  exact answer_of_same_sections minds undisturbed.distinct known ⟨asked, last, .inl rfl⟩ isLocal
    stands yields yieldsOther same differ

theorem reformatting_concerns_no_module_tagged :
    broken ≠ indented ∧
      Snapshot.Reformatted broken.toList [⟨.markup, 2, 6⟩] indented.toList [⟨.markup, 4, 8⟩] ∧
      StandsAt 0 ⟨"/a.es"⟩ broken (Event.runAll [loadTagged] plainBridge) ∧
      resultOf (update (taggedSetting indented) 0 none ⟨"/a.es"⟩ indented)
          (Event.runAll [loadTagged] plainBridge) = .updated [] false := by
  have normal := normalise_tagged indented
  have differ : broken ≠ indented := by decide
  have stands : StandsAt 0 ⟨"/a.es"⟩ broken (Event.runAll [loadTagged] plainBridge) :=
    standsAt_of_dealings undisturbed_tagged dealings?_tagged
  have onDisk : loadTagged.Brings broken := .inr ⟨⟨"/a.es"⟩, sourceOnDisk_paired _⟩
  refine ⟨differ, reformatted_tagged, stands, ?_⟩
  have answered :=
    (reformatting_concerns_no_module separate_broken separate_indented reformatted_tagged).2
      (taggedSetting indented) 0 none ⟨"/a.es"⟩ plainBridge [loadTagged]
  rw [normal, normal] at answered
  exact answered undisturbed_tagged ⟨loadTagged, List.mem_cons_self, onDisk⟩ stands
    ⟨_, rfl, ⟨rfl, nofun⟩, by decide⟩ ⟨_, rfl, ⟨rfl, nofun⟩, by decide⟩ differ

end Bridge

end ModuleBridge
