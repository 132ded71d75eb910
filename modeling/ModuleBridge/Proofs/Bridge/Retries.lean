import ModuleBridge.Proofs.Bridge.Watcher

/-!
# Rebuilds that failed

The watcher remembers the text that it dealt with last, and it counts as dealt with
before it is built.  A failed build leaves that as it is: the same text is only built
again after the watcher has dealt with another one, in a rebuild or by the cross build
of a load.
-/

namespace ModuleBridge

/-- An operation with the analyzer and the texts of a session. -/
structure Event.Suits (analyzer : Analyzer) (texts : Set String) (event : Event) : Prop where
  analyzer : event.setting.analyzer = analyzer
  brings : ∀ text, event.Brings text → text ∈ texts

namespace Bridge

variable {setting : Setting} {key : Path} {plugin : Nat} {text : String} {bridge : Bridge}

/-! ## Sessions -/

section

variable {analyzer : Analyzer} {texts : Set String} {event : Event} {last : String}

/-- One operation has the watcher deal with what is said of it. -/
theorem dealt?_run
    (steady : Steady event.setting.analyzer bridge) (distinct : bridge.plugins.Distinct)
    (key : Path)
    (faithful : ∀ path text, taken? event.setting path bridge = some text →
      Faithful (event.setting.normalise (event.setting.normalise path)) text bridge) :
    dealt? key (event.run bridge) =
      ((event.dealtText? key bridge).map Digest.of).or (dealt? key bridge) := by
  have progress : Progress nobody (Routine event.setting nobody event.Asks) bridge
      (event.run bridge) :=
    progress_run steady.quiet
  rcases event with ⟨setting, operation⟩
  cases operation with
  | update asking suffix? file text =>
      refine dealt?_of_progress progress ?_
      rintro _ ⟨-, rfl | ⟨watch, rfl⟩ | ⟨revision, rfl⟩⟩ <;> exact fun same => by cases same
  | load plugin id => exact dealt?_load steady distinct key plugin id
  | rebuild path => exact dealt?_rebuildChanged steady distinct key (faithful path)
  | invalidate path text =>
      refine dealt?_of_progress progress ?_
      rintro _ ⟨-, rfl⟩ same
      cases same

/-- Nothing interrupts, ids tell pipelines apart, and every text there is is a known one. -/
structure Collected (analyzer : Analyzer) (texts : Set String) (bridge : Bridge) : Prop where
  steady : Steady analyzer bridge
  distinct : bridge.plugins.Distinct
  held : ∀ key text, (bridge.registry.find key).source? = some text → text ∈ texts

/-- Among known texts, a text is told by its digest. -/
theorem Collected.faithful
    (collected : Collected analyzer texts bridge) (injective : Set.InjOn Digest.of texts)
    (brought : text ∈ texts) : Faithful key text bridge :=
  fun held source same => injective (collected.held key held source) brought same

theorem Collected.run
    (collected : Collected analyzer texts bridge) (suits : event.Suits analyzer texts) :
    Collected analyzer texts (event.run bridge) := by
  rcases suits with ⟨rfl, brings⟩
  have progress : Progress nobody (Routine event.setting nobody event.Asks) bridge
      (event.run bridge) :=
    progress_run collected.steady.quiet
  refine ⟨steady_run event collected.steady, ?_, ?_⟩
  · rw [progress.plugins]
    exact collected.distinct
  · exact fun key => held_of_progress event progress brings (collected.held key)

theorem Collected.runAll
    {events : List Event} (collected : Collected analyzer texts bridge)
    (suit : ∀ event ∈ events, event.Suits analyzer texts) :
    Collected analyzer texts (Event.runAll events bridge) := by
  induction events generalizing bridge with
  | nil => exact collected
  | cons event rest inductionHypothesis =>
      exact inductionHypothesis (collected.run (suit event List.mem_cons_self))
        fun other later => suit other (List.mem_cons_of_mem event later)

/-- What a load has built is a known text. -/
theorem mem_of_asideText?
    {setting : Setting} {plugin : Plugin} {id : String}
    (collected : Collected setting.analyzer texts bridge)
    (brings : ∀ text, Event.Brings ⟨setting, .load plugin id⟩ text → text ∈ texts)
    (built : Event.asideText? setting plugin id bridge = some text) : text ∈ texts := by
  let event : Event := ⟨setting, .load plugin id⟩
  let path := Event.fileOf setting id
  let seen := seenReady setting plugin path bridge
  have readies : Follows nobody (Routine setting nobody event.Asks) bridge
      (endOf (ready setting path).run bridge) :=
    routine_ready path bridge
  have sees : Follows nobody (Routine setting nobody event.Asks)
      (endOf (ready setting path).run bridge) seen :=
    follows_seenReady nobody (fun revision => .inr ⟨rfl, revision, rfl⟩) bridge
  have progress : Progress nobody (Routine setting nobody event.Asks) bridge seen :=
    trans_of (Follows nobody _) readies sees collected.steady.quiet
  rw [Event.asideText?] at built
  split at built
  · cases built
  · rename_i key readiness outcome
    dsimp only at built
    split at built
    · exact held_of_progress event progress brings (collected.held key) text built
    · cases built

/-- What the watcher deals with is a known text. -/
theorem Collected.dealtText?_mem
    (collected : Collected analyzer texts bridge) (suits : event.Suits analyzer texts)
    (dealt : event.dealtText? key bridge = some text) : text ∈ texts := by
  rcases suits with ⟨rfl, brings⟩
  rcases event with ⟨setting, operation⟩
  cases operation with
  | update asking suffix? file own => cases dealt
  | invalidate path own => cases dealt
  | rebuild path =>
      rw [Event.dealtText?] at dealt
      dsimp only at dealt
      split at dealt
      · exact brings text (.inr ⟨_, onDisk_of_taken dealt⟩)
      · cases dealt
  | load plugin id =>
      rw [Event.dealtText?] at dealt
      dsimp only at dealt
      split at dealt
      · exact mem_of_asideText? collected brings dealt
      · cases dealt

/-- Operations have the watcher deal with what is said of them. -/
theorem dealt?_runAll
    {events : List Event} (collected : Collected analyzer texts bridge)
    (injective : Set.InjOn Digest.of texts)
    (suit : ∀ event ∈ events, event.Suits analyzer texts) (known : last ∈ texts)
    (dealt : dealt? key bridge = some (Digest.of last)) :
    dealt? key (Event.runAll events bridge) =
        some (Digest.of (Event.lastDealt key events bridge last)) ∧
      Event.lastDealt key events bridge last ∈ texts := by
  induction events generalizing bridge last with
  | nil => exact ⟨dealt, known⟩
  | cons event rest inductionHypothesis =>
      have suits := suit event List.mem_cons_self
      have further := fun other later => suit other (List.mem_cons_of_mem event later)
      have faithful : ∀ path text, taken? event.setting path bridge = some text →
          Faithful (event.setting.normalise (event.setting.normalise path)) text bridge :=
        fun path text taken =>
          collected.faithful injective (suits.brings text (.inr ⟨_, onDisk_of_taken taken⟩))
      have step := dealt?_run (suits.analyzer ▸ collected.steady) collected.distinct key faithful
      refine inductionHypothesis (collected.run suits) further ?_ ?_
      · cases moved : event.dealtText? key bridge with
        | none => exact known
        | some text => exact collected.dealtText?_mem suits moved
      · rw [step, dealt]
        cases event.dealtText? key bridge <;> rfl

/-- Operations leave an artifact of a text only when a pipeline of theirs delivers it. -/
theorem delivers_of_retains
    {events : List Event} (collected : Collected analyzer texts bridge)
    (suit : ∀ event ∈ events, event.Suits analyzer texts)
    (unbuilt : ¬(bridge.registry.find key).Retains plugin text)
    (retains : ((Event.runAll events bridge).registry.find key).Retains plugin text) :
    ∃ event ∈ events, Delivers event.setting plugin text := by
  induction events generalizing bridge with
  | nil => exact absurd retains unbuilt
  | cons event rest inductionHypothesis =>
      have suits := suit event List.mem_cons_self
      have further := fun other later => suit other (List.mem_cons_of_mem event later)
      by_cases earlier : ((event.run bridge).registry.find key).Retains plugin text
      · have progress : Progress nobody (Routine event.setting nobody event.Asks) bridge
            (event.run bridge) :=
          progress_run collected.steady.quiet
        have delivers := (progress.retains_or_delivers (innocent_asks event) earlier).resolve_left
          unbuilt
        exact ⟨event, List.mem_cons_self, delivers⟩
      · rcases inductionHypothesis (collected.run suits) further earlier retains with
          ⟨other, later, delivers⟩
        exact ⟨other, List.mem_cons_of_mem event later, delivers⟩

end

/-! ## Failures -/

section

variable {settings : Setting → Prop} {path : Path}

section

variable {owner : Plugin} {selector? : Option String} {resource : String}
  (steady : Steady setting.analyzer bridge) (accounted : Accounted settings bridge)
  (held : (bridge.registry.find (setting.normalise path)).source? = some text)

include steady accounted held

/-- Making a file ready leaves no artifact but one that was there. -/
theorem retains_of_ready
    (retains :
      ((endOf (ready setting path).run bridge).registry.find (setting.normalise path)).Retains
        plugin text) :
    (bridge.registry.find (setting.normalise path)).Retains plugin text := by
  have progress : Progress nobody (Routine setting nobody nothing) bridge
      (endOf (ready setting path).run bridge) :=
    routine_ready path bridge steady.quiet
  have silent : Silent nothing := fun _ _ asked => absurd asked id
  refine ⟨held, ?_⟩
  have reused := retains.2
  rwa [reusable?_of_slot (slot?_of_ready accounted setting path),
    progress.revision_eq silent held] at reused

/-- A build that fails leaves no artifact but one that was there. -/
theorem retains_of_failed_build
    {fault : Fault}
    (failed : resultOf (build setting path owner selector? resource).run bridge = .error fault)
    (retains :
      ((endOf (build setting path owner selector? resource).run bridge).registry.find
        (setting.normalise path)).Retains plugin text) :
    (bridge.registry.find (setting.normalise path)).Retains plugin text := by
  refine retains_of_ready steady accounted held ?_
  cases outcome : resultOf (ready setting path).run bridge with
  | error fault =>
      rw [build_eq, (attempt_of_error outcome _).2] at retains
      exact retains
  | ok found =>
      rcases found with ⟨key, readiness⟩
      rcases key_of_ready outcome with rfl
      rcases building_of_ready outcome owner selector? resource with ⟨same, building⟩
      rw [failed] at same
      rw [← same] at building
      cases building with
      | refused fault printed => exact retains_of_influx (influx_of_printed printed) retains
      | failed view middle fault viewed printed refused =>
          have influx : Influx (endOf (ready setting path).run bridge) _ :=
            trans_of Influx (influx_of_printed printed)
              (trans_of Influx (influx_answered middle) (influx_of_printed refused))
          exact retains_of_influx influx retains

/-- A pipeline that answers with nothing fails, unless an artifact of the text is kept. -/
theorem failed_of_nothing
    (nothing : ∀ view, answerOf setting owner view none = .nothing)
    (unbuilt : ¬(bridge.registry.find (setting.normalise path)).Retains owner.id text) :
    (resultOf (build setting path owner none resource).run bridge).isOk = false := by
  cases outcome : resultOf (build setting path owner none resource).run bridge with
  | error fault => rfl
  | ok built =>
      rcases ready_of_built outcome with ⟨readiness, succeeded⟩
      rcases building_of_ready succeeded owner none resource with ⟨same, building⟩
      rw [outcome] at same
      rw [← same] at building
      cases building with
      | reused view artifact warnings viewed stored printed =>
          refine absurd (retains_of_ready steady accounted held ?_) unbuilt
          have progress : Progress nobody (Routine setting nobody Bridge.nothing) bridge
              (endOf (ready setting path).run bridge) :=
            routine_ready path bridge steady.quiet
          refine ⟨progress.source?_eq (fun _ _ asked => absurd asked id) held, ?_⟩
          rw [← (Record.fields_of_view viewed).2.2, stored]
          rfl
      | built view middle artifact warnings further viewed printed delivered kept =>
          rw [nothing view] at delivered
          cases delivered

end

/-- A cross build that makes nothing is the build of its pipeline, which failed. -/
theorem registry_of_failed
    (distinct : bridge.plugins.Distinct) (auxiliary : (bridge.plugins.owner path).isMain = false)
    (fails : resultOf (crossBuild setting path) bridge = []) :
    let building := (build setting path (bridge.plugins.owner path) none path.display).run
    ∃ fault, resultOf building bridge = .error fault ∧
      (endOf (crossBuild setting path) bridge).registry = (endOf building bridge).registry := by
  intro building
  have run := run_crossBuild distinct setting path
  dsimp only at run
  rw [auxiliary, if_neg Bool.false_ne_true] at run
  rw [resultOf, run] at fails
  rw [endOf, run]
  have aside : resultOf (buildAside setting path (bridge.plugins.owner path)) bridge =
      (resultOf building bridge).isOk :=
    resultOf_buildAside path _ bridge
  cases outcome : resultOf building bridge with
  | error fault => exact ⟨fault, rfl, registry_buildAside_of_error outcome⟩
  | ok built =>
      rw [aside, outcome] at fails
      cases fails

/-- A rebuild finds a text of a file that an auxiliary pipeline owns. -/
structure Finds (setting : Setting) (path key : Path) (plugin : Plugin) (text : String)
    (bridge : Bridge) : Prop where
  normal : setting.normalise (setting.normalise path) = key
  owner : bridge.plugins.owner (setting.normalise path) = plugin
  auxiliary : plugin.isMain = false
  taken : taken? setting path bridge = some text

/-- A rebuild gives the text that it has taken in to a pipeline. -/
def AsksFor (setting : Setting) (path : Path) (plugin : Plugin) (text : String)
    (bridge : Bridge) : Prop :=
  let file := setting.normalise path
  Made (buildCall (setting.normalise file) plugin none (reread setting file text bridge)) bridge
    (endOf (rebuildChanged setting path).run bridge)

section

variable {owner : Plugin} (finds : Finds setting path key owner text bridge)
  (steady : Steady setting.analyzer bridge) (distinct : bridge.plugins.Distinct)
  (faithful : Faithful key text bridge)

include finds faithful in
theorem faithful_of_finds :
    ∀ other, taken? setting path bridge = some other →
      Faithful (setting.normalise (setting.normalise path)) other bridge := by
  intro other taken
  rcases Option.some.inj (finds.taken.symm.trans taken) with rfl
  rw [finds.normal]
  exact faithful

include steady faithful in
/-- Once a text was read, no artifact of it is there to be served again but one that was. -/
theorem unbuilt_reread_iff {path : Path} (normal : setting.normalise path = key) :
    ((reread setting path text bridge).registry.find key).reusable? plugin
        ((reread setting path text bridge).registry.find key).revision none = none ↔
      ¬(bridge.registry.find key).Retains plugin text := by
  subst normal
  have held := source?_reread steady faithful
  have influx := influx_reread setting path text bridge
  constructor
  · intro unbuilt retains
    have present := (retains.of_core (core_reread_of_held steady retains.1)).2
    rw [unbuilt] at present
    cases present
  · intro unbuilt
    refine Option.not_isSome_iff_eq_none.1 fun present => unbuilt ?_
    exact retains_of_influx influx ⟨held, present⟩

include finds steady distinct faithful in
/-- A rebuild asks exactly for what is new to the watcher, has no errors and was not built. -/
theorem asksFor_iff (accounted : Accounted settings bridge) :
    AsksFor setting path owner text bridge ↔
      verdict (bridge.registry.find key) text = .changed ∧
        (∃ analysis, setting.analyzer.analyse key text = .ok analysis ∧
          ∀ found ∈ analysis.diagnostics, found.isError = false) ∧
        ¬(bridge.registry.find key).Retains owner.id text := by
  have handed : ¬Unhanded (buildCall (setting.normalise (setting.normalise path)) owner none
      (reread setting (setting.normalise path) text bridge)) :=
    handed_build _ _ _ _ _
  have made := made_rebuildChanged_iff steady accounted distinct
    (faithful_of_finds finds faithful) handed
  rw [← unbuilt_reread_iff steady faithful finds.normal]
  refine made.trans ?_
  rw [finds.normal, finds.owner]
  constructor
  · rintro ⟨-, other, taken, changed, buildable, -⟩
    rcases Option.some.inj (finds.taken.symm.trans taken) with rfl
    exact ⟨changed, buildable.clean, buildable.unbuilt⟩
  · rintro ⟨changed, clean, unbuilt⟩
    exact ⟨finds.auxiliary, text, finds.taken, changed, ⟨clean, unbuilt⟩, rfl⟩

include finds steady distinct faithful in
/-- A rebuild asks for a text that it once asked for when the watcher dealt with another one. -/
theorem asksFor_iff_of_dealt {last : String} (accounted : Accounted settings bridge)
    (clean : ∃ analysis, setting.analyzer.analyse key text = .ok analysis ∧
      ∀ found ∈ analysis.diagnostics, found.isError = false)
    (dealt : dealt? key bridge = some (Digest.of last))
    (apart : Digest.of last = Digest.of text → last = text) :
    AsksFor setting path owner text bridge ↔
      last ≠ text ∧ ¬(bridge.registry.find key).Retains owner.id text := by
  have told : verdict (bridge.registry.find key) text = .changed ↔ last ≠ text := by
    rw [verdict_of_dealt dealt]
    split
    · rename_i same
      exact iff_of_false (by decide) fun other => other (apart same)
    · rename_i other
      exact iff_of_true rfl fun same => other (congrArg Digest.of same)
  rw [asksFor_iff finds steady distinct faithful accounted, told]
  exact ⟨fun asked => ⟨asked.1, asked.2.2⟩, fun found => ⟨found.1, clean, found.2⟩⟩

include finds steady distinct faithful in
/-- A rebuild that asks for a text and fails leaves no artifact of it. -/
theorem unbuilt_of_failed (accounted : Accounted settings bridge)
    (asks : AsksFor setting path owner text bridge)
    (fails : resultOf (rebuildChanged setting path).run bridge = .ok []) :
    ¬((endOf (rebuildChanged setting path).run bridge).registry.find key).Retains owner.id
      text := by
  rcases (asksFor_iff finds steady distinct faithful accounted).1 asks with ⟨changed, -, unbuilt⟩
  have rebuilds := rebuilding steady.quiet setting path
  generalize resultOf (rebuildChanged setting path).run bridge = outcome at rebuilds fails
  generalize endOf (rebuildChanged setting path).run bridge = after at rebuilds
  intro retains
  cases rebuilds with
  | untaken untaken idle elapsed => cases untaken.symm.trans finds.taken
  | unchanged other taken known printed =>
      rcases Option.some.inj (taken.symm.trans finds.taken) with rfl
      rw [finds.normal] at known
      cases known.symm.trans changed
  | changed other taken changed =>
      rcases Option.some.inj (taken.symm.trans finds.taken) with rfl
      let file := setting.normalise path
      let current := reread setting file other bridge
      have influx : Influx bridge current := influx_reread setting file other bridge
      have distinctThen : current.plugins.Distinct := influx.plugins ▸ distinct
      have auxiliary : (current.plugins.owner file).isMain = false := by
        rw [influx.plugins, finds.owner]
        exact finds.auxiliary
      have held := source?_reread steady (finds.normal.symm ▸ faithful)
      rcases registry_of_failed distinctThen auxiliary (Except.ok.inj fails) with
        ⟨fault, failed, registry⟩
      rw [registry] at retains
      have earlier := retains_of_failed_build (steady_reread steady file other)
        (accounted.influx influx) held failed (finds.normal.symm ▸ retains)
      rw [finds.normal] at earlier
      exact unbuilt (retains_of_influx influx earlier)

include finds steady distinct faithful in
/-- A rebuild fails whose pipeline answers with nothing. -/
theorem fails_of_nothing (accounted : Accounted settings bridge)
    (nothing : ∀ view, answerOf setting owner view none = .nothing)
    (unbuilt : ¬(bridge.registry.find key).Retains owner.id text) :
    resultOf (rebuildChanged setting path).run bridge = .ok [] := by
  have rebuilds := rebuilding steady.quiet setting path
  generalize resultOf (rebuildChanged setting path).run bridge = outcome at rebuilds ⊢
  generalize endOf (rebuildChanged setting path).run bridge = after at rebuilds
  cases rebuilds with
  | untaken untaken idle elapsed => cases untaken.symm.trans finds.taken
  | unchanged other taken known printed => rfl
  | changed other taken changed =>
      rcases Option.some.inj (taken.symm.trans finds.taken) with rfl
      let file := setting.normalise path
      let current := reread setting file other bridge
      have influx : Influx bridge current := influx_reread setting file other bridge
      have distinctThen : current.plugins.Distinct := influx.plugins ▸ distinct
      have owned : current.plugins.owner file = owner := by
        rw [influx.plugins, finds.owner]
      have held := source?_reread steady (finds.normal.symm ▸ faithful)
      have unbuiltThen :
          ¬(current.registry.find (setting.normalise file)).Retains owner.id other := by
        intro retains
        have earlier := retains_of_influx influx retains
        rw [finds.normal] at earlier
        exact unbuilt earlier
      have failed : (resultOf (build setting file owner none file.display).run current).isOk =
          false :=
        failed_of_nothing (steady_reread steady file other) (accounted.influx influx) held nothing
          unbuiltThen
      have run := run_crossBuild distinctThen setting file
      dsimp only at run
      rw [owned, finds.auxiliary, if_neg Bool.false_ne_true, resultOf_buildAside, failed,
        if_neg Bool.false_ne_true] at run
      exact congrArg (fun ended => Except.ok ended.1) run

include finds steady distinct faithful in
/-- Whatever comes of a rebuild, its text counts as dealt with. -/
theorem dealt?_of_finds :
    dealt? key (endOf (rebuildChanged setting path).run bridge) = some (Digest.of text) := by
  rw [dealt?_rebuildChanged steady distinct key (faithful_of_finds finds faithful),
    if_pos finds.normal, finds.taken]
  rfl

include finds in
/-- A rebuild does nothing with a text that the watcher dealt with last. -/
theorem idle_of_dealt
    (quiet : Fits nobody bridge) (dealt : dealt? key bridge = some (Digest.of text)) :
    resultOf (rebuildChanged setting path).run bridge = .ok [] ∧
      (endOf (rebuildChanged setting path).run bridge).journal = bridge.journal := by
  have known : verdict (bridge.registry.find key) text = .unchanged := by
    rw [verdict_of_dealt dealt, if_pos rfl]
  have rebuilds := rebuilding quiet setting path
  generalize resultOf (rebuildChanged setting path).run bridge = outcome at rebuilds ⊢
  generalize endOf (rebuildChanged setting path).run bridge = after at rebuilds ⊢
  cases rebuilds with
  | untaken untaken idle elapsed => cases untaken.symm.trans finds.taken
  | unchanged other taken known printed =>
      exact ⟨rfl, (journal_of_printed printed).trans (journal_reread setting _ other bridge)⟩
  | changed other taken changed =>
      rcases Option.some.inj (taken.symm.trans finds.taken) with rfl
      rw [finds.normal] at changed
      cases known.symm.trans changed

end

end

theorem leads_events (events : List Event) (bridge : Bridge) :
    LeadsOn (fun _ => True) bridge (Event.runAll events bridge) := by
  induction events generalizing bridge with
  | nil => exact refl_of (LeadsOn _) bridge
  | cons event rest inductionHypothesis =>
      exact trans_of (LeadsOn _) (leads_event trivial bridge) (inductionHypothesis _)

/-! ## A file of the server whose build fails -/

/-- A rebuild of the file of the server. -/
def asideRebuild (onDisk : String) (answer : BuildAnswer) : Event :=
  ⟨asideSetting onDisk false answer, .rebuild ⟨"/s/a.es"⟩⟩

/-- The pipeline that owns the file of the server. -/
def asideOwner : Plugin :=
  linkedPlugins.owner ⟨"/s/a.es"⟩

theorem brings_aside
    {onDisk text : String} {declares : Bool} {answer : BuildAnswer} {operation : Operation}
    (brings : Event.Brings ⟨asideSetting onDisk declares answer, operation⟩ text) :
    operation.text? = some text ∨ text = onDisk := by
  rcases brings with own | ⟨path, read⟩
  · exact .inl own
  · rcases mem_entries_of_sourceOnDisk read with ⟨place, stands⟩
    rcases List.mem_pair.1 stands with directory | file
    · cases directory
    · cases file
      exact .inr rfl

/-- The file has a text in a bridge where nobody interrupts. -/
structure AsideHolds (text : String) (bridge : Bridge) : Prop where
  steady : Steady (asideSetting text false .nothing).analyzer bridge
  plugins : bridge.plugins = linkedPlugins
  held : (bridge.registry.find ⟨"/s/a.es"⟩).source? = some text

namespace AsideHolds

variable {bridge : Bridge} {text : String} (holds : AsideHolds text bridge) (onDisk : String)
  (answer : BuildAnswer)

include holds

theorem distinct : bridge.plugins.Distinct :=
  holds.plugins ▸ distinct_linkedPlugins

theorem known :
    bridge.registry.get? ((asideSetting onDisk false answer).normalise
        ((asideSetting onDisk false answer).normalise ⟨"/s/a.es"⟩)) =
      some (bridge.registry.find ⟨"/s/a.es"⟩) := by
  rw [normalise_aside, normalise_aside, Registry.get?_of_held holds.held]

theorem followed : (bridge.registry.find ⟨"/s/a.es"⟩).isDescriptionOnly = false := by
  rw [Record.isDescriptionOnly, Record.analysis?]
  cases stored : (bridge.registry.find ⟨"/s/a.es"⟩).analysed? with
  | none => rfl
  | some analysed =>
      rcases (holds.steady.coherent _).analysed analysed stored with ⟨_, -, -, found, -⟩
      cases analysed
      cases found
      rfl

theorem finds :
    Finds (asideSetting onDisk false answer) ⟨"/s/a.es"⟩ ⟨"/s/a.es"⟩ asideOwner onDisk bridge where
  normal := by rw [normalise_aside, normalise_aside]
  owner := by rw [holds.plugins, normalise_aside, asideOwner]
  auxiliary := owner_aside.1
  taken := by
    rw [(rebuildChanged_of_followed (holds.known onDisk answer) holds.followed).1, normalise_aside]
    exact congrArg Except.toOption (sourceOnDisk_aside onDisk false answer)

theorem rebuild (distinct : Digest.of text = Digest.of onDisk → text = onDisk) :
    AsideHolds onDisk ((asideRebuild onDisk answer).run bridge) where
  steady := steady_run (asideRebuild onDisk answer) holds.steady
  plugins := by
    let event := asideRebuild onDisk answer
    have progress : Progress nobody (Routine event.setting nobody event.Asks) bridge
        (event.run bridge) :=
      progress_run holds.steady.quiet
    exact progress.plugins.trans holds.plugins
  held := by
    let setting := asideSetting onDisk false answer
    have root : setting.normalise ⟨"/s/a.es"⟩ = ⟨"/s/a.es"⟩ := normalise_aside _ _ _
    have known :
        resultOf (record? setting (setting.normalise ⟨"/s/a.es"⟩)) bridge =
          some (bridge.registry.find ⟨"/s/a.es"⟩) := by
      rw [resultOf_record?]
      exact holds.known onDisk answer
    have source :
        ((endOf (rebuildChanged setting ⟨"/s/a.es"⟩).run bridge).registry.find
          (setting.normalise (setting.normalise ⟨"/s/a.es"⟩))).source? = some onDisk := by
      refine source?_rebuild holds.steady known holds.followed ?_ ?_
      · rw [root]
        exact sourceOnDisk_aside onDisk false answer
      · intro held source same
        rw [root, root, holds.held] at source
        rcases Option.some.inj source with rfl
        exact distinct same
    rwa [root, root] at source

end AsideHolds

/-- A bridge to which another text of the file was handed over. -/
def handedBridge : Bridge :=
  Event.runAll [handedAside "a" false "b"] linkedBridge

theorem reached_handedBridge : ∃ ledger, Reached (fun _ => True) handedBridge ledger :=
  leads_events [handedAside "a" false "b"] linkedBridge .blank (.start linkedBridge rfl)

theorem holds_handedBridge : AsideHolds "b" handedBridge where
  steady := steady_handedAside "a" false "b"
  plugins := plugins_handedAside "a" false "b"
  held := congrArg Record.source? (find_handedAside "a" false "b")

theorem faithful_handedBridge : Faithful ⟨"/s/a.es"⟩ "a" handedBridge :=
  faithful_handedAside "a" false "b" digest_a_ne_b.symm

/-- No artifact of the text on disk is there. -/
theorem unbuilt_handedBridge :
    ¬(handedBridge.registry.find ⟨"/s/a.es"⟩).Retains asideOwner.id "a" := by
  intro retains
  have same : "b" = "a" := Option.some.inj (holds_handedBridge.held.symm.trans retains.1)
  exact absurd same (by decide)

theorem accounted_handedBridge : Accounted (fun _ => True) handedBridge := by
  rcases reached_handedBridge with ⟨ledger, reached⟩
  exact accounted_of_reached reached

/-- A rebuild gives the text on disk to the pipeline, whatever that answers. -/
theorem asks_handedBridge (answer : BuildAnswer) :
    AsksFor (asideSetting "a" false answer) ⟨"/s/a.es"⟩ asideOwner "a" handedBridge := by
  have asks := asksFor_iff (holds_handedBridge.finds "a" answer) holds_handedBridge.steady
    holds_handedBridge.distinct faithful_handedBridge accounted_handedBridge
  refine asks.2 ⟨?_, ⟨_, rfl, List.forall_mem_nil _⟩, unbuilt_handedBridge⟩
  have found : handedBridge.registry.find ⟨"/s/a.es"⟩ = _ := find_handedAside "a" false "b"
  rw [found, verdict_handedAside, if_neg digest_a_ne_b.symm]

/-- The rebuild that fails: it gives the text to the pipeline, which answers with nothing. -/
theorem fails_handedBridge :
    let setting := asideSetting "a" false .nothing
    Finds setting ⟨"/s/a.es"⟩ ⟨"/s/a.es"⟩ asideOwner "a" handedBridge ∧
      AsksFor setting ⟨"/s/a.es"⟩ asideOwner "a" handedBridge ∧
      resultOf (rebuildChanged setting ⟨"/s/a.es"⟩).run handedBridge = .ok [] := by
  intro setting
  have holds := holds_handedBridge
  have finds := holds.finds "a" .nothing
  refine ⟨finds, asks_handedBridge .nothing, ?_⟩
  exact fails_of_nothing finds holds.steady holds.distinct faithful_handedBridge
    accounted_handedBridge (fun _ => rfl) unbuilt_handedBridge

/-! ## Rebuilds after a failure -/

/--
A session that nobody interrupts, with one analyzer and with pipelines that have ids of
their own; the texts that come up have digests of their own.
-/
structure Peaceful (analyzer : Analyzer) (start : Bridge) (events : List Event) : Prop where
  fresh : start.registry = .empty
  uninterrupted : start.schedule = []
  plugins : start.plugins.Distinct
  analyzer : ∀ event ∈ events, event.setting.analyzer = analyzer
  distinct : Set.InjOn Digest.of {text | ∃ event ∈ events, event.Brings text}

section

variable {analyzer : Analyzer} {start : Bridge} {events : List Event}
  (peaceful : Peaceful analyzer start events)

include peaceful

theorem Peaceful.suits :
    ∀ event ∈ events, event.Suits analyzer {text | ∃ event ∈ events, event.Brings text} :=
  fun event member => ⟨peaceful.analyzer event member, fun _ brings => ⟨event, member, brings⟩⟩

theorem Peaceful.collected :
    Collected analyzer {text | ∃ event ∈ events, event.Brings text} start := by
  refine ⟨steady_start peaceful.fresh peaceful.uninterrupted, peaceful.plugins, ?_⟩
  intro key text held
  rw [find_start peaceful.fresh] at held
  cases held

/-- So far as the session went, every text there is came up in it. -/
theorem Peaceful.collected_after {ahead : List Event} (begins : ahead <+: events) :
    Collected analyzer {text | ∃ event ∈ events, event.Brings text}
      (Event.runAll ahead start) :=
  peaceful.collected.runAll fun event member => peaceful.suits event (begins.subset member)

theorem Peaceful.accounted (events : List Event) :
    Accounted (fun _ => True) (Event.runAll events start) := by
  rcases leads_events events start .blank (.start start peaceful.fresh) with ⟨ledger, reached⟩
  exact accounted_of_reached reached

end

theorem suits_handed :
    (handedAside "a" false "b").Suits (asideSetting "a" false .nothing).analyzer {"a", "b"} := by
  refine ⟨rfl, ?_⟩
  intro text brings
  rcases brings_aside brings with own | read
  · exact .inr (Option.some.inj own).symm
  · exact .inl read

theorem suits_rebuild {onDisk : String} (known : onDisk = "a" ∨ onDisk = "b")
    (answer : BuildAnswer) :
    (asideRebuild onDisk answer).Suits (asideSetting "a" false .nothing).analyzer {"a", "b"} := by
  refine ⟨rfl, ?_⟩
  intro text brings
  rcases brings_aside brings with own | rfl
  · cases own
  · exact known

/-- The texts `a` and `b` have digests of their own. -/
theorem peaceful_of_asides {events : List Event}
    (suit : ∀ event ∈ events,
      event.Suits (asideSetting "a" false .nothing).analyzer {"a", "b"}) :
    Peaceful (asideSetting "a" false .nothing).analyzer linkedBridge events where
  fresh := rfl
  uninterrupted := rfl
  plugins := distinct_linkedPlugins
  analyzer event member := (suit event member).analyzer
  distinct := by
    have apart : Set.InjOn Digest.of {"a", "b"} :=
      Set.injOn_pair.2 fun same => absurd same digest_a_ne_b
    refine apart.mono ?_
    rintro text ⟨event, member, brings⟩
    exact (suit event member).brings text brings

/--
A rebuild has given a text to a pipeline, and that has failed.  A later rebuild that finds
the text again gives it to the pipeline exactly when the watcher dealt with another text
last and no artifact of the text is there to be served again; such an artifact is one that
the pipeline delivers to an operation in between.  When the watcher dealt with this text
last, the rebuild does nothing.
-/
theorem asked_again_iff
    {analyzer : Analyzer} {start : Bridge} {before between : List Event}
    {setting again : Setting} {path pathAgain key : Path} {plugin : Plugin} {text : String}
    (peaceful :
      Peaceful analyzer start
        (before ++ (⟨setting, .rebuild path⟩ :: between ++ [⟨again, .rebuild pathAgain⟩])))
    (finds : Finds setting path key plugin text (Event.runAll before start))
    (asks : AsksFor setting path plugin text (Event.runAll before start))
    (fails : resultOf (rebuildChanged setting path).run (Event.runAll before start) = .ok [])
    (findsAgain :
      Finds again pathAgain key plugin text
        (Event.runAll (before ++ ⟨setting, .rebuild path⟩ :: between) start)) :
    let failed := Event.runAll (before ++ [⟨setting, .rebuild path⟩]) start
    let bridge := Event.runAll (before ++ ⟨setting, .rebuild path⟩ :: between) start
    let last := Event.lastDealt key between failed text
    let kept := (bridge.registry.find key).Retains plugin.id text
    (AsksFor again pathAgain plugin text bridge ↔ last ≠ text ∧ ¬kept) ∧
      (kept → ∃ event ∈ between, Delivers event.setting plugin.id text) ∧
      (last = text →
        resultOf (rebuildChanged again pathAgain).run bridge = .ok [] ∧
          (endOf (rebuildChanged again pathAgain).run bridge).journal = bridge.journal) := by
  intro failed bridge last kept
  let event : Event := ⟨setting, .rebuild path⟩
  let later : Event := ⟨again, .rebuild pathAgain⟩
  let events := before ++ (event :: between ++ [later])
  let texts : Set String := {text | ∃ event ∈ events, event.Brings text}
  let first := Event.runAll before start
  have failedIs : failed = event.run first := List.foldl_append
  have bridgeIs : bridge = Event.runAll between failed := by
    rw [failedIs]
    exact List.foldl_append
  have suits : ∀ event ∈ events, event.Suits analyzer texts := peaceful.suits
  have suitsEvent := suits event (by simp [events])
  have suitsLater := suits later (by simp [events])
  have amid : ∀ event ∈ between, event.Suits analyzer texts :=
    fun other member => suits other (by simp [events, member])
  have collected : Collected analyzer texts first :=
    peaceful.collected_after (List.prefix_append _ _)
  have collectedFailed : Collected analyzer texts failed :=
    peaceful.collected_after ⟨between ++ [later], by simp [later]⟩
  have collectedThen : Collected analyzer texts bridge :=
    peaceful.collected_after ⟨[later], by simp [later]⟩
  have brought : text ∈ texts := suitsEvent.brings text (.inr ⟨_, onDisk_of_taken finds.taken⟩)
  have faithful : Faithful key text first := collected.faithful peaceful.distinct brought
  have faithfulThen : Faithful key text bridge :=
    collectedThen.faithful peaceful.distinct brought
  have steady : Steady setting.analyzer first := suitsEvent.analyzer ▸ collected.steady
  have steadyThen : Steady again.analyzer bridge := suitsLater.analyzer ▸ collectedThen.steady
  have accounted := peaceful.accounted before
  have dealtThen : dealt? key bridge = some (Digest.of last) ∧ last ∈ texts := by
    rw [bridgeIs]
    refine dealt?_runAll collectedFailed peaceful.distinct amid brought ?_
    rw [failedIs]
    exact dealt?_of_finds finds steady collected.distinct faithful
  refine ⟨?_, ?_, ?_⟩
  · have clean := ((asksFor_iff finds steady collected.distinct faithful accounted).1 asks).2.1
    have sameAnalyzer : setting.analyzer = again.analyzer :=
      suitsEvent.analyzer.trans suitsLater.analyzer.symm
    rw [sameAnalyzer] at clean
    have apart : Digest.of last = Digest.of text → last = text :=
      fun same => peaceful.distinct dealtThen.2 brought same
    exact asksFor_iff_of_dealt findsAgain steadyThen collectedThen.distinct faithfulThen
      (peaceful.accounted _) clean dealtThen.1 apart
  · intro retains
    have unbuilt : ¬(failed.registry.find key).Retains plugin.id text := by
      rw [failedIs]
      exact unbuilt_of_failed finds steady collected.distinct faithful accounted asks fails
    have retainsThen : ((Event.runAll between failed).registry.find key).Retains plugin.id text :=
      bridgeIs ▸ retains
    exact delivers_of_retains collectedFailed amid unbuilt retainsThen
  · intro same
    rw [same] at dealtThen
    exact idle_of_dealt findsAgain steadyThen.quiet dealtThen.1

/-- Once the watcher dealt with another text, the pipeline is asked again. -/
theorem asked_again_iff_changed_between :
    let failing := asideSetting "a" false .nothing
    let before := [handedAside "a" false "b"]
    let between := [asideRebuild "b" .nothing]
    let bridge := Event.runAll (before ++ asideRebuild "a" .nothing :: between) linkedBridge
    Peaceful failing.analyzer linkedBridge
        (before ++ (asideRebuild "a" .nothing :: between ++ [asideRebuild "a" .nothing])) ∧
      Finds failing ⟨"/s/a.es"⟩ ⟨"/s/a.es"⟩ asideOwner "a" (Event.runAll before linkedBridge) ∧
      AsksFor failing ⟨"/s/a.es"⟩ asideOwner "a" (Event.runAll before linkedBridge) ∧
      resultOf (rebuildChanged failing ⟨"/s/a.es"⟩).run (Event.runAll before linkedBridge) =
        .ok [] ∧
      Finds failing ⟨"/s/a.es"⟩ ⟨"/s/a.es"⟩ asideOwner "a" bridge ∧
      AsksFor failing ⟨"/s/a.es"⟩ asideOwner "a" bridge := by
  intro failing before between bridge
  have different : Digest.of "b" ≠ Digest.of "a" := digest_a_ne_b.symm
  have peaceful : Peaceful failing.analyzer linkedBridge
      (before ++ (asideRebuild "a" .nothing :: between ++ [asideRebuild "a" .nothing])) := by
    refine peaceful_of_asides ?_
    simp only [before, between, List.cons_append, List.nil_append, List.forall_mem_cons]
    exact ⟨suits_handed, suits_rebuild (.inl rfl) _, suits_rebuild (.inr rfl) _,
      suits_rebuild (.inl rfl) _, List.forall_mem_nil _⟩
  rcases fails_handedBridge with ⟨finds, asks, fails⟩
  let failed := Event.runAll (before ++ [asideRebuild "a" .nothing]) linkedBridge
  have holdsFailed : AsideHolds "a" failed :=
    holds_handedBridge.rebuild "a" .nothing fun same => absurd same different
  have holds : AsideHolds "b" bridge :=
    holdsFailed.rebuild "b" .nothing fun same => absurd same digest_a_ne_b
  have findsAgain := holds.finds "a" .nothing
  refine ⟨peaceful, finds, asks, fails, findsAgain, ?_⟩
  refine (asked_again_iff peaceful finds asks fails findsAgain).1.2 ⟨?_, ?_⟩
  · have findsBetween := holdsFailed.finds "b" .nothing
    have dealt : (asideRebuild "b" .nothing).dealtText? ⟨"/s/a.es"⟩ failed = some "b" :=
      (if_pos findsBetween.normal).trans findsBetween.taken
    have last : Event.lastDealt ⟨"/s/a.es"⟩ between failed "a" = "b" :=
      congrArg (fun dealt => Option.getD dealt "a") dealt
    intro same
    exact absurd (last.symm.trans same) (by decide)
  · intro retains
    have same : "b" = "a" := Option.some.inj (holds.held.symm.trans retains.1)
    exact absurd same (by decide)

/-- The same text is found again, and the pipeline could build it now, but it is not asked. -/
theorem failed_text_not_asked_for_again :
    let failing := asideSetting "a" false .nothing
    let mended := asideSetting "a" false (.built default [])
    let later := Event.runAll [⟨failing, .rebuild ⟨"/s/a.es"⟩⟩] handedBridge
    Finds failing ⟨"/s/a.es"⟩ ⟨"/s/a.es"⟩ asideOwner "a" handedBridge ∧
      AsksFor failing ⟨"/s/a.es"⟩ asideOwner "a" handedBridge ∧
      resultOf (rebuildChanged failing ⟨"/s/a.es"⟩).run handedBridge = .ok [] ∧
      Finds mended ⟨"/s/a.es"⟩ ⟨"/s/a.es"⟩ asideOwner "a" later ∧
      ¬AsksFor mended ⟨"/s/a.es"⟩ asideOwner "a" later := by
  intro failing mended later
  rcases fails_handedBridge with ⟨finds, asks, fails⟩
  have holds : AsideHolds "a" later :=
    holds_handedBridge.rebuild "a" .nothing fun same => absurd same.symm digest_a_ne_b
  have dealt : dealt? ⟨"/s/a.es"⟩ later = some (Digest.of "a") :=
    dealt?_of_finds finds holds_handedBridge.steady holds_handedBridge.distinct
      faithful_handedBridge
  have findsAgain := holds.finds "a" (.built default [])
  refine ⟨finds, asks, fails, findsAgain, ?_⟩
  intro made
  have idle := (idle_of_dealt findsAgain holds.steady.quiet dealt).2
  exact List.not_mem_nil ((made_iff (idle.trans (List.append_nil _).symm)).1 made)

end Bridge

end ModuleBridge
