import ModuleBridge.Proofs.Bridge.Asides

/-!
# What the watcher deals with

Of every file the watcher remembers the digest of the text that it dealt with last: the
one that a rebuild takes in, whatever becomes of its build, or the one that the cross
build of a load made an artifact of.  Nothing else moves it.  An artifact of a text is
kept only when it was there or when its pipeline delivers it.
-/

namespace ModuleBridge

namespace Event

open Bridge

/-- The text that the cross build of a load made an artifact of. -/
def asideText? (setting : Setting) (plugin : Plugin) (id : String) (bridge : Bridge) :
    Option String :=
  let path := fileOf setting id
  let seen := seenReady setting plugin path bridge
  match resultOf (ready setting path).run bridge with
  | .error _ => none
  | .ok (key, readiness) =>
    let record := seen.registry.find key
    let built := resultOf (crossBuild setting path) seen
    if setting.filter.accepts id && (readiness = .analysed && !record.isDescriptionOnly) &&
        !built.isEmpty then
      record.source?
    else
      none

/-- The text of a file that the watcher deals with in an operation. -/
def dealtText? (key : Path) (event : Event) (bridge : Bridge) : Option String :=
  match event.operation with
  | .rebuild path =>
    if event.setting.normalise (event.setting.normalise path) = key then
      taken? event.setting path bridge
    else
      none
  | .load plugin id =>
    if event.setting.normalise (fileOf event.setting id) = key then
      asideText? event.setting plugin id bridge
    else
      none
  | .update _ _ _ _ | .invalidate _ _ => none

/-- The text that the watcher dealt with last, after operations one after another. -/
def lastDealt (key : Path) : List Event → Bridge → String → String
  | [], _, last => last
  | event :: rest, bridge, last =>
    lastDealt key rest (event.run bridge) ((event.dealtText? key bridge).getD last)

end Event

/-! ## Artifacts that are kept -/

/-- An artifact that a pipeline built from a text is there to be served again. -/
def Record.Retains (plugin : Nat) (text : String) (record : Record) : Prop :=
  record.source? = some text ∧ (record.reusable? plugin record.revision none).isSome

namespace Record

variable {record other : Record} {plugin : Nat} {text : String}

theorem Retains.of_core (retains : other.Retains plugin text) (same : record.core = other.core) :
    record.Retains plugin text := by
  rcases fields_of_core_eq same with ⟨source, -, revision, -, slot⟩
  refine ⟨source.trans retains.1, ?_⟩
  rw [revision, Bridge.reusable?_of_slot slot]
  exact retains.2

/-- An artifact is kept since before, or it is the one that is stored. -/
theorem retains_of_act {action : Action} (retains : (record.act action).Retains plugin text) :
    record.Retains plugin text ∨
      ∃ slot, action = .storeBuild slot ∧ record.revision = slot.revision ∧
        slot.plugin = plugin ∧ slot.selector? = none ∧ record.source? = some text := by
  have effect := effect_act record action
  change (record.act action).core.Retains plugin text at retains
  generalize (record.act action).core = after at effect retains
  cases effect with
  | kept => exact .inl retains
  | renewed fed incoming other => cases retains.2
  | analysed => exact .inl retains
  | built slot current analysed =>
      rcases Option.isSome_iff_exists.1 retains.2 with ⟨artifact, reused⟩
      have stored : slot = ⟨plugin, record.revision, none, artifact⟩ :=
        Option.some.inj (slot?_of_reusable reused).1
      subst stored
      exact .inr ⟨_, rfl, rfl, rfl, rfl, retains.1⟩

end Record

namespace Bridge

variable {setting : Setting} {asked : Path → Record.Action → Prop} {key : Path} {plugin : Nat}
  {text : String} {before after bridge : Bridge}

/-- A pipeline builds an artifact when it is given a text. -/
def Delivers (setting : Setting) (plugin : Nat) (text : String) : Prop :=
  ∃ view options artifact diagnostics, view.source = text ∧
    (setting.pipeline plugin).build view ⟨none, options⟩ = .built artifact diagnostics

/-- By a routine, an artifact is only kept that was there or that the pipeline delivers. -/
theorem Progress.retains_or_delivers
    (innocent : Innocent asked)
    (progress : Progress nobody (Routine setting nobody asked) before after)
    (retains : (after.registry.find key).Retains plugin text) :
    (before.registry.find key).Retains plugin text ∨ Delivers setting plugin text := by
  let known : Record → Prop := fun record =>
    record.Retains plugin text →
      (before.registry.find key).Retains plugin text ∨ Delivers setting plugin text
  have step :
      ∀ record action, Routine setting nobody asked key record action →
        known record → known (record.act action) := by
    intro record action routine holds kept
    rcases Record.retains_of_act kept with earlier | ⟨slot, stores, current, rfl, selector, source⟩
    · exact holds earlier
    · cases routine with
      | asked _ ordered =>
          subst stores
          let none : Record.Provenance := ⟨fun _ _ _ => False, fun _ _ => False⟩
          rcases innocent key _ ordered record none current with ⟨_, _, _, built⟩
          exact built.elim
      | received feed permitted here => exact absurd permitted id
      | read => cases stores
      | analysed => cases stores
      | watched => cases stores
      | built view _ answered revision dated =>
          cases stores
          rcases answered with ⟨options, diagnostics, answer⟩
          rw [selector] at answer
          have same : view.source = text :=
            Option.some.inj ((dated.2 current).symm.trans source)
          exact .inr ⟨view, options, slot.artifact, diagnostics, same, answer⟩
  exact (progress.registry.record key).keeps step .inl retains

/-- Texts that come in leave no artifact but one that was there. -/
theorem retains_of_influx (influx : Influx before after)
    (retains : (after.registry.find key).Retains plugin text) :
    (before.registry.find key).Retains plugin text := by
  let known : Record → Prop := fun record =>
    record.Retains plugin text → (before.registry.find key).Retains plugin text
  have step :
      ∀ record action, textsOnly key record action → known record → known (record.act action) := by
    intro record action brings holds kept
    rcases Record.retains_of_act kept with earlier | ⟨slot, rfl, -⟩
    · exact holds earlier
    · cases brings
  exact (influx.registry.record key).keeps step id retains

/-! ## What the watcher dealt with -/

/-- The digest of the text that the watcher dealt with last. -/
def dealt? (key : Path) (bridge : Bridge) : Option Digest :=
  ((bridge.registry.find key).memory? .watcher).map Memory.digest

theorem dealt?_of_progress
    (progress : Progress nobody (Routine setting nobody asked) before after)
    (foreign : ∀ action, asked key action → action.observer? ≠ some .watcher) :
    dealt? key after = dealt? key before :=
  congrArg (Option.map Memory.digest) (progress.memory?_eq foreign)

theorem dealt?_of_nothing
    (progress : Progress nobody (Routine setting nobody nothing) before after) :
    dealt? key after = dealt? key before :=
  dealt?_of_progress progress fun _ asked => absurd asked id

theorem dealt?_of_registry (same : after.registry = before.registry) :
    dealt? key after = dealt? key before := by
  rw [dealt?, same, dealt?]

/-- The watcher is told of a change when it dealt with another text last. -/
theorem verdict_of_dealt
    {digest : Digest} (dealt : dealt? key bridge = some digest) (text : String) :
    verdict (bridge.registry.find key) text =
      if digest = Digest.of text then .unchanged else .changed := by
  rcases Option.map_eq_some_iff.1 dealt with ⟨memory, remembered, rfl⟩
  rw [verdict, Record.observe, remembered]
  dsimp only
  rw [Record.judge]
  simp only [Option.some.injEq]

section

variable {path : Path} (steady : Steady setting.analyzer bridge)

include steady

/-- A text that is read counts as dealt with at once. -/
theorem dealt?_reread (text : String) :
    dealt? (setting.normalise path) (reread setting path text bridge) =
      some (Digest.of text) := by
  rw [dealt?, find_reread steady.quiet, Record.act, Record.observe, Record.memory?_remember_self]
  rfl

theorem dealt?_reread_of_ne (other : key ≠ setting.normalise path) (text : String) :
    dealt? key (reread setting path text bridge) = dealt? key bridge := by
  let observes : Path → Record.Action → Prop := fun other action =>
    other = setting.normalise path ∧ action = .observe .watcher text
  have follows :
      Follows nobody (Routine setting nobody observes) bridge (reread setting path text bridge) :=
    follows_reread ⟨rfl, rfl⟩ bridge
  exact dealt?_of_progress (follows steady.quiet) fun _ observed => absurd observed.1 other

/-! ### Auxiliary builds -/

/-- A build that succeeds is one of the text there is. -/
theorem revision_of_built
    {plugin : Plugin} {selector? : Option String} {resource : String} {built : Built}
    (held : (bridge.registry.find (setting.normalise path)).source? = some text)
    (succeeded :
      resultOf (build setting path plugin selector? resource).run bridge = .ok built) :
    built.key = setting.normalise path ∧
      built.revision = (bridge.registry.find (setting.normalise path)).revision := by
  rcases ready_of_built succeeded with ⟨readiness, ready⟩
  have progress : Progress nobody (Routine setting nobody nothing) bridge
      (endOf (Bridge.ready setting path).run bridge) :=
    routine_ready path bridge steady.quiet
  have silent : Silent nothing := fun _ _ asked => absurd asked id
  rw [← progress.revision_eq silent held]
  rcases building_of_ready ready plugin selector? resource with ⟨outcome, building⟩
  rw [succeeded] at outcome
  rw [← outcome] at building
  cases building with
  | reused view artifact warnings viewed stored printed =>
      exact ⟨rfl, (Record.fields_of_view viewed).2.2⟩
  | built view middle artifact warnings further viewed printed delivered kept =>
      exact ⟨rfl, (Record.fields_of_view viewed).2.2⟩

omit steady in
/-- A failed auxiliary build leaves nothing in the records. -/
theorem registry_buildAside_of_error
    {plugin : Plugin} {fault : Fault}
    (failed :
      resultOf (build setting path plugin none path.display).run bridge = .error fault) :
    (endOf (buildAside setting path plugin) bridge).registry =
      (endOf (build setting path plugin none path.display).run bridge).registry := by
  rw [buildAside, endOf_bind, failed]
  exact (keeps_bind (apart_log _ _) (fun _ => keeps_pure _) _).registry

omit steady in
/-- An auxiliary build that succeeds is marked as seen by the watcher. -/
theorem registry_buildAside_of_ok
    {plugin : Plugin} {built : Built}
    (succeeded :
      resultOf (build setting path plugin none path.display).run bridge = .ok built) :
    let registry := (endOf (build setting path plugin none path.display).run bridge).registry
    (endOf (buildAside setting path plugin) bridge).registry =
      registry.put built.key ((registry.find built.key).markSeen .watcher built.revision) := by
  intro registry
  rw [buildAside, endOf_bind, succeeded]
  dsimp only
  rw [endOf_bind]
  refine Apart.registry (keeps_bind (apart_watchBuilt path) ?_ _)
  intro isNew
  exact keeps_when (apart_debug _ _) _

/-- The watcher has dealt with the text that an auxiliary build made an artifact of. -/
theorem dealt?_buildAside
    {plugin : Plugin} (key : Path)
    (held : (bridge.registry.find (setting.normalise path)).source? = some text) :
    dealt? key (endOf (buildAside setting path plugin) bridge) =
      if resultOf (buildAside setting path plugin) bridge = true ∧ key = setting.normalise path then
        some (Digest.of text)
      else dealt? key bridge := by
  let ended := endOf (build setting path plugin none path.display).run bridge
  have progress : Progress nobody (Routine setting nobody nothing) bridge ended :=
    routine_build path plugin none path.display bridge steady.quiet
  have silent : Silent nothing := fun _ _ asked => absurd asked id
  have innocent : Innocent nothing := fun _ _ asked => absurd asked id
  have still : dealt? key ended = dealt? key bridge := dealt?_of_nothing progress
  rw [resultOf_buildAside]
  cases outcome : resultOf (build setting path plugin none path.display).run bridge with
  | error fault =>
      rw [dealt?_of_registry (registry_buildAside_of_error outcome), still]
      exact (if_neg fun found => Bool.false_ne_true found.1).symm
  | ok built =>
      rcases revision_of_built steady held outcome with ⟨named, revision⟩
      have registry := registry_buildAside_of_ok outcome
      rw [dealt?, registry, named]
      by_cases same : key = setting.normalise path
      · subst same
        have heldThen : (ended.registry.find (setting.normalise path)).source? = some text :=
          progress.source?_eq silent held
        have registered : (ended.registry.get? (setting.normalise path)).isSome := by
          rw [Registry.get?_of_held heldThen]
          rfl
        have digest : (ended.registry.find (setting.normalise path)).digest? =
            some (Digest.of text) := by
          rw [((progress.steady innocent steady).coherent _).digest, heldThen]
          rfl
        have current : (ended.registry.find (setting.normalise path)).revision = built.revision :=
          (progress.revision_eq silent held).trans revision.symm
        rw [Registry.find_put_self registered, Record.markSeen, digest]
        dsimp only
        rw [if_pos current, Record.memory?_remember_self]
        exact (if_pos ⟨rfl, rfl⟩).symm
      · rw [Registry.find_put_of_ne same, if_neg fun found => same found.2]
        exact still

/-- A cross build has the watcher deal with the text exactly when it makes an artifact. -/
theorem dealt?_crossBuild
    (distinct : bridge.plugins.Distinct) (key : Path)
    (held : (bridge.registry.find (setting.normalise path)).source? = some text) :
    dealt? key (endOf (crossBuild setting path) bridge) =
      if resultOf (crossBuild setting path) bridge ≠ [] ∧ key = setting.normalise path then
        some (Digest.of text)
      else dealt? key bridge := by
  have run := run_crossBuild distinct setting path
  rw [endOf, resultOf, run]
  cases (bridge.plugins.owner path).isMain with
  | true =>
      rw [if_pos rfl]
      exact (if_neg fun found => found.1 rfl).symm
  | false =>
      rw [if_neg Bool.false_ne_true]
      dsimp only
      rw [dealt?_buildAside steady key held]
      cases resultOf (buildAside setting path (bridge.plugins.owner path)) bridge <;> simp

/-! ### Rebuilds -/

/-- A rebuild has the watcher deal with the text that it takes in. -/
theorem dealt?_rebuildChanged
    (distinct : bridge.plugins.Distinct) (key : Path)
    (faithful : ∀ text, taken? setting path bridge = some text →
      Faithful (setting.normalise (setting.normalise path)) text bridge) :
    dealt? key (endOf (rebuildChanged setting path).run bridge) =
      (((if setting.normalise (setting.normalise path) = key then taken? setting path bridge
        else none).map Digest.of).or (dealt? key bridge)) := by
  have rebuilds := rebuilding steady.quiet setting path
  generalize resultOf (rebuildChanged setting path).run bridge = outcome at rebuilds
  generalize endOf (rebuildChanged setting path).run bridge = after at rebuilds
  have reads : ∀ text,
      dealt? key (reread setting (setting.normalise path) text bridge) =
        if setting.normalise (setting.normalise path) = key then some (Digest.of text)
        else dealt? key bridge := by
    intro text
    split
    · rename_i same
      subst same
      exact dealt?_reread steady text
    · rename_i other
      exact dealt?_reread_of_ne steady (Ne.symm other) text
  cases rebuilds with
  | untaken untaken idle elapsed =>
      rw [untaken, ite_self, dealt?_of_registry (registry_of_elapsed elapsed)]
      rfl
  | unchanged text taken known printed =>
      have same : dealt? key after = _ := dealt?_of_registry (registry_of_printed printed)
      rw [same, reads, taken]
      split <;> rfl
  | changed text taken other =>
      have influx := influx_reread setting (setting.normalise path) text bridge
      have distinctThen := influx.plugins ▸ distinct
      have held := source?_reread steady (faithful text taken)
      rw [dealt?_crossBuild (steady_reread steady _ text) distinctThen key held, reads, taken]
      by_cases same : setting.normalise (setting.normalise path) = key
      · subst same
        rw [if_pos rfl, if_pos rfl, ite_self]
        rfl
      · rw [if_neg fun found => same found.2.symm, if_neg same, if_neg same]
        rfl

/-! ### Loads -/

/-- A load marks its file as seen by its pipeline. -/
def marksFor (plugin : Plugin) (_ : Path) (action : Record.Action) : Prop :=
  ∃ revision, action = .markSeen (.pipeline plugin.id) revision

theorem progress_seenReady (plugin : Plugin) (path : Path) :
    Progress nobody (Routine setting nobody (marksFor plugin)) bridge
      (seenReady setting plugin path bridge) := by
  have readies : Follows nobody (Routine setting nobody (marksFor plugin)) bridge
      (endOf (ready setting path).run bridge) :=
    routine_ready path bridge
  have sees : Follows nobody (Routine setting nobody (marksFor plugin))
      (endOf (ready setting path).run bridge) (seenReady setting plugin path bridge) :=
    follows_seenReady nobody (fun revision => ⟨revision, rfl⟩) bridge
  exact trans_of (Follows nobody _) readies sees steady.quiet

theorem steady_seenReady (plugin : Plugin) (path : Path) :
    Steady setting.analyzer (seenReady setting plugin path bridge) := by
  refine (progress_seenReady steady plugin path).steady ?_ steady
  rintro _ _ ⟨revision, rfl⟩ record origin
  trivial

theorem dealt?_seenReady (key : Path) (plugin : Plugin) (path : Path) :
    dealt? key (seenReady setting plugin path bridge) = dealt? key bridge := by
  refine dealt?_of_progress (progress_seenReady steady plugin path) ?_
  rintro _ ⟨revision, rfl⟩ same
  cases same

/-- A file that was made ready has a text. -/
theorem source?_seenReady
    {found : Path × Readiness} (plugin : Plugin)
    (succeeded : resultOf (ready setting path).run bridge = .ok found) :
    ∃ text, ((seenReady setting plugin path bridge).registry.find
      (setting.normalise path)).source? = some text := by
  rcases holds_of_ready steady succeeded with ⟨-, text, analysis, holds⟩
  refine ⟨text, ?_⟩
  rw [find_seenReady plugin steady succeeded,
    (Record.fields_of_core_eq (Record.core_markSeen _ _ _)).1]
  exact holds.2.1

/-- A preparation has the watcher deal with the text when its cross build makes an artifact. -/
theorem dealt?_prepare
    {found : Path} {readiness : Readiness} {plugin : Plugin}
    (distinct : bridge.plugins.Distinct) (key : Path)
    (succeeded : resultOf (ready setting path).run bridge = .ok (found, readiness))
    (held : ((seenReady setting plugin path bridge).registry.find
      (setting.normalise path)).source? = some text) :
    let seen := seenReady setting plugin path bridge
    dealt? key (endOf (prepare setting plugin path).run bridge) =
      if (readiness = .analysed &&
            !(seen.registry.find (setting.normalise path)).isDescriptionOnly &&
            !(resultOf (crossBuild setting path) seen).isEmpty) ∧
          key = setting.normalise path then
        some (Digest.of text)
      else dealt? key bridge := by
  intro seen
  rw [endOf_prepare succeeded plugin]
  cases builds : readiness = .analysed &&
      !(seen.registry.find (setting.normalise path)).isDescriptionOnly with
  | false =>
      rw [if_neg Bool.false_ne_true, Bool.false_and, if_neg fun found => Bool.false_ne_true found.1]
      exact dealt?_seenReady steady key plugin path
  | true =>
      have distinctSeen : seen.plugins.Distinct :=
        (progress_seenReady steady plugin path).plugins ▸ distinct
      have steadySeen := steady_seenReady steady plugin path
      rw [if_pos rfl, dealt?_crossBuild steadySeen distinctSeen key held,
        dealt?_seenReady steady key plugin path, Bool.true_and]
      cases resultOf (crossBuild setting path) seen <;> simp

omit steady in
/-- What a load does behind its preparation is nothing to the watcher. -/
theorem load_of_prepared
    {plugin : Plugin} {id : String} {found : Path}
    (accepted : setting.filter.accepts id = true)
    (prepared :
      resultOf (prepare setting plugin (Event.fileOf setting id)).run bridge = .ok found) :
    Follows nobody (Routine setting nobody nothing)
      (endOf (prepare setting plugin (Event.fileOf setting id)).run bridge)
      (endOf (load setting plugin id).run bridge) := by
  rw [load_of_accepted accepted, (attempt_of_ok prepared _).2]
  exact keeps_attempt_bind (routine_serve _ _ _ _) (fun _ => keeps_attempt_pure _) _

omit steady in
theorem asideText?_of_foreign
    {plugin : Plugin} {id : String} (foreign : setting.filter.accepts id = false) :
    Event.asideText? setting plugin id bridge = none := by
  rw [Event.asideText?]
  split
  · rfl
  · dsimp only
    rw [foreign]
    exact if_neg Bool.false_ne_true

/-- A load has the watcher deal with a text when its cross build makes an artifact. -/
theorem dealt?_load
    (distinct : bridge.plugins.Distinct) (key : Path) (plugin : Plugin) (id : String) :
    dealt? key (endOf (load setting plugin id).run bridge) =
      (((if setting.normalise (Event.fileOf setting id) = key then
          Event.asideText? setting plugin id bridge
        else none).map Digest.of).or (dealt? key bridge)) := by
  let path := Event.fileOf setting id
  cases accepted : setting.filter.accepts id with
  | false =>
      rw [load_of_foreign accepted, asideText?_of_foreign accepted, ite_self]
      rfl
  | true =>
      have readies : Follows nobody (Routine setting nobody nothing) bridge
          (endOf (ready setting path).run bridge) :=
        routine_ready path bridge
      cases outcome : resultOf (ready setting path).run bridge with
      | error fault =>
          rw [load_of_refused accepted outcome, Event.asideText?, outcome]
          dsimp only
          rw [ite_self]
          exact dealt?_of_nothing (readies steady.quiet)
      | ok found =>
          rcases found with ⟨found, readiness⟩
          rcases key_of_ready outcome with rfl
          rcases source?_seenReady steady plugin outcome with ⟨text, held⟩
          rcases prepare_of_ready nobody plugin watching_watcherMarks outcome with
            ⟨prepares, prepared⟩
          have fits := (prepares (progress_seenReady steady plugin path).fits).fits
          have serves : Progress nobody (Routine setting nobody nothing)
              (endOf (prepare setting plugin path).run bridge)
              (endOf (load setting plugin id).run bridge) :=
            load_of_prepared accepted prepared fits
          rw [dealt?_of_nothing serves, dealt?_prepare steady distinct key outcome held,
            Event.asideText?, outcome]
          dsimp only
          rw [accepted, Bool.true_and, held]
          by_cases same : setting.normalise path = key
          · subst same
            rw [if_pos rfl]
            split
            · rename_i made
              rw [if_pos made.1]
              rfl
            · rename_i idle
              rw [if_neg fun made => idle ⟨made, rfl⟩]
              rfl
          · rw [if_neg fun made => same made.2.symm, if_neg same]
            rfl

end

end Bridge

end ModuleBridge
