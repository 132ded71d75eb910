import ModuleBridge.Proofs.Bridge.Asides
import ModuleBridge.Proofs.Bridge.Privacy

/-!
# Which texts auxiliary pipelines are called for

A load has a file built by the auxiliary pipeline that owns it when it analyses the file
itself.  Whoever else analyses the file first, a walk through imports, a listing of routes
or an update, calls no pipeline, and the loads behind it find the file ready: then only a
load by the owner calls it.
-/

namespace ModuleBridge

/-- The call is for a build only when it is one of certain pipelines. -/
def Call.BuildsFor (allowed : Nat → Prop) : Call → Prop
  | .build plugin _ _ _ _ => allowed plugin
  | _ => True

theorem Call.buildsFor_of_unhanded (allowed : Nat → Prop) {call : Call}
    (free : call.handed? = none) : call.BuildsFor allowed := by
  cases call with
  | build => cases free
  | _ => trivial

/-- The record is coherent enough to be viewed when it is valid. -/
theorem Record.exists_view
    {origin : Record.Provenance} {record : Record} (coherent : record.Coherent origin)
    (valid : record.isValid = true) :
    ∃ view, record.view? = some view ∧ view.analysis.diagnostics = record.diagnostics := by
  rcases Option.isSome_iff_exists.1 (coherent.isValid_iff.1 valid) with ⟨analysed, stored⟩
  rcases coherent.analysed analysed stored with ⟨text, held, -⟩
  refine ⟨⟨record.path, record.revision, text, analysed.analysis, analysed.sections⟩, ?_, ?_⟩
  · simp [view?, stored, held]
  · simp [diagnostics, analysis?, stored]

/-- The text is analysed, and there are no errors in it. -/
structure Record.IsClean (record : Record) : Prop where
  valid : record.isValid = true
  clean : ∀ found ∈ record.diagnostics, found.isError = false

theorem Record.IsClean.of_core
    {before after : Record} (clean : before.IsClean) (same : after.core = before.core) :
    after.IsClean := by
  have diagnostics : after.diagnostics = before.diagnostics := by
    change after.core.diagnostics = before.core.diagnostics
    rw [same]
  exact ⟨(Record.isValid_of_core same).trans clean.valid, diagnostics ▸ clean.clean⟩

namespace Bridge

variable {settings : Setting → Prop} {setting : Setting} {before after bridge : Bridge}
  {path key : Path} {readiness : Readiness} {owner : Nat}

/--
Of the calls there is one by which a pipeline is given a revision of a file.  A revision
names one text of the file as long as the records are not forgotten.
-/
def CalledFor (plugin : Nat) (key : Path) (revision : Nat) (calls : List Call) : Prop :=
  ∃ selector? ssr?, .build plugin key revision selector? ssr? ∈ calls

theorem CalledFor.mono
    {revision : Nat} {earlier later : List Call}
    (called : CalledFor owner key revision earlier) (further : earlier <+: later) :
    CalledFor owner key revision later := by
  rcases called with ⟨selector?, ssr?, made⟩
  exact ⟨selector?, ssr?, further.subset made⟩

/-! ## What calls for builds -/

section

variable {allowed : Nat → Prop}

theorem bears_buildsFor (setting : Setting) (key : Path) :
    Bears setting key (Makes (Call.BuildsFor allowed)) :=
  Blind.bears (makes_note trivial)

theorem makes_localDependencies (root : Path) :
    Keeps (Makes (Call.BuildsFor allowed)) (localDependencies setting root) :=
  blind_localDependencies (fun _ => makes_note trivial) (fun _ => makes_watchFile trivial) root

/-- A listing of routes builds nothing. -/
theorem makes_routes (plugin : Plugin) (file : Path) :
    Keeps (Makes (Call.BuildsFor allowed)) (routes setting plugin file).run := by
  refine keeps_ite ?_ (keeps_attempt_pure _)
  refine keeps_attempt_bind ((bears_buildsFor setting _).ready rfl) ?_
  rintro ⟨key, readiness⟩
  refine keeps_attempt_bind (keeps_viewAt key) ?_
  intro view
  rw [run_lift_bind]
  refine keeps_bind (makes_note trivial) ?_
  intro _
  split
  · exact keeps_attempt_pure _
  · exact keeps_throw _

/-- An update builds nothing. -/
theorem makes_update
    (requester : Nat) (suffix? : Option String) (file : Path) (text : String) :
    Keeps (Makes (Call.BuildsFor allowed)) (update setting requester suffix? file text) :=
  (bears_buildsFor setting _).update rfl requester suffix? text

/-- What is served for an action builds nothing. -/
theorem makes_serve_of_action
    {plugin : Plugin} {resource : Resource} {action : String}
    (asked : actionOf? resource = some action) :
    Keeps (Makes (Call.BuildsFor allowed)) (serve setting plugin resource path key).run := by
  rw [serve, run_get_bind]
  refine keeps_bind keeps_get ?_
  intro bridge
  rw [asked]
  split
  · rw [run_lift_bind]
    exact keeps_bind (blind_debug _ _) fun _ => keeps_attempt_pure _
  · rw [run_lift_bind]
    exact keeps_bind (makes_localDependencies path) fun _ => keeps_attempt_pure _
  · refine keeps_attempt_bind (keeps_viewAt key) ?_
    intro view
    exact keeps_answered (keeps_perform (makes_note trivial) (makes_note trivial))

end

/-- What is served is built by the asking pipeline alone, and only without an action. -/
theorem makes_serve_self
    (plugin : Plugin) (resource : Resource) (path : Path)
    (paths : ∀ key, (bridge.registry.find key).path = key) :
    Makes (Call.BuildsFor fun builder => builder = plugin.id ∧ actionOf? resource = none) bridge
      (endOf (serve setting plugin resource path (setting.normalise path)).run bridge) := by
  cases asked : actionOf? resource with
  | some action => exact makes_serve_of_action asked bridge
  | none =>
      refine makes_serve (fun call free => call.buildsFor_of_unhanded _ free) ?_
        ⟨rfl, paths⟩ resource
      intro _ call handed
      cases call with
      | build =>
          cases handed
          exact ⟨rfl, rfl⟩
      | _ => trivial

/-! ## Builds -/

/-- A build of a file that is ready and holds no errors has its pipeline called, now or before. -/
theorem called_of_build
    {ledger : Ledger} (reached : Reached settings bridge ledger)
    (clean : (bridge.registry.find (setting.normalise path)).IsClean)
    (plugin : Plugin) (selector? : Option String) (resource : String) :
    CalledFor plugin.id (setting.normalise path)
      (bridge.registry.find (setting.normalise path)).revision
      (endOf (build setting path plugin selector? resource).run bridge).journal := by
  let key := setting.normalise path
  let record := bridge.registry.find key
  have accounted : Accounted settings bridge := accounted_of_reached reached
  rcases Record.exists_view (accounted key).coherent clean.valid with ⟨view, viewed, same⟩
  have viewRevision : view.revision = record.revision := (Record.fields_of_view viewed).2.2
  have viewPath : view.path = key := (Record.path_view viewed).trans (accounted key).path
  rcases ready_of_valid (registered_of_valid clean.valid) clean.valid with ⟨succeeded, ended⟩
  have core := core_watched key key bridge
  have slot : ((watched key bridge).registry.find key).slot? = record.slot? :=
    slot?_watched key key bridge
  cases reusable : record.reusable? plugin.id view.revision selector? with
  | none =>
      let call := Call.build plugin.id view.path view.revision selector? plugin.options.ssr
      have handed : ¬Unhanded call := handed_build _ _ _ _ _
      have wants : ((watched key bridge).registry.find key).Wants plugin.id selector? view :=
        ⟨(Record.view?_of_core core).trans viewed, same ▸ clean.clean,
          (reusable?_of_slot slot _ _ _).trans reusable⟩
      have made :
          Made call bridge (endOf (build setting path plugin selector? resource).run bridge) :=
        (made_build_iff handed bridge).2 ⟨.cached, view, succeeded, ended ▸ wants, rfl⟩
      refine ⟨selector?, plugin.options.ssr, ?_⟩
      change Call.build plugin.id key record.revision _ _ ∈ _
      rw [← viewRevision, ← viewPath]
      exact made.mem
  | some artifact =>
      rcases (accounted key).slot _ (Record.slot?_of_reusable reusable).1 with
        ⟨other, viewedToo, -, _, options, _, -, -, -, called⟩
      rcases Option.some.inj (viewed.symm.trans viewedToo) with rfl
      have before : CalledFor plugin.id key record.revision bridge.journal := by
        refine ⟨selector?, options.ssr, ?_⟩
        rw [← viewRevision, ← viewPath]
        exact called
      rcases grows_build path plugin selector? resource bridge with ⟨calls, journal, -⟩
      exact before.mono ⟨calls, journal.symm⟩

/-! ## Loads -/

/-- The file that a load asks for was made ready, and what the load ends in was served. -/
theorem load_of_served
    {plugin : Plugin} {id : String} {served : Served}
    (succeeded : resultOf (load setting plugin id).run bridge = .ok (some served)) :
    let path := Event.fileOf setting id
    let serving := serve setting plugin (Resource.parse setting.config.resolve id) path
      (setting.normalise path)
    setting.filter.accepts id = true ∧
      (∃ readiness,
        resultOf (ready setting path).run bridge = .ok (setting.normalise path, readiness)) ∧
      endOf (load setting plugin id).run bridge =
        endOf serving.run (endOf (prepare setting plugin path).run bridge) ∧
      resultOf serving.run (endOf (prepare setting plugin path).run bridge) = .ok served := by
  intro path serving
  cases accepted : setting.filter.accepts id with
  | false =>
      rw [load, if_neg (by rw [accepted]; exact Bool.false_ne_true)] at succeeded
      cases succeeded
  | true =>
      rw [load_of_accepted accepted] at succeeded ⊢
      cases outcome : resultOf (ready setting path).run bridge with
      | error fault =>
          have prepared : resultOf (prepare setting plugin path).run bridge = .error fault :=
            (attempt_of_error outcome _).1
          rw [(attempt_of_error prepared _).1] at succeeded
          cases succeeded
      | ok found =>
          rcases found with ⟨key, readiness⟩
          rcases key_of_ready outcome with rfl
          have prepared := (prepare_of_ready nobody plugin watching_watcherMarks outcome).2
          rw [(attempt_of_ok prepared _).1] at succeeded
          rw [(attempt_of_ok prepared _).2]
          refine ⟨rfl, ⟨readiness, rfl⟩, ?_⟩
          cases served : resultOf serving.run (endOf (prepare setting plugin path).run bridge) with
          | error fault =>
              rw [(attempt_of_error served _).1] at succeeded
              cases succeeded
          | ok other =>
              rw [(attempt_of_ok served _).1] at succeeded
              rw [(attempt_of_ok served _).2]
              rcases Option.some.inj (Except.ok.inj succeeded) with rfl
              exact ⟨rfl, rfl⟩

theorem core_seenReady (plugin : Plugin) (path other : Path) (bridge : Bridge) :
    ((seenReady setting plugin path bridge).registry.find other).core =
      ((endOf (ready setting path).run bridge).registry.find other).core :=
  Registry.core_put (Record.core_markSeen _ _ _) other

theorem plugins_seenReady (plugin : Plugin) (path : Path) (bridge : Bridge) :
    (seenReady setting plugin path bridge).plugins = bridge.plugins := by
  have routine :
      Follows anything (Routine setting anything nothing) bridge
        (endOf (ready setting path).run bridge) :=
    routine_ready path bridge
  exact (routine fun _ _ _ _ => trivial).plugins

/-- Making a file ready that is ready already does not touch what depends on its text. -/
theorem core_ready_of_valid
    (valid : (bridge.registry.find (setting.normalise path)).isValid = true) :
    ((endOf (ready setting path).run bridge).registry.find (setting.normalise path)).core =
      (bridge.registry.find (setting.normalise path)).core := by
  rw [(ready_of_valid (registered_of_valid valid) valid).2]
  exact core_watched _ _ bridge

/-- A file that was ready before is only seen when it is prepared for a load. -/
theorem endOf_prepare_of_valid
    (valid : (bridge.registry.find (setting.normalise path)).isValid = true) (plugin : Plugin) :
    endOf (prepare setting plugin path).run bridge = seenReady setting plugin path bridge := by
  rcases ready_of_valid (registered_of_valid valid) valid with ⟨readied, -⟩
  rw [endOf_prepare readied plugin]
  rfl

theorem reached_seenReady
    {ledger : Ledger} (among : settings setting) (reached : Reached settings bridge ledger)
    (plugin : Plugin) (path : Path) :
    ∃ later, Reached settings (seenReady setting plugin path bridge) later := by
  rcases leads_ready among path bridge ledger reached with ⟨middle, readied⟩
  exact leads_changeRecord (fun _ => Record.core_markSeen _ _ _) _ middle readied

/-- The builder of what a load serves: its own pipeline, unless an action is asked for. -/
def Builder (setting : Setting) (plugin : Plugin) (id : String) (builder : Nat) : Prop :=
  builder = plugin.id ∧ actionOf? (Resource.parse setting.config.resolve id) = none

section

variable {plugin : Plugin} {id : String} {served : Served} {ledger : Ledger}
  (among : settings setting) (reached : Reached settings bridge ledger)
  (succeeded : resultOf (load setting plugin id).run bridge = .ok (some served))

include among reached succeeded

/-- What a load serves is built by the asking pipeline alone, and only without an action. -/
theorem makes_load_of_prepared :
    Makes (Call.BuildsFor (Builder setting plugin id))
      (endOf (prepare setting plugin (Event.fileOf setting id)).run bridge)
      (endOf (load setting plugin id).run bridge) := by
  rcases load_of_served succeeded with ⟨-, -, ended, -⟩
  rw [ended]
  rcases leads_prepare among plugin (Event.fileOf setting id) bridge ledger reached with
    ⟨later, prepared⟩
  exact makes_serve_self plugin _ _ fun key => (accounted_of_reached prepared key).path

/-- Where the file of a load was ready before, no other pipeline is called. -/
theorem makes_load_of_valid
    (valid :
      (bridge.registry.find (setting.normalise (Event.fileOf setting id))).isValid = true) :
    Makes (Call.BuildsFor (Builder setting plugin id)) bridge
      (endOf (load setting plugin id).run bridge) := by
  let path := Event.fileOf setting id
  have readies :
      Makes (Call.BuildsFor (Builder setting plugin id)) bridge
        (endOf (ready setting path).run bridge) :=
    makes_ready (fun call free => call.buildsFor_of_unhanded _ free) path bridge
  have serves := makes_load_of_prepared among reached succeeded
  rw [endOf_prepare_of_valid valid] at serves
  exact trans_of (Makes _) readies (trans_of (Makes _) (makes_of_journal rfl) serves)

end

/-- A cross build has the auxiliary pipeline called that owns the file, now or before. -/
theorem called_of_crossBuild
    {ledger : Ledger} (reached : Reached settings bridge ledger)
    (distinct : bridge.plugins.Distinct)
    (auxiliary : (bridge.plugins.owner path).isMain = false)
    (clean : (bridge.registry.find (setting.normalise path)).IsClean) :
    CalledFor (bridge.plugins.owner path).id (setting.normalise path)
      (bridge.registry.find (setting.normalise path)).revision
      (endOf (crossBuild setting path) bridge).journal := by
  let owner := bridge.plugins.owner path
  have called := called_of_build reached clean owner none path.display
  have follows :
      Makes (fun _ => True) (endOf (build setting path owner none path.display).run bridge)
        (endOf (buildAside setting path owner) bridge) :=
    makes_aside (fun _ _ => trivial) setting path owner bridge
  rcases follows with ⟨calls, journal, -⟩
  rw [endOf, run_crossBuild distinct setting path, if_neg (Bool.eq_false_iff.1 auxiliary)]
  exact called.mono ⟨calls, journal.symm⟩

/-- A pipeline that serves its own build of a file was called for it, now or before. -/
theorem called_of_loadOwned
    {ledger : Ledger} (reached : Reached settings bridge ledger)
    (clean : (bridge.registry.find (setting.normalise path)).IsClean)
    (plugin : Plugin) (resource : Resource) (key : Path) :
    CalledFor plugin.id (setting.normalise path)
      (bridge.registry.find (setting.normalise path)).revision
      (endOf (loadOwned setting plugin resource path key).run bridge).journal := by
  let building := build setting path plugin (selectorOf? resource) resource.id
  have called := called_of_build reached clean plugin (selectorOf? resource) resource.id
  rw [loadOwned_eq]
  cases outcome : resultOf building.run bridge with
  | error fault =>
      rw [(attempt_of_error outcome _).2]
      exact called
  | ok built =>
      rw [(attempt_of_ok outcome _).2]
      have attends : Attends (Makes fun _ => True) := makes_attends fun _ _ => trivial
      rcases attends.serveBuilt resource path key built (endOf building.run bridge) with
        ⟨calls, journal, -⟩
      exact called.mono ⟨calls, journal.symm⟩

section

variable {ledger : Ledger} (among : settings setting) (reached : Reached settings bridge ledger)
  (readies : resultOf (ready setting path).run bridge = .ok (setting.normalise path, readiness))
  (clean :
    ((endOf (ready setting path).run bridge).registry.find (setting.normalise path)).IsClean)

include among reached readies clean

/-- A file that is analysed for a load is given to the auxiliary pipeline that owns it. -/
theorem called_of_analysed
    (plugin : Plugin) (distinct : bridge.plugins.Distinct)
    (auxiliary : (bridge.plugins.owner path).isMain = false)
    (followed :
      ((endOf (ready setting path).run bridge).registry.find
        (setting.normalise path)).isDescriptionOnly = false)
    (invalid : (bridge.registry.find (setting.normalise path)).isValid = false) :
    CalledFor (bridge.plugins.owner path).id (setting.normalise path)
      ((endOf (ready setting path).run bridge).registry.find (setting.normalise path)).revision
      (endOf (prepare setting plugin path).run bridge).journal := by
  let key := setting.normalise path
  let readied := endOf (ready setting path).run bridge
  let seen := seenReady setting plugin path bridge
  rcases reached_seenReady among reached plugin path with ⟨later, reachedSeen⟩
  have core : (seen.registry.find key).core = (readied.registry.find key).core :=
    core_seenReady plugin path key bridge
  have revision := (Record.fields_of_core_eq core).2.2.1
  have describes : (seen.registry.find key).isDescriptionOnly = false := by
    change (seen.registry.find key).core.isDescriptionOnly = false
    rw [core]
    exact followed
  have plugins : seen.plugins = bridge.plugins := plugins_seenReady plugin path bridge
  rcases (analysed_iff_invalid readies).2 invalid with rfl
  have builds : (decide (Readiness.analysed = .analysed) &&
      !(seen.registry.find key).isDescriptionOnly) = true := by
    rw [describes]
    rfl
  rw [endOf_prepare readies plugin, if_pos builds, ← revision, ← plugins]
  exact called_of_crossBuild reachedSeen (plugins ▸ distinct) (plugins ▸ auxiliary)
    (clean.of_core core)

end

section

variable {plugin : Plugin} {id : String} {served : Served} {ledger : Ledger}
  (among : settings setting) (reached : Reached settings bridge ledger)
  (succeeded : resultOf (load setting plugin id).run bridge = .ok (some served))

include among reached succeeded

/-- Where nobody interrupts, a load ends with the text that was made ready. -/
theorem revision_of_load (quiet : Fits nobody bridge) :
    let path := Event.fileOf setting id
    let key := setting.normalise path
    ((endOf (load setting plugin id).run bridge).registry.find key).revision =
      ((endOf (ready setting path).run bridge).registry.find key).revision := by
  intro path key
  let seen := seenReady setting plugin path bridge
  rcases load_of_served succeeded with ⟨accepted, ⟨readiness, readies⟩, -⟩
  rcases reached_seenReady among reached plugin path with ⟨later, reachedSeen⟩
  have core :
      (seen.registry.find key).core =
        ((endOf (ready setting path).run bridge).registry.find key).core :=
    core_seenReady plugin path key bridge
  have valid : (seen.registry.find key).isValid = true :=
    (Record.isValid_of_core core).trans (valid_of_ready readies)
  rcases Record.exists_view (accounted_of_reached reachedSeen key).coherent valid with
    ⟨view, viewed, -⟩
  have readied : Progress nobody (Routine setting nobody nothing) bridge
      (endOf (ready setting path).run bridge) :=
    routine_ready path bridge quiet
  have loads :
      Follows nobody (Routine setting nobody watcherMarks) seen
        (endOf (load setting plugin id).run bridge) :=
    load_of_ready nobody plugin watching_watcherMarks accepted readies
  have fits : Fits nobody seen := readied.fits
  have held := (Record.fields_of_view viewed).2.1
  have kept := (loads fits).revision_eq silent_watcherMarks held
  exact kept.trans (Record.fields_of_core_eq core).2.2.1

/-- An owner that loads a file that is ready, without an action, builds it. -/
theorem called_of_owner
    (clean : (bridge.registry.find (setting.normalise (Event.fileOf setting id))).IsClean)
    (own : Builder setting plugin id (bridge.plugins.owner (Event.fileOf setting id)).id) :
    CalledFor plugin.id (setting.normalise (Event.fileOf setting id))
      (bridge.registry.find (setting.normalise (Event.fileOf setting id))).revision
      (endOf (load setting plugin id).run bridge).journal := by
  let path := Event.fileOf setting id
  let key := setting.normalise path
  let seen := seenReady setting plugin path bridge
  rcases load_of_served succeeded with ⟨-, -, ended, -⟩
  rcases reached_seenReady among reached plugin path with ⟨later, reachedSeen⟩
  have core : (seen.registry.find key).core = (bridge.registry.find key).core :=
    (core_seenReady plugin path key bridge).trans (core_ready_of_valid clean.valid)
  have plugins : seen.plugins = bridge.plugins := plugins_seenReady plugin path bridge
  have sees : seen.plugins.sight plugin.id path = .owned := by
    rw [plugins, Plugins.sight]
    dsimp only
    rw [if_pos own.1, ite_self]
  have serves :
      endOf (serve setting plugin (Resource.parse setting.config.resolve id) path key).run seen =
        endOf (loadOwned setting plugin (Resource.parse setting.config.resolve id) path key).run
          seen := by
    rw [serve, run_get_bind, endOf_bind, resultOf_get, endOf_get, sees, own.2]
  rw [ended, endOf_prepare_of_valid clean.valid]
  have called := called_of_loadOwned reachedSeen (clean.of_core core) plugin
    (Resource.parse setting.config.resolve id) key
  rw [← serves, (Record.fields_of_core_eq core).2.2.1] at called
  exact called

/-- For a file that was ready before, a load adds the build by which its owner serves it. -/
theorem called_iff_of_valid
    (clean : (bridge.registry.find (setting.normalise (Event.fileOf setting id))).IsClean) :
    let key := setting.normalise (Event.fileOf setting id)
    let owner := bridge.plugins.owner (Event.fileOf setting id)
    let revision := (bridge.registry.find key).revision
    CalledFor owner.id key revision (endOf (load setting plugin id).run bridge).journal ↔
      CalledFor owner.id key revision bridge.journal ∨ Builder setting plugin id owner.id := by
  intro key owner revision
  rcases makes_load_of_valid among reached succeeded clean.valid with ⟨made, told, permitted⟩
  constructor
  · rintro ⟨selector?, ssr?, member⟩
    rw [told] at member
    rcases List.mem_append.1 member with before | new
    · exact .inl ⟨selector?, ssr?, before⟩
    · exact .inr (permitted _ new)
  · rintro (before | own)
    · exact before.mono ⟨made, told.symm⟩
    · rw [own.1]
      exact called_of_owner among reached succeeded clean own

/-- A load that analyses the file has the auxiliary pipeline called that owns it. -/
theorem called_of_invalid
    (distinct : bridge.plugins.Distinct)
    (auxiliary : (bridge.plugins.owner (Event.fileOf setting id)).isMain = false)
    (followed :
      ((endOf (ready setting (Event.fileOf setting id)).run bridge).registry.find
        (setting.normalise (Event.fileOf setting id))).isDescriptionOnly = false)
    (clean :
      ((endOf (ready setting (Event.fileOf setting id)).run bridge).registry.find
        (setting.normalise (Event.fileOf setting id))).IsClean)
    (invalid :
      (bridge.registry.find (setting.normalise (Event.fileOf setting id))).isValid = false) :
    let path := Event.fileOf setting id
    let key := setting.normalise path
    CalledFor (bridge.plugins.owner path).id key
      ((endOf (ready setting path).run bridge).registry.find key).revision
      (endOf (load setting plugin id).run bridge).journal := by
  intro path key
  rcases load_of_served succeeded with ⟨-, ⟨readiness, readies⟩, -⟩
  rcases makes_load_of_prepared among reached succeeded with ⟨calls, journal, -⟩
  have called :=
    called_of_analysed among reached readies clean plugin distinct auxiliary followed invalid
  exact called.mono ⟨calls, journal.symm⟩

end

/-! ## A file of the server that is walked before it is loaded -/

/-- Surroundings in which the pipelines build the file of the server. -/
def builtSetting : Setting :=
  asideSetting "a" false (.built default [])

theorem normalise_built : builtSetting.normalise ⟨"/s/a.es"⟩ = ⟨"/s/a.es"⟩ :=
  normalise_aside _ _ _

theorem fileOf_built : Event.fileOf builtSetting "/s/a.es" = ⟨"/s/a.es"⟩ := by cbv

theorem accepts_built : builtSetting.filter.accepts "/s/a.es" = true := by cbv

/-- A bridge of the two pipelines that has the text of the file, or can read it. -/
structure Reads (bridge : Bridge) : Prop where
  steady : Steady builtSetting.analyzer bridge
  plugins : bridge.plugins = linkedPlugins
  text : textOf? builtSetting ⟨"/s/a.es"⟩ bridge = some "a"

theorem reads_linkedBridge : Reads linkedBridge where
  steady := ⟨fits_linkedBridge, fun _ => Record.coherent_fresh _ _⟩
  plugins := rfl
  text := by cbv

/-- The main pipeline is served a stand-in for the file, which has no errors and is built. -/
theorem load_of_reads {bridge : Bridge} (reads : Reads bridge) :
    let readied :=
      (endOf (ready builtSetting ⟨"/s/a.es"⟩).run bridge).registry.find ⟨"/s/a.es"⟩
    (∃ served,
      resultOf (load builtSetting linkedPlugins.main "/s/a.es").run bridge = .ok (some served)) ∧
      readied.isDescriptionOnly = false ∧ ∀ found ∈ readied.diagnostics, found.isError = false := by
  intro readied
  have known : textOf? builtSetting (builtSetting.normalise ⟨"/s/a.es"⟩) bridge = some "a" := by
    rw [normalise_built]
    exact reads.text
  cases readied_of_steady reads.steady known with
  | refused message found failed => cases found
  | ready analysis readiness succeeded holds =>
      rw [normalise_built] at succeeded holds
      have stored : readied.analysed? = _ := holds.2.2
      rcases Except.ok.inj holds.1 with rfl
      refine ⟨?_, ?_, ?_⟩
      · have other : (bridge.plugins.owner ⟨"/s/a.es"⟩).id ≠ linkedPlugins.main.id := by
          rw [reads.plugins, owner_aside.2.1]
          decide
        have member : linkedPlugins.main ∈ bridge.plugins.items := by
          rw [reads.plugins]
          exact List.mem_cons_self
        rw [← fileOf_built] at other succeeded
        exact ⟨_, resultOf_load_of_other (reads.plugins ▸ bound_linkedPlugins) member other
          accepts_built succeeded⟩
      · rw [Record.isDescriptionOnly, Record.analysis?, stored]
        rfl
      · rw [Record.diagnostics, Record.analysis?, stored]
        exact List.forall_mem_nil _

/-- A bridge in which the file of the server was walked through. -/
def walkedBridge : Bridge :=
  Happening.runAll [.localDependencies builtSetting ⟨"/s/a.es"⟩] linkedBridge

/-- The walk makes the file ready and finds no imports. -/
theorem walkedBridge_eq :
    walkedBridge = endOf (importsOf builtSetting ⟨"/s/a.es"⟩) linkedBridge := by
  have imports : importsAt builtSetting linkedBridge ⟨"/s/a.es"⟩ = [] := by
    rw [importsAt, normalise_built, reads_linkedBridge.text]
    rfl
  have run :
      (localDependencies builtSetting ⟨"/s/a.es"⟩).run linkedBridge =
        ([], endOf (importsOf builtSetting ⟨"/s/a.es"⟩) linkedBridge) := by
    apply run_localDependencies_of_out reads_linkedBridge.steady
    rw [normalise_built, imports, walkOut]
  change ((localDependencies builtSetting ⟨"/s/a.es"⟩).run linkedBridge).2 = _
  rw [run]

theorem reads_walkedBridge : Reads walkedBridge := by
  have standing :
      Standing builtSetting linkedBridge
        (endOf (importsOf builtSetting ⟨"/s/a.es"⟩) linkedBridge) :=
    ((Standing.start reads_linkedBridge.steady).importsOf ⟨"/s/a.es"⟩).2
  rw [walkedBridge_eq]
  exact ⟨standing.steady, standing.plugins, (standing.text _).trans reads_linkedBridge.text⟩

theorem valid_walkedBridge : (walkedBridge.registry.find ⟨"/s/a.es"⟩).isValid = true := by
  have known :
      textOf? builtSetting (builtSetting.normalise ⟨"/s/a.es"⟩) linkedBridge = some "a" := by
    rw [normalise_built]
    exact reads_linkedBridge.text
  rw [walkedBridge_eq]
  cases readied_of_steady reads_linkedBridge.steady known with
  | refused message found failed => cases found
  | ready analysis readiness readies holds =>
      have made := valid_of_ready readies
      rw [importsOf, endOf_bind, readies]
      rw [normalise_built] at made
      exact made

theorem reached_walkedBridge : ∃ ledger, Reached (fun _ => True) walkedBridge ledger := by
  have leads : LeadsOn (fun _ => True) linkedBridge walkedBridge :=
    leads_localDependencies trivial ⟨"/s/a.es"⟩ linkedBridge
  exact leads .blank (.start linkedBridge rfl)

/-! ## Calls by the end of a load -/

/--
In every session, after a load that nobody interrupts: the auxiliary pipeline that owns the
file was called for the text there is, which has no errors and does not only declare things,
exactly when it was called for it before, or the load analysed the text, or the owner itself
serves its build of it.  Making a file ready, a walk, a listing of routes and an update
analyse files as well, and call no pipeline for a build.
-/
theorem called_after_load_iff
    {story : List Happening} {start : Bridge} (empty : start.registry = .empty)
    (setting : Setting) (plugin : Plugin) (id : String) :
    let bridge := Happening.runAll story start
    let path := Event.fileOf setting id
    let key := setting.normalise path
    let owner := bridge.plugins.owner path
    let readied := (endOf (ready setting path).run bridge).registry.find key
    let after := endOf (load setting plugin id).run bridge
    let revision := (after.registry.find key).revision
    (Fits nobody bridge → bridge.plugins.Distinct → owner.isMain = false →
      (∃ served, resultOf (load setting plugin id).run bridge = .ok (some served)) →
      readied.isDescriptionOnly = false →
      (∀ found ∈ readied.diagnostics, found.isError = false) →
        (CalledFor owner.id key revision after.journal ↔
          CalledFor owner.id key revision bridge.journal ∨
            (bridge.registry.find key).isValid = false ∨ Builder setting plugin id owner.id)) ∧
      ∀ bridge, let idle := Makes (Call.BuildsFor fun _ => False) bridge
        (∀ path, idle (endOf (ready setting path).run bridge)) ∧
          (∀ root, idle (endOf (localDependencies setting root) bridge)) ∧
          (∀ plugin file, idle (endOf (routes setting plugin file).run bridge)) ∧
          ∀ requester suffix? file text,
            idle (endOf (update setting requester suffix? file text) bridge) := by
  intro bridge path key owner readied after revision
  refine ⟨?_, ?_⟩
  · rintro quiet distinct auxiliary ⟨served, succeeded⟩ followed clean
    have among : ∀ each ∈ story, each.Among fun _ => True :=
      fun each _ => by cases each <;> trivial
    rcases reached_runAll among (.start start empty) with ⟨ledger, reached⟩
    rcases load_of_served succeeded with ⟨-, ⟨readiness, readies⟩, -⟩
    have isClean : readied.IsClean := ⟨valid_of_ready readies, clean⟩
    have same : revision = readied.revision := revision_of_load trivial reached succeeded quiet
    rw [same]
    cases valid : (bridge.registry.find key).isValid with
    | true =>
        have kept : readied.core = (bridge.registry.find key).core :=
          core_ready_of_valid valid
        have called := called_iff_of_valid trivial reached succeeded (isClean.of_core kept.symm)
        rw [(Record.fields_of_core_eq kept).2.2.1]
        exact called.trans (or_congr_right (or_iff_right (Bool.false_ne_true ·.symm)).symm)
    | false =>
        refine iff_of_true ?_ (.inr (.inl rfl))
        exact called_of_invalid trivial reached succeeded distinct auxiliary followed isClean valid
  · intro bridge idle
    exact ⟨fun path => makes_ready (fun call free => call.buildsFor_of_unhanded _ free) path bridge,
      fun root => makes_localDependencies root bridge,
      fun plugin file => makes_routes plugin file bridge,
      fun requester suffix? file text => makes_update requester suffix? file text bridge⟩

/-- The owner is called when the first load of the file analyses it. -/
theorem called_after_load_iff_first :
    let after := endOf (load builtSetting linkedPlugins.main "/s/a.es").run linkedBridge
    (∃ served, resultOf (load builtSetting linkedPlugins.main "/s/a.es").run linkedBridge =
        .ok (some served)) ∧
      CalledFor 1 ⟨"/s/a.es"⟩ (after.registry.find ⟨"/s/a.es"⟩).revision after.journal := by
  intro after
  rcases load_of_reads reads_linkedBridge with ⟨⟨served, succeeded⟩, followed, clean⟩
  refine ⟨⟨served, succeeded⟩, ?_⟩
  have called :=
    (@called_after_load_iff [] linkedBridge rfl builtSetting linkedPlugins.main "/s/a.es").1
  rw [fileOf_built, normalise_built] at called
  have told := called fits_linkedBridge distinct_linkedPlugins owner_aside.1
    ⟨served, succeeded⟩ followed clean
  exact told.2 (.inr (.inl rfl))

/--
A walk analyses the file of the server and calls no pipeline.  The main pipeline is then
served a stand-in for the file, which its owner was never asked to build.
-/
theorem walked_file_not_built :
    let after := endOf (load builtSetting linkedPlugins.main "/s/a.es").run walkedBridge
    let readied :=
      (endOf (ready builtSetting ⟨"/s/a.es"⟩).run walkedBridge).registry.find ⟨"/s/a.es"⟩
    let owner := linkedPlugins.owner ⟨"/s/a.es"⟩
    linkedBridge.registry = .empty ∧
      (∀ plugin view options,
        (builtSetting.pipeline plugin).build view options = .built default []) ∧
      owner.isMain = false ∧
      (∃ served, resultOf (load builtSetting linkedPlugins.main "/s/a.es").run walkedBridge =
        .ok (some served)) ∧
      readied.isDescriptionOnly = false ∧
      (∀ found ∈ readied.diagnostics, found.isError = false) ∧
      ¬CalledFor owner.id ⟨"/s/a.es"⟩ (after.registry.find ⟨"/s/a.es"⟩).revision
        after.journal := by
  intro after readied owner
  rcases reached_walkedBridge with ⟨ledger, reached⟩
  rcases load_of_reads reads_walkedBridge with ⟨⟨served, succeeded⟩, followed, clean⟩
  refine ⟨rfl, fun _ _ _ => rfl, owner_aside.1, ⟨served, succeeded⟩, followed, clean, ?_⟩
  -- Neither the walk nor the load of a file that is ready asks the owner for a build.
  have walks : Makes (Call.BuildsFor fun _ => False) linkedBridge walkedBridge :=
    makes_localDependencies ⟨"/s/a.es"⟩ linkedBridge
  have valid := valid_walkedBridge
  rw [← normalise_built, ← fileOf_built] at valid
  have loads := makes_load_of_valid trivial reached succeeded valid
  rcases walks with ⟨calls, journal, permitted⟩
  rcases loads with ⟨further, journalThen, permittedThen⟩
  rintro ⟨selector?, ssr?, among⟩
  rw [journalThen, journal] at among
  rcases List.mem_append.1 among with early | late
  · exact permitted _ early
  · have asking : owner.id = linkedPlugins.main.id := (permittedThen _ late).1
    cases owner_aside.2.1.symm.trans asking

end Bridge

end ModuleBridge
