import ModuleBridge.Proofs.Bridge.Jobs
import ModuleBridge.Proofs.Bridge.Outcomes

/-!
# Parts of operations

All that a session is asked for is put together from the same few parts: lines are
printed, calls are made, texts come in, records are marked, files are made ready and built,
and the host is asked to watch.  A relation that every part keeps is kept by every
operation, except that a load also serves what it has built for its own pipeline.
-/

namespace ModuleBridge.Bridge

variable {setting : Setting} {rel : Bridge → Bridge → Prop} [IsPreorder Bridge rel]
  {plugin : Plugin} {id : String} {bridge : Bridge} {built : Built}

/-- A relation is kept by every part of the work on a bridge. -/
structure Parts (setting : Setting) (rel : Bridge → Bridge → Prop) : Prop where
  prints : ∀ show? : Console → Console, Keeps rel (print show?)
  notes : ∀ call, Keeps rel (note call)
  opens : ∀ path, Keeps rel (openRecord setting path)
  receives : ∀ feed, Keeps rel (receive setting feed)
  reads : ∀ path, Keeps rel (readSource setting path).run
  loads : ∀ key, Keeps rel (loadSource setting key).run
  marks :
    ∀ (key : Path) (change : Record → Record),
      (∀ record, (change record).core = record.core) → Keeps rel (changeRecord key change)
  settles :
    ∀ path bound, Keeps rel (settle setting (setting.normalise path) bound .cached).run
  builds :
    ∀ key plugin selector? resource,
      Keeps rel (buildReady setting key plugin selector? resource).run
  watches : ∀ path, Keeps rel (watchFile path)
  watchesBuilt : ∀ path, Keeps rel (watchBuilt path)

namespace Parts

variable (parts : Parts setting rel)

include parts

omit [IsPreorder Bridge rel] in
theorem observes (path : Path) (text : String) (observer : Observer) :
    Keeps rel (observe setting path text observer) :=
  parts.receives ⟨path, text, some observer⟩

/-! ## Files that are made ready, and what they import -/

theorem ready (path : Path) : Keeps rel (ready setting path).run := by
  intro bridge
  let opened := endOf (openRecord setting path) bridge
  have settles := trans_of rel (parts.opens path bridge)
    (parts.settles path (bridge.schedule.length + 2) opened)
  rcases passes :
    (settle setting (setting.normalise path) (bridge.schedule.length + 2) .cached).run.run opened
    with ⟨fault | readiness, settled⟩
  · rw [endOf, passes] at settles
    rw [(ready_of_refused passes).2]
    exact settles
  · rw [endOf, passes] at settles
    rw [(ready_of_settled passes).2]
    exact trans_of rel settles (parts.marks _ _ Record.core_markWatched settled)

theorem build (path : Path) (plugin : Plugin) (selector? : Option String) (resource : String) :
    Keeps rel (build setting path plugin selector? resource).run := by
  rw [build_eq]
  exact keeps_attempt_bind (parts.ready path) fun found => parts.builds found.1 plugin _ _

theorem importsOf (path : Path) : Keeps rel (importsOf setting path) := by
  refine keeps_bind (parts.ready path) ?_
  intro outcome
  cases outcome with
  | ok found => exact keeps_bind (keeps_recordAt found.1) fun _ => keeps_pure _
  | error fault => exact keeps_bind (parts.prints _) fun _ => keeps_pure _

theorem localDependencies (root : Path) : Keeps rel (localDependencies setting root) := by
  have reaches : ∀ path, Keeps rel (reachLocal path) := by
    intro path
    refine keeps_bind (parts.watches path) ?_
    intro isNew
    exact keeps_ite (parts.prints _) (keeps_pure _)
  have visits : ∀ walk path queue, Keeps rel (visit setting walk path queue) := by
    intro walk path queue
    refine keeps_ite (keeps_pure _) ?_
    refine keeps_bind keeps_get ?_
    intro bridge
    refine keeps_ite ?_ ?_
    · exact keeps_bind (parts.importsOf _) fun _ => keeps_pure _
    · exact keeps_bind (reaches _) fun _ => keeps_pure _
  refine keeps_bind (parts.importsOf _) ?_
  intro imports
  exact keeps_walkOut visits _

/-! ## Auxiliary builds -/

theorem buildAside (path : Path) (plugin : Plugin) :
    Keeps rel (buildAside setting path plugin) := by
  refine keeps_bind (parts.build path plugin none path.display) ?_
  intro outcome
  cases outcome with
  | error fault => exact keeps_bind (parts.prints _) fun _ => keeps_pure _
  | ok built =>
      refine keeps_bind
        (parts.marks _ _ fun record => record.core_markSeen .watcher built.revision) ?_
      intro _
      refine keeps_bind (parts.watchesBuilt path) ?_
      intro isNew
      exact keeps_when (parts.prints _) _

theorem crossBuild (path : Path) : Keeps rel (crossBuild setting path) := by
  refine keeps_bind keeps_get ?_
  intro bridge
  exact keeps_bind (keeps_filterM (parts.buildAside path)) fun _ => keeps_pure _

theorem rebuildChanged (path : Path) : Keeps rel (rebuildChanged setting path).run := by
  unfold Bridge.rebuildChanged
  dsimp only
  rw [run_lift_bind]
  refine keeps_bind (keeps_record? setting (setting.normalise path)) ?_
  intro record?
  cases record? with
  | none => exact keeps_attempt_pure _
  | some record =>
      dsimp only
      split
      · exact keeps_attempt_pure _
      · refine keeps_attempt_bind (parts.reads _) ?_
        intro text
        rw [run_lift_bind]
        refine keeps_bind (parts.observes _ text .watcher) ?_
        intro observation
        split
        · rw [run_lift_bind]
          exact keeps_bind (parts.prints _) fun _ => keeps_attempt_pure _
        · exact keeps_lift (parts.crossBuild _)

theorem prepare (plugin : Plugin) (path : Path) : Keeps rel (prepare setting plugin path).run := by
  refine keeps_attempt_bind (parts.ready path) ?_
  rintro ⟨key, readiness⟩
  rw [run_lift_bind]
  refine keeps_bind
    (parts.marks _ _ fun record => record.core_markSeen (.pipeline plugin.id) record.revision) ?_
  intro _
  rw [run_lift_bind]
  refine keeps_bind (keeps_recordAt key) ?_
  intro record
  split
  · exact keeps_attempt_bind (keeps_lift (keeps_map (parts.crossBuild path) fun _ => ()))
      fun _ => keeps_attempt_pure _
  · exact keeps_attempt_pure _

/-! ## What is served -/

theorem callHook (key : Path) (plugin : Plugin) (resource : Resource) (action : String) :
    Keeps rel (callHook setting key plugin resource action).run := by
  refine keeps_attempt_bind (keeps_viewAt key) ?_
  intro view
  exact keeps_answered (keeps_perform (parts.notes _) (parts.notes _))

theorem routes (plugin : Plugin) (file : Path) : Keeps rel (routes setting plugin file).run := by
  refine keeps_ite ?_ (keeps_attempt_pure _)
  refine keeps_attempt_bind (parts.ready file) ?_
  rintro ⟨key, readiness⟩
  refine keeps_attempt_bind (keeps_viewAt key) ?_
  intro view
  rw [run_lift_bind]
  refine keeps_bind (parts.notes _) ?_
  intro _
  split
  · exact keeps_attempt_pure _
  · exact keeps_throw _

theorem resolve (plugin : Plugin) (id : String) : Keeps rel (resolve setting plugin id) := by
  refine keeps_ite ?_ (keeps_pure _)
  dsimp only
  split
  · exact keeps_pure _
  · exact keeps_bind (keeps_forM fun request => parts.notes _) fun _ => keeps_pure _

end Parts

/-! ## Loads -/

theorem serve_of_owned
    {path : Path} {resource : Resource}
    (owned : bridge.plugins.sight plugin.id path = .owned) (silent : actionOf? resource = none)
    (key : Path) :
    (serve setting plugin resource path key).run.run bridge =
      (build setting path plugin (selectorOf? resource) resource.id >>=
        serveBuilt setting resource path key).run.run bridge := by
  rw [← loadOwned_eq, serve, run_get_bind, run_bind, resultOf_get, endOf_get, owned, silent]

/-- A file that is not served by an artifact of its own is served by the parts. -/
theorem Parts.serve_of_other
    (parts : Parts setting rel) {path : Path} {resource : Resource}
    (other : ¬(bridge.plugins.sight plugin.id path = .owned ∧ actionOf? resource = none))
    (key : Path) :
    rel bridge (endOf (serve setting plugin resource path key).run bridge) := by
  rw [serve, run_get_bind, endOf_bind, resultOf_get, endOf_get]
  split
  · rw [run_lift_bind]
    exact keeps_bind (parts.prints _) (fun _ => keeps_attempt_pure _) bridge
  · rw [run_lift_bind]
    exact keeps_bind (parts.localDependencies path) (fun _ => keeps_attempt_pure _) bridge
  · rename_i owned
    split
    · exact parts.callHook key plugin resource _ bridge
    · rename_i silent
      exact absurd ⟨owned, silent⟩ other

/-- What a load builds for the pipeline that asks, where it serves the file by an artifact. -/
def ownBuilt? (setting : Setting) (plugin : Plugin) (id : String) (bridge : Bridge) :
    Option Built :=
  let resource := Resource.parse setting.config.resolve id
  let path := Event.fileOf setting id
  let prepared := endOf (prepare setting plugin path).run bridge
  if setting.filter.accepts id ∧
      (resultOf (prepare setting plugin path).run bridge).isOk ∧
      prepared.plugins.sight plugin.id path = .owned ∧ actionOf? resource = none then
    (resultOf (build setting path plugin (selectorOf? resource) resource.id).run
      prepared).toOption
  else none

/-- The bridge in which a load has built a file for the pipeline that asks. -/
def ownBuilding (setting : Setting) (plugin : Plugin) (id : String) (bridge : Bridge) : Bridge :=
  let resource := Resource.parse setting.config.resolve id
  let path := Event.fileOf setting id
  endOf (build setting path plugin (selectorOf? resource) resource.id).run
    (endOf (prepare setting plugin path).run bridge)

theorem endOf_attempt_map {α β : Type} (attempt : Attempt α) (change : α → β) (bridge : Bridge) :
    endOf (attempt >>= fun value => pure (change value)).run bridge = endOf attempt.run bridge := by
  cases outcome : resultOf attempt.run bridge with
  | error fault => exact (attempt_of_error outcome _).2
  | ok value => exact (attempt_of_ok outcome _).2

/-- A load whose file was prepared ends with what is served for the file. -/
theorem endOf_load
    {key : Path} (accepted : setting.filter.accepts id = true)
    (prepares :
      resultOf (prepare setting plugin (Event.fileOf setting id)).run bridge = .ok key) :
    endOf (load setting plugin id).run bridge =
      endOf (serve setting plugin (Resource.parse setting.config.resolve id)
        (Event.fileOf setting id) (setting.normalise (Event.fileOf setting id))).run
          (endOf (prepare setting plugin (Event.fileOf setting id)).run bridge) := by
  rcases key_of_prepare prepares with rfl
  rw [load_of_accepted accepted, (attempt_of_ok prepares _).2]
  exact endOf_attempt_map _ some _

theorem own_iff :
    let resource := Resource.parse setting.config.resolve id
    let path := Event.fileOf setting id
    let prepared := endOf (prepare setting plugin path).run bridge
    ownBuilt? setting plugin id bridge = some built ↔
      (setting.filter.accepts id ∧ (resultOf (prepare setting plugin path).run bridge).isOk ∧
        prepared.plugins.sight plugin.id path = .owned ∧ actionOf? resource = none) ∧
      resultOf (build setting path plugin (selectorOf? resource) resource.id).run prepared =
        .ok built := by
  intro resource path prepared
  unfold ownBuilt?
  extract_lets
  split
  · rename_i conditions
    rw [and_iff_right conditions]
    cases resultOf (build setting path plugin (selectorOf? resource) resource.id).run prepared with
    | error fault => exact ⟨nofun, nofun⟩
    | ok found => exact Option.some_inj.trans (Except.ok.injEq found built).symm.to_iff
  · rename_i conditions
    exact ⟨nofun, fun found => absurd found.1 conditions⟩

/-- Where a file is served by an artifact, the load ends with that. -/
theorem load_of_own (own : ownBuilt? setting plugin id bridge = some built) :
    endOf (load setting plugin id).run bridge =
      endOf (serveBuilt setting (Resource.parse setting.config.resolve id)
        (Event.fileOf setting id) (setting.normalise (Event.fileOf setting id)) built).run
          (ownBuilding setting plugin id bridge) := by
  rcases own_iff.1 own with ⟨⟨accepted, prepares, owned, silent⟩, builds⟩
  cases outcome : resultOf (prepare setting plugin (Event.fileOf setting id)).run bridge with
  | error fault =>
      rw [outcome] at prepares
      cases prepares
  | ok key =>
      rw [endOf_load accepted outcome, endOf_of_run (serve_of_owned owned silent _)]
      exact (attempt_of_ok builds _).2

namespace Parts

variable (parts : Parts setting rel)

include parts

/-- Before it serves what it built for its own pipeline, a load consists of the parts. -/
theorem ownBuilding (plugin : Plugin) (id : String) (bridge : Bridge) :
    rel bridge (ownBuilding setting plugin id bridge) :=
  trans_of rel (parts.prepare plugin _ bridge) (parts.build _ plugin _ _ _)

/-- A load that serves no artifact of its own consists of the parts. -/
theorem load_of_nothing_own (nothing : ownBuilt? setting plugin id bridge = none) :
    rel bridge (endOf (load setting plugin id).run bridge) := by
  unfold ownBuilt? at nothing
  extract_lets resource path prepared at nothing
  cases accepted : setting.filter.accepts id with
  | false =>
      rw [load_of_foreign accepted]
      exact refl_of rel bridge
  | true =>
      have prepares : rel bridge prepared := parts.prepare plugin path bridge
      cases outcome : resultOf (Bridge.prepare setting plugin path).run bridge with
      | error fault =>
          rw [load_of_accepted accepted, (attempt_of_error outcome _).2]
          exact prepares
      | ok key =>
          rw [endOf_load accepted outcome]
          refine trans_of rel prepares ?_
          by_cases owned :
            prepared.plugins.sight plugin.id path = .owned ∧ actionOf? resource = none
          · rw [if_pos ⟨accepted, by rw [outcome]; rfl, owned⟩] at nothing
            rw [endOf_of_run (serve_of_owned owned.1 owned.2 (setting.normalise path))]
            cases builds :
              resultOf (Bridge.build setting path plugin (selectorOf? resource) resource.id).run
                prepared with
            | error fault =>
                rw [(attempt_of_error builds _).2]
                exact parts.build path plugin _ _ prepared
            | ok found =>
                rw [builds] at nothing
                cases nothing
          · exact parts.serve_of_other owned _

/-- A load consists of the parts when serving what it built for its own pipeline does. -/
theorem load
    (served :
      ∀ built, ownBuilt? setting plugin id bridge = some built →
        Keeps rel
          (serveBuilt setting (Resource.parse setting.config.resolve id)
            (Event.fileOf setting id) (setting.normalise (Event.fileOf setting id)) built).run) :
    rel bridge (endOf (load setting plugin id).run bridge) := by
  cases own : ownBuilt? setting plugin id bridge with
  | none => exact parts.load_of_nothing_own own
  | some built =>
      rw [load_of_own own]
      exact trans_of rel (parts.ownBuilding plugin id bridge) (served built own _)

/-! ## Hot updates -/

theorem updateLocalFile
    (requester : Nat) (suffix? : Option String) (key file : Path) (previous? : Option Snapshot) :
    Keeps rel (updateLocalFile setting requester suffix? key file previous?) := by
  refine keeps_bind (parts.marks _ _ fun record => record.core_setWatch .dirty) ?_
  intro _
  refine keeps_bind (parts.ready file) ?_
  intro outcome
  cases outcome with
  | error fault => exact keeps_bind (parts.prints _) fun _ => keeps_pure _
  | ok found =>
      refine keeps_updateAnalysed parts.prints ?_ suffix? file previous?
      intro revision
      refine parts.marks _ _ ?_
      intro record
      rw [Record.core_markSeen, Record.core_setWatch]

theorem update (requester : Nat) (suffix? : Option String) (file : Path) (text : String) :
    Keeps rel (update setting requester suffix? file text) := by
  refine keeps_bind (parts.opens _) ?_
  intro key
  refine keeps_bind (parts.observes _ text (.pipeline requester)) ?_
  intro observation
  refine keeps_ite ?_ ?_
  · exact keeps_bind (parts.prints _) fun _ => keeps_pure _
  · refine keeps_bind keeps_get ?_
    intro current
    exact keeps_ite (keeps_updateServerFile parts.prints requester _)
      (parts.updateLocalFile requester suffix? _ _ _)

/-! ## Files that are made ready at the same time -/

end Parts

/-- What waits for the disk was started under the key of its path. -/
theorem normal_of_reading
    {key : Path} {readers paths : List Path}
    (started : .reading key ∈ resultOf (startAll setting readers paths) bridge) :
    ∃ path, setting.normalise path = key := by
  induction paths generalizing readers bridge with
  | nil => cases started
  | cons path rest inductionHypothesis =>
      rw [startAll, resultOf_bind, resultOf_bind, resultOf_pure] at started
      rcases List.mem_cons.1 started with here | later
      · simp only [startReady, resultOf_bind, resultOf_openRecord, resultOf_ite, resultOf_pure]
          at here
        split at here
        · cases here
        · split at here
          · cases here
            exact ⟨path, rfl⟩
          · cases here
      · exact inductionHypothesis later

namespace Parts

variable (parts : Parts setting rel)

include parts

theorem readyAll (paths : List Path) : Keeps rel (readyAll setting paths) := by
  have starts : ∀ readers, Keeps rel (startAll setting readers paths) := by
    induction paths with
    | nil => exact fun readers => keeps_pure _
    | cons path rest inductionHypothesis =>
        intro readers
        refine keeps_bind (keeps_bind (parts.opens path) ?_) ?_
        · intro key
          refine keeps_bind (keeps_recordAt key) ?_
          intro record
          refine keeps_ite (keeps_pure _) (keeps_ite (keeps_pure _) ?_)
          exact keeps_bind (parts.ready path) fun _ => keeps_pure _
        · intro started
          exact keeps_bind (inductionHypothesis _) fun _ => keeps_pure _
  intro bridge
  have finishes :
      ∀ started ∈ resultOf (startAll setting [] paths) bridge,
        Keeps rel (finish setting started) := by
    intro started member
    cases started with
    | done outcome => exact keeps_pure _
    | behind path => exact parts.ready path
    | reading key =>
        rcases normal_of_reading member with ⟨path, rfl⟩
        rw [finish, resume, run_get_bind]
        refine keeps_bind keeps_get ?_
        intro current
        refine keeps_attempt_bind (parts.loads _) ?_
        intro _
        refine keeps_attempt_bind (parts.settles path _) ?_
        intro readiness
        rw [run_lift_bind]
        exact keeps_bind (parts.marks _ _ Record.core_markWatched) fun _ => keeps_attempt_pure _
  exact trans_of rel (starts [] bridge) (keeps_mapM_of_mem finishes _)

/-! ## Watch sessions -/

theorem answer (change : Path × ChangeKind) : Keeps rel (answer setting change) :=
  keeps_answer parts.prints (parts.rebuildChanged change.1)

theorem dispatch (changes : List (Path × ChangeKind)) : Keeps rel (dispatch setting changes) := by
  refine keeps_bind (keeps_mapM_of_mem ?_) fun _ => keeps_pure _
  intro change _
  exact parts.answer change

theorem runSession (debouncer : Debouncer) (bursts : List Burst) :
    Keeps rel (runSession setting debouncer bursts) := by
  have attends : ∀ now debouncer notice, Keeps rel (attend setting now debouncer notice) := by
    intro now debouncer notice
    cases notice with
    | failure message => exact keeps_bind (parts.prints _) fun _ => keeps_pure _
    | event kind paths => exact keeps_bind (parts.prints _) fun _ => keeps_pure _
  induction bursts generalizing debouncer with
  | nil => exact keeps_pure _
  | cons burst rest inductionHypothesis =>
      refine keeps_bind (keeps_foldlM (attends burst.time) debouncer) ?_
      intro attended
      refine keeps_bind (keeps_bind (parts.dispatch _) fun _ => keeps_pure _) ?_
      rintro ⟨left, events⟩
      exact keeps_bind (inductionHypothesis left) fun _ => keeps_pure _

end Parts

/-! ## Blind relations -/

section

variable {rel : Bridge → Bridge → Prop} [Blind rel]

/-- A relation that sees neither the records nor any call is kept by every part. -/
theorem blind_parts
    (notes : ∀ call, Keeps rel (note call)) (watches : ∀ path, Keeps rel (watchFile path))
    (watchesBuilt : ∀ path, Keeps rel (watchBuilt path)) : Parts setting rel where
  prints := blind_print
  notes := notes
  opens path bridge := Blind.unseen bridge _ bridge.console bridge.schedule
  receives feed bridge := by
    rcases endOf_receive setting feed bridge with ⟨console, received⟩
    rw [received]
    exact Blind.unseen bridge _ console bridge.schedule
  reads path := (Blind.bears (notes (.analyse path))).readSource path
  loads key := (Blind.bears (notes (.analyse key))).loadSource
  marks _ change _ := blind_changeRecord change
  settles path bound := (Blind.bears (notes _)).settle bound .cached
  builds key plugin selector? resource bridge :=
    buildReady_of blind_print fun view _ => blind_produce (notes _) (fun _ => notes _) resource
  watches := watches
  watchesBuilt := watchesBuilt

end

end ModuleBridge.Bridge
