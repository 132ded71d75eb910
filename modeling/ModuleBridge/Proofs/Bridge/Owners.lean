import ModuleBridge.Bridge.Batch
import ModuleBridge.Proofs.Bridge.Session
import ModuleBridge.Proofs.Bridge.Walks
import ModuleBridge.Proofs.Plugins

/-!
# Who is given which file

A pipeline is given a file to build, to expand or for an action.  Such a call
carries the path of the file's record, which is the normal form of the path that
the work is about; and the pipeline that is called owns the path itself.
-/

namespace ModuleBridge

/-- The pipeline that a call gives a file to, and the file. -/
def Call.handed? : Call → Option (Nat × Path)
  | .build plugin path _ _ _ => some (plugin, path)
  | .expand plugin path => some (plugin, path)
  | .hook plugin path _ _ => some (plugin, path)
  | _ => none

theorem Record.path_act (record : Record) (action : Action) :
    (record.act action).path = record.path := by
  have effect := effect_act record action
  change (record.act action).core.path = record.path
  generalize (record.act action).core = after at effect ⊢
  cases effect <;> rfl

theorem Record.path_view {record : Record} {view : View} (viewed : record.view? = some view) :
    view.path = record.path := by
  simp only [view?, Option.bind_eq_bind, Option.bind_eq_some_iff] at viewed
  rcases viewed with ⟨analysed, -, source, -, built⟩
  rcases Option.some.inj built with rfl
  rfl

namespace Bridge

variable {setting : Setting} {plugins : Plugins} {allowed : Call → Prop}

/-! ## Records under their paths -/

/-- A bridge with these pipelines, in which every record tells the path it stands under. -/
structure Orderly (plugins : Plugins) (bridge : Bridge) : Prop where
  plugins : bridge.plugins = plugins
  path : ∀ key, (bridge.registry.find key).path = key

/-- No text is ruled out. -/
def anything (_ : Feed) : Prop := True

theorem Progress.orderly
    {scheduled : Feed → Prop} {law : Path → Record → Record.Action → Prop}
    {before after : Bridge}
    (progress : Progress scheduled law before after) (orderly : Orderly plugins before) :
    Orderly plugins after where
  plugins := progress.plugins.trans orderly.plugins
  path key :=
    (progress.registry.record key).keeps
      (fun record action _ same => (record.path_act action).trans same) (orderly.path key)

theorem path_of_viewAt
    {key : Path} {view : View} {bridge : Bridge} (orderly : Orderly plugins bridge)
    (seen : resultOf (viewAt key).run bridge = .ok view) :
    view.path = key := by
  rw [resultOf, run_viewAt] at seen
  split at seen
  · rename_i other viewed
    rcases Except.ok.inj seen with rfl
    rw [Record.path_view viewed, orderly.path]
  · cases seen

/-- The bridge stays orderly, and only calls of some kind are made. -/
def Serves (plugins : Plugins) (allowed : Call → Prop) (before after : Bridge) : Prop :=
  Orderly plugins before → Orderly plugins after ∧ Makes allowed before after

instance (plugins : Plugins) (allowed : Call → Prop) :
    IsPreorder Bridge (Serves plugins allowed) where
  refl bridge orderly := ⟨orderly, refl_of (Makes allowed) bridge⟩
  trans := by
    intro before middle after first second orderly
    rcases first orderly with ⟨orderlyBetween, calls⟩
    rcases second orderlyBetween with ⟨orderlyAfter, further⟩
    exact ⟨orderlyAfter, trans_of (Makes allowed) calls further⟩

/-- Work that makes progress leaves a bridge orderly; its calls are left to be seen. -/
theorem serves_of_makes
    {α : Type} {work : Work α} {law : Path → Record → Record.Action → Prop}
    (routine : Keeps (Follows anything law) work)
    (makes : ∀ bridge, Orderly plugins bridge → Makes allowed bridge (endOf work bridge)) :
    Keeps (Serves plugins allowed) work := by
  intro bridge orderly
  exact ⟨(routine bridge fun _ _ _ _ => trivial).orderly orderly, makes bridge orderly⟩

theorem serves_of_apart
    {α : Type} {work : Work α}
    (apart : Keeps Apart work) (makes : Keeps (Makes allowed) work) :
    Keeps (Serves plugins allowed) work := by
  intro bridge orderly
  refine ⟨⟨(apart bridge).plugins.trans orderly.plugins, ?_⟩, makes bridge⟩
  rw [(apart bridge).registry]
  exact orderly.path

theorem serves_debug (part message : String) :
    Keeps (Serves plugins allowed) (debug part message) :=
  serves_of_apart (apart_debug part message) (blind_debug part message)

theorem serves_readSource (path : Path) :
    Keeps (Serves plugins allowed) (readSource setting path).run := by
  have routine :
      Keeps (Follows anything (Routine setting anything nothing))
        (readSource setting path).run := by
    intro bridge
    rw [endOf, run_readSource]
    exact routine_wait (.reading path) bridge
  have makes : Keeps (Makes allowed) (readSource setting path).run := by
    intro bridge
    rw [endOf, run_readSource]
    exact blind_wait (.reading path) bridge
  exact serves_of_makes routine fun bridge _ => makes bridge

theorem serves_observe (path : Path) (text : String) (observer : Observer) :
    Keeps (Serves plugins allowed) (observe setting path text observer) := by
  have routine :
      Keeps (Follows anything (Routine setting anything fun _ _ => True))
        (observe setting path text observer) :=
    routine_observe trivial
  exact serves_of_makes routine fun bridge _ => blind_observe path text observer bridge

/-! ## Builds -/

theorem blind_produce
    {rel : Bridge → Bridge → Prop} [Blind rel] {key : Path} {plugin : Plugin} {view : View}
    {selector? : Option String}
    (clears : Keeps rel (note (.clear plugin.id view.path)))
    (builds : ∀ ssr?,
      Keeps rel (note (.build plugin.id view.path view.revision selector? ssr?)))
    (resource : String) :
    Keeps rel (produce setting key plugin view selector? resource).run := by
  have calls : Keeps rel (callBuild setting plugin view selector?) := by
    refine keeps_bind (blind_debug _ _) ?_
    intro _
    refine keeps_bind (builds _) ?_
    intro _
    exact keeps_bind (blind_wait _) fun _ => keeps_pure _
  have stores : ∀ slot, Keeps rel (keepBuild key slot resource) := by
    intro slot
    refine keeps_bind (blind_updateRecord _) ?_
    intro stored
    exact keeps_ite (blind_debug _ _) (keeps_pure _)
  exact keeps_produce clears (keeps_buildAndKeep blind_print calls stores)

section

variable (free : ∀ call : Call, call.handed? = none → allowed call)

include free

theorem makes_ready (path : Path) : Keeps (Makes allowed) (ready setting path).run :=
  (Blind.bears (makes_note (free (.analyse _) rfl))).ready rfl

theorem makes_produce
    (key : Path) {plugin : Plugin} {view : View}
    (own : ∀ call : Call, call.handed? = some (plugin.id, view.path) → allowed call)
    (selector? : Option String) (resource : String) :
    Keeps (Makes allowed) (produce setting key plugin view selector? resource).run :=
  blind_produce (makes_note (free _ rfl)) (fun _ => makes_note (own _ rfl)) resource

/-- A build gives its pipeline the file under the normal form of the path. -/
theorem makes_build
    {path : Path} {plugin : Plugin} {bridge : Bridge}
    (own : ∀ call : Call,
      call.handed? = some (plugin.id, setting.normalise path) → allowed call)
    (orderly : Orderly plugins bridge) (selector? : Option String) (resource : String) :
    Makes allowed bridge
      (endOf (build setting path plugin selector? resource).run bridge) := by
  have readies :
      Follows anything (Routine setting anything nothing) bridge
        (endOf (ready setting path).run bridge) :=
    routine_ready path bridge
  have orderlyThen := (readies fun _ _ _ _ => trivial).orderly orderly
  refine build_of blind_print (makes_ready free path bridge) ?_
  intro view seen
  rw [← path_of_viewAt orderlyThen seen] at own
  exact makes_produce free _ own _ _

/-! ## Auxiliary builds -/

theorem makes_watchFolder (path : Path) : Keeps (Makes allowed) (watchFolder path) := by
  intro bridge
  let watches := (bridge.watches.addFolder path).1
  have added : Makes allowed bridge { bridge with watches := watches } :=
    makes_of_journal rfl
  exact trans_of (Makes allowed) added (keeps_when (makes_note (free _ rfl)) _ _)

theorem makes_watchBuilt (path : Path) : Keeps (Makes allowed) (watchBuilt path) := by
  intro bridge
  simp only [watchBuilt, endOf_bind, endOf_get, resultOf_get]
  split
  · exact makes_of_journal rfl
  · rename_i watches watched
    have added :
        Makes allowed bridge
          { bridge with builtWatches? := some (watches.addFile path).1 } :=
      makes_of_journal rfl
    exact trans_of (Makes allowed) added (keeps_when (makes_note (free _ rfl)) _ _)

/-- Behind its build, an auxiliary build gives no file away. -/
theorem makes_aside (setting : Setting) (path : Path) (plugin : Plugin) (bridge : Bridge) :
    Makes allowed (endOf (build setting path plugin none path.display).run bridge)
      (endOf (buildAside setting path plugin) bridge) := by
  rw [buildAside, endOf_bind]
  cases resultOf (build setting path plugin none path.display).run bridge with
  | error fault => exact keeps_bind (blind_log _ _) (fun _ => keeps_pure _) _
  | ok built =>
      refine keeps_bind (blind_changeRecord _) ?_ _
      intro _
      refine keeps_bind (makes_watchBuilt free path) ?_
      intro isNew
      exact keeps_when (blind_debug _ _) _

theorem serves_buildAside
    {path : Path} {plugin : Plugin}
    (own : ∀ call : Call,
      call.handed? = some (plugin.id, setting.normalise path) → allowed call) :
    Keeps (Serves plugins allowed) (buildAside setting path plugin) := by
  refine serves_of_makes (routine_buildAside watching_watcherMarks path plugin) ?_
  intro bridge orderly
  exact trans_of (Makes allowed) (makes_build free own orderly none path.display)
    (makes_aside free setting path plugin bridge)

/-- An auxiliary pipeline is given a file when it owns the path as it is written. -/
theorem serves_crossBuild
    {path : Path}
    (own : ∀ call : Call,
      call.handed? = some ((plugins.owner path).id, setting.normalise path) →
        allowed call) :
    Keeps (Serves plugins allowed) (crossBuild setting path) := by
  intro bridge orderly
  have aside :
      Keeps (Serves plugins allowed)
        ((bridge.plugins.auxiliary.filter fun plugin =>
          bridge.plugins.inScope plugin.id path).filterM (buildAside setting path)) := by
    refine keeps_filterM_of_mem ?_
    intro plugin member
    have owns : (bridge.plugins.owner path).id = plugin.id :=
      beq_iff_eq.1 (List.mem_filter.1 member).2
    rw [orderly.plugins] at owns
    rw [owns] at own
    exact serves_buildAside free own
  exact aside bridge orderly

/-! ## Changes -/

/-- What the watcher reports is given to the owner of the normal form, under its normal form. -/
theorem serves_rebuildChanged
    {path : Path}
    (own : ∀ call : Call,
      call.handed? =
          some ((plugins.owner (setting.normalise path)).id,
            setting.normalise (setting.normalise path)) →
        allowed call) :
    Keeps (Serves plugins allowed) (rebuildChanged setting path).run := by
  unfold rebuildChanged
  dsimp only
  rw [run_lift_bind]
  refine keeps_bind (keeps_record? setting (setting.normalise path)) ?_
  intro record?
  cases record? with
  | none => exact keeps_attempt_pure _
  | some record =>
      dsimp only
      split
      · exact keeps_attempt_pure _
      · refine keeps_attempt_bind (serves_readSource _) ?_
        intro text
        rw [run_lift_bind]
        refine keeps_bind (serves_observe _ text .watcher) ?_
        intro observation
        split
        · rw [run_lift_bind]
          exact keeps_bind (serves_debug _ _) fun _ => keeps_attempt_pure _
        · exact keeps_lift (serves_crossBuild free own)

/-- An update gives no pipeline a file. -/
theorem serves_update
    (requester : Nat) (suffix? : Option String) (file : Path) (text : String) :
    Keeps (Serves plugins allowed) (update setting requester suffix? file text) := by
  have routine :
      Keeps (Follows anything (Routine setting anything fun _ _ => True))
        (update setting requester suffix? file text) :=
    routine_update ⟨fun _ => trivial, fun _ => trivial⟩ trivial suffix?
  have makes : Keeps (Makes allowed) (update setting requester suffix? file text) :=
    (Blind.bears (makes_note (free (.analyse _) rfl))).update rfl requester suffix? text
  exact serves_of_makes routine fun bridge _ => makes bridge

/-! ## Loads -/

theorem makes_attends : Attends (Makes allowed) where
  prints := blind_print
  files _ := makes_watchFile (free _ rfl)
  folders := makes_watchFolder free
  contexts _ _ := makes_of_journal rfl
  styles _ := makes_note (free _ rfl)

omit free in
theorem makes_callHook
    {key : Path} {plugin : Plugin} {bridge : Bridge}
    (own : ∀ call : Call, call.handed? = some (plugin.id, key) → allowed call)
    (orderly : Orderly plugins bridge) (resource : Resource) (action : String) :
    Makes allowed bridge (endOf (callHook setting key plugin resource action).run bridge) := by
  refine attempt_bind_of (keeps_viewAt key bridge) ?_
  intro view seen
  rw [← path_of_viewAt orderly seen] at own
  exact keeps_answered (keeps_perform (makes_note (own _ rfl)) (makes_note (own _ rfl))) _

/-- A pipeline is given a file for a request only when it sees the file itself. -/
theorem makes_serve
    {path : Path} {plugin : Plugin} {bridge : Bridge}
    (own :
      plugins.sight plugin.id path = .owned →
        ∀ call : Call,
          call.handed? = some (plugin.id, setting.normalise path) → allowed call)
    (orderly : Orderly plugins bridge) (resource : Resource) :
    Makes allowed bridge
      (endOf (serve setting plugin resource path (setting.normalise path)).run bridge) := by
  rw [serve]
  rw [run_get_bind, endOf_bind, resultOf_get, endOf_get, orderly.plugins]
  cases sees : plugins.sight plugin.id path with
  | excluded owner =>
      exact keeps_bind (blind_debug _ _) (fun _ => keeps_attempt_pure _) bridge
  | aggregate owner =>
      refine keeps_bind (blind_localDependencies ?_ ?_ path) (fun _ => keeps_attempt_pure _) bridge
      · exact fun _ => makes_note (free _ rfl)
      · exact fun _ => makes_watchFile (free _ rfl)
  | owned =>
      cases actionOf? resource with
      | some action => exact makes_callHook (own sees) orderly resource action
      | none =>
          rw [loadOwned_eq]
          refine attempt_bind_of (makes_build free (own sees) orderly _ _) ?_
          intro built _
          exact (makes_attends free).serveBuilt resource path _ built _

/-- An auxiliary pipeline that owns a file is given it when the file was analysed anew. -/
theorem serves_prepare
    {path : Path}
    (own : ∀ call : Call,
      call.handed? = some ((plugins.owner path).id, setting.normalise path) →
        allowed call)
    (plugin : Plugin) :
    Keeps (Serves plugins allowed) (prepare setting plugin path).run := by
  have routine :
      Keeps (Follows anything (Routine setting anything nothing)) (ready setting path).run :=
    routine_ready path
  refine keeps_attempt_bind
    (serves_of_makes routine fun bridge _ => makes_ready free path bridge) ?_
  rintro ⟨key, readiness⟩
  have marks :
      Keeps (Serves plugins allowed)
        (changeRecord key fun record =>
          record.markSeen (.pipeline plugin.id) record.revision) := by
    have changes :
        Keeps (Follows anything fun _ _ _ => True)
          (changeRecord key fun record =>
            record.markSeen (.pipeline plugin.id) record.revision) := by
      intro bridge
      let record := bridge.registry.find key
      have seen :
          record.Evolves (fun _ _ => True)
            (record.act (.markSeen (.pipeline plugin.id) record.revision)) :=
        .single trivial
      exact follows_of_registry (.put seen)
    exact serves_of_makes changes fun bridge _ => blind_changeRecord _ bridge
  have crosses : Keeps (Serves plugins allowed) (discard (crossBuild setting path)) :=
    fun bridge => serves_crossBuild free own bridge
  rw [run_lift_bind]
  refine keeps_bind marks ?_
  intro _
  rw [run_lift_bind]
  refine keeps_bind (keeps_recordAt key) ?_
  intro record
  split
  · exact keeps_attempt_bind (keeps_lift crosses) fun _ => keeps_attempt_pure _
  · exact keeps_attempt_pure _

omit free in
theorem key_of_prepare
    {plugin : Plugin} {path key : Path} {bridge : Bridge}
    (prepared : resultOf (prepare setting plugin path).run bridge = .ok key) :
    key = setting.normalise path := by
  cases outcome : resultOf (ready setting path).run bridge with
  | error fault =>
      have failed : resultOf (prepare setting plugin path).run bridge = .error fault :=
        (attempt_of_error outcome _).1
      rw [failed] at prepared
      cases prepared
  | ok found =>
      rw [(prepare_of_ready nobody plugin watching_watcherMarks outcome).2] at prepared
      exact (Except.ok.inj prepared).symm

theorem serves_load
    {plugin : Plugin} {id : String} (member : plugin ∈ plugins.items)
    (own : ∀ call : Call,
      call.handed? =
          some ((plugins.owner (Event.fileOf setting id)).id,
            setting.normalise (Event.fileOf setting id)) →
        allowed call) :
    Keeps (Serves plugins allowed) (load setting plugin id).run := by
  intro bridge
  cases accepted : setting.filter.accepts id with
  | false =>
      rw [load_of_foreign accepted]
      exact refl_of _ bridge
  | true =>
      rw [load_of_accepted accepted]
      refine attempt_bind_of (serves_prepare free own plugin bridge) ?_
      intro key prepared
      rcases key_of_prepare prepared with rfl
      have routine :
          Keeps (Follows anything (Routine setting anything nothing))
            (serve setting plugin (Resource.parse setting.config.resolve id)
              (Event.fileOf setting id) (setting.normalise (Event.fileOf setting id))).run :=
        routine_serve plugin _ _ _
      refine keeps_attempt_bind (serves_of_makes routine ?_) (fun _ => keeps_attempt_pure _) _
      intro current orderly
      refine makes_serve free ?_ orderly _
      intro sees
      rw [Plugins.owner_of_sight member sees] at own
      exact own

end

end Bridge

end ModuleBridge
