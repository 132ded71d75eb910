import ModuleBridge.Proofs.Bridge.Parts
import Mathlib.Logic.Function.Basic

/-!
# Chronicles of sessions

Whatever a session is asked for, its bridge goes through moments of a few kinds: texts
come in and calls are made, the host changes pipelines or schedules texts, a record is
marked, an analysis is stored, an artifact is offered to its record, or the records are
forgotten.  The ledger of a session holds the latest analysis that was stored for each
file since the records were last forgotten.
-/

namespace ModuleBridge

/-- The latest analysis stored for each file since the records were last forgotten. -/
abbrev Ledger := Path → Option Analysis

/-- Nothing was stored. -/
def Ledger.blank : Ledger := fun _ => none

/-- An analysis was stored for a file. -/
def Ledger.enter (ledger : Ledger) (key : Path) (analysis : Analysis) : Ledger :=
  Function.update ledger key (some analysis)

namespace Bridge

/-- The bridges that a session in some settings comes to, each with the ledger of the session. -/
inductive Reached (settings : Setting → Prop) : Bridge → Ledger → Prop where
  | start (bridge : Bridge) (empty : bridge.registry = .empty) :
      Reached settings bridge .blank
  | influx {before after : Bridge} {ledger : Ledger}
      (earlier : Reached settings before ledger) (influx : Influx before after) :
      Reached settings after ledger
  | host {bridge : Bridge} {ledger : Ledger}
      (earlier : Reached settings bridge ledger)
      (plugins : Plugins) (schedule : List Interruption) :
      Reached settings { bridge with plugins := plugins, schedule := schedule } ledger
  | marked {bridge : Bridge} {ledger : Ledger}
      (earlier : Reached settings bridge ledger) (key : Path) (record : Record)
      (same : record.core = (bridge.registry.find key).core) :
      Reached settings { bridge with registry := bridge.registry.put key record } ledger
  | analysed {bridge : Bridge} {ledger : Ledger}
      (earlier : Reached settings bridge ledger)
      (setting : Setting) (path key : Path) (revision : Nat) (text : String) (analysis : Analysis)
      (among : settings setting)
      (normal : setting.normalise path = key)
      (invalid : (bridge.registry.find key).isValid = false)
      (found : setting.analyzer.analyse key text = .ok analysis)
      (accepted :
        ((bridge.registry.find key).storeAnalysis revision analysis
          (analysis.sections text)).2 = true) :
      Reached settings (withAnalysis setting key revision text analysis bridge)
        (ledger.enter key analysis)
  | built {bridge : Bridge} {ledger : Ledger}
      (earlier : Reached settings bridge ledger)
      (setting : Setting) (key : Path) (plugin : Plugin) (view : View)
      (selector? : Option String) (artifact : Artifact) (diagnostics : List Diagnostic)
      (among : settings setting)
      (viewed : (bridge.registry.find key).view? = some view)
      (answer : answerOf setting plugin view selector? = .built artifact diagnostics)
      (clean : ∀ found ∈ diagnostics, found.isError = false) :
      Reached settings
        (offered key ⟨plugin.id, view.revision, selector?, artifact⟩
          (answered setting key plugin view selector? bridge))
        ledger
  | disposed {bridge : Bridge} {ledger : Ledger}
      (earlier : Reached settings bridge ledger) :
      Reached settings (endOf dispose bridge) .blank

/-- Wherever a session has come to the one bridge, it comes to the other. -/
def LeadsOn (settings : Setting → Prop) (before after : Bridge) : Prop :=
  ∀ ledger, Reached settings before ledger → ∃ later, Reached settings after later

instance (settings : Setting → Prop) : IsPreorder Bridge (LeadsOn settings) where
  refl _ ledger reached := ⟨ledger, reached⟩
  trans _ _ _ first second ledger reached :=
    have ⟨middle, between⟩ := first ledger reached
    second middle between

variable {settings : Setting → Prop} {setting : Setting} {key : Path} {before after : Bridge}

theorem leads_of_influx (influx : Influx before after) : LeadsOn settings before after :=
  fun ledger reached => ⟨ledger, reached.influx influx⟩

theorem keeps_leads_of_influx
    {α : Type} {work : Work α} (influx : Keeps Influx work) : Keeps (LeadsOn settings) work :=
  fun bridge => leads_of_influx (influx bridge)

theorem leads_print (show? : Console → Console) : Keeps (LeadsOn settings) (print show?) :=
  keeps_leads_of_influx (influx_print show?)

/-- Marks do not touch what depends on the text of a record. -/
theorem leads_changeRecord
    {change : Record → Record} (marks : ∀ record, (change record).core = record.core) :
    Keeps (LeadsOn settings) (changeRecord key change) :=
  fun _ ledger reached => ⟨ledger, reached.marked key _ (marks _)⟩

/-! ## Making files ready -/

section

variable (among : settings setting)

include among

theorem leads_of_trace
    {path : Path} {outcome : Except Fault Readiness} (normal : setting.normalise path = key)
    (trace : Trace setting key before outcome after) :
    LeadsOn settings before after := by
  cases trace with
  | refused fault influx => exact leads_of_influx influx
  | cached influx valid => exact leads_of_influx influx
  | analysed middle revision text analysis influx invalid found accepted =>
      intro ledger reached
      exact ⟨ledger.enter key analysis,
        (reached.influx influx).analysed setting path key revision text analysis among normal
          invalid found accepted⟩

theorem leads_settle {path : Path} (normal : setting.normalise path = key) (bound : Nat) :
    Keeps (LeadsOn settings) (settle setting key bound .cached).run :=
  fun bridge => leads_of_trace among normal (trace_settle setting key bound bridge)

/-! ## Builds -/

theorem leads_of_building
    {plugin : Plugin} {selector? : Option String} {resource : String}
    {outcome : Except Fault Built}
    (building : Building setting key plugin selector? resource before outcome after) :
    LeadsOn settings before after := by
  cases building with
  | refused fault printed => exact leads_of_influx (influx_of_printed printed)
  | reused view artifact warnings viewed stored printed =>
      exact leads_of_influx (influx_of_printed printed)
  | failed view middle fault viewed printed refused =>
      refine leads_of_influx (trans_of Influx (influx_of_printed printed) ?_)
      exact trans_of Influx (influx_answered middle) (influx_of_printed refused)
  | built view middle artifact warnings further viewed printed delivered kept =>
      rcases BuildAnswer.delivered_eq_ok_iff.1 delivered with ⟨diagnostics, answer, sifts⟩
      have clean := (sifted_eq_ok_iff.1 sifts).1
      have viewedThen : (middle.registry.find key).view? = some view := by
        rcases printed with ⟨console, rfl⟩
        exact viewed
      intro ledger reached
      have reachedThen := reached.influx (influx_of_printed printed)
      have offers := reachedThen.built setting key plugin view selector? artifact diagnostics
        among viewedThen answer clean
      exact ⟨ledger, offers.influx (influx_of_printed kept)⟩

end

/-! ## Work apart from the records -/

theorem influx_of_makes
    (apart : before.Apart after) (makes : Makes (fun _ => True) before after) :
    Influx before after := by
  rcases makes with ⟨calls, journal, -⟩
  exact influx_of_apart apart ⟨calls, journal.symm⟩

theorem influx_attends : Attends Influx where
  prints := influx_print
  files path bridge :=
    influx_of_makes (apart_watchFile path bridge) (makes_watchFile trivial bridge)
  folders path bridge :=
    influx_of_makes (apart_watchFolder path bridge)
      (makes_watchFolder (fun _ _ => trivial) path bridge)
  contexts _ _ := influx_of_apart ⟨rfl, rfl, rfl⟩ List.prefix_rfl
  styles _ := influx_note _

theorem influx_observe (path : Path) (text : String) (observer : Observer) :
    Keeps Influx (observe setting path text observer) :=
  influx_receive ⟨path, text, some observer⟩

theorem influx_readSource (path : Path) : Keeps Influx (readSource setting path).run := by
  intro bridge
  rw [endOf, run_readSource]
  exact influx_wait (.reading path) bridge

/-! ## Operations -/

section

variable (among : settings setting)

include among

/-- Every part of the work leads on. -/
theorem leads_parts : Parts setting (LeadsOn settings) where
  prints := leads_print
  notes call := keeps_leads_of_influx (influx_note call)
  opens path := keeps_leads_of_influx (influx_openRecord path)
  receives feed := keeps_leads_of_influx (influx_receive feed)
  reads path := keeps_leads_of_influx (influx_readSource path)
  loads _ := keeps_leads_of_influx influx_loadSource
  marks _ _ same := leads_changeRecord same
  settles _ bound := leads_settle among rfl bound
  builds key plugin selector? resource bridge :=
    leads_of_building among (building setting key plugin selector? resource bridge).2
  watches path := keeps_leads_of_influx (influx_attends.files path)
  watchesBuilt path := keeps_leads_of_influx fun bridge =>
    influx_of_makes (apart_watchBuilt path bridge)
      (makes_watchBuilt (fun _ _ => trivial) path bridge)

theorem leads_ready (path : Path) : Keeps (LeadsOn settings) (ready setting path).run :=
  (leads_parts among).ready path

theorem leads_build (path : Path) (plugin : Plugin) (selector? : Option String)
    (resource : String) :
    Keeps (LeadsOn settings) (build setting path plugin selector? resource).run :=
  (leads_parts among).build path plugin selector? resource

theorem leads_localDependencies (root : Path) :
    Keeps (LeadsOn settings) (localDependencies setting root) :=
  (leads_parts among).localDependencies root

theorem leads_prepare (plugin : Plugin) (path : Path) :
    Keeps (LeadsOn settings) (prepare setting plugin path).run :=
  (leads_parts among).prepare plugin path

theorem leads_load (plugin : Plugin) (id : String) :
    Keeps (LeadsOn settings) (load setting plugin id).run :=
  fun _ => (leads_parts among).load fun built _ =>
    keeps_leads_of_influx (influx_attends.serveBuilt _ _ _ built)

theorem leads_answer (change : Path × ChangeKind) :
    Keeps (LeadsOn settings) (answer setting change) :=
  (leads_parts among).answer change

end

end Bridge

/-! ## Whole sessions -/

/-- Something that a session is asked for, or that happens to it. -/
inductive Happening where
  | event (asked : Event)
  | job (asked : Job)
  | feed (setting : Setting) (fed : Feed)
  | ready (setting : Setting) (path : Path)
  /-- Files are made ready at the same time. -/
  | readyAll (setting : Setting) (paths : List Path)
  | localDependencies (setting : Setting) (root : Path)
  | routes (setting : Setting) (plugin : Plugin) (file : Path)
  | resolve (setting : Setting) (plugin : Plugin) (id : String)
  /-- A file watcher delivers bursts of notices. -/
  | watch (setting : Setting) (debouncer : Debouncer) (bursts : List Bridge.Burst)
  | build (setting : Setting) (path : Path) (plugin : Plugin) (selector? : Option String)
      (resource : String)
  /-- Texts are to come in at moments of the work that follows. -/
  | schedule (interruptions : List Interruption)
  | hostConfig (ssr? : Option Bool)
  | dispose

namespace Happening

open Bridge

/-- The bridge after a happening. -/
def run (each : Happening) (bridge : Bridge) : Bridge :=
  match each with
  | .event asked => asked.run bridge
  | .job asked => asked.run bridge
  | .feed setting fed => endOf (receive setting fed) bridge
  | .ready setting path => endOf (Bridge.ready setting path).run bridge
  | .readyAll setting paths => endOf (Bridge.readyAll setting paths) bridge
  | .localDependencies setting root => endOf (Bridge.localDependencies setting root) bridge
  | .routes setting plugin file => endOf (Bridge.routes setting plugin file).run bridge
  | .resolve setting plugin id => endOf (Bridge.resolve setting plugin id) bridge
  | .watch setting debouncer bursts => endOf (runSession setting debouncer bursts) bridge
  | .build setting path plugin selector? resource =>
    endOf (Bridge.build setting path plugin selector? resource).run bridge
  | .schedule interruptions => { bridge with schedule := interruptions }
  | .hostConfig ssr? => endOf (applyHostConfig ssr?) bridge
  | .dispose => endOf Bridge.dispose bridge

/-- The bridge after happenings one after another. -/
def runAll (story : List Happening) (bridge : Bridge) : Bridge :=
  story.foldl (fun bridge each => each.run bridge) bridge

/-- The surroundings of the happening, if it has any, are some of these. -/
def Among (settings : Setting → Prop) : Happening → Prop
  | .event asked => settings asked.setting
  | .job asked => settings asked.setting
  | .feed setting _ | .ready setting _ | .readyAll setting _ | .localDependencies setting _ |
    .routes setting _ _ | .resolve setting _ _ | .watch setting _ _ | .build setting _ _ _ _ =>
    settings setting
  | .schedule _ | .hostConfig _ | .dispose => True

/-- The load that a host asks for by the happening. -/
def load? : Happening → Option (Setting × Plugin × String)
  | .event ⟨setting, .load plugin id⟩ | .job ⟨setting, .load plugin id⟩ =>
    some (setting, plugin, id)
  | .job ⟨setting, .transform plugin code id⟩ =>
    if setting.filter.accepts id && code.isEmpty then some (setting, plugin, id) else none
  | _ => none

/-- A load that a host asks for is all that happens. -/
theorem run_of_load
    {each : Happening} {setting : Setting} {plugin : Plugin} {id : String}
    (loads : each.load? = some (setting, plugin, id)) :
    (∀ bridge, each.run bridge = Bridge.endOf (Bridge.load setting plugin id).run bridge) ∧
      ∀ settings : Setting → Prop, each.Among settings → settings setting := by
  unfold load? at loads
  split at loads
  · cases loads
    exact ⟨fun _ => rfl, fun _ among => among⟩
  · cases loads
    exact ⟨fun _ => rfl, fun _ among => among⟩
  · rename_i other code id
    split at loads
    · rename_i asks
      cases loads
      refine ⟨?_, fun _ among => among⟩
      intro bridge
      change Bridge.endOf (Bridge.transform setting plugin code _).run bridge = _
      rw [Bridge.transform, if_pos asks]
    · cases loads
  · cases loads

/--
A happening keeps what the parts of operations keep, when a load does, what the host
changes, and that the records are forgotten.
-/
theorem keeps_run
    {settings : Setting → Prop} {rel : Bridge → Bridge → Prop} [IsPreorder Bridge rel]
    {each : Happening} {bridge : Bridge}
    (parts : ∀ setting, settings setting → Parts setting rel) (among : each.Among settings)
    (loads : ∀ setting plugin id, each.load? = some (setting, plugin, id) →
      settings setting → rel bridge (endOf (Bridge.load setting plugin id).run bridge))
    (hosts : ∀ plugins schedule,
      rel bridge { bridge with plugins := plugins, schedule := schedule })
    (forgets : each = .dispose → rel bridge (endOf Bridge.dispose bridge)) :
    rel bridge (each.run bridge) := by
  cases each with
  | event asked =>
      rcases asked with ⟨setting, operation⟩
      cases operation with
      | update requester suffix? file text =>
          exact (parts setting among).update requester suffix? file text bridge
      | load plugin id => exact loads setting plugin id rfl among
      | rebuild path => exact (parts setting among).rebuildChanged path bridge
      | invalidate path text => exact (parts setting among).receives ⟨path, text, none⟩ bridge
  | job asked =>
      rcases asked with ⟨setting, service⟩
      cases service with
      | load plugin id => exact loads setting plugin id rfl among
      | transform plugin code id =>
          change rel bridge
            (endOf (if (setting.filter.accepts id && code.isEmpty) = true then
              Bridge.load setting plugin id else pure none).run bridge)
          cases asks : setting.filter.accepts id && code.isEmpty with
          | false => exact refl_of rel bridge
          | true => exact loads setting plugin id (if_pos asks) among
      | hotUpdate plugin file text =>
          refine keeps_ite ?_ (keeps_pure _) bridge
          exact keeps_bind ((parts setting among).update _ _ file text) fun _ => keeps_pure _
      | crossBuild path => exact (parts setting among).crossBuild path bridge
      | rebuild path => exact (parts setting among).rebuildChanged path bridge
      | dispatch changes => exact (parts setting among).dispatch changes bridge
  | feed setting fed => exact (parts setting among).receives fed bridge
  | ready setting path => exact (parts setting among).ready path bridge
  | readyAll setting paths => exact (parts setting among).readyAll paths bridge
  | localDependencies setting root => exact (parts setting among).localDependencies root bridge
  | routes setting plugin file => exact (parts setting among).routes plugin file bridge
  | resolve setting plugin id => exact (parts setting among).resolve plugin id bridge
  | watch setting debouncer bursts => exact (parts setting among).runSession debouncer bursts bridge
  | build setting path plugin selector? resource =>
      exact (parts setting among).build path plugin selector? resource bridge
  | schedule interruptions => exact hosts bridge.plugins interruptions
  | hostConfig ssr? =>
      cases ssr? with
      | none => exact refl_of rel bridge
      | some ssr => exact hosts (bridge.plugins.adoptHostSsr ssr) bridge.schedule
  | dispose => exact forgets rfl

end Happening

namespace Bridge

variable {settings : Setting → Prop}

/-- Every happening of a session leads on. -/
theorem leads_each {each : Happening} (among : each.Among settings) (bridge : Bridge) :
    LeadsOn settings bridge (each.run bridge) := by
  refine Happening.keeps_run (fun _ among => leads_parts among) among ?_ ?_ ?_
  · intro setting plugin id _ among
    exact leads_load among plugin id bridge
  · exact fun plugins schedule ledger reached => ⟨ledger, reached.host plugins schedule⟩
  · exact fun _ _ reached => ⟨.blank, reached.disposed⟩

theorem leads_event {event : Event} (among : settings event.setting) (bridge : Bridge) :
    LeadsOn settings bridge (event.run bridge) :=
  have same : (Happening.event event).Among settings := among
  leads_each same bridge

/-- A session that starts without records comes to where its happenings lead. -/
theorem reached_runAll
    {story : List Happening} {bridge : Bridge} {ledger : Ledger}
    (among : ∀ each ∈ story, each.Among settings) (reached : Reached settings bridge ledger) :
    ∃ later, Reached settings (Happening.runAll story bridge) later := by
  induction story generalizing bridge ledger with
  | nil => exact ⟨ledger, reached⟩
  | cons each rest inductionHypothesis =>
      rcases leads_each (among each List.mem_cons_self) bridge ledger reached with ⟨middle, next⟩
      have amongRest := fun other member => among other (List.mem_cons_of_mem each member)
      exact inductionHypothesis amongRest next

end Bridge

end ModuleBridge
