import ModuleBridge.Proofs.Bridge.Answers
import ModuleBridge.Proofs.Bridge.Reach
import ModuleBridge.Proofs.Bridge.TwinRuns

/-!
# Files of other pipelines

No pipeline is given a file of another one, as long as the normal forms of the paths
that jobs are about have the owners of the paths themselves.  What a pipeline is
served for a file that it does not own is a stand-in, in which nothing depends on the
text of the file.

A cross build takes its path as it is written, and so may give a file to a pipeline
that owns only another spelling of its path.
-/

namespace ModuleBridge.Bridge

variable {plugins : Plugins} {bridge : Bridge}

/--
A pipeline that is given a file owns a path that one of the jobs is about, and the
file is its normal form; so it owns the file where normal forms keep their owners.
-/
def HandsOwned (plugins : Plugins) (jobs : List Job) (call : Call) : Prop :=
  ∀ worker file, call.handed? = some (worker, file) →
    (∃ job ∈ jobs, ∃ path,
      job.Names path ∧ (plugins.owner path).id = worker ∧ file = job.setting.normalise path) ∧
    ((∀ job ∈ jobs, job.KeepsOwners plugins) → (plugins.owner file).id = worker)

theorem handsOwned_of_mem
    {jobs : List Job} {job : Job} {call : Call}
    (member : job ∈ jobs) (hands : job.Hands plugins call) :
    HandsOwned plugins jobs call := by
  intro worker file handed
  rcases hands worker file handed with ⟨path, names, owns, normal⟩
  refine ⟨⟨job, member, path, names, owns, normal⟩, ?_⟩
  intro keeps
  rw [normal, keeps job member path names, owns]

/--
What a pipeline is served for a file past its analysis: an inert module, or for a
bundled pipeline and a file of the server the local files that the walk from it finds.
-/
structure Withheld (setting : Setting) (plugin : Plugin) (id : String) (bridge : Bridge) :
    Prop where
  inert :
    ¬((bridge.plugins.owner (Event.fileOf setting id)).target = .server ∧
        plugin.target = .bundled) →
      resultOf (load setting plugin id).run bridge =
        .ok (some (.ofCode (Stub.inert (Event.fileOf setting id) plugin.name)))
  aggregate :
    (bridge.plugins.owner (Event.fileOf setting id)).target = .server →
      plugin.target = .bundled → ∀ found last,
        walkFrom? setting (Event.fileOf setting id)
            (endOf (prepare setting plugin (Event.fileOf setting id)).run bridge) =
          some (found, last) →
        resultOf (load setting plugin id).run bridge =
          .ok (some (.ofCode (Stub.aggregate found)))

theorem withheld_of_other
    {setting : Setting} {plugin : Plugin} {id : String} {found : Path × Readiness}
    (bound : bridge.plugins.Bound) (member : plugin ∈ bridge.plugins.items)
    (other : (bridge.plugins.owner (Event.fileOf setting id)).id ≠ plugin.id)
    (accepted : setting.filter.accepts id = true)
    (readied : resultOf (ready setting (Event.fileOf setting id)).run bridge = .ok found) :
    Withheld setting plugin id bridge := by
  have serves := resultOf_load_of_other bound member other accepted readied
  refine ⟨?_, ?_⟩
  · intro stands
    rw [serves, standIn, if_neg stands]
  · intro server bundled found last walks
    rw [serves, standIn, if_pos ⟨server, bundled⟩, resultOf_localDependencies, walks,
      Option.map_some, Option.getD_some]

/--
In every run of jobs, calls give files to their owners, and past its analysis a file
is withheld from the other pipelines.  When two runs that nobody interrupts differ in
no more than the text of one file, which can always be analysed and always has the
same imports in both, a pipeline is served the same in both for what it does not own.
-/
theorem files_stay_with_owners
    (bound : plugins.Bound) (orderly : Orderly plugins bridge) :
    (∀ jobs : List Job, (∀ job ∈ jobs, job.AskedBy plugins) →
      Makes (HandsOwned plugins jobs) bridge (Job.runAll jobs bridge) ∧
        ∀ setting, ∀ plugin ∈ plugins.items, ∀ id found,
          (plugins.owner (Event.fileOf setting id)).id ≠ plugin.id →
            setting.filter.accepts id = true →
              resultOf (ready setting (Event.fileOf setting id)).run (Job.runAll jobs bridge) =
                  .ok found →
                Withheld setting plugin id (Job.runAll jobs bridge)) ∧
      ∀ file analyzer left right,
        bridge.schedule = [] → Steady analyzer bridge →
          Parallel file analyzer bridge left right →
            ∀ setting disk, setting.analyzer = analyzer → setting.Besides file disk →
              SameImports file setting disk left right →
                ∀ plugin ∈ plugins.items, ∀ id,
                  (plugins.owner (Event.fileOf setting id)).id ≠ plugin.id →
                    resultOf (load (setting.onDisk disk) plugin id).run right =
                      resultOf (load setting plugin id).run left := by
  refine ⟨?_, ?_⟩
  · intro jobs asked
    rcases serves_runAll asked (fun job member call => handsOwned_of_mem member) bridge orderly
      with ⟨orderlyThen, calls⟩
    refine ⟨calls, ?_⟩
    intro setting plugin member id found other accepted readied
    rw [← orderlyThen.plugins] at bound member other
    exact withheld_of_other bound member other accepted readied
  · rintro file analyzer left right idle steady parallel setting disk rfl besides same plugin
      member id other
    rcases parallel.twins idle steady with ⟨twins, steadyLeft, steadyRight, stays⟩
    have pipelines : left.plugins = plugins := stays.trans orderly.plugins
    rw [← pipelines] at bound member other
    exact resultOf_load_twins besides steadyLeft steadyRight twins same bound member other

/-! ## A file of the server in two runs -/

/-- Surroundings of linked files where hot updates are on. -/
def hotSetting : Setting :=
  { linkedSetting [] with
    config := { Config.standard with hot := { HotSettings.standard with enabled := some true } } }

/-- The pipeline for browsers. -/
def clientPlugin : Plugin :=
  ⟨0, "client", true, .bundled, [], none, default⟩

/-- The pipeline for the server, which owns what stands below `/s/`. -/
def serverPlugin : Plugin :=
  ⟨1, "server", false, .server, [],
    some [.follow (.letter ⟨[(47, 47)]⟩)
      (.follow (.letter ⟨[(115, 115)]⟩) (.letter ⟨[(47, 47)]⟩))], default⟩

/-- The browsers' pipeline tells of a new text of the server's file, another one in each run. -/
def fedFork : Fork where
  setting := hotSetting
  disk := hotSetting.disk
  service := .hotUpdate clientPlugin ⟨"/s/a.es"⟩ "x"
  other := .hotUpdate clientPlugin ⟨"/s/a.es"⟩ "y"

theorem bound_linkedPlugins : linkedPlugins.Bound := by
  intro plugin member
  rcases List.mem_pair.1 member with rfl | rfl <;> rfl

theorem orderly_linkedBridge : Orderly linkedPlugins linkedBridge :=
  ⟨rfl, fun _ => rfl⟩

/-- Where nothing is held of a server file, a hot update has its text taken in. -/
theorem textOf?_hotUpdate
    {setting : Setting} (plugin : Plugin) {path : Path} (text : String) {bridge : Bridge}
    (takes : (setting.config.hotEnabled && setting.filter.accepts path.text) = true)
    (server : bridge.plugins.isServerScoped (setting.normalise path) = true)
    (fresh :
      bridge.registry.find (setting.normalise (setting.normalise path)) =
        .fresh (setting.normalise (setting.normalise path))) :
    textOf? setting (setting.normalise (setting.normalise path))
        (Job.run ⟨setting, .hotUpdate plugin path text⟩ bridge) =
      some text := by
  let answer := endOf (update setting plugin.id plugin.options.formationSuffix? path text) bridge
  have run : Job.run ⟨setting, .hotUpdate plugin path text⟩ bridge = answer := by
    change endOf (hotUpdate setting plugin path text) bridge = answer
    rw [hotUpdate, if_pos takes]
    rfl
  have taken :
      (answer.registry.find (setting.normalise (setting.normalise path))).source? = some text := by
    rw [(apart_update_of_server server).registry, find_observed, fresh]
    have digested : (Record.fresh (setting.normalise (setting.normalise path))).Digested := rfl
    refine Record.source?_act_of_text digested rfl ?_
    rintro held ⟨⟩
  rw [run]
  exact textOf?_of_held taken

theorem sameImports_start :
    SameImports ⟨"/s/a.es"⟩ hotSetting hotSetting.disk linkedBridge linkedBridge := by
  have text : textOf? hotSetting ⟨"/s/a.es"⟩ linkedBridge = some "a" := by cbv
  exact ⟨"a", "a", _, _, text, text, rfl, rfl, rfl⟩

/-- The texts differ now, and both have the same imports. -/
theorem sameImports_fed :
    SameImports ⟨"/s/a.es"⟩ hotSetting hotSetting.disk (fedFork.first.run linkedBridge)
      (fedFork.second.run linkedBridge) := by
  have normal : hotSetting.normalise ⟨"/s/a.es"⟩ = ⟨"/s/a.es"⟩ := by cbv
  have takes : (hotSetting.config.hotEnabled && hotSetting.filter.accepts "/s/a.es") = true := by
    cbv
  have server : linkedBridge.plugins.isServerScoped (hotSetting.normalise ⟨"/s/a.es"⟩) = true := by
    rw [normal]
    cbv
  have fed :
      ∀ text,
        textOf? hotSetting ⟨"/s/a.es"⟩
            (Job.run ⟨hotSetting, .hotUpdate clientPlugin ⟨"/s/a.es"⟩ text⟩ linkedBridge) =
          some text := by
    intro text
    have taken := textOf?_hotUpdate clientPlugin text takes server rfl
    rwa [normal, normal] at taken
  exact ⟨"x", "y", _, _, fed "x", fed "y", rfl, rfl, rfl⟩

/-- The browsers are served the same for the server's file, whichever text it has. -/
theorem files_stay_with_owners_fed :
    SameImports ⟨"/s/a.es"⟩ hotSetting hotSetting.disk (fedFork.first.run linkedBridge)
        (fedFork.second.run linkedBridge) ∧
      resultOf (load hotSetting clientPlugin "/s/a.es").run (fedFork.second.run linkedBridge) =
        resultOf (load hotSetting clientPlugin "/s/a.es").run
          (fedFork.first.run linkedBridge) := by
  have normal : hotSetting.normalise ⟨"/s/a.es"⟩ = ⟨"/s/a.es"⟩ := by cbv
  have about : fedFork.About ⟨"/s/a.es"⟩ hotSetting.analyzer :=
    ⟨rfl, ⟨fun _ => rfl, fun _ _ => rfl⟩, normal,
      .update clientPlugin "x" "y" (by rw [fedFork, normal, normal])⟩
  have parallel :
      Parallel ⟨"/s/a.es"⟩ hotSetting.analyzer linkedBridge (fedFork.first.run linkedBridge)
        (fedFork.second.run linkedBridge) :=
    .next fedFork .start about sameImports_start
  have other :
      (linkedPlugins.owner (Event.fileOf hotSetting "/s/a.es")).id ≠ clientPlugin.id := by
    have owner : (linkedPlugins.owner (Event.fileOf hotSetting "/s/a.es")).id = 1 := by cbv
    rw [owner]
    exact Nat.one_ne_zero
  refine ⟨sameImports_fed, ?_⟩
  exact (files_stay_with_owners bound_linkedPlugins orderly_linkedBridge).2 ⟨"/s/a.es"⟩
    hotSetting.analyzer _ _ rfl (steady_linkedBridge []) parallel hotSetting hotSetting.disk rfl
    about.besides sameImports_fed clientPlugin List.mem_cons_self "/s/a.es" other

/-! ## A cross build by another spelling -/

set_option maxRecDepth 10000 in
/-- The server's pipeline is given a local file by a path that starts below `/s/`. -/
theorem journal_of_detour :
    (endOf (build (linkedSetting []) ⟨"/s/../c/b.es"⟩ serverPlugin none "/s/../c/b.es").run
        linkedBridge).journal =
      [.analyse ⟨"/c/b.es"⟩, .build 1 ⟨"/c/b.es"⟩ 1 none none] := by
  cbv

/-- A cross build gives the server's pipeline a file that the browsers' pipeline owns. -/
theorem foreign_file_built :
    .build 1 ⟨"/c/b.es"⟩ 1 none none ∈
        (Job.run ⟨linkedSetting [], .crossBuild ⟨"/s/../c/b.es"⟩⟩ linkedBridge).journal ∧
      (linkedPlugins.owner ⟨"/c/b.es"⟩).id = 0 := by
  refine ⟨?_, by cbv⟩
  have owners :
      (linkedPlugins.auxiliary.filter fun plugin =>
        linkedPlugins.inScope plugin.id ⟨"/s/../c/b.es"⟩) = [serverPlugin] := by
    cbv
  have ended :
      Job.run ⟨linkedSetting [], .crossBuild ⟨"/s/../c/b.es"⟩⟩ linkedBridge =
        endOf (buildAside (linkedSetting []) ⟨"/s/../c/b.es"⟩ serverPlugin) linkedBridge := by
    change endOf (crossBuild (linkedSetting []) ⟨"/s/../c/b.es"⟩) linkedBridge = _
    change endOf
        ((linkedPlugins.auxiliary.filter fun plugin =>
          linkedPlugins.inScope plugin.id ⟨"/s/../c/b.es"⟩).filterM
            (buildAside (linkedSetting []) ⟨"/s/../c/b.es"⟩)) linkedBridge = _
    rw [owners]
    rfl
  have behind : Makes (fun _ => True) _ _ :=
    makes_aside (fun _ _ => trivial) (linkedSetting []) ⟨"/s/../c/b.es"⟩ serverPlugin linkedBridge
  rcases behind with ⟨calls, journal, -⟩
  have written : (Path.mk "/s/../c/b.es").display = "/s/../c/b.es" := by cbv
  rw [ended, journal, written, journal_of_detour]
  exact List.mem_append_left _ (List.mem_cons_of_mem _ List.mem_cons_self)

end ModuleBridge.Bridge
