import ModuleBridge.Proofs.Bridge.Answers
import ModuleBridge.Proofs.Bridge.Chronicle
import ModuleBridge.Proofs.Bridge.Reach
import ModuleBridge.Proofs.Disk
import ModuleBridge.Proofs.Graph

/-!
# Importers of server files

A hot update of a server file is answered by the modules of the local files that import it.
On a disk where normal forms are stable, the index of the graph follows the latest analyses
through every session, so these are exactly the files whose latest analysis lists the server
file, in the order of their paths.
-/

namespace ModuleBridge

/-- What a file imports by the latest analysis that was stored for it. -/
def Ledger.imports (normalise : Path → Path) (ledger : Ledger) (user : Path) :
    Option (List Path) :=
  (ledger user).map fun analysis => Graph.importsOf normalise user analysis.dependencies

theorem Ledger.imports_enter
    (normalise : Path → Path) (ledger : Ledger) (key : Path) (analysis : Analysis) :
    (ledger.enter key analysis).imports normalise =
      Function.update (ledger.imports normalise) key
        (some (Graph.importsOf normalise key analysis.dependencies)) := by
  funext user
  by_cases same : user = key
  · subst same
    rw [Function.update_self, imports, enter, Function.update_self]
    rfl
  · rw [Function.update_of_ne same, imports, enter, Function.update_of_ne same, imports]

theorem Record.isDescriptionOnly_eq_false_iff {record : Record} :
    record.isDescriptionOnly = false ↔
      ∀ analysis, record.analysis? = some analysis → analysis.descriptionOnly = false := by
  unfold isDescriptionOnly
  cases record.analysis? <;> simp

namespace Bridge

variable {disk : Disk} {setting : Setting} {requester : Nat} {bridge before : Bridge}
  {ledger : Ledger}

/-- Surroundings with a given disk. -/
def OnDisk (disk : Disk) (setting : Setting) : Prop :=
  setting.disk = disk

/-- Normal forms are stable. -/
def Stable (disk : Disk) : Prop :=
  ∀ path, disk.normalise (disk.normalise path) = disk.normalise path

/-! ## The graph of a session -/

/-- The graph is the one of the ledger, in which files stand under their normal forms. -/
structure Charted (disk : Disk) (ledger : Ledger) (bridge : Bridge) : Prop where
  graph : bridge.registry.graph.Indexes (ledger.imports disk.normalise)
  normal : ∀ user analysis, ledger user = some analysis → disk.normalise user = user

theorem charted_of_nothing {bridge : Bridge} (nothing : bridge.registry.graph = .empty) :
    Charted disk .blank bridge := by
  refine ⟨?_, nofun⟩
  rw [nothing]
  exact .empty

theorem Charted.of_graph
    (charted : Charted disk ledger before) (same : bridge.registry.graph = before.registry.graph) :
    Charted disk ledger bridge := by
  refine ⟨?_, charted.normal⟩
  rw [same]
  exact charted.graph

theorem Charted.withAnalysis
    (charted : Charted disk ledger before) (stable : Stable disk) (placed : setting.disk = disk)
    {path key : Path} (normal : setting.normalise path = key)
    (revision : Nat) (text : String) (analysis : Analysis) :
    Charted disk (ledger.enter key analysis)
      (withAnalysis setting key revision text analysis before) := by
  subst placed
  have fixed : setting.disk.normalise key = key := by
    rw [← normal]
    exact stable path
  constructor
  · have recorded := charted.graph.record setting.disk.normalise key analysis.dependencies
    rw [fixed] at recorded
    rw [Ledger.imports_enter]
    exact recorded
  · intro user latest entered
    by_cases same : user = key
    · rw [same, fixed]
    · rw [Ledger.enter, Function.update_of_ne same] at entered
      exact charted.normal user latest entered

/-- Wherever a session comes to, the graph is the one of the latest analyses. -/
theorem charted_of_reached
    (stable : Stable disk) (reached : Reached (OnDisk disk) bridge ledger) :
    Charted disk ledger bridge := by
  induction reached with
  | start bridge empty => exact charted_of_nothing (by rw [empty]; rfl)
  | influx _ influx charted => exact charted.of_graph influx.graph
  | host _ plugins schedule charted => exact charted.of_graph rfl
  | marked _ key record same charted => exact charted.of_graph rfl
  | analysed _ setting path key revision text analysis placed normal invalid found accepted
      charted => exact charted.withAnalysis stable placed normal revision text analysis
  | built _ setting key plugin view selector? artifact diagnostics among viewed answer clean
      charted => exact charted.of_graph (influx_answered _).graph
  | disposed _ _ => exact charted_of_nothing rfl

/-! ## The answer for a server file -/

theorem run_filterM
    {α : Type} {items : List α} {test : α → Work Bool} {passes : α → Bool}
    (reads : ∀ item, (test item).run bridge = (passes item, bridge)) :
    (items.filterM test).run bridge = (items.filter passes, bridge) := by
  have gathered :
      ∀ kept, (items.filterAuxM test kept).run bridge =
        ((items.filter passes).reverse ++ kept, bridge) := by
    induction items with
    | nil => exact fun kept => rfl
    | cons item rest inductionHypothesis =>
        intro kept
        rw [List.filterAuxM, run_bind, resultOf, endOf, reads, inductionHypothesis]
        cases passed : passes item <;> simp [passed]
  rw [List.filterM, run_bind, resultOf, endOf, gathered, List.append_nil]
  rw [StateT.run_pure, List.reverse_reverse]
  rfl

/-- The files whose modules are returned for a server file. -/
def importersIn (setting : Setting) (requester : Nat) (file : Path) (bridge : Bridge) :
    List Path :=
  ((bridge.registry.graph.usedBy setting.normalise file).filter fun user =>
    user != file && !bridge.plugins.isServerScoped user &&
      bridge.plugins.inScope requester user).filter fun user =>
        (bridge.registry.get? (setting.normalise user)).any fun record => !record.isDescriptionOnly

/-- The modules of a file whose identifier is its path. -/
def modulesNamed (setting : Setting) (file : Path) : List HostModule :=
  (setting.modulesOf file).filter fun found => found.id == file.text

theorem run_localImporters (file : Path) :
    (localImporters setting requester file).run bridge =
      (importersIn setting requester file bridge, bridge) :=
  run_filterM fun _ => rfl

theorem run_updateServerFile
    (setting : Setting) (requester : Nat) (file : Path) (bridge : Bridge) :
    ∃ console,
      (updateServerFile setting requester file).run bridge =
        (.updated ((importersIn setting requester file bridge).flatMap (modulesNamed setting))
            false,
          { bridge with console := console }) := by
  have dependents :
      (serverDependents setting requester file).run bridge =
        ((importersIn setting requester file bridge).flatMap (modulesNamed setting), bridge) := by
    rw [serverDependents, run_bind, resultOf, endOf, run_localImporters]
    rfl
  rw [updateServerFile, run_bind, resultOf, endOf, dependents]
  exact ⟨_, rfl⟩

/-! ## The importers by the latest analyses -/

/--
These are, in the order of their paths, the local files of a pipeline that are not known
to be mere descriptions and whose latest analysis lists a file among its imports.
-/
structure AreImporters (setting : Setting) (requester : Nat) (file : Path) (ledger : Ledger)
    (bridge : Bridge) (importers : List Path) : Prop where
  increasing : importers.Pairwise fun left right => left.order right = .lt
  exactly : ∀ user,
    user ∈ importers ↔
      user ≠ file ∧ bridge.plugins.isServerScoped user = false ∧
        (bridge.plugins.owner user).id = requester ∧
        (∃ record, bridge.registry.get? user = some record ∧
          ∀ analysis, record.analysis? = some analysis → analysis.descriptionOnly = false) ∧
        ∃ latest, ledger user = some latest ∧ file ∈ latest.dependencies.map setting.normalise

theorem mem_usedBy_of_charted
    (charted : Charted disk ledger bridge) (placed : setting.disk = disk)
    {file : Path} (normal : setting.normalise file = file) {user : Path} (other : user ≠ file) :
    user ∈ bridge.registry.graph.usedBy setting.normalise file ↔
      ∃ latest, ledger user = some latest ∧ file ∈ latest.dependencies.map setting.normalise := by
  subst placed
  rw [charted.graph.mem_usedBy_iff, normal]
  constructor
  · rintro ⟨imports, known, member⟩
    rcases Option.map_eq_some_iff.1 known with ⟨latest, stored, rfl⟩
    exact ⟨latest, stored, (Graph.mem_importsOf.1 member).1⟩
  · rintro ⟨latest, stored, member⟩
    refine ⟨_, Option.map_eq_some_iff.2 ⟨latest, stored, rfl⟩, ?_⟩
    exact Graph.mem_importsOf.2 ⟨member, Ne.symm other⟩

/-- A file whose record says no more than its text may be loaded. -/
theorem any_record_iff {user : Path} :
    ((bridge.registry.get? user).any fun record => !record.isDescriptionOnly) = true ↔
      ∃ record, bridge.registry.get? user = some record ∧
        ∀ analysis, record.analysis? = some analysis → analysis.descriptionOnly = false := by
  cases bridge.registry.get? user with
  | none => simp
  | some record => simp [Record.isDescriptionOnly_eq_false_iff]

theorem importers_of_charted
    (charted : Charted disk ledger bridge) (placed : setting.disk = disk) (requester : Nat)
    {file : Path} (normal : setting.normalise file = file) :
    AreImporters setting requester file ledger bridge
      (importersIn setting requester file bridge) := by
  have normalUser : ∀ user latest, ledger user = some latest → setting.normalise user = user := by
    subst placed
    exact charted.normal
  constructor
  · refine List.Pairwise.filter _ (List.Pairwise.filter _ ?_)
    refine charted.graph.increasing_usedBy ?_
    intro user imports known
    rcases Option.map_eq_some_iff.1 known with ⟨latest, stored, -⟩
    exact Disk.plain_of_normal (charted.normal user latest stored)
  · intro user
    simp only [importersIn, List.mem_filter, Bool.and_eq_true, bne_iff_ne, Bool.not_eq_true',
      Plugins.inScope, beq_iff_eq, any_record_iff]
    constructor
    · rintro ⟨⟨used, ⟨other, isLocal⟩, owns⟩, loadable⟩
      rcases (mem_usedBy_of_charted charted placed normal other).1 used with
        ⟨latest, stored, imported⟩
      rw [normalUser user latest stored] at loadable
      exact ⟨other, isLocal, owns, loadable, latest, stored, imported⟩
    · rintro ⟨other, isLocal, owns, loadable, latest, stored, imported⟩
      rw [← normalUser user latest stored] at loadable
      have used := (mem_usedBy_of_charted charted placed normal other).2 ⟨latest, stored, imported⟩
      exact ⟨⟨used, ⟨other, isLocal⟩, owns⟩, loadable⟩

/-- A text that comes in for a file changes neither the imports nor the other files. -/
structure Beside (file : Path) (before after : Bridge) : Prop where
  graph : after.registry.graph = before.registry.graph
  analyses : after.registry.analyses = before.registry.analyses
  journal : after.journal = before.journal
  others : ∀ other, other ≠ file → after.registry.get? other = before.registry.get? other

theorem beside_observed (requester : Nat) (path : Path) (text : String) (before : Bridge) :
    Beside (setting.normalise (setting.normalise path)) before
      (observed setting requester path text before) := by
  let feed : Feed := ⟨setting.normalise path, text, some (.pipeline requester)⟩
  let key := setting.normalise (setting.normalise path)
  rcases observed_eq setting requester path text before with ⟨console, ended⟩
  have created : (before.registry.create key).graph = before.registry.graph ∧
      (before.registry.create key).analyses = before.registry.analyses := by
    unfold Registry.create
    split <;> exact ⟨rfl, rfl⟩
  rw [ended]
  refine ⟨?_, ?_, rfl, ?_⟩
  · exact (Registry.graph_take setting _ feed).trans created.1
  · exact (analyses_takeAll [feed] _).trans created.2
  · intro other different
    let record := (before.registry.create key).find key
    have taken :=
      Registry.get?_put_of_ne different ((before.registry.create key).create key)
        (record.act feed.action)
    refine Eq.trans taken ?_
    rw [Registry.get?_create_of_ne different, Registry.get?_create_of_ne different]

/-- A text that comes in for a file changes nothing about its importers. -/
theorem AreImporters.of_beside
    {file : Path} {importers : List Path} (beside : Beside file before bridge)
    (pipelines : bridge.plugins = before.plugins)
    (importing : AreImporters setting requester file ledger bridge importers) :
    AreImporters setting requester file ledger before importers := by
  refine ⟨importing.increasing, ?_⟩
  intro user
  rw [importing.exactly user, pipelines]
  refine and_congr_right fun other => ?_
  rw [beside.others user other]

/-- What follows from a hot update of a server file that is not answered as unchanged. -/
structure Invalidates (setting : Setting) (requester : Nat) (file : Path) (ledger : Ledger)
    (before : Bridge) (answer : HotUpdate) (after : Bridge) (importers : List Path) : Prop where
  importing : AreImporters setting requester file ledger before importers
  answer : answer = .updated (importers.flatMap (modulesNamed setting)) false
  journal : after.journal = before.journal
  analyses : after.registry.analyses = before.registry.analyses

/-- Wherever a session has come to, the importers of a server file are the ones that count. -/
theorem invalidates_of_reached
    (stable : Stable disk) (reached : Reached (OnDisk disk) before ledger)
    (placed : OnDisk disk setting) {suffix? : Option String} {path : Path} {text : String}
    (server : before.plugins.isServerScoped (setting.normalise path) = true)
    (changed : resultOf (update setting requester suffix? path text) before ≠ .unchanged) :
    ∃ importers,
      Invalidates setting requester (setting.normalise path) ledger before
        (resultOf (update setting requester suffix? path text) before)
        (endOf (update setting requester suffix? path text) before) importers := by
  let file := setting.normalise path
  let taken := observed setting requester path text before
  have normal : setting.normalise file = file := by
    rcases placed with rfl
    exact stable path
  have beside : Beside file before taken := by
    have taking : Beside (setting.normalise file) before taken :=
      beside_observed requester path text before
    rwa [normal] at taking
  have importing :
      AreImporters setting requester file ledger taken
        (importersIn setting requester file taken) :=
    importers_of_charted ((charted_of_reached stable reached).of_graph beside.graph) placed
      requester normal
  have serverThen : taken.plugins.isServerScoped file = true := by rwa [plugins_observed]
  rcases run_updateServerFile setting requester file taken with ⟨console, answered⟩
  have run :
      (update setting requester suffix? path text).run before = _ :=
    run_update before
  generalize observation setting requester path text before = told at run
  rcases told with ⟨change, previous?⟩
  cases change with
  | unchanged =>
      refine absurd ?_ changed
      rw [resultOf, run]
      exact (answerTo_unchanged setting requester suffix? path previous? taken).1
  | changed =>
      rw [answerTo_changed, if_pos serverThen, answered] at run
      refine ⟨importersIn setting requester file taken, ?_⟩
      rw [resultOf, endOf, run]
      exact ⟨importing.of_beside beside (plugins_observed before), rfl, beside.journal,
        beside.analyses⟩

/--
On a disk where normal forms are stable, every session only comes to bridges that are
reached, and from each of them a hot update of a server file, unless nothing has changed,
returns the modules of its importers by the latest analyses, and calls nobody.
-/
theorem updates_reach_importers (stable : Stable disk) :
    (∀ story start,
      start.registry = .empty → (∀ each ∈ story, Happening.Among (OnDisk disk) each) →
        ∃ ledger, Reached (OnDisk disk) (Happening.runAll story start) ledger) ∧
      ∀ before ledger, Reached (OnDisk disk) before ledger →
        ∀ setting, OnDisk disk setting → ∀ requester suffix? path text,
          before.plugins.isServerScoped (setting.normalise path) = true →
            resultOf (update setting requester suffix? path text) before ≠ .unchanged →
              ∃ importers,
                Invalidates setting requester (setting.normalise path) ledger before
                  (resultOf (update setting requester suffix? path text) before)
                  (endOf (update setting requester suffix? path text) before) importers := by
  refine ⟨?_, ?_⟩
  · intro story start empty among
    exact reached_runAll among (.start start empty)
  · intro before ledger reached setting placed requester suffix? path text server changed
    exact invalidates_of_reached stable reached placed server changed

/-! ## A local file that imports a server file -/

/-- A disk without links, with a file of the server and a local one. -/
def shopDisk : Disk :=
  ⟨[(["s"], .directory), (["s", "a.es"], .file (some "a")), (["c"], .directory),
    (["c", "b.es"], .file (some "b"))], []⟩

/-- On this disk, the local file imports the one of the server by a detour. -/
def shopSetting : Setting :=
  { linkedSetting [] with
    disk := shopDisk
    analyzer :=
      { analyse := fun path _ =>
          .ok ⟨true, [], [], if path = ⟨"/c/b.es"⟩ then [⟨"/c/../s/a.es"⟩] else [], false⟩
        resolve := fun _ => none }
    modulesOf := fun file => [⟨file.text, file.text⟩] }

/-- A bridge in which the local file was made ready. -/
def shopBridge : Bridge :=
  Happening.runAll [.readyAll shopSetting [⟨"/c/b.es"⟩]] linkedBridge

theorem stable_shopDisk : Stable shopDisk := by
  refine Disk.idempotent_of_linkless (Disk.linkless_of_entries ?_) nofun
  simp [shopDisk]

theorem among_shop :
    ∀ each ∈ [Happening.readyAll shopSetting [⟨"/c/b.es"⟩]], each.Among (OnDisk shopDisk) := by
  intro each member
  rcases List.mem_singleton.1 member with rfl
  rfl

theorem reached_shopBridge : ∃ ledger, Reached (OnDisk shopDisk) shopBridge ledger :=
  reached_runAll among_shop (.start linkedBridge rfl)

theorem normalise_shop {setting : Setting} (placed : OnDisk shopDisk setting) :
    setting.normalise ⟨"/s/a.es"⟩ = ⟨"/s/a.es"⟩ := by
  rw [Setting.normalise, placed]
  cbv

set_option maxRecDepth 10000 in
/-- What is seen of the bridge in which the local file was made ready. -/
theorem seen_shopBridge :
    shopBridge.plugins = linkedPlugins ∧
      shopBridge.registry.graph =
        ⟨[(⟨"/c/b.es"⟩, [⟨"/s/a.es"⟩])], [(⟨"/s/a.es"⟩, [⟨"/c/b.es"⟩])]⟩ ∧
      ((shopBridge.registry.get? ⟨"/c/b.es"⟩).any fun record => !record.isDescriptionOnly) = true ∧
      shopBridge.registry.find ⟨"/s/a.es"⟩ = .fresh ⟨"/s/a.es"⟩ := by
  refine ⟨?_, ?_, ?_, ?_⟩
  · cbv
  · cbv
  · cbv
  · cbv

theorem server_shopBridge {setting : Setting} (placed : OnDisk shopDisk setting) :
    shopBridge.plugins.isServerScoped (setting.normalise ⟨"/s/a.es"⟩) = true := by
  rw [normalise_shop placed, seen_shopBridge.1]
  cbv

theorem changed_shopBridge
    {setting : Setting} (placed : OnDisk shopDisk setting) (suffix? : Option String) :
    resultOf (update setting 0 suffix? ⟨"/s/a.es"⟩ "z") shopBridge ≠ .unchanged := by
  have normal := normalise_shop placed
  have told : observation setting 0 ⟨"/s/a.es"⟩ "z" shopBridge = ⟨.changed, none⟩ := by
    rw [observation, normal, normal, seen_shopBridge.2.2.2]
    rfl
  have server :
      (observed setting 0 ⟨"/s/a.es"⟩ "z" shopBridge).plugins.isServerScoped
        (setting.normalise ⟨"/s/a.es"⟩) = true := by
    rw [plugins_observed, server_shopBridge placed]
  rcases run_updateServerFile setting 0 (setting.normalise ⟨"/s/a.es"⟩)
      (observed setting 0 ⟨"/s/a.es"⟩ "z" shopBridge) with ⟨console, answered⟩
  rw [resultOf, run_update, told, answerTo_changed, if_pos server, answered]
  intro same
  cases same

theorem usedBy_shop {setting : Setting} (placed : OnDisk shopDisk setting) :
    shopBridge.registry.graph.usedBy setting.normalise ⟨"/s/a.es"⟩ = [⟨"/c/b.es"⟩] := by
  rw [Graph.usedBy, normalise_shop placed, seen_shopBridge.2.1]
  cbv

/-- The local file is one of the importers. -/
theorem mem_importers_shop
    {setting : Setting} {importers : List Path}
    (reached : Reached (OnDisk shopDisk) shopBridge ledger) (placed : OnDisk shopDisk setting)
    (importing :
      AreImporters setting 0 (setting.normalise ⟨"/s/a.es"⟩) ledger shopBridge importers) :
    ⟨"/c/b.es"⟩ ∈ importers := by
  rcases seen_shopBridge with ⟨pipelines, -, loadable, -⟩
  have normal := normalise_shop placed
  rw [normal] at importing
  have isLocal : shopBridge.plugins.isServerScoped ⟨"/c/b.es"⟩ = false := by
    rw [pipelines]
    cbv
  have owned : (shopBridge.plugins.owner ⟨"/c/b.es"⟩).id = 0 := by
    rw [pipelines]
    cbv
  have used : ⟨"/c/b.es"⟩ ∈ shopBridge.registry.graph.usedBy setting.normalise ⟨"/s/a.es"⟩ := by
    rw [usedBy_shop placed]
    exact List.mem_singleton.2 rfl
  have imported :=
    (mem_usedBy_of_charted (charted_of_reached stable_shopDisk reached) placed normal
      (by decide)).1 used
  exact (importing.exactly ⟨"/c/b.es"⟩).2
    ⟨by decide, isLocal, owned, any_record_iff.1 loadable, imported⟩

theorem updates_reach_importers_shop :
    ∃ ledger importers,
      Reached (OnDisk shopDisk) shopBridge ledger ∧
        Invalidates shopSetting 0 (shopSetting.normalise ⟨"/s/a.es"⟩) ledger shopBridge
          (resultOf (update shopSetting 0 none ⟨"/s/a.es"⟩ "z") shopBridge)
          (endOf (update shopSetting 0 none ⟨"/s/a.es"⟩ "z") shopBridge) importers ∧
        ⟨"/c/b.es"⟩ ∈ importers := by
  have placed : OnDisk shopDisk shopSetting := rfl
  rcases updates_reach_importers stable_shopDisk with ⟨reaches, answers⟩
  rcases reaches _ linkedBridge rfl among_shop with ⟨ledger, reached⟩
  rcases answers shopBridge ledger reached shopSetting placed 0 none ⟨"/s/a.es"⟩ "z"
      (server_shopBridge placed) (changed_shopBridge placed none) with ⟨importers, invalidates⟩
  exact ⟨ledger, importers, reached, invalidates,
    mem_importers_shop reached placed invalidates.importing⟩

end Bridge

end ModuleBridge
