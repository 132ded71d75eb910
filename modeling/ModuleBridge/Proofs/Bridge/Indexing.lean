import ModuleBridge.Proofs.Bridge.Asides
import ModuleBridge.Proofs.Disk
import ModuleBridge.Proofs.Graph

/-!
# Imports that work records

Imports are recorded where an analysis is stored, and nowhere else.  So the graph that a
rebuild leaves is the graph before it, with the imports of the one file in place of the old
ones where making the file ready took an analysis.

The disks of a session may differ, and what is normal on one of them need not be on the
next.  All the same the graph of a session is an index of what was recorded, and the files
for which imports were recorded are plain.
-/

namespace ModuleBridge

/-- The stored analysis is the one whose imports the record has. -/
theorem Record.dependencies_of_accepted
    {record : Record} {revision : Nat} {analysis : Analysis} {sections : Snapshot}
    (accepted : (record.storeAnalysis revision analysis sections).2 = true) :
    (record.storeAnalysis revision analysis sections).1.dependencies = analysis.dependencies := by
  unfold storeAnalysis at accepted ⊢
  split at accepted
  · split at accepted
    · rename_i current
      rw [if_pos current]
      rfl
    · cases accepted
  · cases accepted

theorem Record.dependencies_of_core
    {before after : Record} (same : after.core = before.core) :
    after.dependencies = before.dependencies := by
  change after.core.dependencies = before.core.dependencies
  rw [same]

namespace Graph

/-- The graph is an index of imports that are recorded for plain files. -/
structure IndexesPlain (graph : Graph) (recorded : Path → Option (List Path)) : Prop
    extends graph.Indexes recorded where
  plain : ∀ user imports, recorded user = some imports → user.IsPlain

/-- The graph in which imports that were found are recorded for a file. -/
def enter (normalise : Path → Path) (graph : Graph) (file : Path) (found? : Option (List Path)) :
    Graph :=
  match found? with
  | none => graph
  | some imports => graph.record normalise file imports

/-- What is recorded when imports that were found take the place of the old ones. -/
def noted (normalise : Path → Path) (recorded : Path → Option (List Path)) (file : Path)
    (found? : Option (List Path)) : Path → Option (List Path) :=
  match found? with
  | none => recorded
  | some imports =>
    Function.update recorded (normalise file) (some (importsOf normalise (normalise file) imports))

variable {graph : Graph} {normalise : Path → Path} {recorded : Path → Option (List Path)}
  {file other : Path} {found? others? : Option (List Path)}

theorem IndexesPlain.enter
    (indexes : graph.IndexesPlain recorded) (plain : (normalise file).IsPlain)
    (found? : Option (List Path)) :
    (graph.enter normalise file found?).IndexesPlain (noted normalise recorded file found?) := by
  cases found? with
  | none => exact indexes
  | some imports =>
      refine ⟨indexes.toIndexes.record normalise file imports, ?_⟩
      intro user known stored
      by_cases same : user = normalise file
      · rwa [same]
      · rw [noted, Function.update_of_ne same] at stored
        exact indexes.plain user known stored

/-- Imports of different files may be recorded in either order. -/
theorem noted_comm (different : normalise file ≠ normalise other) :
    noted normalise (noted normalise recorded file found?) other others? =
      noted normalise (noted normalise recorded other others?) file found? := by
  cases found? with
  | none => rfl
  | some imports =>
      cases others? with
      | none => rfl
      | some others => exact Function.update_comm different _ _ _

/-- Indexes of the same imports of plain files list the same. -/
theorem IndexesPlain.agree
    {second : Graph} (indexes : graph.IndexesPlain recorded) (same : second.IndexesPlain recorded)
    (normalise : Path → Path) (file : Path) :
    second.uses? normalise file = graph.uses? normalise file ∧
      second.usedBy normalise file = graph.usedBy normalise file := by
  refine ⟨?_, indexes.usedBy_eq same.toIndexes (Indexes.spelled_of_plain indexes.plain)⟩
  rw [uses?, uses?, same.uses, indexes.uses]

end Graph

namespace Bridge

variable {setting : Setting} {key : Path}

/-! ## The graph of a session -/

/-- Normal forms of normal forms are plain, whatever the working directory is. -/
theorem plain_normal (setting : Setting) (path : Path) :
    (setting.normalise (setting.normalise path)).IsPlain := by
  refine Disk.plain_normalise fun relative => ?_
  have absolute : (setting.normalise path).isAbsolute = true :=
    Disk.isAbsolute_normalise setting.disk path
  rw [absolute] at relative
  cases relative

/-- Wherever a session comes to, its graph is an index of imports of plain files. -/
theorem indexed_of_reached
    {settings : Setting → Prop} {bridge : Bridge} {ledger : Ledger}
    (reached : Reached settings bridge ledger) :
    ∃ recorded, bridge.registry.graph.IndexesPlain recorded := by
  have nothing : Graph.empty.IndexesPlain fun _ => none := ⟨.empty, nofun⟩
  induction reached with
  | start bridge empty =>
      rw [empty]
      exact ⟨_, nothing⟩
  | influx _ influx indexed =>
      rw [influx.graph]
      exact indexed
  | host _ plugins schedule indexed => exact indexed
  | marked _ key record same indexed => exact indexed
  | analysed _ setting path key revision text analysis among normal invalid found accepted
      indexed =>
      rcases indexed with ⟨recorded, indexes⟩
      subst normal
      exact ⟨_, indexes.enter (plain_normal setting path) (some analysis.dependencies)⟩
  | built _ setting key plugin view selector? artifact diagnostics among viewed answer clean
      indexed =>
      rcases indexed with ⟨recorded, indexes⟩
      refine ⟨recorded, ?_⟩
      rwa [← (influx_answered _).graph] at indexes
  | disposed _ _ => exact ⟨_, nothing⟩

/-! ## What making a file ready records -/

/-- The imports of an analysis that making a file ready takes. -/
def readyImports? (setting : Setting) (path : Path) (bridge : Bridge) : Option (List Path) :=
  match resultOf (ready setting path).run bridge with
  | .ok (key, .analysed) =>
    some ((endOf (ready setting path).run bridge).registry.find key).dependencies
  | _ => none

theorem graph_ready (setting : Setting) (path : Path) (bridge : Bridge) :
    (endOf (ready setting path).run bridge).registry.graph =
      bridge.registry.graph.enter setting.normalise (setting.normalise path)
        (readyImports? setting path bridge) := by
  unfold readyImports?
  have readies := readying setting path bridge
  generalize resultOf (ready setting path).run bridge = outcome at readies ⊢
  generalize endOf (ready setting path).run bridge = after at readies ⊢
  cases readies with
  | refused fault influx => exact influx.graph
  | ready readiness middle trace =>
      cases trace with
      | cached influx valid => exact influx.graph
      | analysed middle revision text analysis influx invalid found accepted =>
          let key := setting.normalise path
          let stored := withAnalysis setting key revision text analysis middle
          have known : (stored.registry.get? key).isSome :=
            Registry.isSome_put (Registry.registered_of_accepted accepted) key _
          have imports :
              ((watched key stored).registry.find key).dependencies = analysis.dependencies := by
            have marked :
                (watched key stored).registry.find key =
                  (stored.registry.find key).markWatched :=
              Registry.find_put_self known _
            have same :
                (stored.registry.find key).markWatched.dependencies =
                  (stored.registry.find key).dependencies :=
              Record.dependencies_of_core (Record.core_markWatched _)
            rw [marked, same, find_withAnalysis accepted,
              Record.dependencies_of_accepted accepted]
          dsimp only
          rw [imports, ← influx.graph]
          rfl

/-! ## Work that records nothing -/

/-- The imports that are recorded are the same. -/
def SameGraph (before after : Bridge) : Prop :=
  after.registry.graph = before.registry.graph

instance : IsPreorder Bridge SameGraph where
  refl _ := rfl
  trans _ _ _ first second := Eq.trans second first

theorem sameGraph_of_apart {before after : Bridge} (apart : before.Apart after) :
    SameGraph before after :=
  congrArg Registry.graph apart.registry

theorem sameGraph_print (show? : Console → Console) : Keeps SameGraph (print show?) :=
  fun bridge => sameGraph_of_apart (apart_print show? bridge)

theorem sameGraph_note (call : Call) : Keeps SameGraph (note call) :=
  fun bridge => sameGraph_of_apart (apart_note call bridge)

theorem sameGraph_changeRecord (change : Record → Record) :
    Keeps SameGraph (changeRecord key change) :=
  fun _ => rfl

/-- Once a file is ready, building it records nothing. -/
theorem sameGraph_buildReady
    (key : Path) (plugin : Plugin) (selector? : Option String) (resource : String) :
    Keeps SameGraph (buildReady setting key plugin selector? resource).run := by
  have calls : ∀ view, Keeps SameGraph (callBuild setting plugin view selector?) := by
    intro view
    refine keeps_bind (sameGraph_print _) ?_
    intro _
    refine keeps_bind (sameGraph_note _) ?_
    intro _
    exact keeps_bind (fun bridge => (influx_wait _ bridge).graph) fun _ => keeps_pure _
  have stores : ∀ slot, Keeps SameGraph (keepBuild key slot resource) := by
    intro slot
    refine keeps_bind (fun _ => rfl) ?_
    intro stored
    exact keeps_ite (sameGraph_print _) (keeps_pure _)
  intro bridge
  refine buildReady_of sameGraph_print ?_
  intro view _
  exact keeps_produce (sameGraph_note _) (keeps_buildAndKeep sameGraph_print (calls view) stores)

/-! ## What auxiliary builds record -/

theorem graph_buildAside (path : Path) (plugin : Plugin) (bridge : Bridge) :
    (endOf (buildAside setting path plugin) bridge).registry.graph =
      bridge.registry.graph.enter setting.normalise (setting.normalise path)
        (readyImports? setting path bridge) := by
  rw [← graph_ready]
  let readied := endOf (ready setting path).run bridge
  let built := endOf (build setting path plugin none path.display).run bridge
  have builds : SameGraph readied built := by
    dsimp only [built]
    rw [build_eq]
    cases outcome : resultOf (ready setting path).run bridge with
    | error fault =>
        rw [(attempt_of_error outcome _).2]
        exact refl_of SameGraph readied
    | ok found =>
        rw [(attempt_of_ok outcome _).2]
        exact sameGraph_buildReady found.1 plugin none path.display readied
  have follows : SameGraph built (endOf (buildAside setting path plugin) bridge) := by
    rw [buildAside, endOf_bind]
    cases resultOf (build setting path plugin none path.display).run bridge with
    | error fault => exact keeps_bind (sameGraph_print _) (fun _ => keeps_pure _) built
    | ok found =>
        refine keeps_bind (sameGraph_changeRecord _) ?_ built
        intro _
        refine keeps_bind (fun bridge => sameGraph_of_apart (apart_watchBuilt path bridge)) ?_
        intro isNew
        exact keeps_when (sameGraph_print _) _
  exact trans_of SameGraph builds follows

/-- The imports that a rebuild records: those of an analysis that it takes. -/
def rebuildImports? (setting : Setting) (path : Path) (bridge : Bridge) : Option (List Path) :=
  let file := setting.normalise path
  match taken? setting path bridge with
  | none => none
  | some text =>
    if verdict (bridge.registry.find (setting.normalise file)) text = .changed ∧
        (bridge.plugins.owner file).isMain = false then
      readyImports? setting file (reread setting file text bridge)
    else none

theorem graph_rebuildChanged
    {bridge : Bridge} (quiet : Fits nobody bridge) (distinct : bridge.plugins.Distinct)
    (setting : Setting) (path : Path) :
    (endOf (rebuildChanged setting path).run bridge).registry.graph =
      bridge.registry.graph.enter setting.normalise
        (setting.normalise (setting.normalise path)) (rebuildImports? setting path bridge) := by
  have rebuilds := rebuilding quiet setting path
  generalize resultOf (rebuildChanged setting path).run bridge = outcome at rebuilds
  generalize endOf (rebuildChanged setting path).run bridge = after at rebuilds
  cases rebuilds with
  | untaken untaken idle elapsed =>
      rw [rebuildImports?, untaken, registry_of_elapsed elapsed]
      rfl
  | unchanged text taken known printed =>
      simp only [rebuildImports?, taken, known]
      rw [registry_of_printed printed, if_neg fun told => Fed.noConfusion told.1]
      exact (influx_reread setting _ text bridge).graph
  | changed text taken told =>
      have influx := influx_reread setting (setting.normalise path) text bridge
      have distinctThen := influx.plugins.symm ▸ distinct
      rw [endOf, run_crossBuild distinctThen, influx.plugins]
      simp only [rebuildImports?, taken, told, true_and]
      cases main : (bridge.plugins.owner (setting.normalise path)).isMain with
      | true =>
          rw [if_pos rfl, if_neg Bool.noConfusion]
          exact influx.graph
      | false =>
          rw [if_neg Bool.false_ne_true, if_pos rfl]
          dsimp only
          rw [graph_buildAside, influx.graph]

end Bridge

end ModuleBridge
