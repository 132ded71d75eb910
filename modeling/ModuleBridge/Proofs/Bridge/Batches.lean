import ModuleBridge.Proofs.Bridge.Analyses
import ModuleBridge.Proofs.Bridge.Retries
import ModuleBridge.Proofs.Bridge.Twins
import ModuleBridge.Proofs.Windows

/-!
# Batches of a watch session

A batch has a file read again when it reports the file as modified, and then the new text
is given to the auxiliary pipeline that owns the file.  What a batch reports depends on
all the changes in its window: a file that was removed and created again is reported as
created, so it is not read again, whatever its text is now.
-/

namespace ModuleBridge.Bridge

open Debouncer

variable {setting : Setting} {analyzer : Analyzer} {plugins : Plugins} {bridge : Bridge}
  {key : Path} {owner : Plugin} {text : String} {change : Path × ChangeKind}

/-! ## Bridges that answer a batch -/

/-- A session with one analyzer, and nothing comes in while it answers. -/
structure Attending (analyzer : Analyzer) (plugins : Plugins) (bridge : Bridge) : Prop where
  idle : bridge.schedule = []
  plugins : bridge.plugins = plugins
  coheres : Coheres analyzer bridge
  reached : ∃ ledger, Reached (fun setting => setting.analyzer = analyzer) bridge ledger

theorem Attending.steady (attending : Attending analyzer plugins bridge) :
    Steady analyzer bridge where
  quiet := by
    rw [Fits, attending.idle]
    exact List.forall_mem_nil _
  coherent := attending.coheres

theorem Attending.orderly (attending : Attending analyzer plugins bridge) :
    Orderly plugins bridge := by
  rcases attending.reached with ⟨ledger, reached⟩
  exact attending.plugins ▸ orderly_of_reached reached

theorem Attending.answer
    (attending : Attending analyzer plugins bridge) (same : setting.analyzer = analyzer)
    (change : Path × ChangeKind) :
    Attending analyzer plugins (endOf (answer setting change) bridge) := by
  subst same
  have away :
      Keeps (Away (setting.normalise (setting.normalise change.1))) (Bridge.answer setting change) :=
    keeps_answer (fun show? => keeps_away_of_apart (apart_print show?))
      (away_rebuildChanged change.1)
  rcases away bridge attending.idle with ⟨idle, plugins, -⟩
  rcases attending.reached with ⟨ledger, reached⟩
  refine ⟨idle, plugins.trans attending.plugins, ?_, ?_⟩
  · exact (staysCoherent_parts setting).answer change bridge attending.coheres
  · let settings : Setting → Prop := fun other => other.analyzer = setting.analyzer
    have among : settings setting := rfl
    exact leads_answer among change bridge ledger reached

/-! ## Answers to one change -/

/-- A call does not give the file under a key away. -/
def Elsewhere (key : Path) (call : Call) : Prop :=
  ∀ plugin, call.handed? ≠ some (plugin, key)

/-- What is told of a rebuild is printed at most. -/
theorem printed_answerModified (path : Path) (bridge : Bridge) :
    Printed (endOf (rebuildChanged setting path).run bridge)
      (endOf (answer setting (path, .modified)) bridge) :=
  keeps_tellRebuilt printed_print path _ _

/-- The record is the same, and no file is given away under its key. -/
structure Untouched (key : Path) (before after : Bridge) : Prop where
  record : after.registry.get? key = before.registry.get? key
  calls : Makes (Elsewhere key) before after

instance (key : Path) : IsPreorder Bridge (Untouched key) where
  refl bridge := ⟨rfl, refl_of (Makes (Elsewhere key)) bridge⟩
  trans _ _ _ first second :=
    ⟨second.record.trans first.record, trans_of (Makes (Elsewhere key)) first.calls second.calls⟩

theorem Untouched.find_eq {before after : Bridge} (untouched : Untouched key before after) :
    after.registry.find key = before.registry.find key := by
  rw [Registry.find, untouched.record, Registry.find]

/-- The watcher stays with a text: nothing is built, and the text stays where it is held. -/
structure Rests (key : Path) (text : String) (before after : Bridge) : Prop where
  calls : Makes (Elsewhere key) before after
  dealt : dealt? key after = some (Digest.of text)
  held : (before.registry.find key).source? = some text →
    (after.registry.find key).source? = some text ∧
      (after.registry.find key).revision = (before.registry.find key).revision

theorem Rests.trans {before middle after : Bridge}
    (first : Rests key text before middle) (second : Rests key text middle after) :
    Rests key text before after where
  calls := trans_of (Makes (Elsewhere key)) first.calls second.calls
  dealt := second.dealt
  held source := by
    rcases first.held source with ⟨sourceBetween, revision⟩
    rcases second.held sourceBetween with ⟨sourceThen, revisionThen⟩
    exact ⟨sourceThen, revisionThen.trans revision⟩

theorem Untouched.rests {before after : Bridge} (untouched : Untouched key before after)
    (dealt : dealt? key before = some (Digest.of text)) : Rests key text before after where
  calls := untouched.calls
  dealt := by
    rw [dealt?, untouched.find_eq]
    exact dealt
  held source := by
    rw [untouched.find_eq]
    exact ⟨source, rfl⟩

/-- The text of a file can be built, and no artifact of it is there. -/
def Lacking (setting : Setting) (key : Path) (owner : Plugin) (text : String) (bridge : Bridge) :
    Prop :=
  (∃ analysis, setting.analyzer.analyse key text = .ok analysis ∧
      ∀ found ∈ analysis.diagnostics, found.isError = false) ∧
    ¬(bridge.registry.find key).Retains owner.id text

/-- A file holds a text that was read, and its owner was asked to build it, if that was lacking. -/
structure Renewed (setting : Setting) (key : Path) (owner : Plugin) (text : String)
    (before after : Bridge) : Prop where
  calls : Makes (fun _ => True) before after
  dealt : dealt? key after = some (Digest.of text)
  source : (after.registry.find key).source? = some text
  given : Made (buildCall key owner none after) before after ↔
    Lacking setting key owner text before

theorem handed_buildCall : ¬Elsewhere key (buildCall key owner none bridge) :=
  fun elsewhere => elsewhere owner.id rfl

theorem Renewed.rests {before middle after : Bridge}
    (renewed : Renewed setting key owner text before middle) (rests : Rests key text middle after) :
    Renewed setting key owner text before after := by
  rcases rests.held renewed.source with ⟨source, revision⟩
  have further : Makes (fun _ => True) middle after := rests.calls.mono fun _ _ => trivial
  refine ⟨trans_of (Makes fun _ => True) renewed.calls further, rests.dealt, source, ?_⟩
  have same : buildCall key owner none after = buildCall key owner none middle := by
    rw [buildCall, revision, buildCall]
  rw [same]
  exact (made_iff_earlier renewed.calls rests.calls handed_buildCall).trans renewed.given

theorem Untouched.renewed {before middle after : Bridge} (untouched : Untouched key before middle)
    (renewed : Renewed setting key owner text middle after) :
    Renewed setting key owner text before after := by
  have earlier : Makes (fun _ => True) before middle := untouched.calls.mono fun _ _ => trivial
  refine ⟨trans_of (Makes fun _ => True) earlier renewed.calls, renewed.dealt, renewed.source, ?_⟩
  have lacking : Lacking setting key owner text before ↔ Lacking setting key owner text middle := by
    rw [Lacking, Lacking, untouched.find_eq]
  rw [lacking]
  exact (made_iff_later untouched.calls renewed.calls handed_buildCall).trans renewed.given

theorem idle_handedBridge : handedBridge.schedule = [] := by
  let feed : Feed := ⟨⟨"/s/a.es"⟩, "b", none⟩
  rcases endOf_receive (asideSetting "a" false .nothing) feed linkedBridge with
    ⟨console, received⟩
  have ended : handedBridge = _ := received
  rw [ended]
  rfl

end ModuleBridge.Bridge
