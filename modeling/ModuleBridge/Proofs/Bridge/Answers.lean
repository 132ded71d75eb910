import ModuleBridge.Proofs.Bridge.Quiet

/-!
# Answers to hot updates

What a pipeline is answered depends on the text it dealt with last, on its
baseline, which is the text whose sections it acted on last, and on the new
text.  Both texts follow from what the pipeline itself did to the file: other
pipelines, rebuilds and texts that come in from elsewhere do not move them.
-/

namespace ModuleBridge

/-- An analysis by which an update can be answered. -/
def Analysis.IsSound (analysis : Analysis) : Prop :=
  analysis.hasTree = true ∧ ∀ found ∈ analysis.diagnostics, found.severity ≠ .error

/-- The text can be analysed, and an update can be answered by its analysis. -/
def Analyzer.Accepts (analyzer : Analyzer) (key : Path) (text : String) : Prop :=
  ∃ analysis, analyzer.analyse key text = .ok analysis ∧ analysis.IsSound

namespace Record

/-- The digest and the sections that the next text is compared with, where there are any. -/
def compared? (record : Record) (observer : Observer) : Option Memory :=
  match record.memory? observer with
  | some memory => some memory
  | none => record.digest?.map fun digest => ⟨digest, record.sections?⟩

variable {record : Record} {observer : Observer} {memory : Memory}

theorem compared?_of_memory (remembered : record.memory? observer = some memory) :
    record.compared? observer = some memory := by
  rw [compared?]
  rw [remembered]

theorem observe_of_compared (compared : record.compared? observer = some memory) (text : String) :
    (record.observe observer text).2 =
      ⟨judge (some memory.digest) (Digest.of text), memory.sections?⟩ := by
  rw [observe]
  cases remembered : record.memory? observer with
  | some own =>
      rw [compared?_of_memory remembered] at compared
      cases compared
      rfl
  | none =>
      simp only [compared?, remembered, Option.map_eq_some_iff] at compared
      rcases compared with ⟨digest, known, rfl⟩
      simp only [known]

end Record

namespace Bridge

variable {setting : Setting} {requester : Nat} {suffix? : Option String} {file : Path}
  {text : String}

/-! ## Taking the text in -/

/-- The bridge in which the text of an update has come in. -/
def observed (setting : Setting) (requester : Nat) (file : Path) (text : String)
    (bridge : Bridge) : Bridge :=
  endOf (observe setting (setting.normalise file) text (.pipeline requester))
    (endOf (openRecord setting (setting.normalise file)) bridge)

theorem observed_eq
    (setting : Setting) (requester : Nat) (file : Path) (text : String) (bridge : Bridge) :
    ∃ console,
      observed setting requester file text bridge =
        { bridge with
          console := console
          registry :=
            (bridge.registry.create (setting.normalise (setting.normalise file))).take setting
              ⟨setting.normalise file, text, some (.pipeline requester)⟩ } :=
  endOf_receive setting ⟨setting.normalise file, text, some (.pipeline requester)⟩
    (endOf (openRecord setting (setting.normalise file)) bridge)

theorem find_observed (bridge : Bridge) :
    (observed setting requester file text bridge).registry.find
        (setting.normalise (setting.normalise file)) =
      (bridge.registry.find (setting.normalise (setting.normalise file))).act
        (.observe (.pipeline requester) text) := by
  rcases observed_eq setting requester file text bridge with ⟨console, ended⟩
  rw [ended]
  dsimp only
  rw [find_take, if_pos rfl, Registry.find_create]
  rfl

theorem plugins_observed (bridge : Bridge) :
    (observed setting requester file text bridge).plugins = bridge.plugins := by
  rcases observed_eq setting requester file text bridge with ⟨console, ended⟩
  rw [ended]

theorem isSome_observed (bridge : Bridge) :
    ((observed setting requester file text bridge).registry.get?
      (setting.normalise (setting.normalise file))).isSome := by
  rcases observed_eq setting requester file text bridge with ⟨console, ended⟩
  rw [ended]
  exact Registry.isSome_put (Registry.isSome_create_self _ _) _ _

theorem steady_observed
    {bridge : Bridge} (steady : Steady setting.analyzer bridge)
    (requester : Nat) (file : Path) (text : String) :
    Steady setting.analyzer (observed setting requester file text bridge) := by
  let observes : Path → Record.Action → Prop :=
    fun _ action => action = .observe (.pipeline requester) text
  have innocent : Innocent observes := by
    rintro _ _ rfl record origin
    trivial
  have follows :
      Follows nobody (Routine setting nobody observes) bridge
        (observed setting requester file text bridge) :=
    trans_of _ (follows_openRecord setting (setting.normalise file) bridge)
      (routine_observe rfl _)
  exact (follows steady.quiet).steady innocent steady

/-- What the pipeline is told about the text. -/
def observation (setting : Setting) (requester : Nat) (file : Path) (text : String)
    (bridge : Bridge) : Observation :=
  ((bridge.registry.find (setting.normalise (setting.normalise file))).observe
    (.pipeline requester) text).2

theorem resultOf_observe (bridge : Bridge) :
    resultOf (observe setting (setting.normalise file) text (.pipeline requester))
        (endOf (openRecord setting (setting.normalise file)) bridge) =
      observation setting requester file text bridge := by
  simp only [observe, resultOf_bind, resultOf_openRecord, endOf_openRecord,
    resultOf_updateRecord, Registry.find_create]
  split <;> rfl

/-- The update after the text has come in. -/
def answerTo (setting : Setting) (requester : Nat) (suffix? : Option String) (file : Path)
    (observation : Observation) : Work HotUpdate := do
  if observation.change = .unchanged then
    print fun console => console.unchanged (setting.normalise file).display
    return .unchanged
  if (← get).plugins.isServerScoped (setting.normalise file) then
    updateServerFile setting requester (setting.normalise file)
  else
    updateLocalFile setting requester suffix?
      (setting.normalise (setting.normalise file)) (setting.normalise file)
      observation.previous?

theorem run_update (bridge : Bridge) :
    (update setting requester suffix? file text).run bridge =
      (answerTo setting requester suffix? file
        (observation setting requester file text bridge)).run
          (observed setting requester file text bridge) := by
  rw [update, ← resultOf_observe, observed, run_bind, run_bind, resultOf_openRecord]
  rfl

theorem answerTo_unchanged
    (setting : Setting) (requester : Nat) (suffix? : Option String) (file : Path)
    (previous? : Option Snapshot) (bridge : Bridge) :
    resultOf (answerTo setting requester suffix? file ⟨.unchanged, previous?⟩) bridge =
        .unchanged ∧
      bridge.Apart
        (endOf (answerTo setting requester suffix? file ⟨.unchanged, previous?⟩) bridge) :=
  ⟨rfl, apart_print (fun console => console.unchanged (setting.normalise file).display)
    bridge⟩

theorem answerTo_changed
    (previous? : Option Snapshot) (bridge : Bridge) :
    (answerTo setting requester suffix? file ⟨.changed, previous?⟩).run bridge =
      if bridge.plugins.isServerScoped (setting.normalise file) then
        (updateServerFile setting requester (setting.normalise file)).run bridge
      else
        (updateLocalFile setting requester suffix?
          (setting.normalise (setting.normalise file)) (setting.normalise file)
          previous?).run bridge := by
  rw [answerTo]
  dsimp only
  rw [if_neg nofun]
  change (ite _ _ _ : Work HotUpdate).run bridge = _
  split <;> rfl

/-- An update of a server file leaves the records in which its text has come in. -/
theorem apart_update_of_server
    {bridge : Bridge}
    (server : bridge.plugins.isServerScoped (setting.normalise file) = true) :
    (observed setting requester file text bridge).Apart
      (endOf (update setting requester suffix? file text) bridge) := by
  rw [endOf_of_run (run_update bridge)]
  rcases observation setting requester file text bridge with ⟨change, previous?⟩
  cases change with
  | unchanged => exact (answerTo_unchanged setting requester suffix? file previous? _).2
  | changed =>
      have run :
          (answerTo setting requester suffix? file ⟨.changed, previous?⟩).run
              (observed setting requester file text bridge) = _ :=
        answerTo_changed previous? _
      rw [plugins_observed, if_pos server] at run
      rw [endOf_of_run run]
      exact apart_updateServerFile requester (setting.normalise file) _

/-! ## Answering by an analysis -/

/-- The modules that are to be loaded again when sections differ. -/
def invalidated (setting : Setting) (suffix? : Option String) (file : Path)
    (change : SectionChange) : List HostModule :=
  (setting.modulesOf (moduleKey suffix? file)).filter fun found =>
    change.invalidates (ModuleTag.ofUrl found.url)

theorem not_refuses_iff (analysis : Analysis) :
    ((Findings.ofList analysis.diagnostics).hasErrors || !analysis.hasTree) = false ↔
      analysis.IsSound := by
  rw [Findings.hasErrors_ofList, Bool.or_eq_false_iff, Bool.not_eq_false']
  constructor
  · rintro ⟨clean, tree⟩
    refine ⟨tree, ?_⟩
    intro found member grave
    have error : found.isError = true := by
      rw [Diagnostic.isError, grave]
      rfl
    have any := List.any_eq_true.2 ⟨found, member, error⟩
    rw [clean] at any
    cases any
  · rintro ⟨tree, clean⟩
    refine ⟨?_, tree⟩
    rw [List.any_eq_false]
    intro found member error
    exact clean found member (beq_iff_eq.1 error)

theorem view_of_holds
    {analyzer : Analyzer} {key : Path} {record : Record} {analysis : Analysis}
    (holds : Holds analyzer key record text analysis) :
    record.view? =
      some ⟨record.path, record.revision, text, analysis, analysis.sections text⟩ := by
  rcases holds with ⟨-, source, analysed⟩
  simp [Record.view?, source, analysed]

/-- What a pipeline remembers of a text that is analysed is the text and its sections. -/
theorem memory?_of_holds
    {analyzer : Analyzer} {key : Path} {record : Record} {analysis : Analysis}
    (coherent : record.Coherent (analyzer.findings key))
    (holds : Holds analyzer key record text analysis) (observer : Observer) :
    (record.markSeen observer record.revision).memory? observer =
      some ⟨Digest.of text, some (analysis.sections text)⟩ := by
  rcases holds with ⟨-, source, analysed⟩
  have digest : record.digest? = some (Digest.of text) := by
    rw [coherent.digest, source]
    rfl
  simp [Record.markSeen, digest, Record.sections?, analysed]

theorem updateAnalysed_of_unsound
    (requester : Nat) (suffix? : Option String) (file : Path)
    {key : Path} {bridge : Bridge} {analysis : Analysis}
    (holds : Holds setting.analyzer key (bridge.registry.find key) text analysis)
    (unsound : ¬analysis.IsSound) (previous? : Option Snapshot) :
    resultOf (updateAnalysed setting requester suffix? key file previous?) bridge =
        .failed analysis.diagnostics ∧
      bridge.Apart
        (endOf (updateAnalysed setting requester suffix? key file previous?) bridge) := by
  have refuses :
      ((Findings.ofList analysis.diagnostics).hasErrors || !analysis.hasTree) = true := by
    rwa [← not_refuses_iff, Bool.not_eq_false] at unsound
  rw [updateAnalysed]
  rw [resultOf_bind, endOf_bind, resultOf_recordAt, endOf_recordAt, view_of_holds holds]
  dsimp only
  rw [if_pos refuses]
  exact ⟨rfl, apart_refusal file _ _ bridge⟩

/-- The answer by sections does not depend on the bridge. -/
theorem resultOf_updateSections
    (key : Path) (previous? : Option Snapshot) (view : View) (bridge : Bridge) :
    resultOf (updateSections setting requester suffix? key file previous? view) bridge =
      .updated
        (invalidated setting suffix? file (.between previous? view.sections))
        (SectionChange.between previous? view.sections).renderOnly := rfl

theorem find_updateSections
    {key : Path} {bridge : Bridge} (registered : (bridge.registry.get? key).isSome)
    (previous? : Option Snapshot) (view : View) :
    (endOf (updateSections setting requester suffix? key file previous? view)
        bridge).registry.find key =
      ((bridge.registry.find key).setWatch .clean).markSeen (.pipeline requester)
        view.revision :=
  Registry.find_put_self registered _

theorem updateAnalysed_of_sound
    (requester : Nat) (suffix? : Option String) (file : Path)
    {key : Path} {bridge : Bridge} {analysis : Analysis}
    (registered : (bridge.registry.get? key).isSome)
    (coherent : (bridge.registry.find key).Coherent (setting.analyzer.findings key))
    (holds : Holds setting.analyzer key (bridge.registry.find key) text analysis)
    (sound : analysis.IsSound) (previous? : Option Snapshot) :
    resultOf (updateAnalysed setting requester suffix? key file previous?) bridge =
        .updated
          (invalidated setting suffix? file (.between previous? (analysis.sections text)))
          (SectionChange.between previous? (analysis.sections text)).renderOnly ∧
      ((endOf (updateAnalysed setting requester suffix? key file previous?)
          bridge).registry.find key).memory? (.pipeline requester) =
        some ⟨Digest.of text, some (analysis.sections text)⟩ := by
  have accepts :
      ((Findings.ofList analysis.diagnostics).hasErrors || !analysis.hasTree) = false :=
    (not_refuses_iff analysis).2 sound
  let record := bridge.registry.find key
  let view : View :=
    ⟨record.path, record.revision, text, analysis, analysis.sections text⟩
  let warned := endOf
    ((Findings.ofList analysis.diagnostics).warningMessages.forM fun message =>
      print fun console => console.warning message) bridge
  have warns : bridge.Apart warned := keeps_forM (fun message => apart_print _) bridge
  have sameRecord : warned.registry.find key = record := by
    rw [warns.registry]
  rw [updateAnalysed]
  rw [resultOf_bind, endOf_bind, resultOf_recordAt, endOf_recordAt, view_of_holds holds]
  dsimp only
  rw [if_neg (by rw [accepts]; exact Bool.false_ne_true)]
  refine ⟨resultOf_updateSections key previous? view warned, ?_⟩
  have known : (warned.registry.get? key).isSome := by
    rwa [warns.registry]
  have timely :
      record.Timely (setting.analyzer.findings key) (.setWatch .clean) := trivial
  have coherentClean : (record.setWatch .clean).Coherent (setting.analyzer.findings key) :=
    coherent.act timely
  change
    ((endOf (updateSections setting requester suffix? key file previous? view)
      warned).registry.find key).memory? (.pipeline requester) = _
  rw [find_updateSections known, sameRecord]
  exact memory?_of_holds coherentClean (holds.of_core (Record.core_setWatch record .clean)) _

/-! ## Answering for a local file -/

/-- How an update of a local file is answered, and what the pipeline remembers of it. -/
inductive LocalAnswer
    (setting : Setting) (requester : Nat) (suffix? : Option String) (file : Path)
    (text : String) (previous? : Option Snapshot) (memory : Memory)
    (answer : HotUpdate) (after? : Option Memory) : Prop where
  | failed (diagnostics : List Diagnostic)
      (unsound : ¬setting.analyzer.Accepts (setting.normalise file) text)
      (answered : answer = .failed diagnostics)
      (remembered : after? = some memory)
  | updated (analysis : Analysis)
      (found : setting.analyzer.analyse (setting.normalise file) text = .ok analysis)
      (sound : analysis.IsSound)
      (answered :
        answer =
          .updated
            (invalidated setting suffix? file (.between previous? (analysis.sections text)))
            (SectionChange.between previous? (analysis.sections text)).renderOnly)
      (remembered :
        after? = some ⟨Digest.of text, some (analysis.sections text)⟩)

/-- A mark on a file unsettles nothing. -/
theorem steady_changeWatch
    {bridge : Bridge} (key : Path) (state : WatchState)
    (steady : Steady setting.analyzer bridge) :
    Steady setting.analyzer
      (endOf (changeRecord key fun record => record.setWatch state) bridge) := by
  let marks : Path → Record.Action → Prop := fun _ action => action = .setWatch state
  have permitted : ∀ record, Routine setting nobody marks key record (.setWatch state) :=
    fun _ => .asked _ rfl
  have innocent : Innocent marks := by
    rintro _ _ rfl record origin
    trivial
  exact (follows_change permitted bridge steady.quiet).steady innocent steady

theorem localAnswer
    (requester : Nat) (suffix? : Option String) {file : Path} {text : String}
    {bridge : Bridge} {memory : Memory}
    (steady : Steady setting.analyzer bridge)
    (registered : (bridge.registry.get? (setting.normalise file)).isSome)
    (held : (bridge.registry.find (setting.normalise file)).source? = some text)
    (remembered :
      (bridge.registry.find (setting.normalise file)).memory? (.pipeline requester) =
        some memory)
    (previous? : Option Snapshot) :
    LocalAnswer setting requester suffix? file text previous? memory
      (resultOf
        (updateLocalFile setting requester suffix? (setting.normalise file) file previous?)
        bridge)
      (((endOf
        (updateLocalFile setting requester suffix? (setting.normalise file) file previous?)
        bridge).registry.find (setting.normalise file)).memory? (.pipeline requester)) := by
  let key := setting.normalise file
  let dirty := endOf (changeRecord key fun record => record.setWatch .dirty) bridge
  let readied := endOf (ready setting file).run dirty
  have dirtyRecord :
      dirty.registry.find key = (bridge.registry.find key).setWatch .dirty :=
    Registry.find_put_self registered _
  have dirtySteady : Steady setting.analyzer dirty := steady_changeWatch key .dirty steady
  have progress : Progress nobody (Routine setting nobody nothing) dirty readied :=
    routine_ready file dirty dirtySteady.quiet
  have rememberedStill :
      (readied.registry.find key).memory? (.pipeline requester) = some memory := by
    rw [progress.memory?_eq fun _ asked => absurd asked id, dirtyRecord]
    exact remembered
  have heldDirty : (dirty.registry.find key).source? = some text := by
    rw [dirtyRecord]
    exact held
  rw [updateLocalFile]
  rw [resultOf_bind, endOf_bind, resultOf_bind, endOf_bind]
  cases readied_of_steady dirtySteady (textOf?_of_held heldDirty) with
  | refused message found failed =>
      rw [failed]
      refine .failed _ ?_ rfl rememberedStill
      rintro ⟨analysis, found', -⟩
      rw [found] at found'
      exact absurd found' nofun
  | ready analysis readiness succeeded holds =>
      rw [succeeded]
      have readiedSteady : Steady setting.analyzer readied :=
        progress.steady (fun _ _ asked => absurd asked id) dirtySteady
      have known : (readied.registry.get? key).isSome :=
        progress.registry.registered key (Registry.isSome_put registered _ _)
      by_cases sound : analysis.IsSound
      · rcases updateAnalysed_of_sound requester suffix? file known
          (readiedSteady.coherent key) holds sound previous? with ⟨answered, seen⟩
        exact .updated analysis holds.1 sound answered seen
      · rcases updateAnalysed_of_unsound requester suffix? file holds sound previous? with
          ⟨answered, apart⟩
        refine .failed _ ?_ answered ?_
        · rintro ⟨other, found, accepted⟩
          rw [holds.1] at found
          rcases Except.ok.inj found with rfl
          exact sound accepted
        · dsimp only
          rw [apart.registry]
          exact rememberedStill

/-! ## Answering an update -/

/-- How an update is answered by what the pipeline remembers, and what it remembers then. -/
inductive Answer
    (setting : Setting) (requester : Nat) (suffix? : Option String) (file : Path)
    (text : String) (isServer : Bool) (memory : Memory)
    (answer : HotUpdate) (after? : Option Memory) : Prop where
  | unchanged
      (same : memory.digest = Digest.of text)
      (answered : answer = .unchanged)
      (remembered : after? = some ⟨Digest.of text, memory.sections?⟩)
  | server (modules : List HostModule)
      (other : memory.digest ≠ Digest.of text)
      (server : isServer = true)
      (answered : answer = .updated modules false)
      (remembered : after? = some ⟨Digest.of text, memory.sections?⟩)
  | local
      (other : memory.digest ≠ Digest.of text)
      (local_ : isServer = false)
      (answered :
        LocalAnswer setting requester suffix? file text memory.sections?
          ⟨Digest.of text, memory.sections?⟩ answer after?)

/-- An observer remembers the text that it is told about, and its baseline. -/
theorem memory?_observe (record : Record) (observer : Observer) (text : String) :
    (record.act (.observe observer text)).memory? observer =
      some ⟨Digest.of text, (record.observe observer text).2.previous?⟩ :=
  Record.memory?_remember_self _ _ _

/-- A local file with another text is answered by the sections that the pipeline is told. -/
theorem localAnswer_of_told
    {bridge : Bridge} {previous? : Option Snapshot}
    (steady : Steady setting.analyzer bridge)
    (isLocal : bridge.plugins.isServerScoped (setting.normalise file) = false)
    (told : observation setting requester file text bridge = ⟨.changed, previous?⟩)
    (faithful : ∀ held,
      (bridge.registry.find (setting.normalise (setting.normalise file))).source? =
          some held →
        Digest.of held = Digest.of text → held = text) :
    LocalAnswer setting requester suffix? (setting.normalise file) text previous?
      ⟨Digest.of text, previous?⟩
      (resultOf (update setting requester suffix? file text) bridge)
      (((endOf (update setting requester suffix? file text) bridge).registry.find
        (setting.normalise (setting.normalise file))).memory? (.pipeline requester)) := by
  let key := setting.normalise (setting.normalise file)
  let fed := observed setting requester file text bridge
  have fedRecord :
      fed.registry.find key =
        (bridge.registry.find key).act (.observe (.pipeline requester) text) :=
    find_observed bridge
  have run :
      (update setting requester suffix? file text).run bridge =
        (answerTo setting requester suffix? file ⟨.changed, previous?⟩).run fed := by
    rw [run_update, told]
  rw [answerTo_changed, plugins_observed, if_neg (by rw [isLocal]; exact Bool.false_ne_true)] at run
  have held : (fed.registry.find key).source? = some text := by
    rw [fedRecord]
    -- A text with the digest of the one that is held must be that text.
    exact Record.source?_act_of_text (steady.coherent key).digest rfl faithful
  have baseline :
      ((bridge.registry.find key).observe (.pipeline requester) text).2.previous? = previous? :=
    congrArg Observation.previous? told
  have seen :
      (fed.registry.find key).memory? (.pipeline requester) =
        some ⟨Digest.of text, previous?⟩ := by
    rw [fedRecord, memory?_observe, baseline]
  rw [resultOf_of_run run, endOf_of_run run]
  exact localAnswer requester suffix? (steady_observed steady requester file text)
    (isSome_observed bridge) held seen previous?

/-- An update is answered by the text that it is compared with, and by the sections. -/
theorem answer_of_compared
    {bridge : Bridge} {memory : Memory}
    (steady : Steady setting.analyzer bridge)
    (compared :
      (bridge.registry.find (setting.normalise (setting.normalise file))).compared?
        (.pipeline requester) = some memory)
    (faithful : ∀ held,
      (bridge.registry.find (setting.normalise (setting.normalise file))).source? =
          some held →
        Digest.of held = Digest.of text → held = text) :
    Answer setting requester suffix? (setting.normalise file) text
      (bridge.plugins.isServerScoped (setting.normalise file)) memory
      (resultOf (update setting requester suffix? file text) bridge)
      (((endOf (update setting requester suffix? file text) bridge).registry.find
        (setting.normalise (setting.normalise file))).memory? (.pipeline requester)) := by
  let key := setting.normalise (setting.normalise file)
  let record := bridge.registry.find key
  let fed := observed setting requester file text bridge
  have fedRecord : fed.registry.find key = record.act (.observe (.pipeline requester) text) :=
    find_observed bridge
  have told :
      observation setting requester file text bridge =
        ⟨Record.judge (some memory.digest) (Digest.of text), memory.sections?⟩ :=
    Record.observe_of_compared compared text
  have seen :
      (fed.registry.find key).memory? (.pipeline requester) =
        some ⟨Digest.of text, memory.sections?⟩ := by
    have baseline :
        (record.observe (.pipeline requester) text).2.previous? = memory.sections? :=
      congrArg Observation.previous? told
    rw [fedRecord, memory?_observe, baseline]
  have run :
      (update setting requester suffix? file text).run bridge =
        (answerTo setting requester suffix? file
          ⟨Record.judge (some memory.digest) (Digest.of text), memory.sections?⟩).run fed := by
    rw [run_update, told]
  by_cases same : memory.digest = Digest.of text
  · have unchanged : Record.judge (some memory.digest) (Digest.of text) = .unchanged :=
      if_pos (congrArg some same)
    rw [unchanged] at run
    rcases answerTo_unchanged setting requester suffix? file memory.sections? fed with
      ⟨answered, apart⟩
    refine .unchanged same ((resultOf_of_run run).trans answered) ?_
    rw [endOf_of_run run, apart.registry]
    exact seen
  · have changed : Record.judge (some memory.digest) (Digest.of text) = .changed := by
      apply if_neg
      intro equal
      exact same (Option.some.inj equal)
    rw [changed] at told
    cases isServer : bridge.plugins.isServerScoped (setting.normalise file) with
    | true =>
        rw [changed, answerTo_changed, plugins_observed, if_pos isServer] at run
        have apart :
            fed.Apart
              (endOf (updateServerFile setting requester (setting.normalise file)) fed) :=
          apart_updateServerFile requester (setting.normalise file) fed
        refine .server _ same rfl (resultOf_of_run run) ?_
        rw [endOf_of_run run, apart.registry]
        exact seen
    | false => exact .local same rfl (localAnswer_of_told steady isServer told faithful)

theorem answer_of_memory
    {bridge : Bridge} {memory : Memory}
    (steady : Steady setting.analyzer bridge)
    (remembered :
      (bridge.registry.find (setting.normalise (setting.normalise file))).memory?
        (.pipeline requester) = some memory)
    (faithful : ∀ held,
      (bridge.registry.find (setting.normalise (setting.normalise file))).source? =
          some held →
        Digest.of held = Digest.of text → held = text) :
    Answer setting requester suffix? (setting.normalise file) text
      (bridge.plugins.isServerScoped (setting.normalise file)) memory
      (resultOf (update setting requester suffix? file text) bridge)
      (((endOf (update setting requester suffix? file text) bridge).registry.find
        (setting.normalise (setting.normalise file))).memory? (.pipeline requester)) :=
  answer_of_compared steady (Record.compared?_of_memory remembered) faithful

end Bridge

end ModuleBridge
