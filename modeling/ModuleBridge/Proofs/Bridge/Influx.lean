import ModuleBridge.Proofs.Bridge.Owners
import Mathlib.Data.List.Infix

/-!
# Texts that come in

Most of what happens to a bridge is an influx: texts come into records, calls are
entered into the journal, and nothing else that counts changes.  A record to which
only texts came either has the core it had or is at a later revision.

Making a file ready is an influx too, but for one moment at most: an analysis of the
text that is there is stored, and with it go the imports of the file.
-/

namespace ModuleBridge

/-- A text comes in. -/
def Record.Action.bringsText (action : Record.Action) : Prop :=
  action.text?.isSome

theorem Feed.bringsText_action (feed : Feed) : feed.action.bringsText := by
  rcases feed with ⟨path, text, observer?⟩
  cases observer? <;> rfl

/-- What a text that comes in does: nothing to the core, or the record is renewed. -/
theorem Record.core_act_of_bringsText
    {action : Action} (brings : action.bringsText) (record : Record) :
    (record.act action).core = record.core ∨
      ∃ text, (record.act action).core = (record.renewed text).core := by
  have effect := effect_act record action
  generalize (record.act action).core = after at effect ⊢
  cases effect with
  | kept => exact .inl rfl
  | renewed text incoming other => exact .inr ⟨text, rfl⟩
  | analysed => cases brings
  | built => cases brings

/-- The record with its core as it was, or at a later revision. -/
def Record.Overtaken (before after : Record) : Prop :=
  after.core = before.core ∨ before.revision < after.revision

theorem Record.Overtaken.act
    {before after : Record} (overtaken : before.Overtaken after)
    {action : Action} (brings : action.bringsText) :
    before.Overtaken (after.act action) := by
  rcases core_act_of_bringsText brings after with same | ⟨text, renews⟩
  · rcases overtaken with still | later
    · exact .inl (same.trans still)
    · rw [← (fields_of_core_eq same).2.2.1] at later
      exact .inr later
  · have next : (after.act action).revision = after.revision + 1 :=
      (fields_of_core_eq renews).2.2.1
    rcases overtaken with still | later
    · have sameRevision : after.revision = before.revision := (fields_of_core_eq still).2.2.1
      exact .inr (by omega)
    · exact .inr (by omega)

theorem Record.Overtaken.core_of_revision
    {before after : Record} (overtaken : before.Overtaken after)
    (same : after.revision = before.revision) : after.core = before.core := by
  rcases overtaken with still | later
  · exact still
  · omega

theorem Record.view?_of_core
    {before after : Record} (same : after.core = before.core) : after.view? = before.view? := by
  change after.core.view? = before.core.view?
  rw [same]

theorem Record.isValid_of_core
    {before after : Record} (same : after.core = before.core) :
    after.isValid = before.isValid := by
  change after.core.isValid = before.core.isValid
  rw [same]

/-- An analysis that is refused leaves the record as it was. -/
theorem Record.storeAnalysis_of_refused
    {record : Record} {revision : Nat} {analysis : Analysis} {sections : Snapshot}
    (refused : (record.storeAnalysis revision analysis sections).2 = false) :
    (record.storeAnalysis revision analysis sections).1 = record := by
  unfold storeAnalysis at refused ⊢
  split
  · split
    · rename_i digest known current
      simp [known, current] at refused
    · rfl
  · rfl

/-- Only the analysis of the present revision is accepted. -/
theorem Record.revision_of_accepted
    {record : Record} {revision : Nat} {analysis : Analysis} {sections : Snapshot}
    (accepted : (record.storeAnalysis revision analysis sections).2 = true) :
    record.revision = revision := by
  unfold storeAnalysis at accepted
  split at accepted
  · split at accepted
    · assumption
    · cases accepted
  · cases accepted

/-- An analysis is only accepted by a record that is there. -/
theorem Registry.registered_of_accepted
    {registry : Registry} {key : Path} {revision : Nat} {analysis : Analysis}
    {sections : Snapshot}
    (accepted : ((registry.find key).storeAnalysis revision analysis sections).2 = true) :
    (registry.get? key).isSome := by
  cases found : registry.get? key with
  | none =>
      rw [find, found] at accepted
      cases accepted
  | some record => rfl

theorem Registry.graph_take (setting : Setting) (registry : Registry) (feed : Feed) :
    (registry.take setting feed).graph = registry.graph := by
  simp only [take, put, create]
  split <;> rfl

theorem Registry.graph_takeAll
    (setting : Setting) (feeds : List Feed) (registry : Registry) :
    (feeds.foldl (take setting) registry).graph = registry.graph := by
  induction feeds generalizing registry with
  | nil => rfl
  | cons feed rest inductionHypothesis =>
      rw [List.foldl_cons, inductionHypothesis, graph_take]

namespace Bridge

/-- The law of an influx: only texts come in. -/
def textsOnly (_ : Path) (_ : Record) (action : Record.Action) : Prop :=
  action.bringsText

/-- Texts came in and calls were made; neither imports nor pipelines differ. -/
structure Influx (before after : Bridge) : Prop where
  plugins : after.plugins = before.plugins
  graph : after.registry.graph = before.registry.graph
  journal : before.journal <+: after.journal
  registry : before.registry.Evolves textsOnly after.registry

instance : IsPreorder Bridge Influx where
  refl _ := ⟨rfl, rfl, List.prefix_rfl, .refl _⟩
  trans _ _ _ first second :=
    ⟨second.plugins.trans first.plugins, second.graph.trans first.graph,
      first.journal.trans second.journal, first.registry.trans second.registry⟩

variable {setting : Setting} {key : Path} {before after : Bridge}

/-- The record under a key was overtaken, if anything happened to what depends on its text. -/
theorem Influx.overtaken (influx : Influx before after) (key : Path) :
    (before.registry.find key).Overtaken (after.registry.find key) :=
  (influx.registry.record key).keeps
    (fun _ _ brings overtaken => overtaken.act brings) (.inl rfl)

theorem Influx.path (influx : Influx before after) (key : Path) :
    (after.registry.find key).path = (before.registry.find key).path := by
  have step :
      ∀ record action, textsOnly key record action →
        record.path = (before.registry.find key).path →
          (record.act action).path = (before.registry.find key).path :=
    fun record action _ same => (record.path_act action).trans same
  exact (influx.registry.record key).keeps step rfl

/-- Work that leaves the records and the journal alone is no more than an influx. -/
theorem influx_of_apart (apart : before.Apart after) (journal : before.journal <+: after.journal) :
    Influx before after := by
  refine ⟨apart.plugins, ?_, journal, ?_⟩
  · rw [apart.registry]
  · rw [apart.registry]
    exact .refl _

theorem influx_print (show? : Console → Console) : Keeps Influx (print show?) :=
  fun bridge => influx_of_apart (apart_print show? bridge) List.prefix_rfl

theorem influx_debug (part message : String) : Keeps Influx (debug part message) :=
  influx_print _

theorem influx_note (call : Call) : Keeps Influx (note call) :=
  fun bridge => influx_of_apart (apart_note call bridge) (List.prefix_append _ _)

theorem influx_openRecord (path : Path) : Keeps Influx (openRecord setting path) := by
  intro bridge
  rw [endOf_openRecord]
  refine ⟨rfl, ?_, List.prefix_rfl, .create _ _⟩
  simp only [Registry.create]
  split <;> rfl

theorem influx_receive (feed : Feed) : Keeps Influx (receive setting feed) := by
  intro bridge
  rcases endOf_receive setting feed bridge with ⟨console, received⟩
  rw [received]
  exact ⟨rfl, Registry.graph_take setting _ feed, List.prefix_rfl,
    evolves_take (fun _ => feed.bringsText_action) _⟩

theorem influx_wait (moment : Moment) : Keeps Influx (wait setting moment) := by
  intro bridge
  rcases endOf_wait setting moment bridge with ⟨console, waited⟩
  rw [waited]
  exact ⟨rfl, Registry.graph_takeAll setting _ _, List.prefix_rfl,
    evolves_takeAll (fun feed _ _ => feed.bringsText_action) _⟩

theorem influx_loadSource : Keeps Influx (loadSource setting key).run := by
  intro bridge
  have waits : Influx bridge (endOf (wait setting (.reading key)) bridge) := influx_wait _ bridge
  rw [endOf, run_loadSource]
  cases sourceOnDisk setting.disk key with
  | error fault => exact waits
  | ok text =>
      have reads :
          ∀ bridge, Influx bridge
            (endOf (changeRecord key fun record => record.act (.feed text)) bridge) := by
        intro bridge
        refine ⟨rfl, rfl, List.prefix_rfl, .put (.single ?_)⟩
        exact rfl
      exact trans_of Influx waits (reads _)

theorem influx_callAnalyzer (text : String) (revision : Nat) :
    Keeps Influx (callAnalyzer setting key text revision) := by
  refine keeps_bind (fun bridge => ⟨rfl, rfl, List.prefix_rfl, .of_records rfl⟩) ?_
  intro _
  refine keeps_bind (influx_debug _ _) ?_
  intro _
  refine keeps_bind (influx_note _) ?_
  intro _
  exact influx_wait _

/-! ## Making a file ready -/

/-- The bridge in which an analysis that was accepted is stored, and the imports with it. -/
def withAnalysis (setting : Setting) (key : Path) (revision : Nat) (text : String)
    (analysis : Analysis) (bridge : Bridge) : Bridge :=
  { bridge with
    registry :=
      { bridge.registry.put key
          ((bridge.registry.find key).storeAnalysis revision analysis
            (analysis.sections text)).1 with
        graph := bridge.registry.graph.record setting.normalise key analysis.dependencies } }

/-- An answer of the analyzer is stored with the imports, or it is dropped. -/
theorem keepAnalysis_cases
    (setting : Setting) (key : Path) (revision : Nat) (text : String) (analysis : Analysis)
    (bridge : Bridge) :
    resultOf (keepAnalysis setting key revision text analysis) bridge = true ∧
        ((bridge.registry.find key).storeAnalysis revision analysis
          (analysis.sections text)).2 = true ∧
        endOf (keepAnalysis setting key revision text analysis) bridge =
          withAnalysis setting key revision text analysis bridge ∨
      resultOf (keepAnalysis setting key revision text analysis) bridge = false ∧
        Influx bridge (endOf (keepAnalysis setting key revision text analysis) bridge) := by
  let record := bridge.registry.find key
  simp only [keepAnalysis, resultOf_bind, endOf_bind, resultOf_updateRecord,
    endOf_updateRecord, resultOf_ite, endOf_ite, resultOf_pure, endOf_pure]
  cases accepted : (record.storeAnalysis revision analysis (analysis.sections text)).2 with
  | true => exact .inl ⟨rfl, rfl, rfl⟩
  | false =>
      refine .inr ⟨rfl, ?_⟩
      rw [if_neg Bool.false_ne_true, Record.storeAnalysis_of_refused accepted]
      have same : Influx bridge { bridge with registry := bridge.registry.put key record } :=
        ⟨rfl, rfl, List.prefix_rfl, .put Relation.ReflTransGen.refl⟩
      exact trans_of Influx same (influx_debug _ _ _)

/--
What comes of making a file valid: texts come in, and at the end, where that takes an
analysis, what the analyzer found is stored.
-/
inductive Trace (setting : Setting) (key : Path) (before : Bridge) :
    Except Fault Readiness → Bridge → Prop where
  | refused {after : Bridge} (fault : Fault) (influx : Influx before after) :
      Trace setting key before (.error fault) after
  | cached {after : Bridge}
      (influx : Influx before after)
      (valid : (after.registry.find key).isValid = true) :
      Trace setting key before (.ok .cached) after
  | analysed (middle : Bridge) (revision : Nat) (text : String) (analysis : Analysis)
      (influx : Influx before middle)
      (invalid : (middle.registry.find key).isValid = false)
      (found : setting.analyzer.analyse key text = .ok analysis)
      (accepted :
        ((middle.registry.find key).storeAnalysis revision analysis
          (analysis.sections text)).2 = true) :
      Trace setting key before (.ok .analysed)
        (withAnalysis setting key revision text analysis middle)

theorem Trace.after_influx
    {middle : Bridge} {outcome : Except Fault Readiness}
    (influx : Influx before middle) (trace : Trace setting key middle outcome after) :
    Trace setting key before outcome after := by
  cases trace with
  | refused fault later => exact .refused fault (trans_of Influx influx later)
  | cached later valid => exact .cached (trans_of Influx influx later) valid
  | analysed middle revision text analysis later invalid found accepted =>
      exact .analysed middle revision text analysis (trans_of Influx influx later) invalid found
        accepted

theorem find_withAnalysis
    {revision : Nat} {text : String} {analysis : Analysis} {bridge : Bridge}
    (accepted :
      ((bridge.registry.find key).storeAnalysis revision analysis
        (analysis.sections text)).2 = true) :
    (withAnalysis setting key revision text analysis bridge).registry.find key =
      ((bridge.registry.find key).storeAnalysis revision analysis (analysis.sections text)).1 :=
  Registry.find_put_self (Registry.registered_of_accepted accepted) _

theorem isValid_withAnalysis
    {revision : Nat} {text : String} {analysis : Analysis} {bridge : Bridge}
    (accepted :
      ((bridge.registry.find key).storeAnalysis revision analysis
        (analysis.sections text)).2 = true) :
    ((withAnalysis setting key revision text analysis bridge).registry.find key).isValid =
      true := by
  rw [find_withAnalysis accepted]
  exact Record.isValid_storeAnalysis accepted

theorem trace_of_valid
    {bound : Nat} {bridge : Bridge} (valid : (bridge.registry.find key).isValid = true) :
    Trace setting key bridge
      (resultOf (settle setting key bound .cached).run bridge)
      (endOf (settle setting key bound .cached).run bridge) := by
  rw [resultOf, endOf, settle_of_valid valid]
  exact .cached (refl_of Influx bridge) valid

/-- A pass of the loop leaves a trace when the passes behind it do. -/
theorem trace_pass
    {bound : Nat} {text : String} {revision : Nat} {bridge : Bridge}
    (later : ∀ bridge, Trace setting key bridge
      (resultOf (settle setting key bound .cached).run bridge)
      (endOf (settle setting key bound .cached).run bridge))
    (invalid : (bridge.registry.find key).isValid = false)
    (current : (bridge.registry.find key).revision = revision) :
    Trace setting key bridge
      (resultOf
        (analyse setting key text revision >>= fun stored =>
          settle setting key bound (if stored then .analysed else .cached)).run
        bridge)
      (endOf
        (analyse setting key text revision >>= fun stored =>
          settle setting key bound (if stored then .analysed else .cached)).run
        bridge) := by
  let called := endOf (callAnalyzer setting key text revision) bridge
  have calls : Influx bridge called := influx_callAnalyzer text revision bridge
  cases found : setting.analyzer.analyse key text with
  | error message =>
      have failed :
          resultOf (analyse setting key text revision).run bridge =
              .error (.analysis key message) ∧
            endOf (analyse setting key text revision).run bridge = called := by
        rw [run_analyse, resultOf_bind, endOf_bind, found]
        exact ⟨rfl, rfl⟩
      rw [(attempt_of_error failed.1 _).1, (attempt_of_error failed.1 _).2, failed.2]
      exact .refused _ calls
  | ok analysis =>
      let kept := keepAnalysis setting key revision text analysis
      have answered :
          resultOf (analyse setting key text revision).run bridge =
              .ok (resultOf kept called) ∧
            endOf (analyse setting key text revision).run bridge = endOf kept called := by
        rw [run_analyse, resultOf_bind, endOf_bind, found]
        exact ⟨rfl, rfl⟩
      rw [(attempt_of_ok answered.1 _).1, (attempt_of_ok answered.1 _).2, answered.2]
      rcases keepAnalysis_cases setting key revision text analysis called with
        ⟨told, accepted, stored⟩ | ⟨told, dropped⟩
      · rw [told, stored]
        have valid :
            ((withAnalysis setting key revision text analysis called).registry.find key).isValid =
              true :=
          isValid_withAnalysis accepted
        have same := (calls.overtaken key).core_of_revision
          ((Record.revision_of_accepted accepted).trans current.symm)
        have stillInvalid : (called.registry.find key).isValid = false := by
          rw [Record.isValid_of_core same, invalid]
        rw [resultOf, endOf, settle_of_valid valid]
        exact .analysed called revision text analysis calls stillInvalid found accepted
      · rw [told]
        exact (later _).after_influx (trans_of Influx calls dropped)

/-- The passes of the loop leave a trace. -/
theorem trace_settle (setting : Setting) (key : Path) (bound : Nat) (bridge : Bridge) :
    Trace setting key bridge
      (resultOf (settle setting key bound .cached).run bridge)
      (endOf (settle setting key bound .cached).run bridge) := by
  induction bound generalizing bridge with
  | zero =>
      cases valid : (bridge.registry.find key).isValid with
      | true => exact trace_of_valid valid
      | false =>
          rw [settle, run_lift_bind, resultOf_bind, endOf_bind, resultOf_recordAt,
            endOf_recordAt, if_neg (by rw [valid]; exact Bool.false_ne_true)]
          exact .refused _ (refl_of Influx bridge)
  | succ bound inductionHypothesis =>
      cases valid : (bridge.registry.find key).isValid with
      | true => exact trace_of_valid valid
      | false =>
          cases held : (bridge.registry.find key).source? with
          | none =>
              have run :
                  (settle setting key (bound + 1) .cached).run.run bridge = _ :=
                settle_of_nothing valid held bound .cached
              rw [resultOf_of_run run, endOf_of_run run]
              have loads : Influx bridge (endOf (loadSource setting key).run bridge) :=
                influx_loadSource bridge
              cases outcome : resultOf (loadSource setting key).run bridge with
              | error fault =>
                  rw [(attempt_of_error outcome _).1, (attempt_of_error outcome _).2]
                  exact .refused fault loads
              | ok loaded =>
                  rw [(attempt_of_ok outcome _).1, (attempt_of_ok outcome _).2]
                  exact (inductionHypothesis _).after_influx loads
          | some text =>
              have pending :
                  (bridge.registry.find key).pending? =
                    some (text, (bridge.registry.find key).revision) :=
                Record.pending?_of_source? held
              have run :
                  (settle setting key (bound + 1) .cached).run.run bridge = _ :=
                settle_of_pending valid pending bound .cached
              rw [resultOf_of_run run, endOf_of_run run]
              exact trace_pass inductionHypothesis valid rfl

/-- The bridge in which a file that was made valid counts as watched. -/
def watched (key : Path) (bridge : Bridge) : Bridge :=
  endOf (changeRecord key Record.markWatched) bridge

/-- What comes of making a file ready. -/
inductive Readying (setting : Setting) (path : Path) (before : Bridge) :
    Except Fault (Path × Readiness) → Bridge → Prop where
  | refused {after : Bridge} (fault : Fault) (influx : Influx before after) :
      Readying setting path before (.error fault) after
  | ready (readiness : Readiness) (middle : Bridge)
      (trace : Trace setting (setting.normalise path) before (.ok readiness) middle) :
      Readying setting path before (.ok (setting.normalise path, readiness))
        (watched (setting.normalise path) middle)

theorem readying (setting : Setting) (path : Path) (bridge : Bridge) :
    Readying setting path bridge
      (resultOf (ready setting path).run bridge)
      (endOf (ready setting path).run bridge) := by
  let key := setting.normalise path
  let opened := endOf (openRecord setting path) bridge
  have opens : Influx bridge opened := influx_openRecord path bridge
  have trace := (trace_settle setting key (bridge.schedule.length + 2) opened).after_influx opens
  rcases passes :
    (settle setting key (bridge.schedule.length + 2) .cached).run.run opened
    with ⟨fault | readiness, settled⟩
  · rw [(ready_of_refused passes).1, (ready_of_refused passes).2]
    rw [resultOf, endOf, passes] at trace
    cases trace with
    | refused _ influx => exact .refused fault influx
  · rw [(ready_of_settled passes).1, (ready_of_settled passes).2]
    rw [resultOf, endOf, passes] at trace
    exact .ready readiness settled trace

end Bridge

end ModuleBridge
