import ModuleBridge.Bridge.HotUpdate
import ModuleBridge.Bridge.Load
import ModuleBridge.Proofs.Bridge.Settling

/-!
# What work does to the records

Whatever work on a bridge is asked for, the records only evolve by what it is
asked to do, by the texts that the schedule brings, and by a routine: a text
that is not known is read from disk, the analyzer's findings on a text are
stored, what a pipeline built from a view is stored, and an analysed file is
marked as followed.  Results come back only while the text they were made from
is there, or they are dropped.
-/

namespace ModuleBridge

/-- Results come from the analyzer and from the pipelines. -/
def Setting.origin (setting : Setting) (key : Path) : Record.Provenance where
  made text analysis sections :=
    setting.analyzer.analyse key text = .ok analysis ∧ sections = analysis.sections text
  built view slot :=
    ∃ options diagnostics,
      (setting.pipeline slot.plugin).build view ⟨slot.selector?, options⟩ =
        .built slot.artifact diagnostics

namespace Bridge

/-! ## Laws -/

/-- A text comes in that is scheduled for a file. -/
inductive Received
    (setting : Setting) (scheduled : Feed → Prop) (key : Path) :
    Record → Record.Action → Prop where
  | intro {record : Record} (feed : Feed)
      (permitted : scheduled feed)
      (here : setting.normalise feed.path = key) :
      Received setting scheduled key record feed.action

/--
What may happen to the record under a key while work runs.  A text is read from
disk when none is known; one that comes in while the disk is read is replaced
by what was read.
-/
inductive Routine
    (setting : Setting) (scheduled : Feed → Prop) (asked : Path → Record.Action → Prop)
    (key : Path) (record : Record) :
    Record.Action → Prop where
  | asked (action : Record.Action) (ordered : asked key action) :
      Routine setting scheduled asked key record action
  | received (feed : Feed)
      (permitted : scheduled feed)
      (here : setting.normalise feed.path = key) :
      Routine setting scheduled asked key record feed.action
  | read (text : String)
      (onDisk : sourceOnDisk setting.disk key = .ok text)
      (unknown : record.source? = none ∨
        ∃ feed, scheduled feed ∧ setting.normalise feed.path = key) :
      Routine setting scheduled asked key record (.feed text)
  | analysed (revision : Nat) (text : String) (analysis : Analysis)
      (found : setting.analyzer.analyse key text = .ok analysis)
      (dated : Record.Dated record text revision) :
      Routine setting scheduled asked key record
        (.storeAnalysis revision analysis (analysis.sections text))
  | built (view : View) (slot : Slot)
      (answered : (setting.origin key).built view slot)
      (revision : view.revision = slot.revision)
      (dated : Record.Dated record view.source slot.revision) :
      Routine setting scheduled asked key record (.storeBuild slot)
  | watched :
      Routine setting scheduled asked key record .markWatched

/-- Only scheduled texts come in. -/
def Fits (scheduled : Feed → Prop) (bridge : Bridge) : Prop :=
  ∀ interruption ∈ bridge.schedule, ∀ feed ∈ interruption.feeds, scheduled feed

/-- The pipelines are the same, the schedule fits, and the registry evolved by a law. -/
structure Progress
    (scheduled : Feed → Prop) (law : Path → Record → Record.Action → Prop)
    (before after : Bridge) : Prop where
  plugins : after.plugins = before.plugins
  fits : Fits scheduled after
  registry : before.registry.Evolves law after.registry

/-- Where the schedule fits, there was only progress. -/
def Follows
    (scheduled : Feed → Prop) (law : Path → Record → Record.Action → Prop)
    (before after : Bridge) : Prop :=
  Fits scheduled before → Progress scheduled law before after

section

variable {scheduled : Feed → Prop} {law : Path → Record → Record.Action → Prop}

instance : IsPreorder Bridge (Follows scheduled law) where
  refl _ fits := ⟨rfl, fits, .refl _⟩
  trans _ _ _ first second fits :=
    have begun := first fits
    have ended := second begun.fits
    ⟨ended.plugins.trans begun.plugins, ended.fits, begun.registry.trans ended.registry⟩

theorem Progress.mono
    {wider : Path → Record → Record.Action → Prop} {before after : Bridge}
    (progress : Progress scheduled law before after)
    (permits : ∀ key record action, law key record action → wider key record action) :
    Progress scheduled wider before after :=
  ⟨progress.plugins, progress.fits, progress.registry.mono permits⟩

theorem follows_of_apart {before after : Bridge} (apart : before.Apart after) :
    Follows scheduled law before after := by
  intro fits
  refine ⟨apart.plugins, ?_, ?_⟩
  · rwa [Fits, apart.schedule]
  · rw [apart.registry]
    exact .refl _

theorem keeps_follows_of_apart
    {α : Type} {work : Work α} (apart : Keeps Apart work) :
    Keeps (Follows scheduled law) work :=
  fun bridge => follows_of_apart (apart bridge)

theorem follows_of_registry
    {bridge : Bridge} {registry : Registry}
    (evolves : bridge.registry.Evolves law registry) :
    Follows scheduled law bridge { bridge with registry := registry } :=
  fun fits => ⟨rfl, fits, evolves⟩

theorem follows_act
    {bridge : Bridge} {key : Path} {action : Record.Action}
    (permitted : law key (bridge.registry.find key) action) :
    Follows scheduled law bridge
      { bridge with
        registry := bridge.registry.put key ((bridge.registry.find key).act action) } :=
  follows_of_registry (.put (.single permitted))

theorem follows_change
    {key : Path} {action : Record.Action}
    (permitted : ∀ record, law key record action) :
    Keeps (Follows scheduled law) (changeRecord key fun record => record.act action) :=
  fun _ => follows_act (permitted _)

theorem follows_openRecord (setting : Setting) (path : Path) :
    Keeps (Follows scheduled law) (openRecord setting path) :=
  fun bridge => follows_of_registry (.create bridge.registry _)

/-- The graph of imports does not stand in the records. -/
theorem follows_graph (change : Registry → Registry)
    (same : ∀ registry, (change registry).records = registry.records) :
    Keeps (Follows scheduled law) (changeRegistry change) :=
  fun bridge => follows_of_registry (.of_records (same bridge.registry))

end

/-- Progress that carries an assertion along. -/
def Carries
    (scheduled : Feed → Prop) (law : Path → Record → Record.Action → Prop)
    (holds : Bridge → Prop) (before after : Bridge) : Prop :=
  Fits scheduled before → holds before → Progress scheduled law before after ∧ holds after

section

variable {scheduled : Feed → Prop} {law : Path → Record → Record.Action → Prop}
  {holds : Bridge → Prop}

instance : IsPreorder Bridge (Carries scheduled law holds) where
  refl bridge fits start := ⟨refl_of (Follows scheduled law) bridge fits, start⟩
  trans _ _ _ first second fits start :=
    have begun := first fits start
    have ended := second begun.1.fits begun.2
    ⟨trans_of (Follows scheduled law) (fun _ => begun.1) (fun _ => ended.1) fits, ended.2⟩

theorem follows_of_carries
    {before after : Bridge}
    (carries : Carries scheduled law holds before after) (start : holds before) :
    Follows scheduled law before after :=
  fun fits => (carries fits start).1

theorem keeps_carries
    {α : Type} {work : Work α}
    (stable : ∀ before after, Progress scheduled law before after →
      holds before → holds after)
    (kept : Keeps (Follows scheduled law) work) :
    Keeps (Carries scheduled law holds) work :=
  fun bridge fits start =>
    have progress := kept bridge fits
    ⟨progress, stable _ _ progress start⟩

end

/-- A text stands for a revision of the record under a key. -/
def DatedAt (key : Path) (text : String) (revision : Nat) (bridge : Bridge) : Prop :=
  Record.Dated (bridge.registry.find key) text revision

theorem DatedAt.stable
    {scheduled : Feed → Prop} {law : Path → Record → Record.Action → Prop}
    {key : Path} {text : String} {revision : Nat} {before after : Bridge}
    (progress : Progress scheduled law before after) (start : DatedAt key text revision before) :
    DatedAt key text revision after :=
  (progress.registry.record key).dated start

/-! ## Waiting -/

section

variable {setting : Setting} {scheduled : Feed → Prop}

theorem evolves_take
    {law : Path → Record → Record.Action → Prop} {feed : Feed}
    (permitted : ∀ record, law (setting.normalise feed.path) record feed.action)
    (registry : Registry) :
    registry.Evolves law (registry.take setting feed) := by
  refine (Registry.Evolves.create registry _).trans (.put ?_)
  rw [Registry.find_create]
  exact .single (permitted _)

theorem evolves_takeAll
    {law : Path → Record → Record.Action → Prop} {feeds : List Feed}
    (permitted :
      ∀ feed ∈ feeds, ∀ record, law (setting.normalise feed.path) record feed.action)
    (registry : Registry) :
    registry.Evolves law (feeds.foldl (Registry.take setting) registry) := by
  induction feeds generalizing registry with
  | nil => exact .refl registry
  | cons feed rest inductionHypothesis =>
      have first := evolves_take (permitted feed List.mem_cons_self) registry
      refine first.trans (inductionHypothesis ?_ _)
      intro other later
      exact permitted other (List.mem_cons_of_mem feed later)

/-- While work waits, nothing happens to the records but that scheduled texts come in. -/
theorem keeps_wait (setting : Setting) (moment : Moment) :
    Keeps (Follows scheduled (Received setting scheduled)) (wait setting moment) := by
  intro bridge fits
  rcases endOf_wait setting moment bridge with ⟨console, ended⟩
  rw [ended]
  refine ⟨rfl, ?_, ?_⟩
  · intro interruption later
    exact fits interruption (left_subset moment bridge.schedule later)
  · refine evolves_takeAll ?_ bridge.registry
    intro feed arrived record
    rcases mem_arriving arrived with ⟨interruption, planned, present⟩
    exact .intro feed (fits interruption planned feed present) rfl

/-! ## Making files ready -/

variable {asked : Path → Record.Action → Prop} {key : Path}

theorem Received.routine
    {record : Record} {action : Record.Action}
    (received : Received setting scheduled key record action) :
    Routine setting scheduled asked key record action := by
  cases received with
  | intro feed permitted here => exact .received feed permitted here

theorem routine_wait (moment : Moment) :
    Keeps (Follows scheduled (Routine setting scheduled asked)) (wait setting moment) :=
  fun bridge fits =>
    (keeps_wait setting moment bridge fits).mono fun _ _ _ received => received.routine

/-- A text is read where none is known, or while another one comes in. -/
theorem routine_loadSource
    {bridge : Bridge} (unknown : (bridge.registry.find key).source? = none) :
    Follows scheduled (Routine setting scheduled asked) bridge
      (endOf (loadSource setting key).run bridge) := by
  have waits : Follows scheduled (Routine setting scheduled asked) bridge
      (endOf (wait setting (.reading key)) bridge) :=
    routine_wait (.reading key) bridge
  rw [endOf, run_loadSource]
  cases onDisk : sourceOnDisk setting.disk key with
  | error fault => exact waits
  | ok text =>
      intro fits
      have received := keeps_wait setting (.reading key) bridge fits
      have step :
          ∀ record action, Received setting scheduled key record action →
            (record.source? = none ∨
              ∃ feed, scheduled feed ∧ setting.normalise feed.path = key) →
            ((record.act action).source? = none ∨
              ∃ feed, scheduled feed ∧ setting.normalise feed.path = key) := by
        rintro record _ ⟨feed, permitted, here⟩ _
        exact .inr ⟨feed, permitted, here⟩
      -- Only a text that comes in during the wait can make the record's text known.
      have stillUnknown := (received.registry.record key).keeps step (.inl unknown)
      have reads :
          Routine setting scheduled asked key
            ((endOf (wait setting (.reading key)) bridge).registry.find key)
            (.feed text) :=
        .read text onDisk stillUnknown
      exact trans_of (Follows scheduled (Routine setting scheduled asked)) waits
        (follows_act reads) fits

theorem routine_callAnalyzer (text : String) (revision : Nat) :
    Keeps (Follows scheduled (Routine setting scheduled asked))
      (callAnalyzer setting key text revision) := by
  refine keeps_bind (follows_graph _ fun _ => rfl) ?_
  intro _
  apply keeps_bind (keeps_follows_of_apart (apart_debug _ _))
  intro _
  apply keeps_bind (keeps_follows_of_apart (apart_note _))
  intro _
  exact routine_wait (.analysing key)

theorem routine_keepAnalysis
    {bridge : Bridge} {text : String} {revision : Nat} {analysis : Analysis}
    (found : setting.analyzer.analyse key text = .ok analysis)
    (dated : Record.Dated (bridge.registry.find key) text revision) :
    Follows scheduled (Routine setting scheduled asked) bridge
      (endOf (keepAnalysis setting key revision text analysis) bridge) := by
  have stores :
      Routine setting scheduled asked key (bridge.registry.find key)
        (.storeAnalysis revision analysis (analysis.sections text)) :=
    .analysed revision text analysis found dated
  have stored : Follows scheduled (Routine setting scheduled asked) bridge _ :=
    follows_act stores
  apply trans_of (Follows scheduled (Routine setting scheduled asked)) stored
  simp only [keepAnalysis, endOf_bind, endOf_updateRecord, resultOf_updateRecord, endOf_ite,
    endOf_pure]
  split
  · have graph :
        Keeps (Follows scheduled (Routine setting scheduled asked))
          (changeRegistry fun registry =>
            { registry with
              graph := registry.graph.record setting.normalise key analysis.dependencies }) :=
      follows_graph _ fun _ => rfl
    exact graph _
  · exact follows_of_apart (apart_debug _ _ _)

theorem routine_analyse
    {bridge : Bridge} {text : String} {revision : Nat}
    (pending : (bridge.registry.find key).pending? = some (text, revision)) :
    Follows scheduled (Routine setting scheduled asked) bridge
      (endOf (analyse setting key text revision).run bridge) := by
  have calls : Follows scheduled (Routine setting scheduled asked) bridge
      (endOf (callAnalyzer setting key text revision) bridge) :=
    routine_callAnalyzer text revision bridge
  rw [run_analyse, endOf_bind]
  cases found : setting.analyzer.analyse key text with
  | error message => exact calls
  | ok analysis =>
      intro fits
      have dated :=
        ((calls fits).registry.record key).dated (Record.dated_of_pending pending)
      exact trans_of (Follows scheduled (Routine setting scheduled asked)) calls
        (routine_keepAnalysis found dated) fits

theorem routine_settle (bound : Nat) (readiness : Readiness) :
    Keeps (Follows scheduled (Routine setting scheduled asked))
      (settle setting key bound readiness).run := by
  induction bound generalizing readiness with
  | zero =>
      rw [settle]
      rw [run_lift_bind]
      refine keeps_bind (keeps_recordAt key) ?_
      intro record
      split
      · exact keeps_attempt_pure _
      · exact keeps_throw _
  | succ bound inductionHypothesis =>
      intro bridge
      cases valid : (bridge.registry.find key).isValid with
      | true =>
          rw [endOf, settle_of_valid valid]
          exact refl_of _ bridge
      | false =>
          cases held : (bridge.registry.find key).source? with
          | none =>
              rw [endOf, settle_of_nothing valid held]
              apply attempt_bind_of (routine_loadSource held)
              intro _ _
              exact inductionHypothesis readiness _
          | some text =>
              have pending := Record.pending?_of_source? held
              rw [endOf, settle_of_pending valid pending]
              apply attempt_bind_of (routine_analyse pending)
              intro _ _
              exact inductionHypothesis _ _

theorem routine_ready (path : Path) :
    Keeps (Follows scheduled (Routine setting scheduled asked)) (ready setting path).run := by
  rw [ready]
  rw [run_lift_bind]
  apply keeps_bind (follows_openRecord setting path)
  intro key
  rw [run_get_bind]
  refine keeps_bind keeps_get ?_
  intro current
  apply keeps_attempt_bind (routine_settle _ _)
  intro readiness
  rw [run_lift_bind]
  have watched : ∀ record, Routine setting scheduled asked key record .markWatched :=
    fun _ => .watched
  apply keeps_bind (follows_change watched)
  intro _
  exact keeps_attempt_pure _

end

end Bridge

end ModuleBridge
