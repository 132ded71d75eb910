import ModuleBridge.Proofs.Bridge.Owners

/-!
# Bridges that differ in one file

Two bridges are twins when they hold the same records but for one file.  Work on
other files gives the same result from both and leaves twins again; work on that
file may give different results, but it touches no other record.
-/

namespace ModuleBridge

/-- The surroundings with another disk. -/
def Setting.onDisk (setting : Setting) (disk : Disk) : Setting :=
  { setting with disk := disk }

/--
Another disk has the same normal forms, and the same texts under them but perhaps
for one file.
-/
structure Setting.Besides (file : Path) (setting : Setting) (disk : Disk) : Prop where
  normalise : ∀ path, (setting.onDisk disk).normalise path = setting.normalise path
  text : ∀ path, setting.normalise path ≠ file →
    Bridge.sourceOnDisk disk (setting.normalise path) =
      Bridge.sourceOnDisk setting.disk (setting.normalise path)

namespace Bridge

/-- Bridges where no text is to come in, with the same records but perhaps for one file. -/
structure Twins (file : Path) (left right : Bridge) : Prop where
  plugins : right.plugins = left.plugins
  idleLeft : left.schedule = []
  idleRight : right.schedule = []
  records : left.registry.SameBut file right.registry

variable {α β : Type} {file key : Path} {left right : Bridge}

theorem Twins.find_eq (twins : Twins file left right) (other : key ≠ file) :
    right.registry.find key = left.registry.find key :=
  twins.records.find_eq other

theorem Twins.put
    (twins : Twins file left right) (key : Path) (record : Record) :
    (left.registry.put key record).SameBut file (right.registry.put key record) := by
  intro other different
  by_cases here : other = key
  · subst here
    rw [Registry.get?_put_self, Registry.get?_put_self, twins.records other different]
  · rw [Registry.get?_put_of_ne here, Registry.get?_put_of_ne here,
      twins.records other different]

theorem Twins.create (twins : Twins file left right) (key : Path) :
    (left.registry.create key).SameBut file (right.registry.create key) := by
  intro other different
  by_cases here : other = key
  · subst here
    rw [Registry.get?_create_self, Registry.get?_create_self, twins.find_eq different]
  · rw [Registry.get?_create_of_ne here, Registry.get?_create_of_ne here,
      twins.records other different]

/-! ## Work side by side -/

/-- From twins, works leave twins. -/
def Paired (file : Path) (first second : Work α) : Prop :=
  ∀ left right, Twins file left right → Twins file (endOf first left) (endOf second right)

/-- From twins, works give the same result and leave twins. -/
def Matched (file : Path) (first second : Work α) : Prop :=
  ∀ left right, Twins file left right →
    resultOf second right = resultOf first left ∧
      Twins file (endOf first left) (endOf second right)

theorem Matched.paired {first second : Work α} (matched : Matched file first second) :
    Paired file first second :=
  fun left right twins => (matched left right twins).2

/-- Work without a result. -/
theorem Paired.matched {first second : Work Unit} (paired : Paired file first second) :
    Matched file first second :=
  fun left right twins => ⟨rfl, paired left right twins⟩

theorem matched_pure (value : α) : Matched file (pure value) (pure value) :=
  fun _ _ twins => ⟨rfl, twins⟩

theorem matched_bind
    {first second : Work α} {next after : α → Work β}
    (begun : Matched file first second)
    (rest : ∀ value, Matched file (next value) (after value)) :
    Matched file (first >>= next) (second >>= after) := by
  intro left right twins
  rcases begun left right twins with ⟨same, twinsThen⟩
  rw [resultOf_bind, endOf_bind, resultOf_bind, endOf_bind, same]
  exact rest _ _ _ twinsThen

theorem paired_bind
    {first second : Work α} {next after : α → Work β}
    (begun : Matched file first second)
    (rest : ∀ value, Paired file (next value) (after value)) :
    Paired file (first >>= next) (second >>= after) := by
  intro left right twins
  rcases begun left right twins with ⟨same, twinsThen⟩
  rw [endOf_bind, endOf_bind, same]
  exact rest _ _ _ twinsThen

/-- What is read off a bridge may differ where it does not matter. -/
theorem matched_get_bind
    {next after : Bridge → Work α}
    (rest : ∀ left right, Twins file left right → Matched file (next left) (after right)) :
    Matched file (get >>= next) (get >>= after) :=
  fun left right twins => rest left right twins left right twins

theorem matched_ite
    {condition : Prop} [Decidable condition] {first second other another : Work α}
    (holds : Matched file first second) (fails : Matched file other another) :
    Matched file (if condition then first else other)
      (if condition then second else another) := by
  by_cases true_ : condition
  · rwa [if_pos true_, if_pos true_]
  · rwa [if_neg true_, if_neg true_]

theorem matched_lift
    {first second : Work α} (matched : Matched file first second) :
    Matched file (liftM first : Attempt α).run (liftM second : Attempt α).run := by
  intro left right twins
  rcases matched left right twins with ⟨same, twinsThen⟩
  exact ⟨congrArg Except.ok same, twinsThen⟩

theorem matched_discard {first second : Work α} (paired : Paired file first second) :
    Matched file (discard (liftM first) : Attempt Unit).run
      (discard (liftM second) : Attempt Unit).run :=
  fun left right twins => ⟨rfl, paired left right twins⟩

theorem matched_attempt_pure (value : α) :
    Matched file (pure value : Attempt α).run (pure value : Attempt α).run :=
  matched_pure _

theorem matched_throw (fault : Fault) :
    Matched file (throw fault : Attempt α).run (throw fault : Attempt α).run :=
  matched_pure _

/-- Whatever an attempt returns, some condition holds of it. -/
def Yields (holds : α → Prop) (attempt : Attempt α) : Prop :=
  ∀ bridge value, resultOf attempt.run bridge = .ok value → holds value

theorem yields_pure {holds : α → Prop} {value : α} (fits : holds value) :
    Yields holds (pure value) := by
  rintro bridge _ ⟨⟩
  exact fits

theorem yields_bind_of
    {fits : α → Prop} {holds : β → Prop} {first : Attempt α} {next : α → Attempt β}
    (begun : Yields fits first) (rest : ∀ value, fits value → Yields holds (next value)) :
    Yields holds (first >>= next) := by
  intro bridge result returned
  cases outcome : resultOf first.run bridge with
  | error fault =>
      rw [(attempt_of_error outcome next).1] at returned
      cases returned
  | ok value =>
      rw [(attempt_of_ok outcome next).1] at returned
      exact rest value (begun bridge value outcome) _ result returned

theorem yields_bind
    {holds : β → Prop} {first : Attempt α} {next : α → Attempt β}
    (rest : ∀ value, Yields holds (next value)) :
    Yields holds (first >>= next) :=
  yields_bind_of (fun _ _ _ => trivial) fun value (_ : True) => rest value

/-- The work goes on only from values that the first part may return. -/
theorem matched_attempt_bind_of
    {fits : α → Prop} {first second : Attempt α} {next after : α → Attempt β}
    (begun : Matched file first.run second.run) (yields : Yields fits first)
    (rest : ∀ value, fits value → Matched file (next value).run (after value).run) :
    Matched file (first >>= next).run (second >>= after).run := by
  intro left right twins
  rcases begun left right twins with ⟨same, twinsThen⟩
  rw [ExceptT.run_bind, ExceptT.run_bind, resultOf_bind, endOf_bind, resultOf_bind, endOf_bind,
    same]
  cases outcome : resultOf first.run left with
  | error fault => exact ⟨rfl, twinsThen⟩
  | ok value => exact rest value (yields left value outcome) _ _ twinsThen

theorem matched_attempt_bind
    {first second : Attempt α} {next after : α → Attempt β}
    (begun : Matched file first.run second.run)
    (rest : ∀ value, Matched file (next value).run (after value).run) :
    Matched file (first >>= next).run (second >>= after).run :=
  matched_attempt_bind_of begun (fun _ _ _ => trivial) fun value (_ : True) => rest value

theorem paired_attempt_bind
    {first second : Attempt α} {next after : α → Attempt β}
    (begun : Matched file first.run second.run)
    (rest : ∀ value, Paired file (next value).run (after value).run) :
    Paired file (first >>= next).run (second >>= after).run := by
  rw [ExceptT.run_bind, ExceptT.run_bind]
  refine paired_bind begun ?_
  intro outcome
  cases outcome with
  | error fault => exact (matched_pure _).paired
  | ok value => exact rest value

theorem matched_filterM
    {items : List α} {test other : α → Work Bool}
    (each : ∀ item, Matched file (test item) (other item)) :
    Matched file (items.filterM test) (items.filterM other) := by
  have gathered : ∀ kept,
      Matched file (items.filterAuxM test kept) (items.filterAuxM other kept) := by
    induction items with
    | nil => exact fun kept => matched_pure kept
    | cons item rest inductionHypothesis =>
        intro kept
        refine matched_bind (each item) ?_
        intro passes
        exact inductionHypothesis _
  exact matched_bind (gathered []) fun _ => matched_pure _

/-! ## Steps -/

/-- Works that touch no record but that of the file. -/
theorem paired_of_away
    {first second : Work α}
    (awayFirst : Keeps (Away file) first) (awaySecond : Keeps (Away file) second) :
    Paired file first second := by
  intro left right twins
  rcases awayFirst left twins.idleLeft with ⟨idleLeft, plugins, same⟩
  rcases awaySecond right twins.idleRight with ⟨idleRight, pluginsRight, sameRight⟩
  refine ⟨?_, idleLeft, idleRight, ?_⟩
  · rw [pluginsRight, plugins, twins.plugins]
  · intro key other
    rw [sameRight key other, same key other, twins.records key other]

theorem paired_of_apart
    {first second : Work α} (apart : Keeps Apart first) (apartSecond : Keeps Apart second) :
    Paired file first second :=
  paired_of_away (keeps_away_of_apart apart) (keeps_away_of_apart apartSecond)

theorem matched_of_result
    {first second : Work α} {value : α}
    (apart : Keeps Apart first) (apartSecond : Keeps Apart second)
    (returns : ∀ bridge, resultOf first bridge = value)
    (returnsSecond : ∀ bridge, resultOf second bridge = value) :
    Matched file first second := by
  intro left right twins
  refine ⟨(returnsSecond right).trans (returns left).symm, ?_⟩
  exact paired_of_apart apart apartSecond left right twins

theorem matched_of_apart
    {first second : Work Unit} (apart : Keeps Apart first) (apartSecond : Keeps Apart second) :
    Matched file first second :=
  (paired_of_apart apart apartSecond).matched

theorem matched_print (show? : Console → Console) :
    Matched file (print show?) (print show?) :=
  matched_of_apart (apart_print show?) (apart_print show?)

theorem matched_note (call : Call) : Matched file (note call) (note call) :=
  matched_of_apart (apart_note call) (apart_note call)

theorem matched_wait (setting other : Setting) (moment : Moment) :
    Matched file (wait setting moment) (wait other moment) :=
  (paired_of_away ((Away.bears setting file).waits moment)
    ((Away.bears other file).waits moment)).matched

/-- The imports and the count of analyses do not stand in the records. -/
theorem matched_changeRegistry
    {change other : Registry → Registry}
    (same : ∀ registry, (change registry).records = registry.records)
    (sameOther : ∀ registry, (other registry).records = registry.records) :
    Matched file (changeRegistry change) (changeRegistry other) := by
  have away : ∀ change : Registry → Registry,
      (∀ registry, (change registry).records = registry.records) →
        Keeps (Away file) (changeRegistry change) := by
    intro change same bridge idle
    refine ⟨idle, rfl, ?_⟩
    intro key _
    exact congrArg (List.lookup key) (same bridge.registry)
  exact (paired_of_away (away change same) (away other sameOther)).matched

section

variable (different : key ≠ file)

include different

theorem matched_recordAt : Matched file (recordAt key) (recordAt key) :=
  fun _ _ twins => ⟨twins.find_eq different, twins⟩

theorem matched_updateRecord (change : Record → Record × α) :
    Matched file (updateRecord key change) (updateRecord key change) := by
  intro left right twins
  have found := twins.find_eq different
  rw [resultOf_updateRecord, resultOf_updateRecord, endOf_updateRecord, endOf_updateRecord,
    found]
  exact ⟨rfl, twins.plugins, twins.idleLeft, twins.idleRight, twins.put _ _⟩

theorem matched_changeRecord (change : Record → Record) :
    Matched file (changeRecord key change) (changeRecord key change) := by
  intro left right twins
  have found := twins.find_eq different
  rw [endOf_changeRecord, endOf_changeRecord, found]
  exact ⟨rfl, twins.plugins, twins.idleLeft, twins.idleRight, twins.put _ _⟩

end

variable {setting : Setting} {disk : Disk} (besides : setting.Besides file disk)

include besides

theorem matched_openRecord (path : Path) :
    Matched file (openRecord setting path) (openRecord (setting.onDisk disk) path) := by
  intro left right twins
  rw [resultOf_openRecord, resultOf_openRecord, endOf_openRecord, endOf_openRecord,
    besides.normalise]
  exact ⟨rfl, twins.plugins, twins.idleLeft, twins.idleRight, twins.create _⟩

theorem matched_record? {path : Path} (different : setting.normalise path ≠ file) :
    Matched file (record? setting path) (record? (setting.onDisk disk) path) := by
  intro left right twins
  rw [resultOf_record?, resultOf_record?, besides.normalise]
  exact ⟨twins.records _ different, twins⟩

theorem matched_readSource {path : Path} (different : setting.normalise path ≠ file) :
    Matched file (readSource setting (setting.normalise path)).run
      (readSource (setting.onDisk disk) (setting.normalise path)).run := by
  intro left right twins
  rw [resultOf, endOf, resultOf, endOf, run_readSource, run_readSource]
  have waits :=
    matched_wait setting (setting.onDisk disk) (.reading (setting.normalise path)) left right
      twins
  exact ⟨besides.text path different, waits.2⟩

theorem matched_opened
    {path : Path} {next after : Path → Work α}
    (rest : Matched file (next (setting.normalise path)) (after (setting.normalise path))) :
    Matched file (openRecord setting path >>= next)
      (openRecord (setting.onDisk disk) path >>= after) := by
  intro left right twins
  rcases matched_openRecord besides path left right twins with ⟨same, twinsThen⟩
  rw [resultOf_bind, endOf_bind, resultOf_bind, endOf_bind, same, resultOf_openRecord]
  exact rest _ _ twinsThen

theorem paired_opened
    {path : Path} {next after : Path → Work α}
    (rest : Paired file (next (setting.normalise path)) (after (setting.normalise path))) :
    Paired file (openRecord setting path >>= next)
      (openRecord (setting.onDisk disk) path >>= after) := by
  intro left right twins
  rcases matched_openRecord besides path left right twins with ⟨same, twinsThen⟩
  rw [endOf_bind, endOf_bind, same, resultOf_openRecord]
  exact rest _ _ twinsThen

theorem matched_observe
    {path : Path} (different : setting.normalise path ≠ file) (text : String)
    (observer : Observer) :
    Matched file (observe setting path text observer)
      (observe (setting.onDisk disk) path text observer) := by
  refine matched_opened besides ?_
  refine matched_bind (matched_updateRecord different _) ?_
  intro observation
  refine matched_ite ?_ (matched_pure _)
  exact matched_bind (matched_print _) fun _ => matched_pure _

/-! ## Making files ready -/

theorem matched_loadSource {path : Path} (different : setting.normalise path ≠ file) :
    Matched file (loadSource setting (setting.normalise path)).run
      (loadSource (setting.onDisk disk) (setting.normalise path)).run := by
  refine matched_attempt_bind (matched_readSource besides different) ?_
  intro text
  exact matched_lift (matched_changeRecord different _)

omit besides in
theorem matched_analyse (different : key ≠ file) (text : String) (revision : Nat) :
    Matched file (analyse setting key text revision).run
      (analyse (setting.onDisk disk) key text revision).run := by
  have asks :
      Matched file (callAnalyzer setting key text revision)
        (callAnalyzer (setting.onDisk disk) key text revision) := by
    refine matched_bind (matched_changeRegistry (fun _ => rfl) fun _ => rfl) ?_
    intro _
    refine matched_bind (matched_print _) ?_
    intro _
    refine matched_bind (matched_note _) ?_
    intro _
    exact matched_wait _ _ _
  have stores : ∀ analysis,
      Matched file (keepAnalysis setting key revision text analysis)
        (keepAnalysis (setting.onDisk disk) key revision text analysis) := by
    intro analysis
    refine matched_bind (matched_updateRecord different _) ?_
    intro stored
    refine matched_ite ?_ ?_
    · exact matched_bind (matched_changeRegistry (fun _ => rfl) fun _ => rfl)
        fun _ => matched_pure _
    · exact matched_bind (matched_print _) fun _ => matched_pure _
  rw [run_analyse, run_analyse]
  refine matched_bind asks ?_
  intro _
  rw [show (setting.onDisk disk).analyzer = setting.analyzer from rfl]
  cases setting.analyzer.analyse key text with
  | error message => exact matched_pure _
  | ok analysis => exact matched_lift (stores analysis)

theorem matched_settle
    {path : Path} (different : setting.normalise path ≠ file) (bound : Nat)
    (readiness : Readiness) :
    Matched file (settle setting (setting.normalise path) bound readiness).run
      (settle (setting.onDisk disk) (setting.normalise path) bound readiness).run := by
  induction bound generalizing readiness with
  | zero =>
      rw [settle, settle]
      rw [run_lift_bind]
      refine matched_bind (matched_recordAt different) ?_
      intro record
      split
      · exact matched_attempt_pure _
      · exact matched_throw _
  | succ bound inductionHypothesis =>
      rw [settle, settle]
      rw [run_lift_bind, run_lift_bind]
      refine matched_bind (matched_recordAt different) ?_
      intro record
      split
      · exact matched_attempt_pure _
      · cases record.pending? with
        | none =>
            exact matched_attempt_bind (matched_loadSource besides different)
              fun _ => inductionHypothesis _
        | some pending =>
            exact matched_attempt_bind (matched_analyse different pending.1 pending.2)
              fun _ => inductionHypothesis _

/-- A file is made ready in both alike, when it is not the one in which they differ. -/
theorem matched_ready {path : Path} (different : setting.normalise path ≠ file) :
    Matched file (ready setting path).run (ready (setting.onDisk disk) path).run := by
  rw [ready, ready]
  rw [run_lift_bind, run_lift_bind]
  refine matched_opened besides ?_
  rw [run_get_bind, run_get_bind]
  refine matched_get_bind ?_
  intro left right twins
  rw [twins.idleLeft, twins.idleRight]
  refine matched_attempt_bind (matched_settle besides different _ _) ?_
  intro readiness
  rw [run_lift_bind]
  exact matched_bind (matched_changeRecord different _) fun _ => matched_attempt_pure _

omit besides in
/-- A file that was made ready stands under its normal form. -/
theorem yields_ready (path : Path) :
    Yields (fun found => found.1 = setting.normalise path) (ready setting path) :=
  fun _ _ succeeded => key_of_ready succeeded

theorem matched_readied
    {path : Path} {next after : Path × Readiness → Attempt α}
    (different : setting.normalise path ≠ file)
    (rest : ∀ readiness,
      Matched file (next (setting.normalise path, readiness)).run
        (after (setting.normalise path, readiness)).run) :
    Matched file (ready setting path >>= next).run
      (ready (setting.onDisk disk) path >>= after).run := by
  refine matched_attempt_bind_of (matched_ready besides different) (yields_ready path) ?_
  rintro ⟨key, readiness⟩ rfl
  exact rest readiness

/-! ## Builds -/

omit besides in
theorem matched_viewAt (different : key ≠ file) :
    Matched file (viewAt key).run (viewAt key).run := by
  rw [viewAt]
  rw [run_lift_bind]
  refine matched_bind (matched_recordAt different) ?_
  intro record
  cases record.view? with
  | some view => exact matched_attempt_pure _
  | none => exact matched_throw _

omit besides in
theorem matched_sift (diagnostics : List Diagnostic) (fault : String → Fault) :
    Matched file (sift diagnostics fault).run (sift diagnostics fault).run := by
  rw [sift]
  rw [run_lift_bind]
  refine matched_bind (matched_print _) ?_
  intro _
  split
  · exact matched_attempt_bind (matched_throw _) fun _ => matched_attempt_pure _
  · exact matched_attempt_pure _

omit besides in
theorem matched_accept (plugin : Plugin) (resource : String) (answer : BuildAnswer) :
    Matched file (accept plugin resource answer).run (accept plugin resource answer).run := by
  cases answer with
  | built artifact diagnostics => exact matched_attempt_pure _
  | nothing => exact matched_throw _
  | failed message => exact matched_throw _
  | crashed reason? =>
      rw [accept]
      rw [run_lift_bind]
      refine matched_bind (matched_print _) ?_
      intro _
      exact matched_throw _

omit besides in
theorem matched_produce
    (different : key ≠ file) (plugin : Plugin) (view : View) (selector? : Option String)
    (resource : String) :
    Matched file (produce setting key plugin view selector? resource).run
      (produce (setting.onDisk disk) key plugin view selector? resource).run := by
  have builds :
      Matched file (callBuild setting plugin view selector?)
        (callBuild (setting.onDisk disk) plugin view selector?) := by
    refine matched_bind (matched_print _) ?_
    intro _
    refine matched_bind (matched_note _) ?_
    intro _
    exact matched_bind (matched_wait _ _ _) fun _ => matched_pure _
  have stores :
      ∀ slot, Matched file (keepBuild key slot resource) (keepBuild key slot resource) := by
    intro slot
    refine matched_bind (matched_updateRecord different _) ?_
    intro stored
    exact matched_ite (matched_print _) (matched_pure _)
  have answers :
      Matched file (buildAndKeep setting key plugin view selector? resource).run
        (buildAndKeep (setting.onDisk disk) key plugin view selector? resource).run := by
    rw [buildAndKeep, buildAndKeep]
    rw [run_lift_bind, run_lift_bind]
    refine matched_bind builds ?_
    intro answer
    refine matched_attempt_bind (matched_accept _ _ _) ?_
    intro accepted
    refine matched_attempt_bind (matched_sift _ _) ?_
    intro warnings
    exact matched_attempt_bind (matched_lift (stores _)) fun _ => matched_attempt_pure _
  have cleared : ∀ record : Record,
      Matched file
        (if record.readFolders = true then
            liftM (note (.clear plugin.id view.path)) >>= fun _ =>
              buildAndKeep setting key plugin view selector? resource
          else buildAndKeep setting key plugin view selector? resource).run
        (if record.readFolders = true then
            liftM (note (.clear plugin.id view.path)) >>= fun _ =>
              buildAndKeep (setting.onDisk disk) key plugin view selector? resource
          else buildAndKeep (setting.onDisk disk) key plugin view selector? resource).run := by
    intro record
    split
    · exact matched_bind (matched_note _) fun _ => answers
    · exact answers
  exact matched_bind (matched_recordAt different) cleared

theorem matched_build
    {path : Path} (different : setting.normalise path ≠ file) (plugin : Plugin)
    (selector? : Option String) (resource : String) :
    Matched file (build setting path plugin selector? resource).run
      (build (setting.onDisk disk) path plugin selector? resource).run := by
  refine matched_readied besides different ?_
  intro readiness
  refine matched_attempt_bind (matched_viewAt different) ?_
  intro view
  refine matched_attempt_bind (matched_sift _ _) ?_
  intro warnings
  rw [run_lift_bind, run_lift_bind]
  refine matched_bind (matched_recordAt different) ?_
  intro record
  cases record.reusable? plugin.id view.revision selector? with
  | some artifact =>
      dsimp only
      rw [run_lift_bind]
      exact matched_bind (matched_print _) fun _ => matched_attempt_pure _
  | none =>
      exact matched_attempt_bind (matched_produce different _ _ _ _)
        fun _ => matched_attempt_pure _

/-! ## Auxiliary builds -/

omit besides in
theorem yields_build
    (path : Path) (plugin : Plugin) (selector? : Option String) (resource : String) :
    Yields (fun built => built.key = setting.normalise path)
      (build setting path plugin selector? resource) := by
  refine yields_bind_of (yields_ready path) ?_
  rintro ⟨key, readiness⟩ rfl
  refine yields_bind ?_
  intro view
  refine yields_bind ?_
  intro warnings
  refine yields_bind ?_
  intro record
  cases record.reusable? plugin.id view.revision selector? with
  | some artifact => exact yields_bind fun _ => yields_pure rfl
  | none => exact yields_bind fun _ => yields_pure rfl

omit besides in
/-- Whether a built file was watched before may differ; only a line depends on it. -/
theorem matched_watchAside (path : Path) :
    let watches : Work Bool := do
      if ← watchBuilt path then
        debug "cross" ("watch " ++ path.display)
      return true
    Matched file watches watches := by
  intro watches
  have apart : Keeps Apart watches := by
    refine keeps_bind (apart_watchBuilt path) ?_
    intro isNew
    exact keeps_when (apart_debug _ _) _
  have returns : ∀ bridge, resultOf watches bridge = true := by
    intro bridge
    change resultOf (ite _ _ _) _ = true
    rw [resultOf_ite]
    split <;> rfl
  exact matched_of_result apart apart returns returns

theorem matched_buildAside
    {path : Path} (different : setting.normalise path ≠ file) (plugin : Plugin) :
    Matched file (buildAside setting path plugin)
      (buildAside (setting.onDisk disk) path plugin) := by
  intro left right twins
  rcases matched_build besides different plugin none path.display left right twins with
    ⟨same, twinsThen⟩
  rw [buildAside, buildAside, resultOf_bind, endOf_bind, resultOf_bind, endOf_bind, same]
  cases outcome : resultOf (build setting path plugin none path.display).run left with
  | error fault => exact matched_bind (matched_print _) (fun _ => matched_pure _) _ _ twinsThen
  | ok built =>
      have key := yields_build path plugin none path.display left built outcome
      rw [← key] at different
      exact matched_bind (matched_changeRecord different _)
        (fun _ => matched_watchAside path) _ _ twinsThen

theorem matched_crossBuild
    {path : Path} (different : setting.normalise path ≠ file) :
    Matched file (crossBuild setting path) (crossBuild (setting.onDisk disk) path) := by
  refine matched_get_bind ?_
  intro left right twins
  rw [twins.plugins]
  refine matched_bind (matched_filterM ?_) fun _ => matched_pure _
  intro plugin
  exact matched_buildAside besides different plugin

/-! ## Work on other files -/

theorem matched_prepare
    {path : Path} (different : setting.normalise path ≠ file) (plugin : Plugin) :
    Matched file (prepare setting plugin path).run
      (prepare (setting.onDisk disk) plugin path).run := by
  refine matched_readied besides different ?_
  intro readiness
  dsimp only
  simp only [run_lift_bind]
  refine matched_bind (matched_changeRecord different _) ?_
  intro _
  refine matched_bind (matched_recordAt different) ?_
  intro record
  split
  · exact matched_attempt_bind
      (matched_discard (matched_crossBuild besides different).paired)
      fun _ => matched_attempt_pure _
  · exact matched_attempt_pure _

theorem matched_rebuildChanged
    {path : Path} (read : setting.normalise path ≠ file)
    (different : setting.normalise (setting.normalise path) ≠ file) :
    Matched file (rebuildChanged setting path).run
      (rebuildChanged (setting.onDisk disk) path).run := by
  unfold rebuildChanged
  dsimp only
  rw [besides.normalise, run_lift_bind, run_lift_bind]
  refine matched_bind (matched_record? besides different) ?_
  intro record?
  cases record? with
  | none => exact matched_attempt_pure _
  | some record =>
      dsimp only
      split
      · exact matched_attempt_pure _
      · refine matched_attempt_bind (matched_readSource besides read) ?_
        intro text
        rw [run_lift_bind, run_lift_bind]
        refine matched_bind (matched_observe besides different text .watcher) ?_
        intro observation
        split
        · rw [run_lift_bind]
          exact matched_bind (matched_print _) fun _ => matched_attempt_pure _
        · exact matched_lift (matched_crossBuild besides different)

omit besides in
theorem paired_updateAnalysed
    (different : key ≠ file) (requester : Nat) (suffix? : Option String) (written : Path)
    (previous? : Option Snapshot) :
    Paired file (updateAnalysed setting requester suffix? key written previous?)
      (updateAnalysed (setting.onDisk disk) requester suffix? key written previous?) := by
  refine paired_bind (matched_recordAt different) ?_
  intro record
  cases record.view? with
  | none => exact (matched_pure _).paired
  | some view =>
      dsimp only
      split
      · exact paired_of_apart (apart_refusal written _ _) (apart_refusal written _ _)
      · have warns :
            Keeps Apart
              ((Findings.ofList view.analysis.diagnostics).warningMessages.forM fun message =>
                print fun console => console.warning message) :=
          keeps_forM fun message => apart_print _
        refine paired_bind (matched_of_apart warns warns) ?_
        intro _
        refine paired_bind (matched_print _) ?_
        intro _
        refine paired_bind (matched_changeRecord different _) ?_
        intro _
        exact paired_bind (matched_print _) fun _ => (matched_pure _).paired

theorem paired_updateLocalFile
    {written : Path} (different : setting.normalise written ≠ file) (requester : Nat)
    (suffix? : Option String) (previous? : Option Snapshot) :
    Paired file
      (updateLocalFile setting requester suffix? (setting.normalise written) written previous?)
      (updateLocalFile (setting.onDisk disk) requester suffix? (setting.normalise written) written
        previous?) := by
  refine paired_bind (matched_changeRecord different _) ?_
  intro _ left right twins
  rcases matched_ready besides different left right twins with ⟨same, twinsThen⟩
  rw [endOf_bind, endOf_bind, same]
  cases outcome : resultOf (ready setting written).run left with
  | error fault =>
      exact paired_bind (matched_print _) (fun _ => (matched_pure _).paired) _ _ twinsThen
  | ok found =>
      rcases found with ⟨key, readiness⟩
      rcases key_of_ready outcome with rfl
      exact paired_updateAnalysed different requester suffix? written previous? _ _ twinsThen

/-- Which modules are out of date may differ, but not what becomes of the records. -/
theorem paired_update
    {written : Path} (different : setting.normalise (setting.normalise written) ≠ file)
    (requester : Nat) (suffix? : Option String) (text : String) :
    Paired file (update setting requester suffix? written text)
      (update (setting.onDisk disk) requester suffix? written text) := by
  unfold update
  dsimp only
  rw [besides.normalise]
  refine paired_opened besides ?_
  refine paired_bind (matched_observe besides different text _) ?_
  intro observation
  by_cases unchanged : observation.change = .unchanged
  · rw [if_pos unchanged, if_pos unchanged]
    exact paired_bind (matched_print _) fun _ => (matched_pure _).paired
  · rw [if_neg unchanged, if_neg unchanged]
    intro left right twins
    have server :
        right.plugins.isServerScoped (setting.normalise written) =
          left.plugins.isServerScoped (setting.normalise written) := by
      rw [twins.plugins]
    change Twins file (endOf (ite _ _ _) left) (endOf (ite _ _ _) right)
    rw [server]
    split
    · exact paired_of_apart (apart_updateServerFile _ _) (apart_updateServerFile _ _) _ _ twins
    · exact paired_updateLocalFile besides different requester suffix? _ _ _ twins

/-! ## Work on the file itself -/

section

omit besides

theorem away_produce
    (plugin : Plugin) (view : View) (selector? : Option String) (resource : String) :
    Keeps (Away key) (produce setting key plugin view selector? resource).run := by
  have bears := Away.bears setting key
  have calls : Keeps (Away key) (callBuild setting plugin view selector?) := by
    refine keeps_bind (bears.prints _) ?_
    intro _
    refine keeps_bind (keeps_away_of_apart (apart_note _)) ?_
    intro _
    exact keeps_bind (bears.waits _) fun _ => keeps_pure _
  have stores : ∀ slot, Keeps (Away key) (keepBuild key slot resource) := by
    intro slot
    refine keeps_bind (bears.updateRecord _) ?_
    intro stored
    exact keeps_ite (bears.prints _) (keeps_pure _)
  exact keeps_produce (keeps_away_of_apart (apart_note _))
    (keeps_buildAndKeep bears.prints calls stores)

theorem away_build
    (path : Path) (plugin : Plugin) (selector? : Option String) (resource : String) :
    Keeps (Away (setting.normalise path))
      (build setting path plugin selector? resource).run := by
  have bears := Away.bears setting (setting.normalise path)
  exact fun bridge =>
    build_of bears.prints (bears.ready rfl bridge) fun view _ => away_produce _ _ _ _

theorem away_buildAside (path : Path) (plugin : Plugin) :
    Keeps (Away (setting.normalise path)) (buildAside setting path plugin) := by
  have bears := Away.bears setting (setting.normalise path)
  intro bridge
  rw [buildAside, endOf_bind]
  refine trans_of _ (away_build path plugin none path.display bridge) ?_
  cases outcome : resultOf (build setting path plugin none path.display).run bridge with
  | error fault => exact keeps_bind (bears.prints _) (fun _ => keeps_pure _) _
  | ok built =>
      rw [← yields_build path plugin none path.display bridge built outcome] at bears ⊢
      refine keeps_bind (bears.changeRecord _) ?_ _
      intro _
      refine keeps_bind (keeps_away_of_apart (apart_watchBuilt path)) ?_
      intro isNew
      exact keeps_when (bears.prints _) _

theorem away_crossBuild (path : Path) :
    Keeps (Away (setting.normalise path)) (crossBuild setting path) := by
  refine keeps_bind keeps_get ?_
  intro bridge
  exact keeps_bind (keeps_filterM fun plugin => away_buildAside path plugin)
    fun _ => keeps_pure _

theorem away_prepare (plugin : Plugin) (path : Path) :
    Keeps (Away (setting.normalise path)) (prepare setting plugin path).run := by
  have bears := Away.bears setting (setting.normalise path)
  intro bridge
  refine attempt_bind_of (bears.ready rfl bridge) ?_
  rintro ⟨key, readiness⟩ succeeded
  rcases key_of_ready succeeded with rfl
  dsimp only
  simp only [run_lift_bind]
  refine keeps_bind (bears.changeRecord _) ?_ _
  intro _
  refine keeps_bind (keeps_recordAt _) ?_
  intro record
  split
  · exact keeps_attempt_bind (fun bridge => away_crossBuild path bridge)
      fun _ => keeps_attempt_pure _
  · exact keeps_attempt_pure _

theorem away_rebuildChanged (path : Path) :
    Keeps (Away (setting.normalise (setting.normalise path)))
      (rebuildChanged setting path).run := by
  have bears := Away.bears setting (setting.normalise (setting.normalise path))
  unfold rebuildChanged
  dsimp only
  rw [run_lift_bind]
  refine keeps_bind (keeps_record? setting (setting.normalise path)) ?_
  intro record?
  cases record? with
  | none => exact keeps_attempt_pure _
  | some record =>
      dsimp only
      split
      · exact keeps_attempt_pure _
      · refine keeps_attempt_bind (bears.readSource _) ?_
        intro text
        rw [run_lift_bind]
        refine keeps_bind (bears.observe rfl text .watcher) ?_
        intro observation
        split
        · rw [run_lift_bind]
          exact keeps_bind (bears.prints _) fun _ => keeps_attempt_pure _
        · exact keeps_lift (away_crossBuild _)

theorem away_loadOwned (plugin : Plugin) (resource : Resource) (path key : Path) :
    Keeps (Away (setting.normalise path)) (loadOwned setting plugin resource path key).run := by
  rw [loadOwned_eq]
  exact keeps_attempt_bind (away_build path plugin _ _)
    fun built => keeps_away_of_apart (apart_attends.serveBuilt resource path key built)

end

end Bridge

end ModuleBridge
