import ModuleBridge.Proofs.Bridge.Batches
import ModuleBridge.Proofs.Bridge.Enlisting
import ModuleBridge.Proofs.Bridge.Indexing

/-!
# Changes of a batch

A change is answered from the record of its file and from what the host is known to follow;
and all that an answer leaves behind is that record, the imports of the file and the
registration of the file.  So where the changes of a batch are about different files, each
is answered as it would be alone, and the order of the batch only orders the events.
-/

namespace ModuleBridge.Bridge

variable {setting : Setting} {file path : Path} {left right bridge : Bridge}
  {change : Path × ChangeKind} {changes others : List (Path × ChangeKind)}

/-- The file that a change is about. -/
def changedFile (setting : Setting) (change : Path × ChangeKind) : Path :=
  setting.normalise change.1

/-- The file of a change is its own normal form. -/
def Fixed (setting : Setting) (change : Path × ChangeKind) : Prop :=
  setting.normalise (changedFile setting change) = changedFile setting change

/-- The changes of a batch are about different files. -/
def Separate (setting : Setting) (changes : List (Path × ChangeKind)) : Prop :=
  changes.Pairwise fun one other => changedFile setting one ≠ changedFile setting other

theorem Fixed.isPlain (fixed : Fixed setting change) : (changedFile setting change).IsPlain :=
  Disk.plain_of_normal fixed

theorem Fixed.apart
    (fixed : Fixed setting change) {other : Path × ChangeKind} (fixedOther : Fixed setting other)
    (different : changedFile setting change ≠ changedFile setting other) :
    (changedFile setting change).same (changedFile setting other) = false := by
  rw [Bool.eq_false_iff, Path.same, ne_eq, beq_iff_eq]
  exact fun same => different (fixed.isPlain.eq_of_components fixedOther.isPlain same)

/-! ## Bridges that answer a change alike -/

/-- Twins that know the same listings, and registered the same built files but for one. -/
structure Aligned (file : Path) (left right : Bridge) : Prop extends Twins file left right where
  contexts : right.contexts = left.contexts
  built : ∀ other : Path, other.same file = false → right.hasBuilt other = left.hasBuilt other

theorem besides_self (setting : Setting) (file : Path) : setting.Besides file setting.disk :=
  ⟨fun _ => rfl, fun _ _ => rfl⟩

theorem fits_of_idle {allowed : Feed → Prop} (idle : bridge.schedule = []) :
    Fits allowed bridge := by
  rw [Fits, idle]
  exact List.forall_mem_nil _

/-- What is read from disk is taken in by twins alike. -/
theorem twins_reread
    (twins : Twins file left right) (different : setting.normalise path ≠ file) (text : String) :
    Twins file (reread setting path text left) (reread setting path text right) := by
  have waited := (matched_wait setting setting (.reading path) left right twins).2
  exact (matched_observe (besides_self setting file) different text .watcher _ _ waited).2

theorem readyImports?_eq
    (twins : Twins file left right) (different : setting.normalise path ≠ file) :
    readyImports? setting path right = readyImports? setting path left := by
  rcases matched_ready (besides_self setting file) different left right twins with
    ⟨same, twinsThen⟩
  have sameResult :
      resultOf (ready setting path).run right = resultOf (ready setting path).run left := same
  rw [readyImports?, sameResult, readyImports?]
  cases outcome : resultOf (ready setting path).run left with
  | error fault => rfl
  | ok found =>
      rcases found with ⟨key, readiness⟩
      rcases key_of_ready outcome with rfl
      cases readiness with
      | cached => rfl
      | analysed => exact congrArg (some ·.dependencies) (twinsThen.find_eq different)

theorem taken?_eq
    (twins : Twins file left right)
    (different : setting.normalise (setting.normalise path) ≠ file) :
    taken? setting path right = taken? setting path left := by
  rw [taken?, twins.records _ different, taken?]

theorem rebuildImports?_eq
    (twins : Twins file left right)
    (different : setting.normalise (setting.normalise path) ≠ file) :
    rebuildImports? setting path right = rebuildImports? setting path left := by
  simp only [rebuildImports?, taken?_eq twins different, twins.find_eq different, twins.plugins]
  cases taken? setting path left with
  | none => rfl
  | some text =>
      dsimp only
      rw [readyImports?_eq (twins_reread twins different text) different]

/-- The imports that answering a change records. -/
def answerImports? (setting : Setting) (change : Path × ChangeKind) (bridge : Bridge) :
    Option (List Path) :=
  match change.2 with
  | .modified => rebuildImports? setting change.1 bridge
  | _ => none

/-- What answering a change comes to is the same from both bridges. -/
structure AnswersAlike (setting : Setting) (change : Path × ChangeKind) (left right : Bridge) :
    Prop where
  events : resultOf (answer setting change) right = resultOf (answer setting change) left
  record :
    (endOf (answer setting change) right).registry.get? (changedFile setting change) =
      (endOf (answer setting change) left).registry.get? (changedFile setting change)
  imports : answerImports? setting change right = answerImports? setting change left
  enlisted : enlisted setting change right = enlisted setting change left

/-- A listing that changes is told by what the host follows. -/
theorem resultOf_answerListed (path : Path) (kind : ChangeKind) (bridge : Bridge) :
    resultOf (answerListed setting path kind) bridge =
      match bridge.contexts.affected? setting.normalise path with
      | none => []
      | some dependents => [.listingChanged path dependents] := by
  have asks : resultOf (contextChange setting path) bridge =
      bridge.contexts.affected? setting.normalise path := rfl
  rw [answerListed, resultOf_bind, asks]
  cases bridge.contexts.affected? setting.normalise path <;> rfl

theorem answersAlike_of_listed
    (aligned : Aligned file left right) {kind : ChangeKind}
    (different : changedFile setting (path, kind) ≠ file) (listed : kind ≠ .modified) :
    AnswersAlike setting (path, kind) left right := by
  have answers : answer setting (path, kind) = answerListed setting path kind := by
    cases kind with
    | modified => exact absurd rfl listed
    | created => rfl
    | removed => rfl
  have printed : Keeps Printed (answerListed setting path kind) :=
    keeps_answerListed printed_print path kind
  refine ⟨?_, ?_, ?_, ?_⟩
  · rw [answers, resultOf_answerListed, resultOf_answerListed, aligned.contexts]
  · rw [answers, registry_of_printed (printed right), registry_of_printed (printed left)]
    exact aligned.records _ different
  · cases kind with
    | modified => exact absurd rfl listed
    | created => rfl
    | removed => rfl
  · cases kind with
    | modified => exact absurd rfl listed
    | created => rfl
    | removed => rfl

theorem resultOf_tellRebuilt
    (path : Path) (outcome : Except Fault (List String)) (bridge other : Bridge) :
    resultOf (tellRebuilt path outcome) bridge = resultOf (tellRebuilt path outcome) other := by
  unfold tellRebuilt
  split <;> rfl

/-- A change is answered alike where only another file is told apart. -/
theorem Aligned.answersAlike
    (aligned : Aligned file left right) (fixed : Fixed setting change)
    (apart : (changedFile setting change).same file = false) :
    AnswersAlike setting change left right := by
  have different : changedFile setting change ≠ file := by
    intro same
    rw [same, Path.same, beq_self_eq_true] at apart
    cases apart
  rcases change with ⟨path, kind⟩
  cases kind with
  | created => exact answersAlike_of_listed aligned different (by decide)
  | removed => exact answersAlike_of_listed aligned different (by decide)
  | modified =>
      have other : setting.normalise (setting.normalise path) ≠ file := fixed ▸ different
      rcases matched_rebuildChanged (besides_self setting file) different other left right
        aligned.toTwins with ⟨same, twins⟩
      have sameResult :
          resultOf (rebuildChanged setting path).run right =
            resultOf (rebuildChanged setting path).run left := same
      have printed : ∀ bridge, Printed (endOf (rebuildChanged setting path).run bridge)
          (endOf (answer setting (path, .modified)) bridge) :=
        fun bridge => keeps_tellRebuilt printed_print path _ _
      refine ⟨?_, ?_, ?_, ?_⟩
      · change resultOf (tellRebuilt path (resultOf (rebuildChanged setting path).run right)) _ =
          resultOf (tellRebuilt path (resultOf (rebuildChanged setting path).run left)) _
        rw [sameResult]
        exact resultOf_tellRebuilt _ _ _ _
      · rw [registry_of_printed (printed right), registry_of_printed (printed left)]
        exact twins.records _ different
      · exact rebuildImports?_eq aligned.toTwins other
      · have known : right.hasBuilt (setting.normalise path) =
            left.hasBuilt (setting.normalise path) :=
          aligned.built _ apart
        simp only [enlisted, sameResult, newlyBuilt, known]

/-! ## What an answer leaves behind -/

theorem enlisted_subset (setting : Setting) (change : Path × ChangeKind) (bridge : Bridge) :
    ∀ path ∈ enlisted setting change bridge, path = changedFile setting change := by
  intro path member
  rw [enlisted] at member
  split at member
  · rw [newlyBuilt] at member
    split at member
    · cases member
    · exact List.mem_singleton.1 member
  · cases member

theorem away_answer (fixed : Fixed setting change) :
    Keeps (Away (changedFile setting change)) (answer setting change) := by
  have rebuilds :
      Keeps (Away (changedFile setting change)) (rebuildChanged setting change.1).run :=
    fixed ▸ away_rebuildChanged change.1
  exact keeps_answer (fun show? => keeps_away_of_apart (apart_print show?)) rebuilds

/-- Answering a change leaves all other files alone. -/
theorem aligned_answer
    (idle : bridge.schedule = []) (distinct : bridge.plugins.Distinct)
    (fixed : Fixed setting change) :
    Aligned (changedFile setting change) bridge (endOf (answer setting change) bridge) := by
  have enlists := enlists_answer (fits_of_idle idle) distinct setting change
  rcases away_answer fixed bridge idle with ⟨idleThen, plugins, records⟩
  refine ⟨⟨plugins, idle, idleThen, records⟩, enlists.contexts, ?_⟩
  intro other apart
  apply enlists.hasBuilt_eq
  rw [List.any_eq_false]
  intro path member
  rw [enlisted_subset setting change bridge path member, apart]
  exact Bool.false_ne_true

theorem graph_answer
    (idle : bridge.schedule = []) (distinct : bridge.plugins.Distinct)
    (fixed : Fixed setting change) :
    (endOf (answer setting change) bridge).registry.graph =
      bridge.registry.graph.enter setting.normalise (changedFile setting change)
        (answerImports? setting change bridge) := by
  rcases change with ⟨path, kind⟩
  cases kind with
  | created =>
      exact congrArg Registry.graph
        (registry_of_printed (keeps_answerListed printed_print path .created bridge))
  | removed =>
      exact congrArg Registry.graph
        (registry_of_printed (keeps_answerListed printed_print path .removed bridge))
  | modified =>
      have printed : Printed (endOf (rebuildChanged setting path).run bridge)
          (endOf (answer setting (path, .modified)) bridge) :=
        keeps_tellRebuilt printed_print path _ _
      rw [registry_of_printed printed, graph_rebuildChanged (fits_of_idle idle) distinct]
      exact congrArg (bridge.registry.graph.enter setting.normalise ·
        (rebuildImports? setting path bridge)) fixed

/-! ## Whole batches -/

theorem resultOf_dispatch_cons
    (setting : Setting) (change : Path × ChangeKind) (rest : List (Path × ChangeKind))
    (bridge : Bridge) :
    resultOf (dispatch setting (change :: rest)) bridge =
      resultOf (answer setting change) bridge ++
        resultOf (dispatch setting rest) (endOf (answer setting change) bridge) := by
  simp only [dispatch, List.mapM_cons, resultOf_bind, resultOf_pure, List.flatten_cons]

theorem resultOf_dispatch_append
    (setting : Setting) (earlier later : List (Path × ChangeKind)) (bridge : Bridge) :
    resultOf (dispatch setting (earlier ++ later)) bridge =
      resultOf (dispatch setting earlier) bridge ++
        resultOf (dispatch setting later) (endOf (dispatch setting earlier) bridge) := by
  induction earlier generalizing bridge with
  | nil => rfl
  | cons change rest inductionHypothesis =>
      rw [List.cons_append, resultOf_dispatch_cons, inductionHypothesis, resultOf_dispatch_cons,
        endOf_dispatch_cons, List.append_assoc]

/-- Each change of a batch was answered as it would be alone. -/
structure Dispatched (setting : Setting) (changes : List (Path × ChangeKind)) (before : Bridge)
    (events : List SessionEvent) (after : Bridge) : Prop where
  idle : after.schedule = []
  plugins : after.plugins = before.plugins
  events : events = changes.flatMap fun change => resultOf (answer setting change) before
  records : ∀ change ∈ changes,
    after.registry.get? (changedFile setting change) =
      (endOf (answer setting change) before).registry.get? (changedFile setting change)
  others : ∀ key, (∀ change ∈ changes, changedFile setting change ≠ key) →
    after.registry.get? key = before.registry.get? key
  graph :
    after.registry.graph =
      changes.foldl (fun graph change =>
        graph.enter setting.normalise (changedFile setting change)
          (answerImports? setting change before)) before.registry.graph
  enlists : Enlists (changes.flatMap fun change => enlisted setting change before) before after

theorem Dispatched.cons
    (idle : bridge.schedule = []) (distinct : bridge.plugins.Distinct)
    (separate : Separate setting (change :: changes))
    (fixed : ∀ each ∈ change :: changes, Fixed setting each)
    {events : List SessionEvent} {after : Bridge}
    (dispatched :
      Dispatched setting changes (endOf (answer setting change) bridge) events after) :
    Dispatched setting (change :: changes) bridge
      (resultOf (answer setting change) bridge ++ events) after := by
  let next := endOf (answer setting change) bridge
  have here : Fixed setting change := fixed change List.mem_cons_self
  have aligned : Aligned (changedFile setting change) bridge next :=
    aligned_answer idle distinct here
  rcases List.pairwise_cons.1 separate with ⟨apart, -⟩
  have alike : ∀ each ∈ changes, AnswersAlike setting each bridge next := by
    intro each member
    have fixedEach := fixed each (List.mem_cons_of_mem change member)
    exact aligned.answersAlike fixedEach (fixedEach.apart here (apart each member).symm)
  refine ⟨dispatched.idle, dispatched.plugins.trans aligned.plugins, ?_, ?_, ?_, ?_, ?_⟩
  · rw [dispatched.events, List.flatMap_cons]
    exact congrArg _ (List.flatMap_congr fun each member => (alike each member).events)
  · intro each member
    rcases List.mem_cons.1 member with rfl | later
    · exact dispatched.others _ fun other member => (apart other member).symm
    · rw [dispatched.records each later, (alike each later).record]
  · intro key elsewhere
    have elsewhereLater := fun each member => elsewhere each (List.mem_cons_of_mem change member)
    rw [dispatched.others key elsewhereLater]
    exact aligned.records key (elsewhere change List.mem_cons_self).symm
  · rw [dispatched.graph, List.foldl_cons, graph_answer idle distinct here]
    apply List.foldl_ext
    intro graph each member
    rw [(alike each member).imports]
  · have same : (changes.flatMap fun each => enlisted setting each next) =
        changes.flatMap fun each => enlisted setting each bridge :=
      List.flatMap_congr fun each member => (alike each member).enlisted
    have later := dispatched.enlists
    rw [same] at later
    exact (enlists_answer (fits_of_idle idle) distinct setting change).trans later

theorem dispatched
    (idle : bridge.schedule = []) (distinct : bridge.plugins.Distinct)
    (separate : Separate setting changes) (fixed : ∀ each ∈ changes, Fixed setting each) :
    Dispatched setting changes bridge (resultOf (dispatch setting changes) bridge)
      (endOf (dispatch setting changes) bridge) := by
  induction changes generalizing bridge with
  | nil =>
      exact ⟨idle, rfl, rfl, nofun, fun _ _ => rfl, rfl, refl_of (Enlists []) bridge⟩
  | cons change rest inductionHypothesis =>
      rw [resultOf_dispatch_cons, endOf_dispatch_cons]
      have here : Fixed setting change := fixed change List.mem_cons_self
      have aligned := aligned_answer idle distinct here
      refine .cons idle distinct separate fixed ?_
      exact inductionHypothesis aligned.idleRight (aligned.plugins.symm ▸ distinct)
        (List.pairwise_cons.1 separate).2 fun each member =>
          fixed each (List.mem_cons_of_mem change member)

/-! ## Batches in another order -/

/-- The same records, imports and registrations. -/
structure SameState (left right : Bridge) : Prop where
  records : ∀ key, right.registry.get? key = left.registry.get? key
  uses : ∀ normalise file,
    right.registry.graph.uses? normalise file = left.registry.graph.uses? normalise file
  usedBy : ∀ normalise file,
    right.registry.graph.usedBy normalise file = left.registry.graph.usedBy normalise file
  watches : right.watches = left.watches
  built :
    Option.Rel
      (fun first second =>
        second.isActive = first.isActive ∧ second.folders = first.folders ∧
          second.files.Perm first.files)
      left.builtWatches? right.builtWatches?
  told :
    (right.journal.filterMap Call.watchedBuilt?).Perm (left.journal.filterMap Call.watchedBuilt?)

theorem Separate.perm (separate : Separate setting changes) (perm : others.Perm changes) :
    Separate setting others :=
  List.Pairwise.perm separate perm.symm fun different => different.symm

section

variable {recorded : Path → Option (List Path)} (found? : Path × ChangeKind → Option (List Path))
  (fixed : ∀ each ∈ changes, Fixed setting each)

include fixed

/-- The imports of different files are recorded in any order. -/
theorem foldl_noted_perm (separate : Separate setting changes) (perm : others.Perm changes) :
    changes.foldl (fun recorded change =>
        Graph.noted setting.normalise recorded (changedFile setting change) (found? change))
      recorded =
    others.foldl (fun recorded change =>
        Graph.noted setting.normalise recorded (changedFile setting change) (found? change))
      recorded := by
  refine perm.symm.foldl_eq' ?_ recorded
  intro one oneMember other otherMember known
  by_cases same : one = other
  · rw [same]
  · have apart : Std.Symm fun one other : Path × ChangeKind =>
        changedFile setting one ≠ changedFile setting other :=
      ⟨fun _ _ different => different.symm⟩
    have different : changedFile setting one ≠ changedFile setting other :=
      List.Pairwise.forall separate oneMember otherMember same
    apply Graph.noted_comm
    rwa [fixed one oneMember, fixed other otherMember]

theorem indexesPlain_foldl {graph : Graph} (indexes : graph.IndexesPlain recorded) :
    (changes.foldl (fun graph change =>
        graph.enter setting.normalise (changedFile setting change) (found? change))
      graph).IndexesPlain
      (changes.foldl (fun recorded change =>
        Graph.noted setting.normalise recorded (changedFile setting change) (found? change))
      recorded) := by
  induction changes generalizing graph recorded with
  | nil => exact indexes
  | cons change rest inductionHypothesis =>
      have here : Fixed setting change := fixed change List.mem_cons_self
      have plain : (setting.normalise (changedFile setting change)).IsPlain := by
        rw [here]
        exact here.isPlain
      exact inductionHypothesis (fun each member => fixed each (List.mem_cons_of_mem change member))
        (indexes.enter plain (found? change))

end

section

variable {recorded : Path → Option (List Path)} {events further : List SessionEvent}
  {after last : Bridge} (indexes : bridge.registry.graph.IndexesPlain recorded)
  (separate : Separate setting changes) (fixed : ∀ each ∈ changes, Fixed setting each)
  (perm : others.Perm changes) (first : Dispatched setting changes bridge events after)
  (second : Dispatched setting others bridge further last)

include indexes separate fixed perm first second

/-- Batches of the same changes leave graphs with the same imports and importers. -/
theorem Dispatched.graphs_agree (normalise : Path → Path) (file : Path) :
    last.registry.graph.uses? normalise file = after.registry.graph.uses? normalise file ∧
      last.registry.graph.usedBy normalise file = after.registry.graph.usedBy normalise file := by
  have fixedOthers : ∀ each ∈ others, Fixed setting each :=
    fun each member => fixed each (perm.mem_iff.1 member)
  have charts := indexesPlain_foldl (answerImports? setting · bridge) fixed indexes
  have others := indexesPlain_foldl (answerImports? setting · bridge) fixedOthers indexes
  rw [← first.graph, foldl_noted_perm _ fixed separate perm] at charts
  rw [← second.graph] at others
  exact charts.agree others normalise file

/-- From one bridge, batches of the same changes come to the same in either order. -/
theorem Dispatched.sameState : SameState after last := by
  have graphs := Dispatched.graphs_agree indexes separate fixed perm first second
  have registered :
      (others.flatMap fun change => enlisted setting change bridge).Perm
        (changes.flatMap fun change => enlisted setting change bridge) :=
    perm.flatMap_right _
  refine ⟨?_, fun normalise file => (graphs normalise file).1,
    fun normalise file => (graphs normalise file).2, ?_, ?_, ?_⟩
  · intro key
    by_cases known : ∃ change ∈ changes, changedFile setting change = key
    · rcases known with ⟨change, member, rfl⟩
      rw [first.records change member, second.records change (perm.mem_iff.2 member)]
    · push Not at known
      rw [first.others key known,
        second.others key fun change member => known change (perm.mem_iff.1 member)]
  · exact second.enlists.watches.trans first.enlists.watches.symm
  · rw [first.enlists.built, second.enlists.built]
    cases bridge.builtWatches? with
    | none => exact .none
    | some watches => exact .some ⟨rfl, rfl, registered.append_left watches.files⟩
  · rcases first.enlists.told with ⟨calls, journal, told⟩
    rcases second.enlists.told with ⟨further, journalLast, toldLast⟩
    rw [journal, journalLast, List.filterMap_append, List.filterMap_append, told, toldLast]
    apply List.Perm.append_left
    split
    · exact registered
    · exact .refl _

end

/-! ## Changes that fail -/

/-- A modified file cannot be read again, made ready or built. -/
inductive Fails (setting : Setting) (bridge : Bridge) : Path × ChangeKind → Prop where
  | unread (path : Path) (fault : Fault)
      (onDisk : sourceOnDisk setting.disk (setting.normalise path) = .error fault) :
      Fails setting bridge (path, .modified)
  | unready (path : Path) (text : String) (fault : Fault)
      (onDisk : sourceOnDisk setting.disk (setting.normalise path) = .ok text)
      (refused :
        resultOf (ready setting (setting.normalise path)).run
          (reread setting (setting.normalise path) text bridge) = .error fault) :
      Fails setting bridge (path, .modified)
  | unbuilt (path : Path) (text : String) (fault : Fault)
      (onDisk : sourceOnDisk setting.disk (setting.normalise path) = .ok text)
      (refused :
        resultOf
          (build setting (setting.normalise path)
            (bridge.plugins.owner (setting.normalise path)) none
            (setting.normalise path).display).run
          (reread setting (setting.normalise path) text bridge) = .error fault) :
      Fails setting bridge (path, .modified)

/-- Nothing is built where the build fails that the text on disk leads to. -/
theorem names_of_failed
    (quiet : Fits nobody bridge) (distinct : bridge.plugins.Distinct)
    (failed : ∀ text, sourceOnDisk setting.disk (setting.normalise path) = .ok text →
      (resultOf
        (build setting (setting.normalise path) (bridge.plugins.owner (setting.normalise path)) none
          (setting.normalise path).display).run
        (reread setting (setting.normalise path) text bridge)).isOk = false) :
    ∀ names, resultOf (rebuildChanged setting path).run bridge = .ok names → names = [] := by
  have rebuilds := rebuilding quiet setting path
  generalize resultOf (rebuildChanged setting path).run bridge = outcome at rebuilds ⊢
  generalize endOf (rebuildChanged setting path).run bridge = after at rebuilds
  cases rebuilds with
  | untaken untaken idle elapsed => exact idle
  | unchanged text taken known printed => exact fun names same => (Except.ok.inj same).symm
  | changed text taken told =>
      intro names same
      have influx := influx_reread setting (setting.normalise path) text bridge
      have distinctThen := influx.plugins.symm ▸ distinct
      rcases Except.ok.inj same with rfl
      rw [resultOf, run_crossBuild distinctThen, influx.plugins, resultOf_buildAside,
        failed text (onDisk_of_taken taken)]
      split <;> rfl

theorem events_of_failed
    (failed : ∀ names, resultOf (rebuildChanged setting path).run bridge = .ok names →
      names = []) :
    resultOf (answer setting (path, .modified)) bridge = [] := by
  change resultOf (tellRebuilt path (resultOf (rebuildChanged setting path).run bridge)) _ = []
  cases outcome : resultOf (rebuildChanged setting path).run bridge with
  | error fault => rfl
  | ok names =>
      rcases failed names outcome with rfl
      rfl

/-- A change that fails is not told of. -/
theorem events_of_fails
    (quiet : Fits nobody bridge) (distinct : bridge.plugins.Distinct)
    (fails : Fails setting bridge change) : resultOf (answer setting change) bridge = [] := by
  cases fails with
  | unread path fault onDisk =>
      refine events_of_failed (names_of_failed quiet distinct ?_)
      intro text found
      cases onDisk.symm.trans found
  | unready path text fault onDisk refused =>
      refine events_of_failed (names_of_failed quiet distinct ?_)
      intro other found
      rcases Except.ok.inj (onDisk.symm.trans found) with rfl
      rw [build_eq, (attempt_of_error refused _).1]
      rfl
  | unbuilt path text fault onDisk refused =>
      refine events_of_failed (names_of_failed quiet distinct ?_)
      intro other found
      rcases Except.ok.inj (onDisk.symm.trans found) with rfl
      rw [refused]
      rfl

/-! ## Changes that are told of -/

/-- A build goes well whose text has no errors and whose pipeline answers with an artifact. -/
theorem isOk_build
    (steady : Steady setting.analyzer bridge) {text : String} {analysis : Analysis}
    {plugin : Plugin} {selector? : Option String} (resource : String)
    (known : textOf? setting (setting.normalise path) bridge = some text)
    (found : setting.analyzer.analyse (setting.normalise path) text = .ok analysis)
    (clean : ∀ found ∈ analysis.diagnostics, found.isError = false)
    (answers : ∀ view, ∃ artifact, answerOf setting plugin view selector? = .built artifact []) :
    (resultOf (build setting path plugin selector? resource).run bridge).isOk = true := by
  cases readied_of_steady steady known with
  | refused message refuses failed => cases found.symm.trans refuses
  | ready other readiness succeeded holds =>
      rcases Except.ok.inj (found.symm.trans holds.1) with rfl
      rw [(building_of_ready succeeded plugin selector? resource).1, builtFrom,
        view_of_holds holds]
      dsimp only
      rw [sifted_eq_ok_iff.2 ⟨clean, rfl⟩]
      dsimp only
      split
      · rfl
      · rcases answers _ with ⟨artifact, answered⟩
        rw [delivered_of_clean answered (List.forall_mem_nil _)]
        rfl

/-- A text that is new to the watcher is told of when its pipeline builds it. -/
theorem events_of_built
    {key : Path} {owner : Plugin} {text : String} (finds : Finds setting path key owner text bridge)
    (quiet : Fits nobody bridge) (distinct : bridge.plugins.Distinct)
    (told : verdict (bridge.registry.find key) text = .changed)
    (built :
      (resultOf
        (build setting (setting.normalise path) owner none (setting.normalise path).display).run
        (reread setting (setting.normalise path) text bridge)).isOk = true) :
    resultOf (answer setting (path, .modified)) bridge = [.rebuilt path [owner.name]] := by
  have rebuilt : resultOf (rebuildChanged setting path).run bridge = .ok [owner.name] := by
    have rebuilds := rebuilding quiet setting path
    generalize resultOf (rebuildChanged setting path).run bridge = outcome at rebuilds ⊢
    generalize endOf (rebuildChanged setting path).run bridge = after at rebuilds
    cases rebuilds with
    | untaken untaken idle elapsed => cases untaken.symm.trans finds.taken
    | unchanged other taken known printed =>
        rcases Option.some.inj (taken.symm.trans finds.taken) with rfl
        rw [finds.normal] at known
        cases known.symm.trans told
    | changed other taken changed =>
        rcases Option.some.inj (taken.symm.trans finds.taken) with rfl
        have influx := influx_reread setting (setting.normalise path) other bridge
        have distinctThen := influx.plugins.symm ▸ distinct
        rw [resultOf, run_crossBuild distinctThen, influx.plugins, finds.owner,
          finds.auxiliary, if_neg Bool.false_ne_true, resultOf_buildAside, built]
        rfl
  change resultOf (tellRebuilt path (resultOf (rebuildChanged setting path).run bridge)) _ = _
  rw [rebuilt]
  rfl

/-- Behind other changes, a change is answered as it would be alone. -/
theorem resultOf_answer_behind
    (idle : bridge.schedule = []) (distinct : bridge.plugins.Distinct)
    (separate : Separate setting (changes ++ [change]))
    (fixed : ∀ each ∈ changes ++ [change], Fixed setting each) :
    resultOf (answer setting change) (endOf (dispatch setting changes) bridge) =
      resultOf (answer setting change) bridge := by
  have before := dispatched idle distinct (List.pairwise_append.1 separate).1 fun each member =>
    fixed each (List.mem_append_left _ member)
  have whole := (dispatched idle distinct separate fixed).events
  rw [resultOf_dispatch_append, before.events, List.flatMap_append, resultOf_dispatch_cons,
    List.flatMap_cons] at whole
  have behind := List.append_cancel_left whole
  rwa [List.flatMap_nil, List.append_nil, show ∀ bridge, resultOf (dispatch setting []) bridge = []
    from fun _ => rfl, List.append_nil] at behind

/--
Wherever a session has come to and nothing comes in meanwhile, a batch of changes of
different files is answered change by change as each would be alone, where the files are
their own normal forms.  In any other order it is answered by the same events in that order,
and it leaves the same records, imports and registrations.  A change that cannot be read
again, made ready or built is not told of, and without it the batch is told the same.
-/
theorem dispatch_independent
    {settings : Setting → Prop} {ledger : Ledger} (reached : Reached settings bridge ledger)
    (idle : bridge.schedule = []) (distinct : bridge.plugins.Distinct) (setting : Setting)
    (changes : List (Path × ChangeKind)) (separate : Separate setting changes)
    (fixed : ∀ change ∈ changes, Fixed setting change) :
    (∀ others, others.Perm changes →
      resultOf (dispatch setting others) bridge =
          others.flatMap (fun change => resultOf (answer setting change) bridge) ∧
        SameState (endOf (dispatch setting changes) bridge)
          (endOf (dispatch setting others) bridge)) ∧
      ∀ earlier change later, changes = earlier ++ change :: later →
        let current := endOf (dispatch setting earlier) bridge
        Fails setting current change →
          resultOf (answer setting change) current = [] ∧
            resultOf (dispatch setting (earlier ++ later)) bridge =
              resultOf (dispatch setting changes) bridge := by
  rcases indexed_of_reached reached with ⟨recorded, indexes⟩
  have whole := dispatched idle distinct separate fixed
  constructor
  · intro others perm
    have second := dispatched idle distinct (separate.perm perm) fun change member =>
      fixed change (perm.mem_iff.1 member)
    exact ⟨second.events, Dispatched.sameState indexes separate fixed perm whole second⟩
  · rintro earlier change later rfl current fails
    have front : (earlier ++ [change]).Sublist (earlier ++ change :: later) := by simp
    have rest : (earlier ++ later).Sublist (earlier ++ change :: later) := by simp
    have before := dispatched idle distinct (List.pairwise_append.1 separate).1
      fun each member => fixed each (List.mem_append_left _ member)
    have untold : resultOf (answer setting change) current = [] :=
      events_of_fails (fits_of_idle before.idle) (before.plugins.symm ▸ distinct) fails
    have alone := resultOf_answer_behind idle distinct (separate.sublist front) fun each member =>
      fixed each (front.subset member)
    have without := dispatched idle distinct (separate.sublist rest) fun each member =>
      fixed each (rest.subset member)
    refine ⟨untold, ?_⟩
    rw [without.events, whole.events, List.flatMap_append, List.flatMap_append, List.flatMap_cons,
      ← alone, untold, List.nil_append]

/-- A text that the watcher does not know is built for the file of the server. -/
theorem events_handedBridge :
    resultOf (answer (asideSetting "a" false (.built default [])) (⟨"/s/a.es"⟩, .modified))
      handedBridge = [.rebuilt ⟨"/s/a.es"⟩ ["server"]] := by
  let setting := asideSetting "a" false (.built default [])
  have holds := holds_handedBridge
  have here : setting.normalise ⟨"/s/a.es"⟩ = ⟨"/s/a.es"⟩ := normalise_aside _ _ _
  have finds := holds.finds "a" (.built default [])
  have found : handedBridge.registry.find ⟨"/s/a.es"⟩ = _ := find_handedAside "a" false "b"
  have steady : Steady setting.analyzer handedBridge := holds.steady
  have held :
      textOf? setting (setting.normalise ⟨"/s/a.es"⟩)
        (reread setting ⟨"/s/a.es"⟩ "a" handedBridge) = some "a" :=
    textOf?_of_held (source?_reread steady (here.symm ▸ faithful_handedBridge))
  have name : asideOwner.name = "server" := by cbv
  rw [← name]
  refine events_of_built finds (fits_of_idle idle_handedBridge) holds.distinct ?_ ?_
  · rw [found, verdict_handedAside, if_neg digest_a_ne_b.symm]
  · rw [here]
    exact isOk_build (steady_reread steady _ "a") _ held rfl (List.forall_mem_nil _)
      fun _ => ⟨_, rfl⟩

/-- A file that is not on disk, and one with a text that the watcher does not know. -/
theorem dispatch_independent_handed :
    let setting := asideSetting "a" false (.built default [])
    let missing : Path × ChangeKind := (⟨"/s/b.es"⟩, .modified)
    let present : Path × ChangeKind := (⟨"/s/a.es"⟩, .modified)
    handedBridge.schedule = [] ∧ handedBridge.plugins.Distinct ∧
      Separate setting [missing, present] ∧
      (∀ change ∈ [missing, present], Fixed setting change) ∧
      Fails setting handedBridge missing ∧
      resultOf (dispatch setting [present, missing]) handedBridge =
        [.rebuilt ⟨"/s/a.es"⟩ ["server"]] ∧
      resultOf (dispatch setting [missing, present]) handedBridge =
        resultOf (dispatch setting [present]) handedBridge ∧
      SameState (endOf (dispatch setting [missing, present]) handedBridge)
        (endOf (dispatch setting [present, missing]) handedBridge) := by
  intro setting missing present
  have holds := holds_handedBridge
  have here : setting.normalise ⟨"/s/a.es"⟩ = ⟨"/s/a.es"⟩ := normalise_aside _ _ _
  have there : setting.normalise ⟨"/s/b.es"⟩ = ⟨"/s/b.es"⟩ := by cbv
  have onDisk : sourceOnDisk setting.disk ⟨"/s/b.es"⟩ = .error (.notFound ⟨"/s/b.es"⟩) := by cbv
  have separate : Separate setting [missing, present] := by
    rw [Separate, List.pairwise_pair, changedFile, changedFile, here, there]
    decide
  have fixed : ∀ change ∈ [missing, present], Fixed setting change := by
    intro change member
    rcases List.mem_pair.1 member with rfl | rfl
    · rw [Fixed, changedFile, there, there]
    · rw [Fixed, changedFile, here, here]
  have fails : Fails setting handedBridge missing :=
    .unread _ _ (there.symm ▸ onDisk)
  have built : resultOf (answer setting present) handedBridge = _ := events_handedBridge
  rcases reached_handedBridge with ⟨ledger, reached⟩
  have whole := dispatch_independent reached idle_handedBridge holds.distinct setting
    [missing, present] separate fixed
  rcases whole.1 [present, missing] (.swap _ _ _) with ⟨told, same⟩
  rcases whole.2 [] missing [present] rfl fails with ⟨untold, without⟩
  refine ⟨idle_handedBridge, holds.distinct, separate, fixed, fails, ?_, without.symm, same⟩
  have untoldAlone : resultOf (answer setting missing) handedBridge = [] := untold
  rw [told, List.flatMap_cons, List.flatMap_singleton, built, untoldAlone, List.append_nil]

/-! ## Changes that lead to one record -/

/-- Of two changes that lead to one text of one record, only the first is told of. -/
theorem events_of_shared
    {first second key : Path} {owner : Plugin} {text : String}
    (idle : bridge.schedule = []) (steady : Steady setting.analyzer bridge)
    (distinct : bridge.plugins.Distinct) (finds : Finds setting first key owner text bridge)
    (faithful : Faithful key text bridge)
    (shared : setting.normalise (setting.normalise second) = key)
    (onDisk : sourceOnDisk setting.disk (setting.normalise second) = .ok text) :
    resultOf (answer setting (second, .modified))
      (endOf (answer setting (first, .modified)) bridge) = [] := by
  let rebuilt := endOf (rebuildChanged setting first).run bridge
  let after := endOf (answer setting (first, .modified)) bridge
  have printed : Printed rebuilt after := printed_answerModified first bridge
  have dealt : dealt? key after = some (Digest.of text) := by
    rw [dealt?_of_registry (registry_of_printed printed)]
    exact dealt?_of_finds finds steady distinct faithful
  have idleThen : after.schedule = [] := by
    rcases printed with ⟨console, told⟩
    rw [told]
    exact (away_rebuildChanged first bridge idle).1
  apply events_of_failed
  have rebuilds := rebuilding (fits_of_idle idleThen) setting second
  generalize resultOf (rebuildChanged setting second).run after = outcome at rebuilds ⊢
  generalize endOf (rebuildChanged setting second).run after = last at rebuilds
  cases rebuilds with
  | untaken untaken passed elapsed => exact passed
  | unchanged other taken known toldNothing => exact fun names same => (Except.ok.inj same).symm
  | changed other taken told =>
      rcases Except.ok.inj ((onDisk_of_taken taken).symm.trans onDisk) with rfl
      rw [shared, verdict_of_dealt dealt, if_pos rfl] at told
      cases told

/-- A file of the server, and a link to its directory beside one that does not exist. -/
def crossedSetting : Setting :=
  { asideSetting "a" false (.built default []) with
    disk :=
      ⟨[(["s"], .directory), (["s", "r"], .directory), (["s", "r", "a.es"], .file (some "a")),
        (["s", "l"], .link "/s/r")], []⟩ }

/-- A bridge that knows the file. -/
def crossedBridge : Bridge :=
  endOf (openRecord crossedSetting ⟨"/s/r/a.es"⟩) linkedBridge

/-- Both changes lead to the record of the file, with normal forms of their own. -/
theorem normalise_crossed :
    crossedSetting.normalise ⟨"/s/r/a.es"⟩ = ⟨"/s/r/a.es"⟩ ∧
      crossedSetting.normalise ⟨"/s/n/../l/a.es"⟩ = ⟨"/s/l/a.es"⟩ ∧
      crossedSetting.normalise ⟨"/s/l/a.es"⟩ = ⟨"/s/r/a.es"⟩ := by
  refine ⟨?_, ?_, ?_⟩ <;> cbv

theorem known_crossedBridge :
    crossedBridge.registry.get? ⟨"/s/r/a.es"⟩ = some (.fresh ⟨"/s/r/a.es"⟩) := by
  rw [crossedBridge, endOf_openRecord, normalise_crossed.1, Registry.get?_create_self]
  rfl

theorem steady_crossedBridge : Steady crossedSetting.analyzer crossedBridge where
  quiet := fits_of_idle rfl
  coherent _ := by
    rw [crossedBridge, find_openRecord]
    exact Record.coherent_fresh _ _

theorem faithful_crossedBridge : Faithful ⟨"/s/r/a.es"⟩ "a" crossedBridge := by
  intro held source
  rw [Registry.find_of_get? known_crossedBridge] at source
  cases source

/-- A path by which the file is reached, and the pipeline that owns what it is written as. -/
structure Crosses (path file : Path) : Prop where
  normal : crossedSetting.normalise path = file
  leads : crossedSetting.normalise file = ⟨"/s/r/a.es"⟩
  onDisk : sourceOnDisk crossedSetting.disk file = .ok "a"
  owned : linkedPlugins.owner file = asideOwner

theorem crosses_straight : Crosses ⟨"/s/r/a.es"⟩ ⟨"/s/r/a.es"⟩ :=
  ⟨normalise_crossed.1, normalise_crossed.1, by cbv, by cbv⟩

theorem crosses_linked : Crosses ⟨"/s/n/../l/a.es"⟩ ⟨"/s/l/a.es"⟩ :=
  ⟨normalise_crossed.2.1, normalise_crossed.2.2, by cbv, by cbv⟩

theorem Crosses.finds (crosses : Crosses path file) :
    Finds crossedSetting path ⟨"/s/r/a.es"⟩ asideOwner "a" crossedBridge where
  normal := by rw [crosses.normal, crosses.leads]
  owner := by
    rw [crosses.normal]
    exact crosses.owned
  auxiliary := owner_aside.1
  taken := by
    have known :
        crossedBridge.registry.get? (crossedSetting.normalise (crossedSetting.normalise path)) =
          some (.fresh ⟨"/s/r/a.es"⟩) := by
      rw [crosses.normal, crosses.leads, known_crossedBridge]
    rw [(rebuildChanged_of_followed known rfl).1, crosses.normal, crosses.onDisk]
    rfl

/-- By either path the file is built, and told of under that path. -/
theorem Crosses.events (crosses : Crosses path file) :
    resultOf (answer crossedSetting (path, .modified)) crossedBridge =
      [.rebuilt path ["server"]] := by
  have name : asideOwner.name = "server" := by cbv
  have known := Registry.find_of_get? known_crossedBridge
  have held :
      textOf? crossedSetting (crossedSetting.normalise file)
        (reread crossedSetting file "a" crossedBridge) = some "a" :=
    textOf?_of_held
      (source?_reread steady_crossedBridge (crosses.leads.symm ▸ faithful_crossedBridge))
  rw [← name]
  refine events_of_built crosses.finds (fits_of_idle rfl) distinct_linkedPlugins ?_ ?_
  · rw [known]
    simp [verdict, Record.judge, Record.observe, Record.replace, Record.fresh, Record.memory?]
  · rw [crosses.normal]
    exact isOk_build (steady_reread steady_crossedBridge file "a") _ held rfl
      (List.forall_mem_nil _) fun _ => ⟨_, rfl⟩

/-- The path that comes first is told of, and the other one is not. -/
theorem Crosses.dispatch
    {other last : Path} (crosses : Crosses path file) (crossesOther : Crosses other last) :
    resultOf (dispatch crossedSetting [(path, .modified), (other, .modified)]) crossedBridge =
      [.rebuilt path ["server"]] := by
  have shared :
      resultOf (answer crossedSetting (other, .modified))
        (endOf (answer crossedSetting (path, .modified)) crossedBridge) = [] :=
    events_of_shared rfl steady_crossedBridge distinct_linkedPlugins crosses.finds
      faithful_crossedBridge crossesOther.finds.normal
      (crossesOther.normal.symm ▸ crossesOther.onDisk)
  rw [resultOf_dispatch_cons, crosses.events, resultOf_dispatch_cons, shared]
  rfl

/--
The changes of a file as it is and through the link have different normal forms, but they
lead to one record: in either order, the one that comes first is told of and the other one
is not.
-/
theorem order_matters_through_link :
    let straight : Path × ChangeKind := (⟨"/s/r/a.es"⟩, .modified)
    let linked : Path × ChangeKind := (⟨"/s/n/../l/a.es"⟩, .modified)
    (∃ ledger, Reached (fun _ => True) crossedBridge ledger) ∧ crossedBridge.schedule = [] ∧
      crossedBridge.plugins.Distinct ∧ Separate crossedSetting [straight, linked] ∧
      [linked, straight].Perm [straight, linked] ∧
      resultOf (dispatch crossedSetting [straight, linked]) crossedBridge =
        [.rebuilt ⟨"/s/r/a.es"⟩ ["server"]] ∧
      resultOf (dispatch crossedSetting [linked, straight]) crossedBridge =
        [.rebuilt ⟨"/s/n/../l/a.es"⟩ ["server"]] := by
  intro straight linked
  have reached : Reached (fun _ => True) crossedBridge .blank :=
    .influx (.start linkedBridge rfl) (influx_openRecord ⟨"/s/r/a.es"⟩ linkedBridge)
  have separate : Separate crossedSetting [straight, linked] := by
    rw [Separate, List.pairwise_pair, changedFile, changedFile, crosses_straight.normal,
      crosses_linked.normal]
    decide
  exact ⟨⟨_, reached⟩, rfl, distinct_linkedPlugins, separate, .swap _ _ _,
    crosses_straight.dispatch crosses_linked, crosses_linked.dispatch crosses_straight⟩

end ModuleBridge.Bridge
