import ModuleBridge.Proofs.Bridge.Asides

/-!
# Files that only declare things

Where the analyzer tells by the path alone which files only declare things, the mark is
part of the analysis, and goes with it when another text comes in.  A load sees to the
analysis before it looks at the mark, so that its cross build leaves such files alone.  A
rebuild looks first: it builds such a file exactly when the analysis is gone.
-/

namespace ModuleBridge

variable {declares : Path → Bool} {key : Path}

/-- The call does not have a file built that only declares things. -/
def Call.Spares (declares : Path → Bool) : Call → Prop
  | .build _ path _ _ _ => declares path = false
  | _ => True

theorem Call.spares_of_unhanded (declares : Path → Bool) {call : Call}
    (free : Bridge.Unhanded call) : call.Spares declares := by
  cases call with
  | build => cases free
  | _ => trivial

theorem Call.spares_of_handed
    {call : Call} {plugin : Nat} {path : Path} (handed : call.handed? = some (plugin, path))
    (followed : declares path = false) : call.Spares declares := by
  cases call with
  | build =>
      cases handed
      exact followed
  | _ => trivial

/-! ## The mark of a record -/

namespace Record

variable {record other : Record}

/-- The mark of an analysis is the one of the path. -/
def Marked (declares : Path → Bool) (key : Path) (record : Record) : Prop :=
  ∀ analysed, record.analysed? = some analysed → analysed.analysis.descriptionOnly = declares key

theorem Marked.of_analysed
    (marked : other.Marked declares key) (same : record.analysed? = other.analysed?) :
    record.Marked declares key := by
  intro analysed stored
  rw [same] at stored
  exact marked analysed stored

theorem Marked.act
    (marked : record.Marked declares key) {action : Action} (brings : action.bringsText) :
    (record.act action).Marked declares key := by
  rcases core_act_of_bringsText brings record with same | ⟨text, renews⟩
  · exact marked.of_analysed (fields_of_core_eq same).2.2.2.1
  · intro analysed stored
    rw [(fields_of_core_eq renews).2.2.2.1] at stored
    cases stored

theorem Marked.storeAnalysis
    (marked : record.Marked declares key) {analysis : Analysis}
    (mark : analysis.descriptionOnly = declares key) (revision : Nat) (sections : Snapshot) :
    (record.storeAnalysis revision analysis sections).1.Marked declares key := by
  unfold Record.storeAnalysis
  split
  · split
    · rintro _ ⟨⟩
      exact mark
    · exact marked
  · exact marked

theorem Marked.storeBuild (marked : record.Marked declares key) (slot : Slot) :
    (record.storeBuild slot).1.Marked declares key := by
  unfold Record.storeBuild
  split <;> exact marked

/-- As long as there is an analysis, the record tells what the path tells. -/
theorem Marked.isDescriptionOnly
    (marked : record.Marked declares key) (present : record.analysed?.isSome) :
    record.isDescriptionOnly = declares key := by
  rcases Option.isSome_iff_exists.1 present with ⟨analysed, stored⟩
  rw [Record.isDescriptionOnly, analysis?, stored]
  exact marked analysed stored

end Record

namespace Bridge

variable {setting : Setting} {before after bridge : Bridge} {ledger : Ledger} {path : Path}

/-- Surroundings whose analyzer tells by the path which files only declare things. -/
def MarksBy (declares : Path → Bool) (setting : Setting) : Prop :=
  ∀ path text analysis,
    setting.analyzer.analyse path text = .ok analysis → analysis.descriptionOnly = declares path

/-- The marks are those of the paths. -/
def Marked (declares : Path → Bool) (bridge : Bridge) : Prop :=
  ∀ key, (bridge.registry.find key).Marked declares key

theorem Marked.influx (marked : Marked declares before) (influx : Influx before after) :
    Marked declares after := by
  intro key
  have step :
      ∀ record action, textsOnly key record action →
        record.Marked declares key → (record.act action).Marked declares key :=
    fun record action brings held => held.act brings
  exact (influx.registry.record key).keeps step (marked key)

theorem Marked.put
    (marked : Marked declares bridge) {record : Record} (mark : record.Marked declares key) :
    Marked declares { bridge with registry := bridge.registry.put key record } :=
  Registry.forall_find_put marked mark

/-- Wherever a session comes to, the marks are those of the paths. -/
theorem marked_of_reached (reached : Reached (MarksBy declares) bridge ledger) :
    Marked declares bridge := by
  induction reached with
  | start bridge empty =>
      intro key analysed stored
      rw [empty] at stored
      cases stored
  | influx _ influx marked => exact marked.influx influx
  | host _ plugins schedule marked => exact marked
  | marked _ key record same marked =>
      exact marked.put ((marked key).of_analysed (Record.fields_of_core_eq same).2.2.2.1)
  | analysed _ setting path key revision text analysis marks normal invalid found accepted marked =>
      have named := marks key text analysis found
      have stored :=
        marked.put ((marked key).storeAnalysis named revision (analysis.sections text))
      exact stored
  | built _ setting key plugin view selector? artifact diagnostics among viewed answer clean
      marked =>
      rename_i bridge _ _
      have answers : Influx bridge (answered setting key plugin view selector? bridge) :=
        influx_answered bridge
      have markedThen := marked.influx answers
      exact markedThen.put ((markedThen key).storeBuild _)
  | disposed _ _ => exact fun _ _ stored => by cases stored

/-! ## Loads -/

section

variable (reached : Reached (MarksBy declares) bridge ledger) (marks : MarksBy declares setting)

include reached

/-- A cross build of a file that produces code leaves the others alone. -/
theorem spares_crossBuild (followed : declares (setting.normalise path) = false) :
    Makes (Call.Spares declares) bridge (endOf (crossBuild setting path) bridge) := by
  have free : ∀ call : Call, call.handed? = none → call.Spares declares :=
    fun call free => call.spares_of_unhanded declares free
  have own : ∀ call : Call,
      call.handed? = some ((bridge.plugins.owner path).id, setting.normalise path) →
        call.Spares declares :=
    fun call handed => call.spares_of_handed handed followed
  exact (serves_crossBuild free own bridge (orderly_of_reached reached)).2

include marks

/-- The preparation of a load has no file built that only declares things. -/
theorem spares_prepare (plugin : Plugin) (path : Path) :
    Makes (Call.Spares declares) bridge (endOf (prepare setting plugin path).run bridge) := by
  have readies : Makes (Call.Spares declares) bridge (endOf (ready setting path).run bridge) :=
    makes_ready (fun call free => call.spares_of_unhanded declares free) path bridge
  cases outcome : resultOf (ready setting path).run bridge with
  | error fault =>
      rw [prepare, (attempt_of_error outcome _).2]
      exact readies
  | ok found =>
      rcases found with ⟨key, readiness⟩
      rcases key_of_ready outcome with rfl
      let key := setting.normalise path
      let readied := endOf (ready setting path).run bridge
      let seen := seenReady setting plugin path bridge
      rcases leads_ready marks path bridge ledger reached with ⟨later, reachedReady⟩
      have reachedSeen : Reached (MarksBy declares) seen later :=
        reachedReady.marked key _ (Record.core_markSeen _ _ _)
      have sees : Makes (Call.Spares declares) readied seen := makes_of_journal rfl
      have tells : (seen.registry.find key).isDescriptionOnly = declares key := by
        have same : (seen.registry.find key).core = (readied.registry.find key).core :=
          Registry.core_put (Record.core_markSeen _ _ _) key
        refine (marked_of_reached reachedSeen key).isDescriptionOnly ?_
        rw [(Record.fields_of_core_eq same).2.2.2.1]
        exact (accounted_of_reached reachedReady key).coherent.isValid_iff.1
          (valid_of_ready outcome)
      refine trans_of (Makes (Call.Spares declares)) readies ?_
      refine trans_of (Makes (Call.Spares declares)) sees ?_
      rw [endOf_prepare outcome plugin]
      split
      · rename_i builds
        have followed : declares key = false := by
          rw [← tells]
          simpa using (Bool.and_eq_true_iff.1 builds).2
        exact spares_crossBuild reachedSeen followed
      · exact refl_of (Makes (Call.Spares declares)) seen

end

/-! ## Rebuilds -/

/-- A file that only declares things is known, but its analysis is gone. -/
structure Unmarked (declares : Path → Bool) (setting : Setting) (path : Path) (bridge : Bridge) :
    Prop where
  declared : declares (setting.normalise (setting.normalise path)) = true
  gone :
    ∃ record, bridge.registry.get? (setting.normalise (setting.normalise path)) = some record ∧
      record.analysed? = none

/-- A rebuild has a file that only declares things built only when its analysis is gone. -/
theorem spares_rebuildChanged
    (reached : Reached (MarksBy declares) bridge ledger)
    (marked : ¬Unmarked declares setting path bridge) :
    Makes (Call.Spares declares) bridge (endOf (rebuildChanged setting path).run bridge) := by
  let key := setting.normalise (setting.normalise path)
  cases declared : declares key with
  | false =>
      have free : ∀ call : Call, call.handed? = none → call.Spares declares :=
        fun call free => call.spares_of_unhanded declares free
      exact (serves_rebuildChanged free (fun call handed => call.spares_of_handed handed declared)
        bridge (orderly_of_reached reached)).2
  | true =>
      have passed : ∀ record, bridge.registry.get? key = some record →
          record.isDescriptionOnly = true := by
        intro record known
        have found := Registry.find_of_get? known
        have present : record.analysed?.isSome := by
          cases stored : record.analysed? with
          | some analysed => rfl
          | none => exact absurd ⟨declared, record, known, stored⟩ marked
        have tells := marked_of_reached reached key
        rw [found] at tells
        exact (tells.isDescriptionOnly present).trans declared
      have idle := (rebuildChanged_of_passed passed).2
      rw [endOf, idle]
      exact refl_of (Makes (Call.Spares declares)) bridge

/-- The text on disk is new to the watcher and has no errors, and an auxiliary pipeline owns it. -/
structure Stirs (setting : Setting) (path : Path) (text : String) (bridge : Bridge) : Prop where
  onDisk : sourceOnDisk setting.disk (setting.normalise path) = .ok text
  other :
    verdict (bridge.registry.find (setting.normalise (setting.normalise path))) text = .changed
  clean :
    ∃ analysis,
      setting.analyzer.analyse (setting.normalise (setting.normalise path)) text = .ok analysis ∧
        ∀ found ∈ analysis.diagnostics, found.isError = false
  auxiliary : (bridge.plugins.owner (setting.normalise path)).isMain = false

/-- Where nobody interrupts, a rebuild builds such a file when its analysis is gone. -/
theorem builds_declared_iff
    (reached : Reached (MarksBy declares) bridge ledger)
    (steady : Steady setting.analyzer bridge) (distinct : bridge.plugins.Distinct)
    (faithful : ∀ text, taken? setting path bridge = some text →
      Faithful (setting.normalise (setting.normalise path)) text bridge) :
    (∃ call, Made call bridge (endOf (rebuildChanged setting path).run bridge) ∧
        ¬call.Spares declares) ↔
      Unmarked declares setting path bridge ∧ ∃ text, Stirs setting path text bridge := by
  let file := setting.normalise path
  let key := setting.normalise file
  have accounted := accounted_of_reached reached
  constructor
  · rintro ⟨call, made, builds⟩
    have unmarked : Unmarked declares setting path bridge := by
      by_contra marked
      exact builds (made.allowed (spares_rebuildChanged reached marked))
    have handed : ¬Unhanded call := fun free => builds (call.spares_of_unhanded declares free)
    rcases (made_rebuildChanged_iff steady accounted distinct faithful handed).1 made with
      ⟨auxiliary, text, taken, other, buildable, -⟩
    exact ⟨unmarked, text, onDisk_of_taken taken, other, buildable.clean, auxiliary⟩
  · rintro ⟨unmarked, text, stirs⟩
    rcases unmarked.gone with ⟨record, known, gone⟩
    have found : bridge.registry.find key = record := Registry.find_of_get? known
    have taken : taken? setting path bridge = some text := by
      have followed : record.isDescriptionOnly = false := by
        rw [Record.isDescriptionOnly, Record.analysis?, gone]
        rfl
      rw [(rebuildChanged_of_followed known followed).1, stirs.onDisk]
      rfl
    let current := reread setting file text bridge
    have empty : (current.registry.find key).slot? = none := by
      refine slot?_of_influx (influx_reread setting file text bridge) ?_
      cases stored : (bridge.registry.find key).slot? with
      | none => rfl
      | some slot =>
          have present := ((accounted key).coherent.built slot stored).1
          rw [found, gone] at present
          cases present
    let owner := bridge.plugins.owner file
    let call := buildCall key owner none current
    have unbuilt :
        (current.registry.find key).reusable? owner.id (current.registry.find key).revision none =
          none :=
      reusable?_of_unbuilt empty _ _ _
    have builds : ¬call.Spares declares := by
      intro spares
      cases unmarked.declared.symm.trans spares
    have handed : ¬Unhanded call := handed_build _ _ _ _ _
    refine ⟨call, ?_, builds⟩
    refine (made_rebuildChanged_iff steady accounted distinct faithful handed).2 ?_
    exact ⟨stirs.auxiliary, text, taken, stirs.other, ⟨stirs.clean, unbuilt⟩, rfl⟩

/-! ## Batches -/

/-- A rebuild in a batch comes to a file whose analysis is gone by then. -/
def UnmarkedAmong (declares : Path → Bool) (setting : Setting)
    (changes : List (Path × ChangeKind)) (bridge : Bridge) : Prop :=
  ∃ done path rest, changes = done ++ (path, .modified) :: rest ∧
    Unmarked declares setting path (endOf (dispatch setting done) bridge)

theorem spares_answer
    (reached : Reached (MarksBy declares) bridge ledger) {change : Path × ChangeKind}
    (marked : change.2 = .modified → ¬Unmarked declares setting change.1 bridge) :
    Makes (Call.Spares declares) bridge (endOf (answer setting change) bridge) := by
  rcases change with ⟨path, kind⟩
  cases kind with
  | modified =>
      exact trans_of (Makes (Call.Spares declares)) (spares_rebuildChanged reached (marked rfl))
        (keeps_tellRebuilt blind_print path _ _)
  | created => exact keeps_answerListed blind_print path _ bridge
  | removed => exact keeps_answerListed blind_print path _ bridge

/-- A batch has a file that only declares things built only when its analysis is gone. -/
theorem spares_dispatch
    (reached : Reached (MarksBy declares) bridge ledger) (marks : MarksBy declares setting)
    (changes : List (Path × ChangeKind)) :
    Makes (Call.Spares declares) bridge (endOf (dispatch setting changes) bridge) ∨
      UnmarkedAmong declares setting changes bridge := by
  induction changes generalizing bridge ledger with
  | nil => exact .inl (refl_of (Makes (Call.Spares declares)) bridge)
  | cons change rest inductionHypothesis =>
      rcases change with ⟨path, kind⟩
      by_cases first : kind = .modified ∧ Unmarked declares setting path bridge
      · rcases first with ⟨rfl, unmarked⟩
        exact .inr ⟨[], path, rest, rfl, unmarked⟩
      · have marked : kind = .modified → ¬Unmarked declares setting path bridge :=
          fun modified unmarked => first ⟨modified, unmarked⟩
        have spares :
            Makes (Call.Spares declares) bridge (endOf (answer setting (path, kind)) bridge) :=
          spares_answer reached marked
        rcases leads_answer marks (path, kind) bridge ledger reached with ⟨later, reachedThen⟩
        rw [endOf_dispatch_cons]
        rcases inductionHypothesis reachedThen with further | ⟨done, other, left, rfl, unmarked⟩
        · exact .inl (trans_of (Makes (Call.Spares declares)) spares further)
        · refine .inr ⟨(path, kind) :: done, other, left, rfl, ?_⟩
          rw [endOf_dispatch_cons]
          exact unmarked

/-! ## Whole sessions -/

theorem marks_handedAside (onDisk text : String) :
    MarksBy (fun _ => true) (handedAside onDisk true text).setting := by
  rintro path text _ ⟨⟩
  rfl

/-- The call gives a file to the asking pipeline, or has nothing built that only declares things. -/
def Call.SparesFor (declares : Path → Bool) (asking : Nat) (call : Call) : Prop :=
  (∃ file, call.handed? = some (asking, file)) ∨ call.Spares declares

/-- Whatever a load has built that only declares things, the asking pipeline builds for itself. -/
theorem spares_load
    (reached : Reached (MarksBy declares) bridge ledger) (marks : MarksBy declares setting)
    (plugin : Plugin) (id : String) :
    Makes (Call.SparesFor declares plugin.id) bridge
      (endOf (load setting plugin id).run bridge) := by
  cases accepted : setting.filter.accepts id with
  | false =>
      rw [load_of_foreign accepted]
      exact refl_of (Makes _) bridge
  | true =>
      rw [load_of_accepted accepted]
      let path := Event.fileOf setting id
      have prepares : Makes (Call.SparesFor declares plugin.id) bridge
          (endOf (prepare setting plugin path).run bridge) :=
        (spares_prepare reached marks plugin path).mono fun call spares => .inr spares
      refine attempt_bind_of prepares ?_
      intro key prepared
      rcases key_of_prepare prepared with rfl
      rcases leads_prepare marks plugin path bridge ledger reached with ⟨later, reachedThen⟩
      have free : ∀ call : Call, call.handed? = none → Call.SparesFor declares plugin.id call :=
        fun call free => .inr (call.spares_of_unhanded declares free)
      refine attempt_bind_of ?_ fun served _ => keeps_attempt_pure _ _
      exact makes_serve free (fun _ call handed => .inl ⟨_, handed⟩)
        (orderly_of_reached reachedThen) _

/--
With an analyzer that tells by the path alone which files only declare things, wherever a
session comes to: the preparation of a load has none of them built, and what else a load
has built is for the asking pipeline itself; a rebuild and a batch have one built only when
they come to a file that is known while its analysis is gone.  Where nobody interrupts, a
rebuild then does so as soon as the text on disk is new to the watcher and has no errors,
and an auxiliary pipeline owns the file.
-/
theorem declarations_built_when_unmarked
    {story : List Happening} {start : Bridge} (empty : start.registry = .empty)
    (among : ∀ each ∈ story, each.Among (MarksBy declares)) (marks : MarksBy declares setting) :
    let bridge := Happening.runAll story start
    (∀ plugin path,
      Makes (Call.Spares declares) bridge (endOf (prepare setting plugin path).run bridge)) ∧
    (∀ plugin id,
      Makes (Call.SparesFor declares plugin.id) bridge
        (endOf (load setting plugin id).run bridge)) ∧
    (∀ path, Makes (Call.Spares declares) bridge (endOf (rebuildChanged setting path).run bridge) ∨
      Unmarked declares setting path bridge) ∧
    (∀ changes, Makes (Call.Spares declares) bridge (endOf (dispatch setting changes) bridge) ∨
      UnmarkedAmong declares setting changes bridge) ∧
    (Steady setting.analyzer bridge → bridge.plugins.Distinct → ∀ path,
      (∀ text, taken? setting path bridge = some text →
        Faithful (setting.normalise (setting.normalise path)) text bridge) →
      ((∃ call, Made call bridge (endOf (rebuildChanged setting path).run bridge) ∧
          ¬call.Spares declares) ↔
        Unmarked declares setting path bridge ∧ ∃ text, Stirs setting path text bridge)) := by
  intro bridge
  rcases reached_runAll among (.start start empty) with ⟨ledger, reached⟩
  refine ⟨fun plugin path => spares_prepare reached marks plugin path,
    fun plugin id => spares_load reached marks plugin id, ?_,
    fun changes => spares_dispatch reached marks changes, ?_⟩
  · intro path
    by_cases unmarked : Unmarked declares setting path bridge
    · exact .inr unmarked
    · exact .inl (spares_rebuildChanged reached unmarked)
  · intro steady distinct path faithful
    exact builds_declared_iff reached steady distinct faithful

/-- Once such a file was made ready, a rebuild leaves it alone. -/
theorem declarations_built_when_unmarked_ready :
    let handed := handedAside "b" true "a"
    let story := [.event handed, .ready handed.setting ⟨"/s/a.es"⟩]
    let bridge := Happening.runAll story linkedBridge
    linkedBridge.registry = .empty ∧
      (∀ each ∈ story, each.Among (MarksBy fun _ => true)) ∧
      MarksBy (fun _ => true) handed.setting ∧
      Makes (Call.Spares fun _ => true) bridge
        (endOf (rebuildChanged handed.setting ⟨"/s/a.es"⟩).run bridge) := by
  intro handed story bridge
  have marks : MarksBy (fun _ => true) handed.setting := marks_handedAside "b" "a"
  have among : ∀ each ∈ story, each.Among (MarksBy fun _ => true) := by
    intro each member
    rcases List.mem_pair.1 member with rfl | rfl <;> exact marks
  refine ⟨rfl, among, marks, ?_⟩
  have empty : linkedBridge.registry = .empty := rfl
  rcases declarations_built_when_unmarked empty among marks with ⟨-, -, rebuilds, -⟩
  refine (rebuilds ⟨"/s/a.es"⟩).resolve_right ?_
  rintro ⟨-, record, known, gone⟩
  have root : handed.setting.normalise ⟨"/s/a.es"⟩ = ⟨"/s/a.es"⟩ := normalise_aside _ _ _
  have steady : Steady handed.setting.analyzer (handed.run linkedBridge) :=
    steady_handedAside "b" true "a"
  rw [root, root] at known
  have held :
      textOf? handed.setting (handed.setting.normalise ⟨"/s/a.es"⟩) (handed.run linkedBridge) =
        some "a" := by
    refine textOf?_of_held ?_
    rw [root, find_handedAside]
    rfl
  cases readied_of_steady steady held with
  | refused message found failed => cases found
  | ready analysis readiness succeeded holds =>
      have stored := holds.2.2
      rw [root] at stored
      rw [← Registry.find_of_get? known] at gone
      cases stored.symm.trans gone

/-- A rebuild builds such a file that was handed over and not analysed yet. -/
theorem declaration_built_when_handed :
    let handed := handedAside "b" true "a"
    let bridge := Event.runAll [handed] linkedBridge
    MarksBy (fun _ => true) handed.setting ∧
      Made (.build 1 ⟨"/s/a.es"⟩ 2 none none) bridge
        (endOf (rebuildChanged handed.setting ⟨"/s/a.es"⟩).run bridge) := by
  intro handed bridge
  let setting := handed.setting
  have marks : MarksBy (fun _ => true) setting := marks_handedAside "b" "a"
  refine ⟨marks, ?_⟩
  have root : setting.normalise ⟨"/s/a.es"⟩ = ⟨"/s/a.es"⟩ := normalise_aside _ _ _
  have steady : Steady setting.analyzer bridge := steady_handedAside "b" true "a"
  have record : bridge.registry.find ⟨"/s/a.es"⟩ = (Record.fresh ⟨"/s/a.es"⟩).act (.feed "a") :=
    find_handedAside "b" true "a"
  have again :
      (reread setting ⟨"/s/a.es"⟩ "b" bridge).registry.find ⟨"/s/a.es"⟩ =
        ((Record.fresh ⟨"/s/a.es"⟩).act (.feed "a")).act (.observe .watcher "b") :=
    find_reread_handedAside "b" true "a" "b"
  rcases leads_event marks linkedBridge .blank (.start linkedBridge rfl) with ⟨ledger, reached⟩
  have accounted : Accounted (MarksBy fun _ => true) bridge := accounted_of_reached reached
  have plugins : bridge.plugins = linkedPlugins := plugins_handedAside "b" true "a"
  have taken : taken? setting ⟨"/s/a.es"⟩ bridge = some "b" := taken_handedAside "b" true "a"
  have faithful : ∀ text, taken? setting ⟨"/s/a.es"⟩ bridge = some text →
      Faithful (setting.normalise (setting.normalise ⟨"/s/a.es"⟩)) text bridge := by
    intro text takes
    rcases Option.some.inj (taken.symm.trans takes) with rfl
    rw [root, root]
    exact faithful_handedAside "b" true "a" digest_a_ne_b
  have verdict : verdict ((Record.fresh ⟨"/s/a.es"⟩).act (.feed "a")) "b" = .changed := by
    rw [verdict_handedAside, if_neg digest_a_ne_b]
  have revision :
      (((Record.fresh ⟨"/s/a.es"⟩).act (.feed "a")).act (.observe .watcher "b")).revision = 2 := by
    simp [Record.act, Record.feed, Record.observe, Record.replace, Record.fresh, Record.memory?,
      Record.remember, digest_a_ne_b]
  have empty : (bridge.registry.find ⟨"/s/a.es"⟩).slot? = none := by
    rw [record]
    rfl
  have unbuilt := slot?_of_influx (influx_reread setting ⟨"/s/a.es"⟩ "b" bridge) empty
  refine (made_rebuildChanged_iff steady accounted (plugins ▸ distinct_linkedPlugins) faithful
    (handed_build _ _ _ _ _)).2 ?_
  rw [root, root, plugins, record]
  rcases owner_aside with ⟨auxiliary, id, ssr⟩
  refine ⟨auxiliary, "b", taken, verdict,
    ⟨⟨_, rfl, List.forall_mem_nil _⟩, reusable?_of_unbuilt unbuilt _ _ _⟩, ?_⟩
  rw [buildCall, again, revision, id, ssr]

end Bridge

end ModuleBridge
