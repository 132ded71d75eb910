import ModuleBridge.Proofs.Bridge.Serving

/-!
# Sessions

A session is a run of operations, each done to its end in surroundings of its
own.  What an operation asks of the records is written down as a law: a text
that comes in, the watch state of an updated file, and who has seen what.  All
else that happens to the records is the routine.
-/

namespace ModuleBridge

/-- Something that a session is asked for. -/
inductive Operation where
  | update (requester : Nat) (suffix? : Option String) (file : Path) (text : String)
  | load (plugin : Plugin) (id : String)
  | rebuild (path : Path)
  | invalidate (path : Path) (text : String)

/-- An operation in its surroundings. -/
structure Event where
  setting : Setting
  operation : Operation

namespace Event

open Bridge

/-- The bridge after an operation. -/
def run (event : Event) (bridge : Bridge) : Bridge :=
  match event.operation with
  | .update requester suffix? file text =>
    endOf (update event.setting requester suffix? file text) bridge
  | .load plugin id => endOf (load event.setting plugin id).run bridge
  | .rebuild path => endOf (rebuildChanged event.setting path).run bridge
  | .invalidate path text => endOf (invalidate event.setting path text) bridge

/-- The bridge after operations one after another. -/
def runAll (events : List Event) (bridge : Bridge) : Bridge :=
  events.foldl (fun bridge event => event.run bridge) bridge

/-- The file of a module id. -/
def fileOf (setting : Setting) (id : String) : Path :=
  setting.normalise (Resource.parse setting.config.resolve id).path

/-- What an operation asks of the record under a key. -/
def Asks (event : Event) (key : Path) (action : Record.Action) : Prop :=
  match event.operation with
  | .update requester _ file text =>
    key = event.setting.normalise (event.setting.normalise file) ∧
      (action = .observe (.pipeline requester) text ∨ (∃ watch, action = .setWatch watch) ∨
        ∃ revision, action = .markSeen (.pipeline requester) revision)
  | .load plugin id =>
    (∃ revision, action = .markSeen .watcher revision) ∨
      key = event.setting.normalise (fileOf event.setting id) ∧
        ∃ revision, action = .markSeen (.pipeline plugin.id) revision
  | .rebuild path =>
    (∃ revision, action = .markSeen .watcher revision) ∨
      key = event.setting.normalise (event.setting.normalise path) ∧
        ∃ text,
          sourceOnDisk event.setting.disk (event.setting.normalise path) = .ok text ∧
            action = .observe .watcher text
  | .invalidate path text => key = event.setting.normalise path ∧ action = .feed text

end Event

namespace Bridge

variable {setting : Setting} {scheduled : Feed → Prop} {asked : Path → Record.Action → Prop}

/-! ## Texts that are handed over -/

theorem routine_invalidate
    {path : Path} {text : String}
    (ordered : asked (setting.normalise path) (.feed text)) :
    Keeps (Follows scheduled (Routine setting scheduled asked))
      (invalidate setting path text) := by
  intro bridge fits
  rcases endOf_receive setting ⟨path, text, none⟩ bridge with ⟨console, received⟩
  have ended : endOf (invalidate setting path text) bridge = _ := received
  rw [ended]
  exact ⟨rfl, fits, evolves_take (fun _ => .asked _ ordered) bridge.registry⟩

theorem routine_observe
    {path : Path} {text : String} {observer : Observer}
    (ordered : asked (setting.normalise path) (.observe observer text)) :
    Keeps (Follows scheduled (Routine setting scheduled asked))
      (observe setting path text observer) := by
  intro bridge fits
  rcases endOf_receive setting ⟨path, text, some observer⟩ bridge with ⟨console, received⟩
  have ended : endOf (observe setting path text observer) bridge = _ := received
  rw [ended]
  exact ⟨rfl, fits, evolves_take (fun _ => .asked _ ordered) bridge.registry⟩

/-! ## Rebuilds -/

theorem run_readSource (setting : Setting) (path : Path) (bridge : Bridge) :
    (readSource setting path).run.run bridge =
      (sourceOnDisk setting.disk path, endOf (wait setting (.reading path)) bridge) := by
  rw [readSource]
  rw [run_lift_bind]
  rfl

/-- The bridge in which the watcher has handed over a text that was read. -/
def reread (setting : Setting) (path : Path) (text : String) (bridge : Bridge) : Bridge :=
  endOf (observe setting path text .watcher) (endOf (wait setting (.reading path)) bridge)

theorem follows_reread
    {path : Path} {text : String}
    (ordered : asked (setting.normalise path) (.observe .watcher text)) (bridge : Bridge) :
    Follows scheduled (Routine setting scheduled asked) bridge
      (reread setting path text bridge) :=
  trans_of _ (routine_wait (.reading path) bridge) (routine_observe ordered _)

/-- Once the text on disk has come in, a rebuild is a cross build at most. -/
theorem rebuild_of_read
    (scheduled : Feed → Prop) {path : Path} {text : String} {record : Record}
    {bridge : Bridge} (watching : Watching asked)
    (known : resultOf (record? setting (setting.normalise path)) bridge = some record)
    (followed : record.isDescriptionOnly = false)
    (onDisk : sourceOnDisk setting.disk (setting.normalise path) = .ok text) :
    Follows scheduled (Routine setting scheduled asked)
      (reread setting (setting.normalise path) text bridge)
      (endOf (rebuildChanged setting path).run bridge) := by
  have read :
      resultOf (readSource setting (setting.normalise path)).run bridge = .ok text := by
    rw [resultOf, run_readSource, onDisk]
  have waited :
      endOf (readSource setting (setting.normalise path)).run bridge =
        endOf (wait setting (.reading (setting.normalise path))) bridge := by
    rw [endOf, run_readSource]
  unfold rebuildChanged
  dsimp only
  rw [run_lift_bind, endOf_bind, known, endOf_record?]
  dsimp only
  rw [followed, if_neg Bool.false_ne_true, (attempt_of_ok read _).2, waited, run_lift_bind,
    endOf_bind]
  split
  · rw [run_lift_bind]
    exact keeps_bind (keeps_follows_of_apart (apart_debug _ _))
      (fun _ => keeps_attempt_pure _) _
  · exact keeps_lift (routine_crossBuild watching _) _

/-- A rebuild takes in the text on disk, and builds. -/
theorem routine_rebuildChanged
    {path : Path} (watching : Watching asked)
    (ordered : ∀ text,
      sourceOnDisk setting.disk (setting.normalise path) = .ok text →
        asked (setting.normalise (setting.normalise path)) (.observe .watcher text)) :
    Keeps (Follows scheduled (Routine setting scheduled asked))
      (rebuildChanged setting path).run := by
  intro bridge
  let key := setting.normalise path
  cases known : resultOf (record? setting key) bridge with
  | none =>
      unfold rebuildChanged
      dsimp only
      rw [run_lift_bind, endOf_bind, known, endOf_record?]
      exact refl_of _ bridge
  | some record =>
      cases followed : record.isDescriptionOnly with
      | true =>
          unfold rebuildChanged
          dsimp only
          rw [run_lift_bind, endOf_bind, known, endOf_record?]
          dsimp only
          rw [if_pos followed]
          exact refl_of _ bridge
      | false =>
          cases onDisk : sourceOnDisk setting.disk key with
          | error fault =>
              have refused :
                  resultOf (readSource setting key).run bridge = .error fault := by
                rw [resultOf, run_readSource, onDisk]
              unfold rebuildChanged
              dsimp only
              rw [run_lift_bind, endOf_bind, known, endOf_record?]
              dsimp only
              rw [followed, if_neg Bool.false_ne_true, (attempt_of_error refused _).2, endOf,
                run_readSource]
              exact routine_wait (.reading key) bridge
          | ok text =>
              exact trans_of _ (follows_reread (ordered text onDisk) bridge)
                (rebuild_of_read scheduled watching known followed onDisk)

/-! ## Loads -/

/-- The bridge in which a pipeline has seen a file that was made ready. -/
def seenReady (setting : Setting) (plugin : Plugin) (path : Path) (bridge : Bridge) : Bridge :=
  endOf
    (changeRecord (setting.normalise path) fun record =>
      record.markSeen (.pipeline plugin.id) record.revision)
    (endOf (ready setting path).run bridge)

theorem follows_seenReady
    (scheduled : Feed → Prop) {plugin : Plugin} {path : Path}
    (ordered : ∀ revision,
      asked (setting.normalise path) (.markSeen (.pipeline plugin.id) revision))
    (bridge : Bridge) :
    Follows scheduled (Routine setting scheduled asked)
      (endOf (ready setting path).run bridge) (seenReady setting plugin path bridge) := by
  have marks : ∀ key record revision,
      key = setting.normalise path →
        Routine setting scheduled asked key record
          (.markSeen (.pipeline plugin.id) revision) := by
    rintro _ record revision rfl
    exact .asked _ (ordered revision)
  exact follows_act (marks _ _ _ rfl)

/-- Once the file is ready and seen, its preparation is a cross build at most. -/
theorem prepare_of_ready
    (scheduled : Feed → Prop) (plugin : Plugin)
    {path key : Path} {readiness : Readiness} {bridge : Bridge}
    (watching : Watching asked)
    (succeeded : resultOf (ready setting path).run bridge = .ok (key, readiness)) :
    Follows scheduled (Routine setting scheduled asked)
        (seenReady setting plugin path bridge)
        (endOf (prepare setting plugin path).run bridge) ∧
      resultOf (prepare setting plugin path).run bridge = .ok (setting.normalise path) := by
  rcases key_of_ready succeeded with rfl
  rw [prepare]
  rw [(attempt_of_ok succeeded _).1, (attempt_of_ok succeeded _).2]
  dsimp only
  rw [run_lift_bind, endOf_bind, resultOf_bind, run_lift_bind, endOf_bind, resultOf_bind]
  split
  · refine ⟨?_, rfl⟩
    exact keeps_attempt_bind (keeps_lift (keeps_map (routine_crossBuild watching path) _))
      (fun _ => keeps_attempt_pure _) _
  · exact ⟨refl_of _ _, rfl⟩

/-- A preparation marks the file as seen by the pipeline, and builds. -/
theorem routine_prepare
    {plugin : Plugin} {path : Path} (watching : Watching asked)
    (ordered : ∀ revision,
      asked (setting.normalise path) (.markSeen (.pipeline plugin.id) revision)) :
    Keeps (Follows scheduled (Routine setting scheduled asked))
      (prepare setting plugin path).run := by
  intro bridge
  have readies :
      Follows scheduled (Routine setting scheduled asked) bridge
        (endOf (ready setting path).run bridge) :=
    routine_ready path bridge
  cases outcome : resultOf (ready setting path).run bridge with
  | error fault =>
      have ends : endOf (prepare setting plugin path).run bridge = _ :=
        (attempt_of_error outcome _).2
      rw [ends]
      exact readies
  | ok found =>
      have sees := follows_seenReady scheduled ordered bridge
      exact trans_of _ readies
        (trans_of _ sees (prepare_of_ready scheduled plugin watching outcome).1)

theorem load_of_accepted
    {id : String} (accepted : setting.filter.accepts id = true) (plugin : Plugin) :
    load setting plugin id =
      prepare setting plugin (Event.fileOf setting id) >>= fun key =>
        serve setting plugin (Resource.parse setting.config.resolve id)
          (Event.fileOf setting id) key >>= fun served => pure (some served) := by
  rw [load]
  rw [if_pos accepted]
  rfl

/-- Once its file is ready and seen, a load follows the routine. -/
theorem load_of_ready
    (scheduled : Feed → Prop) (plugin : Plugin)
    {id : String} {key : Path} {readiness : Readiness} {bridge : Bridge}
    (watching : Watching asked)
    (accepted : setting.filter.accepts id = true)
    (succeeded :
      resultOf (ready setting (Event.fileOf setting id)).run bridge = .ok (key, readiness)) :
    Follows scheduled (Routine setting scheduled asked)
      (seenReady setting plugin (Event.fileOf setting id) bridge)
      (endOf (load setting plugin id).run bridge) := by
  rcases prepare_of_ready scheduled plugin watching succeeded with ⟨follows, prepared⟩
  rw [load_of_accepted accepted, (attempt_of_ok prepared _).2]
  apply trans_of _ follows
  exact keeps_attempt_bind (routine_serve _ _ _ _) (fun _ => keeps_attempt_pure _) _

/-- A load whose file cannot be made ready ends there. -/
theorem load_of_refused
    {plugin : Plugin} {id : String} {fault : Fault} {bridge : Bridge}
    (accepted : setting.filter.accepts id = true)
    (refused :
      resultOf (ready setting (Event.fileOf setting id)).run bridge = .error fault) :
    endOf (load setting plugin id).run bridge =
      endOf (ready setting (Event.fileOf setting id)).run bridge := by
  have prepared :
      resultOf (prepare setting plugin (Event.fileOf setting id)).run bridge =
        .error fault :=
    (attempt_of_error refused _).1
  rw [load_of_accepted accepted, (attempt_of_error prepared _).2]
  exact (attempt_of_error refused _).2

theorem load_of_foreign
    {plugin : Plugin} {id : String} {bridge : Bridge}
    (foreign : setting.filter.accepts id = false) :
    endOf (load setting plugin id).run bridge = bridge := by
  rw [load, if_neg (by rw [foreign]; exact Bool.false_ne_true)]
  rfl

theorem routine_load
    {plugin : Plugin} {id : String} (watching : Watching asked)
    (ordered : ∀ revision,
      asked (setting.normalise (Event.fileOf setting id))
        (.markSeen (.pipeline plugin.id) revision)) :
    Keeps (Follows scheduled (Routine setting scheduled asked))
      (load setting plugin id).run := by
  intro bridge
  cases accepted : setting.filter.accepts id with
  | false =>
      rw [load_of_foreign accepted]
      exact refl_of _ bridge
  | true =>
      have readies :
          Follows scheduled (Routine setting scheduled asked) bridge
            (endOf (ready setting (Event.fileOf setting id)).run bridge) :=
        routine_ready _ bridge
      cases outcome : resultOf (ready setting (Event.fileOf setting id)).run bridge with
      | error fault =>
          rw [load_of_refused accepted outcome]
          exact readies
      | ok found =>
          have sees := follows_seenReady scheduled ordered bridge
          have serves := load_of_ready scheduled plugin watching accepted outcome
          exact trans_of _ readies (trans_of _ sees serves)

/-! ## Updates -/

section

variable {rel : Bridge → Bridge → Prop} [IsPreorder Bridge rel]
  (prints : ∀ show? : Console → Console, Keeps rel (print show?))

include prints

theorem keeps_updateServerFile (requester : Nat) (file : Path) :
    Keeps rel (updateServerFile setting requester file) := by
  have importers : Keeps rel (localImporters setting requester file) := by
    refine keeps_bind keeps_get ?_
    intro bridge
    refine keeps_bind (keeps_bind keeps_get fun _ => keeps_pure _) ?_
    intro importers
    refine keeps_filterM ?_
    intro importer
    exact keeps_bind (keeps_record? setting importer) fun _ => keeps_pure _
  refine keeps_bind (keeps_bind importers fun _ => keeps_pure _) ?_
  intro modules
  exact keeps_bind (prints _) fun _ => keeps_pure _

/-- A refused update only prints. -/
theorem keeps_refusal (file : Path) (findings : Findings) (answer : HotUpdate) :
    Keeps rel
      (do
        findings.errors.forM fun found => log "error" found.render
        print findings.logWarnings
        reportFailure file findings.errorMessage
        return answer : Work HotUpdate) := by
  refine keeps_bind (keeps_forM fun found => prints _) ?_
  intro _
  refine keeps_bind (prints _) ?_
  intro _
  exact keeps_bind (prints _) fun _ => keeps_pure _

/-- An update that is answered by its analysis marks the record at most. -/
theorem keeps_updateAnalysed
    {requester : Nat} {key : Path}
    (marks : ∀ revision,
      Keeps rel
        (changeRecord key fun record =>
          (record.setWatch .clean).markSeen (.pipeline requester) revision))
    (suffix? : Option String) (file : Path) (previous? : Option Snapshot) :
    Keeps rel (updateAnalysed setting requester suffix? key file previous?) := by
  refine keeps_bind (keeps_recordAt key) ?_
  intro record
  cases record.view? with
  | none => exact keeps_pure _
  | some view =>
      dsimp only
      split
      · exact keeps_refusal prints file _ _
      · refine keeps_bind (keeps_forM fun message => prints _) ?_
        intro _
        refine keeps_bind (prints _) ?_
        intro _
        refine keeps_bind (marks view.revision) ?_
        intro _
        exact keeps_bind (prints _) fun _ => keeps_pure _

end

theorem apart_updateServerFile (requester : Nat) (file : Path) :
    Keeps Apart (updateServerFile setting requester file) :=
  keeps_updateServerFile apart_print requester file

theorem apart_refusal (file : Path) (findings : Findings) (answer : HotUpdate) :
    Keeps Apart
      (do
        findings.errors.forM fun found => log "error" found.render
        print findings.logWarnings
        reportFailure file findings.errorMessage
        return answer : Work HotUpdate) :=
  keeps_refusal apart_print file findings answer

/-- What an update may do to the record of its file. -/
structure Updating (asked : Path → Record.Action → Prop) (requester : Nat) (key : Path) :
    Prop where
  setWatch : ∀ watch, asked key (.setWatch watch)
  markSeen : ∀ revision, asked key (.markSeen (.pipeline requester) revision)

section

variable {requester : Nat} {key : Path} (updating : Updating asked requester key)

include updating

theorem routine_updateAnalysed
    (suffix? : Option String) (file : Path) (previous? : Option Snapshot) :
    Keeps (Follows scheduled (Routine setting scheduled asked))
      (updateAnalysed setting requester suffix? key file previous?) := by
  refine keeps_updateAnalysed (fun show? => keeps_follows_of_apart (apart_print show?)) ?_ _ _ _
  intro revision bridge
  let record := bridge.registry.find key
  have cleaned :
      record.Evolves (Routine setting scheduled asked key) (record.act (.setWatch .clean)) :=
    .single (.asked _ (updating.setWatch _))
  have seen :
      (record.act (.setWatch .clean)).Evolves (Routine setting scheduled asked key)
        ((record.act (.setWatch .clean)).act (.markSeen (.pipeline requester) revision)) :=
    .single (.asked _ (updating.markSeen _))
  exact follows_of_registry (.put (Relation.ReflTransGen.trans cleaned seen))

end

theorem routine_updateLocalFile
    {requester : Nat} {file : Path}
    (updating : Updating asked requester (setting.normalise file))
    (suffix? : Option String) (previous? : Option Snapshot) :
    Keeps (Follows scheduled (Routine setting scheduled asked))
      (updateLocalFile setting requester suffix? (setting.normalise file) file previous?) := by
  have dirties : ∀ record,
      Routine setting scheduled asked (setting.normalise file) record (.setWatch .dirty) :=
    fun _ => .asked _ (updating.setWatch _)
  apply keeps_bind (follows_change dirties)
  intro _ bridge
  rw [endOf_bind]
  apply trans_of _ (routine_ready file bridge)
  cases outcome : resultOf (ready setting file).run bridge with
  | error fault =>
      exact keeps_bind (keeps_follows_of_apart (apart_print _)) (fun _ => keeps_pure _) _
  | ok found =>
      rcases found with ⟨key, readiness⟩
      rcases key_of_ready outcome with rfl
      exact routine_updateAnalysed updating suffix? file previous? _

/-- An update takes in its text, and answers by it. -/
theorem routine_update
    {requester : Nat} {file : Path} {text : String}
    (updating :
      Updating asked requester (setting.normalise (setting.normalise file)))
    (ordered :
      asked (setting.normalise (setting.normalise file))
        (.observe (.pipeline requester) text))
    (suffix? : Option String) :
    Keeps (Follows scheduled (Routine setting scheduled asked))
      (update setting requester suffix? file text) := by
  intro bridge
  unfold update
  dsimp only
  rw [endOf_bind, resultOf_openRecord]
  apply trans_of _ (follows_openRecord setting (setting.normalise file) bridge)
  have answers : ∀ observation : Observation,
      Keeps (Follows scheduled (Routine setting scheduled asked))
        (if observation.change = .unchanged then do
            print fun console => console.unchanged (setting.normalise file).display
            pure .unchanged
          else do
            let current ← get
            if current.plugins.isServerScoped (setting.normalise file) = true then
              updateServerFile setting requester (setting.normalise file)
            else
              updateLocalFile setting requester suffix?
                (setting.normalise (setting.normalise file)) (setting.normalise file)
                observation.previous? : Work HotUpdate) := by
    intro observation
    refine keeps_ite ?_ ?_
    · exact keeps_bind (keeps_follows_of_apart (apart_print _)) fun _ => keeps_pure _
    · refine keeps_bind keeps_get ?_
      intro current
      refine keeps_ite ?_ ?_
      · exact keeps_follows_of_apart (apart_updateServerFile requester _)
      · exact routine_updateLocalFile updating suffix? _
  exact keeps_bind (routine_observe ordered) answers _

/-! ## All operations -/

/-- What an operation asks for, and the routine, is all that happens to the records. -/
theorem routine_run (event : Event) (bridge : Bridge) :
    Follows scheduled (Routine event.setting scheduled event.Asks) bridge
      (event.run bridge) := by
  rcases event with ⟨setting, operation⟩
  cases operation with
  | update requester suffix? file text =>
      refine routine_update ⟨?_, ?_⟩ ?_ suffix? bridge
      · intro watch
        exact ⟨rfl, .inr (.inl ⟨watch, rfl⟩)⟩
      · intro revision
        exact ⟨rfl, .inr (.inr ⟨revision, rfl⟩)⟩
      · exact ⟨rfl, .inl rfl⟩
  | load plugin id =>
      refine routine_load ?_ ?_ bridge
      · intro key revision
        exact .inl ⟨revision, rfl⟩
      · intro revision
        exact .inr ⟨rfl, revision, rfl⟩
  | rebuild path =>
      refine routine_rebuildChanged ?_ ?_ bridge
      · intro key revision
        exact .inl ⟨revision, rfl⟩
      · intro text found
        exact .inr ⟨rfl, text, found, rfl⟩
  | invalidate path text => exact routine_invalidate ⟨rfl, rfl⟩ bridge

end Bridge

end ModuleBridge
