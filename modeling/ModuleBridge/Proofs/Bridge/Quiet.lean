import ModuleBridge.Proofs.Bridge.Session

/-!
# Sessions that nobody interrupts

Where the schedule brings no texts, the records stay coherent through every
operation, an observer's memory changes only by what is asked on its behalf, and
whether a file can be made ready depends on its text alone.
-/

namespace ModuleBridge.Bridge

/-- No text is scheduled. -/
def nobody (_ : Feed) : Prop := False

/-- Nothing is asked for. -/
def nothing (_ : Path) (_ : Record.Action) : Prop := False

/-- Nothing interrupts, and every record is coherent. -/
structure Steady (analyzer : Analyzer) (bridge : Bridge) : Prop where
  quiet : Fits nobody bridge
  coherent : ∀ key, (bridge.registry.find key).Coherent (analyzer.findings key)

variable {setting : Setting} {asked : Path → Record.Action → Prop} {key : Path}

/-! ## The routine of a steady session -/

/-- Nothing that is asked for brings a result. -/
def Innocent (asked : Path → Record.Action → Prop) : Prop :=
  ∀ key action, asked key action →
    ∀ record origin, Record.Timely origin record action

theorem Routine.timely
    {scheduled : Feed → Prop} {record : Record} {action : Record.Action}
    (innocent : Innocent asked)
    (routine : Routine setting scheduled asked key record action) :
    record.Timely (setting.analyzer.findings key) action := by
  cases routine with
  | asked _ ordered => exact innocent key action ordered record _
  | received feed permitted here =>
      rcases feed with ⟨path, text, observer?⟩
      cases observer? <;> trivial
  | read text onDisk unknown => trivial
  | analysed revision text analysis found dated =>
      intro current
      exact ⟨text, dated.2 current, found, rfl⟩
  | built view slot answered revision dated =>
      intro current
      exact ⟨view, dated.2 current, revision, trivial⟩
  | watched => trivial

/-- A routine leaves an observer's memory alone on whose behalf nothing is asked. -/
theorem Routine.foreign
    {record : Record} {action : Record.Action} {observer : Observer}
    (foreign : ∀ action, asked key action → action.observer? ≠ some observer)
    (routine : Routine setting nobody asked key record action) :
    action.observer? ≠ some observer := by
  cases routine with
  | asked _ ordered => exact foreign action ordered
  | received feed permitted here => exact absurd permitted id
  | read => exact nofun
  | analysed => exact nofun
  | built => exact nofun
  | watched => exact nofun

section

variable {before after : Bridge}
  (progress : Progress nobody (Routine setting nobody asked) before after)

include progress

theorem Progress.steady
    (innocent : Innocent asked) (steady : Steady setting.analyzer before) :
    Steady setting.analyzer after where
  quiet := progress.fits
  coherent key :=
    (progress.registry.record key).coherent
      (fun _ _ routine => routine.timely innocent) (steady.coherent key)

theorem Progress.memory?_eq
    {observer : Observer}
    (foreign : ∀ action, asked key action → action.observer? ≠ some observer) :
    (after.registry.find key).memory? observer =
      (before.registry.find key).memory? observer :=
  (progress.registry.record key).memory?_eq fun _ _ routine => routine.foreign foreign

end

/-- Nothing that is asked for brings a text. -/
def Silent (asked : Path → Record.Action → Prop) : Prop :=
  ∀ key action, asked key action → action.text? = none

/-- To a record with a text, a routine brings another one only when asked. -/
theorem Routine.text?_eq_none
    {record : Record} {action : Record.Action} {text : String}
    (silent : Silent asked) (held : record.source? = some text)
    (routine : Routine setting nobody asked key record action) :
    action.text? = none := by
  cases routine with
  | asked _ ordered => exact silent key action ordered
  | received feed permitted here => exact absurd permitted id
  | read own onDisk unknown =>
      rcases unknown with none | ⟨feed, permitted, here⟩
      · rw [held] at none
        cases none
      · exact absurd permitted id
  | analysed => rfl
  | built => rfl
  | watched => rfl

section

variable {before after : Bridge} {text : String}
  (progress : Progress nobody (Routine setting nobody asked) before after)
  (silent : Silent asked)

include progress silent

/-- A text that is known stays where no text is brought. -/
theorem Progress.source?_eq
    (held : (before.registry.find key).source? = some text) :
    (after.registry.find key).source? = some text := by
  have step :
      ∀ record action, Routine setting nobody asked key record action →
        record.source? = some text → (record.act action).source? = some text := by
    intro record action routine source
    have brings := routine.text?_eq_none silent source
    exact (Record.source?_act_of_no_text brings record).trans source
  exact (progress.registry.record key).keeps step held

/-- Where no text is brought, a text that is known keeps its revision. -/
theorem Progress.revision_eq
    (held : (before.registry.find key).source? = some text) :
    (after.registry.find key).revision = (before.registry.find key).revision := by
  let same : Record → Prop := fun record =>
    record.source? = some text ∧ record.revision = (before.registry.find key).revision
  have step :
      ∀ record action, Routine setting nobody asked key record action →
        same record → same (record.act action) := by
    rintro record action routine ⟨source, revision⟩
    have brings := routine.text?_eq_none silent source
    exact ⟨(Record.source?_act_of_no_text brings record).trans source,
      (Record.revision_act_of_no_text brings record).trans revision⟩
  exact ((progress.registry.record key).keeps step ⟨held, rfl⟩).2

end

/-! ## Making a file ready -/

theorem arriving_of_quiet
    {bridge : Bridge} (quiet : Fits nobody bridge) (moment : Moment) :
    arriving moment bridge.schedule = [] := by
  rw [List.eq_nil_iff_forall_not_mem]
  intro feed arrived
  rcases mem_arriving arrived with ⟨interruption, planned, present⟩
  exact quiet interruption planned feed present

theorem incoming_of_quiet
    (setting : Setting) (key : Path) {bridge : Bridge} (quiet : Fits nobody bridge)
    (moment : Moment) :
    incoming setting key moment bridge.schedule = [] := by
  rw [incoming, arriving_of_quiet quiet]
  rfl

/-- While nobody interrupts, the records stay as they are. -/
theorem registry_wait_of_quiet
    (setting : Setting) {bridge : Bridge} (quiet : Fits nobody bridge) (moment : Moment) :
    (endOf (wait setting moment) bridge).registry = bridge.registry := by
  rcases endOf_wait setting moment bridge with ⟨console, ended⟩
  rw [ended, arriving_of_quiet quiet]
  rfl

/-- The record holds what the analyzer finds in a text. -/
def Holds (analyzer : Analyzer) (key : Path) (record : Record) (text : String)
    (analysis : Analysis) : Prop :=
  analyzer.analyse key text = .ok analysis ∧ record.source? = some text ∧
    record.analysed? = some ⟨Digest.of text, analysis, analysis.sections text⟩

theorem exists_holds_of_valid
    {analyzer : Analyzer} {record : Record}
    (coherent : record.Coherent (analyzer.findings key))
    (valid : record.isValid = true) :
    ∃ text analysis, Holds analyzer key record text analysis := by
  rcases Option.isSome_iff_exists.1 (coherent.isValid_iff.1 valid) with ⟨analysed, stored⟩
  rcases coherent.analysed analysed stored with ⟨text, source, digest, found, sections⟩
  rcases analysed with ⟨digestOf, analysis, snapshot⟩
  dsimp only at digest found sections
  subst digest sections
  exact ⟨text, analysis, found, source, stored⟩

theorem holds_of_valid
    {analyzer : Analyzer} {record : Record} {text : String}
    (coherent : record.Coherent (analyzer.findings key))
    (valid : record.isValid = true) (held : record.source? = some text) :
    ∃ analysis, Holds analyzer key record text analysis := by
  rcases exists_holds_of_valid coherent valid with ⟨other, analysis, holds⟩
  obtain rfl : text = other := Option.some.inj (held.symm.trans holds.2.1)
  exact ⟨analysis, holds⟩

theorem Holds.of_core
    {analyzer : Analyzer} {record other : Record} {text : String} {analysis : Analysis}
    (holds : Holds analyzer key record text analysis) (same : other.core = record.core) :
    Holds analyzer key other text analysis := by
  rcases Record.fields_of_core_eq same with ⟨source, -, -, analysed, -⟩
  exact ⟨holds.1, source.trans holds.2.1, analysed.trans holds.2.2⟩

/-- That a file is followed does not touch what its record holds. -/
theorem Holds.watched
    {analyzer : Analyzer} {bridge : Bridge} {text : String} {analysis : Analysis}
    (holds : Holds analyzer key (bridge.registry.find key) text analysis)
    (registered : (bridge.registry.get? key).isSome) :
    Holds analyzer key
      ((endOf (changeRecord key Record.markWatched) bridge).registry.find key)
      text analysis := by
  apply holds.of_core
  rw [endOf_changeRecord]
  dsimp only
  rw [Registry.find_put_self registered, Record.core_markWatched]

/-- A file that was made ready holds its analysis. -/
theorem holds_of_ready
    {path : Path} {bridge : Bridge} {found : Path × Readiness}
    (steady : Steady setting.analyzer bridge)
    (succeeded : resultOf (ready setting path).run bridge = .ok found) :
    ((endOf (ready setting path).run bridge).registry.get? (setting.normalise path)).isSome ∧
      ∃ text analysis,
        Holds setting.analyzer (setting.normalise path)
          ((endOf (ready setting path).run bridge).registry.find (setting.normalise path))
          text analysis := by
  rcases ready_settled path (steady.coherent _) with ⟨calls, told, ended, answered, -⟩
  cases told with
  | error fault => cases (answered.symm.trans succeeded)
  | ok readiness =>
      exact ⟨ended.registered,
        exists_holds_of_valid ended.coherent (ended.ready readiness rfl).1⟩

/-- The loop ends in its first pass for a known text, ready or refused by the analyzer. -/
inductive Decided
    (setting : Setting) (key : Path) (bridge : Bridge) (text : String) (bound : Nat) :
    Prop where
  | ready (analysis : Analysis) (readiness : Readiness) (last : Bridge)
      (run :
        (settle setting key (bound + 1) .cached).run.run bridge = (.ok readiness, last))
      (registered : (last.registry.get? key).isSome)
      (holds : Holds setting.analyzer key (last.registry.find key) text analysis)
  | refused (message : String) (last : Bridge)
      (found : setting.analyzer.analyse key text = .error message)
      (run :
        (settle setting key (bound + 1) .cached).run.run bridge =
          (.error (.analysis key message), last))

theorem decided_of_quiet
    {bridge : Bridge} {text : String}
    (quiet : Fits nobody bridge)
    (registered : (bridge.registry.get? key).isSome)
    (coherent : (bridge.registry.find key).Coherent (setting.analyzer.findings key))
    (held : (bridge.registry.find key).source? = some text)
    (bound : Nat) :
    Decided setting key bridge text bound := by
  have nothing := incoming_of_quiet setting key quiet (.analysing key)
  cases valid : (bridge.registry.find key).isValid with
  | true =>
      rcases holds_of_valid coherent valid held with ⟨analysis, holds⟩
      exact .ready analysis .cached bridge (settle_of_valid valid _ _) registered holds
  | false =>
      cases pass registered coherent held valid with
      | failed message last found called ends => exact .refused message last found (ends _ _)
      | stored next action found unaltered silent called validNow coherentNow continues =>
          have heldNow : (next.registry.find key).source? = some text := by
            rw [called.record, nothing]
            exact (Record.source?_act_of_no_text silent _).trans held
          rcases holds_of_valid coherentNow validNow heldNow with ⟨analysis, holds⟩
          have run := continues bound .cached
          rw [settle_of_valid validNow] at run
          exact .ready analysis .analysed next run called.registered holds
      | dropped next other found called _ _ _ schedule altered continues =>
          rw [nothing] at altered
          exact absurd altered (Nat.lt_irrefl 0)

/-- The text that a file is made ready from: the one it has, or else the one on disk. -/
def textOf? (setting : Setting) (key : Path) (bridge : Bridge) : Option String :=
  match (bridge.registry.find key).source? with
  | some text => some text
  | none => (sourceOnDisk setting.disk key).toOption

theorem textOf?_of_held
    {bridge : Bridge} {text : String}
    (held : (bridge.registry.find key).source? = some text) :
    textOf? setting key bridge = some text := by
  rw [textOf?, held]

/-- What becomes of a file when it is made ready: it is so exactly when its text can be analysed. -/
inductive Readied
    (setting : Setting) (path : Path) (bridge : Bridge) (text : String) : Prop where
  | ready (analysis : Analysis) (readiness : Readiness)
      (succeeded :
        resultOf (ready setting path).run bridge =
          .ok (setting.normalise path, readiness))
      (holds :
        Holds setting.analyzer (setting.normalise path)
          ((endOf (ready setting path).run bridge).registry.find (setting.normalise path))
          text analysis)
  | refused (message : String)
      (found : setting.analyzer.analyse (setting.normalise path) text = .error message)
      (failed :
        resultOf (ready setting path).run bridge =
          .error (.analysis (setting.normalise path) message))

/-- The text that is read is the one to be analysed. -/
theorem source?_textRead
    {bridge : Bridge} {text : String}
    (quiet : Fits nobody bridge)
    (registered : (bridge.registry.get? key).isSome)
    (coherent : (bridge.registry.find key).Coherent (setting.analyzer.findings key))
    (unknown : (bridge.registry.find key).source? = none)
    (onDisk : sourceOnDisk setting.disk key = .ok text) :
    ((textRead setting key bridge).registry.find key).source? = some text := by
  rcases called_wait setting registered (.reading key) with ⟨called, -⟩
  have nothing := incoming_of_quiet setting key quiet (.reading key)
  rw [nothing] at called
  rw [textRead_of_unknown unknown, endOf, run_loadSource, onDisk]
  change ((Registry.put _ key _).find key).source? = _
  rw [Registry.find_put_self called.registered, called.record]
  have incoming : (Record.Action.feed text).text? = some text := rfl
  refine Record.source?_act_of_text coherent.digest incoming ?_
  intro held source
  rw [unknown] at source
  cases source

theorem quiet_textRead
    {bridge : Bridge} (quiet : Fits nobody bridge)
    (unknown : (bridge.registry.find key).source? = none) :
    Fits nobody (textRead setting key bridge) := by
  have reads :
      Follows nobody (Routine setting nobody nothing) bridge
        (endOf (loadSource setting key).run bridge) :=
    routine_loadSource unknown
  rw [textRead_of_unknown unknown]
  exact (reads quiet).fits

/-- What a pass decides is what making the file ready answers. -/
theorem readied_of_decided
    {path : Path} {bridge begun : Bridge} {text : String} {bound : Nat}
    (same :
      (settle setting (setting.normalise path) (bridge.schedule.length + 2) .cached).run.run
          (endOf (openRecord setting path) bridge) =
        (settle setting (setting.normalise path) (bound + 1) .cached).run.run begun)
    (decided : Decided setting (setting.normalise path) begun text bound) :
    Readied setting path bridge text := by
  cases decided with
  | ready analysis readiness last ended registered holds =>
      rcases ready_of_settled (same.trans ended) with ⟨succeeded, lastIs⟩
      refine .ready analysis readiness succeeded ?_
      rw [lastIs]
      exact holds.watched registered
  | refused message last found ended =>
      exact .refused message found (ready_of_refused (same.trans ended)).1

theorem readied_of_steady
    {path : Path} {bridge : Bridge} {text : String}
    (steady : Steady setting.analyzer bridge)
    (known : textOf? setting (setting.normalise path) bridge = some text) :
    Readied setting path bridge text := by
  let key := setting.normalise path
  let opened := endOf (openRecord setting path) bridge
  have registered : (opened.registry.get? key).isSome :=
    Registry.isSome_create_self bridge.registry key
  have coherent : (opened.registry.find key).Coherent (setting.analyzer.findings key) := by
    rw [find_openRecord]
    exact steady.coherent key
  have quiet : Fits nobody opened := steady.quiet
  have sameSource :
      (opened.registry.find key).source? = (bridge.registry.find key).source? := by
    rw [find_openRecord]
  -- A text that is not known is read first, which takes one of the passes.
  cases source : (bridge.registry.find key).source? with
  | some held =>
      rw [textOf?_of_held source] at known
      rcases Option.some.inj known with rfl
      have heldNow := sameSource.trans source
      exact readied_of_decided rfl (decided_of_quiet quiet registered coherent heldNow _)
  | none =>
      rw [textOf?, source] at known
      have unknown := sameSource.trans source
      have step :=
        settle_of_unknown coherent unknown (bridge.schedule.length + 1) .cached
      cases onDisk : sourceOnDisk setting.disk key with
      | error fault =>
          rw [onDisk] at known
          cases known
      | ok read =>
          rw [onDisk] at known step
          obtain rfl : read = text := Option.some.inj known
          rcases called_textRead setting registered with ⟨actions, called, arrive, -⟩
          have coherentRead :
              ((textRead setting key opened).registry.find key).Coherent
                (setting.analyzer.findings key) := by
            rw [called.record]
            exact Record.coherent_foldl coherent arrive
          have heldRead := source?_textRead quiet registered coherent unknown onDisk
          exact readied_of_decided step
            (decided_of_quiet (quiet_textRead quiet unknown) called.registered coherentRead
              heldRead _)

/-! ## Rebuilds -/

/-- The watcher only marks what it has seen. -/
def watcherMarks (_ : Path) (action : Record.Action) : Prop :=
  ∃ revision, action = .markSeen .watcher revision

theorem watching_watcherMarks : Watching watcherMarks :=
  fun _ revision => ⟨revision, rfl⟩

theorem silent_watcherMarks : Silent watcherMarks := by
  rintro key _ ⟨revision, rfl⟩
  rfl

theorem find_reread
    {path : Path} {text : String} {bridge : Bridge} (quiet : Fits nobody bridge) :
    (reread setting path text bridge).registry.find (setting.normalise path) =
      (bridge.registry.find (setting.normalise path)).act (.observe .watcher text) := by
  let waited := endOf (wait setting (.reading path)) bridge
  rcases endOf_receive setting ⟨path, text, some .watcher⟩ waited with ⟨console, received⟩
  have ended : reread setting path text bridge = _ := received
  rw [ended]
  dsimp only
  rw [find_take, if_pos rfl, registry_wait_of_quiet setting quiet]
  rfl

/-- After a rebuild the record of a file holds the text on disk. -/
theorem source?_rebuild
    {path : Path} {text : String} {record : Record} {bridge : Bridge}
    (steady : Steady setting.analyzer bridge)
    (known : resultOf (record? setting (setting.normalise path)) bridge = some record)
    (followed : record.isDescriptionOnly = false)
    (onDisk : sourceOnDisk setting.disk (setting.normalise path) = .ok text)
    (faithful : ∀ held,
      (bridge.registry.find (setting.normalise (setting.normalise path))).source? =
          some held →
        Digest.of held = Digest.of text → held = text) :
    ((endOf (rebuildChanged setting path).run bridge).registry.find
      (setting.normalise (setting.normalise path))).source? = some text := by
  have builds :
      Follows nobody (Routine setting nobody watcherMarks)
        (reread setting (setting.normalise path) text bridge)
        (endOf (rebuildChanged setting path).run bridge) :=
    rebuild_of_read nobody watching_watcherMarks known followed onDisk
  let rereads : Path → Record.Action → Prop :=
    fun _ action => action = .observe .watcher text
  have reads :
      Follows nobody (Routine setting nobody rereads) bridge
        (reread setting (setting.normalise path) text bridge) :=
    follows_reread rfl bridge
  refine (builds (reads steady.quiet).fits).source?_eq silent_watcherMarks ?_
  rw [find_reread steady.quiet]
  exact Record.source?_act_of_text (steady.coherent _).digest rfl faithful

end ModuleBridge.Bridge
