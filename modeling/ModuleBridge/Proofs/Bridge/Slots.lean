import ModuleBridge.Proofs.Bridge.Answers
import ModuleBridge.Proofs.Bridge.Chronicle

/-!
# Slots

All pipelines, selectors and revisions of a file share one slot.  Through every session
the artifact in it is one that its pipeline was called for and built from the view of
the text there is, and so is every artifact that a build serves again.
-/

namespace ModuleBridge

/-- The artifact in the slot was made from the view there is. -/
def Record.SlotFrom (made : View → Slot → Prop) (record : Record) : Prop :=
  ∀ slot, record.slot? = some slot →
    ∃ view, record.view? = some view ∧ view.revision = slot.revision ∧ made view slot

/-- What analyses and artifacts were made from is left open. -/
def Record.Provenance.any : Record.Provenance where
  made _ _ _ := True
  built _ _ := True

/-- A record whose path, digest, analysis and slot belong together. -/
structure Record.Sound (made : View → Slot → Prop) (key : Path) (record : Record) : Prop where
  path : record.path = key
  coherent : record.Coherent .any
  slot : record.SlotFrom made

theorem Record.slot?_storeAnalysis
    (record : Record) (revision : Nat) (analysis : Analysis) (sections : Snapshot) :
    (record.storeAnalysis revision analysis sections).1.slot? = record.slot? := by
  unfold storeAnalysis
  split
  · split <;> rfl
  · rfl

theorem Record.fields_of_view
    {record : Record} {view : View} (viewed : record.view? = some view) :
    record.analysed?.isSome ∧ record.source? = some view.source ∧
      view.revision = record.revision := by
  simp only [view?, Option.bind_eq_bind, Option.bind_eq_some_iff] at viewed
  rcases viewed with ⟨analysed, stored, source, held, built⟩
  rcases Option.some.inj built with rfl
  rw [stored, held]
  exact ⟨rfl, rfl, rfl⟩

namespace Record.Sound

variable {made : View → Slot → Prop} {key : Path} {record other : Record}

theorem of_core (sound : other.Sound made key) (same : record.core = other.core) :
    record.Sound made key := by
  have slots : record.slot? = other.slot? := (fields_of_core_eq same).2.2.2.2
  refine ⟨?_, ?_, ?_⟩
  · have path : record.core.path = other.core.path := congrArg Record.path same
    exact path.trans sound.path
  · rw [← coherent_core_iff, same]
    exact coherent_core_iff.2 sound.coherent
  · intro slot stored
    rw [view?_of_core same]
    exact sound.slot slot (slots ▸ stored)

theorem mono
    {wider : View → Slot → Prop} (sound : record.Sound made key)
    (permits : ∀ view slot, made view slot → wider view slot) :
    record.Sound wider key := by
  refine ⟨sound.path, sound.coherent, ?_⟩
  intro slot stored
  rcases sound.slot slot stored with ⟨view, viewed, revision, origin⟩
  exact ⟨view, viewed, revision, permits view slot origin⟩

theorem fresh (made : View → Slot → Prop) (key : Path) : (Record.fresh key).Sound made key :=
  ⟨rfl, coherent_fresh _ key, nofun⟩

/-- A text that comes in leaves a sound record sound. -/
theorem act
    (sound : record.Sound made key) {action : Action} (brings : action.bringsText) :
    (record.act action).Sound made key := by
  refine ⟨(record.path_act action).trans sound.path,
    sound.coherent.act (timely_of_text brings record), ?_⟩
  rcases core_act_of_bringsText brings record with same | ⟨text, renews⟩
  · exact (sound.of_core same).slot
  · intro slot stored
    rw [(fields_of_core_eq renews).2.2.2.2] at stored
    cases stored

/-- A record that is not valid has nothing in its slot. -/
theorem slot?_of_invalid (sound : record.Sound made key) (invalid : record.isValid = false) :
    record.slot? = none := by
  cases stored : record.slot? with
  | none => rfl
  | some slot =>
      have present := (sound.coherent.built slot stored).1
      rw [sound.coherent.isValid_iff.2 present] at invalid
      cases invalid

theorem isValid_of_slot
    (sound : record.Sound made key) {slot : Slot} (stored : record.slot? = some slot) :
    record.isValid = true :=
  sound.coherent.isValid_iff.2 (sound.coherent.built slot stored).1

theorem storeAnalysis
    (sound : record.Sound made key) (invalid : record.isValid = false)
    {revision : Nat} {analysis : Analysis} {sections : Snapshot}
    (accepted : (record.storeAnalysis revision analysis sections).2 = true) :
    (record.storeAnalysis revision analysis sections).1.Sound made key := by
  have known : record.source?.isSome := by
    cases held : record.source? with
    | some text => rfl
    | none =>
        have nothing := sound.coherent.digest
        rw [held] at nothing
        rw [Record.storeAnalysis, nothing] at accepted
        cases accepted
  obtain ⟨text, held⟩ := Option.isSome_iff_exists.1 known
  have timely :
      record.Timely .any (.storeAnalysis revision analysis sections) :=
    fun _ => ⟨text, held, trivial⟩
  refine ⟨(record.path_act (.storeAnalysis revision analysis sections)).trans sound.path,
    sound.coherent.act timely, ?_⟩
  intro slot stored
  rw [slot?_storeAnalysis, sound.slot?_of_invalid invalid] at stored
  cases stored

/-- What is stored for the text of a view was made from the view. -/
theorem storeBuild
    (sound : record.Sound made key) {view : View} {slot : Slot}
    (current : record.revision = slot.revision → record.view? = some view)
    (revision : view.revision = slot.revision) (origin : made view slot) :
    (record.storeBuild slot).1.Sound made key := by
  have timely : record.Timely .any (.storeBuild slot) :=
    fun same => ⟨view, (fields_of_view (current same)).2.1, revision, trivial⟩
  refine ⟨(record.path_act (.storeBuild slot)).trans sound.path, sound.coherent.act timely, ?_⟩
  unfold Record.storeBuild
  split
  · rename_i accepted
    intro other stored
    rcases Option.some.inj stored with rfl
    exact ⟨view, current accepted.1, revision, origin⟩
  · exact sound.slot

end Record.Sound

theorem Record.Overtaken.revision_le
    {earlier later : Record} (overtaken : earlier.Overtaken later) :
    earlier.revision ≤ later.revision := by
  rcases overtaken with still | older
  · exact Nat.le_of_eq (Record.fields_of_core_eq still).2.2.1.symm
  · exact Nat.le_of_lt older

theorem Record.slot?_of_reusable
    {record : Record} {plugin revision : Nat} {selector? : Option String} {artifact : Artifact}
    (reusable : record.reusable? plugin revision selector? = some artifact) :
    record.slot? = some ⟨plugin, revision, selector?, artifact⟩ ∧ artifact.hasGroups = false := by
  rw [reusable?, Option.filter_eq_some_iff, builtFor?, Option.map_eq_some_iff]
    at reusable
  rcases reusable with ⟨⟨slot, kept, rfl⟩, alone⟩
  rw [Option.filter_eq_some_iff] at kept
  rcases kept with ⟨stored, fits⟩
  simp only [Bool.and_eq_true, beq_iff_eq] at fits
  rcases fits with ⟨⟨rfl, rfl⟩, rfl⟩
  refine ⟨stored, ?_⟩
  simpa using alone

theorem Registry.registered_of_slot
    {registry : Registry} {key : Path} {slot : Slot}
    (stored : (registry.find key).slot? = some slot) : (registry.get? key).isSome := by
  cases found : registry.get? key with
  | none =>
      rw [find, found] at stored
      cases stored
  | some record => rfl

/-- What holds of all records and of the one that is put holds of all records then. -/
theorem Registry.forall_find_put
    {holds : Path → Record → Prop} {registry : Registry} {key : Path} {record : Record}
    (all : ∀ other, holds other (registry.find other)) (here : holds key record)
    (other : Path) :
    holds other ((registry.put key record).find other) := by
  by_cases same : other = key
  · subst same
    by_cases known : (registry.get? other).isSome
    · rwa [find_put_self known]
    · rw [find_put_unknown known]
      exact all other
  · rw [find_put_of_ne same]
    exact all other

/-- A record with the core there was does not touch what depends on the text. -/
theorem Registry.core_put
    {registry : Registry} {key : Path} {record : Record}
    (same : record.core = (registry.find key).core) (other : Path) :
    ((registry.put key record).find other).core = (registry.find other).core := by
  let holds : Path → Record → Prop :=
    fun other record => record.core = (registry.find other).core
  have all : ∀ other, holds other (registry.find other) := fun _ => rfl
  exact forall_find_put all same other

namespace Bridge

/-! ## Artifacts of a session -/

/-- A pipeline was called for a view and built an artifact from it, without errors. -/
def MadeFor (settings : Setting → Prop) (journal : List Call) (view : View) (slot : Slot) : Prop :=
  ∃ setting options diagnostics,
    settings setting ∧
      (setting.pipeline slot.plugin).build view ⟨slot.selector?, options⟩ =
        .built slot.artifact diagnostics ∧
      (∀ found ∈ diagnostics, found.isError = false) ∧
      .build slot.plugin view.path view.revision slot.selector? options.ssr ∈ journal

/-- Every artifact in a slot was made in the session from the view there is. -/
def Accounted (settings : Setting → Prop) (bridge : Bridge) : Prop :=
  ∀ key, (bridge.registry.find key).Sound (MadeFor settings bridge.journal) key

variable {settings : Setting → Prop} {setting : Setting} {key : Path} {before after : Bridge}

theorem MadeFor.mono
    {earlier later : List Call} {view : View} {slot : Slot}
    (made : MadeFor settings earlier view slot) (further : earlier <+: later) :
    MadeFor settings later view slot := by
  rcases made with ⟨setting, options, diagnostics, among, answer, clean, called⟩
  exact ⟨setting, options, diagnostics, among, answer, clean, further.subset called⟩

theorem Accounted.influx (accounted : Accounted settings before) (influx : Influx before after) :
    Accounted settings after := by
  intro key
  have step :
      ∀ record action, textsOnly key record action →
        record.Sound (MadeFor settings before.journal) key →
          (record.act action).Sound (MadeFor settings before.journal) key :=
    fun record action brings sound => sound.act brings
  have kept := (influx.registry.record key).keeps step (accounted key)
  exact kept.mono fun view slot made => made.mono influx.journal

theorem Accounted.put
    (accounted : Accounted settings before) {record : Record}
    (sound : record.Sound (MadeFor settings before.journal) key) :
    Accounted settings { before with registry := before.registry.put key record } :=
  Registry.forall_find_put accounted sound

/-- An artifact that a pipeline built from the view there was is made for the view there is. -/
theorem Accounted.offered
    (accounted : Accounted settings before) {plugin : Plugin} {view : View}
    {selector? : Option String} {artifact : Artifact} {diagnostics : List Diagnostic}
    (among : settings setting)
    (viewed : (before.registry.find key).view? = some view)
    (answer : answerOf setting plugin view selector? = .built artifact diagnostics)
    (clean : ∀ found ∈ diagnostics, found.isError = false) :
    Accounted settings
      (offered key ⟨plugin.id, view.revision, selector?, artifact⟩
        (answered setting key plugin view selector? before)) := by
  let called := answered setting key plugin view selector? before
  have influx : Influx before called := influx_answered before
  have sound : (called.registry.find key).Sound (MadeFor settings called.journal) key :=
    accounted.influx influx key
  have current :
      (called.registry.find key).revision = view.revision →
        (called.registry.find key).view? = some view := by
    intro same
    have revision := same.trans (Record.fields_of_view viewed).2.2
    rw [Record.view?_of_core ((influx.overtaken key).core_of_revision revision), viewed]
  have made :
      MadeFor settings called.journal view ⟨plugin.id, view.revision, selector?, artifact⟩ := by
    refine ⟨setting, plugin.options, diagnostics, among, answer, clean, ?_⟩
    rw [journal_answered]
    exact List.mem_append_right _ (List.mem_append_right _ (List.mem_singleton.2 rfl))
  exact (accounted.influx influx).put (sound.storeBuild current rfl made)

theorem records_dispose (bridge : Bridge) :
    (endOf dispose bridge).registry.records = [] := rfl

theorem accounted_of_unknown {bridge : Bridge} (unknown : bridge.registry.records = []) :
    Accounted settings bridge := by
  intro key
  have fresh : bridge.registry.find key = .fresh key := by
    rw [Registry.find, Registry.get?, unknown]
    rfl
  rw [fresh]
  exact .fresh _ key

/-- Wherever a session comes to, every artifact in a slot is accounted for. -/
theorem accounted_of_reached
    {bridge : Bridge} {ledger : Ledger} (reached : Reached settings bridge ledger) :
    Accounted settings bridge := by
  induction reached with
  | start bridge empty => exact accounted_of_unknown (by rw [empty]; rfl)
  | influx _ influx accounted => exact accounted.influx influx
  | host _ plugins schedule accounted => exact accounted
  | marked _ key record same accounted => exact accounted.put ((accounted key).of_core same)
  | analysed _ setting path key revision text analysis among normal invalid found accepted
      accounted =>
      have stored := accounted.put ((accounted key).storeAnalysis invalid accepted)
      exact stored
  | built _ setting key plugin view selector? artifact diagnostics among viewed answer clean
      accounted => exact accounted.offered among viewed answer clean
  | disposed _ _ => exact accounted_of_unknown (records_dispose _)

/-- Wherever a session comes to, every record stands under its path. -/
theorem orderly_of_reached
    {bridge : Bridge} {ledger : Ledger} (reached : Reached settings bridge ledger) :
    Orderly bridge.plugins bridge :=
  ⟨rfl, fun key => (accounted_of_reached reached key).path⟩

/-! ## Making files ready leaves slots alone -/

theorem ready_of_valid
    {path : Path} {bridge : Bridge}
    (registered : (bridge.registry.get? (setting.normalise path)).isSome)
    (valid : (bridge.registry.find (setting.normalise path)).isValid = true) :
    resultOf (ready setting path).run bridge = .ok (setting.normalise path, .cached) ∧
      endOf (ready setting path).run bridge = watched (setting.normalise path) bridge := by
  have opened : endOf (openRecord setting path) bridge = bridge := by
    rw [endOf_openRecord, Registry.create_of_isSome registered]
  have passes :
      (settle setting (setting.normalise path) (bridge.schedule.length + 2) .cached).run.run
          (endOf (openRecord setting path) bridge) =
        (.ok .cached, bridge) := by
    rw [opened]
    exact settle_of_valid valid _ _
  exact ready_of_settled passes

/-- A file with an artifact in its slot is ready. -/
theorem ready_of_slot
    {path : Path} {slot : Slot} {bridge : Bridge} (accounted : Accounted settings bridge)
    (stored : (bridge.registry.find (setting.normalise path)).slot? = some slot) :
    resultOf (ready setting path).run bridge = .ok (setting.normalise path, .cached) ∧
      endOf (ready setting path).run bridge = watched (setting.normalise path) bridge :=
  ready_of_valid (Registry.registered_of_slot stored)
    ((accounted (setting.normalise path)).isValid_of_slot stored)

theorem slot?_of_influx
    (influx : Influx before after)
    (nothing : (before.registry.find key).slot? = none) :
    (after.registry.find key).slot? = none := by
  have step :
      ∀ record action, textsOnly key record action →
        record.slot? = none → (record.act action).slot? = none := by
    intro record action brings nothing
    rcases Record.core_act_of_bringsText brings record with same | ⟨text, renews⟩
    · rw [(Record.fields_of_core_eq same).2.2.2.2, nothing]
    · exact (Record.fields_of_core_eq renews).2.2.2.2
  exact (influx.registry.record key).keeps step nothing

/-- Marking a file as watched does not touch what depends on its text. -/
theorem core_watched (key other : Path) (bridge : Bridge) :
    ((watched key bridge).registry.find other).core = (bridge.registry.find other).core :=
  Registry.core_put (Record.core_markWatched _) other

theorem slot?_watched (key other : Path) (bridge : Bridge) :
    ((watched key bridge).registry.find other).slot? = (bridge.registry.find other).slot? :=
  (Record.fields_of_core_eq (core_watched key other bridge)).2.2.2.2

theorem slot?_of_trace
    {outcome : Except Fault Readiness} (trace : Trace setting key before outcome after)
    (nothing : (before.registry.find key).slot? = none) :
    (after.registry.find key).slot? = none := by
  cases trace with
  | refused fault influx => exact slot?_of_influx influx nothing
  | cached influx valid => exact slot?_of_influx influx nothing
  | analysed middle revision text analysis influx invalid found accepted =>
      rw [find_withAnalysis accepted, Record.slot?_storeAnalysis]
      exact slot?_of_influx influx nothing

theorem slot?_of_readying
    {path : Path} {outcome : Except Fault (Path × Readiness)}
    (readying : Readying setting path before outcome after)
    (nothing : (before.registry.find (setting.normalise path)).slot? = none) :
    (after.registry.find (setting.normalise path)).slot? = none := by
  cases readying with
  | refused fault influx => exact slot?_of_influx influx nothing
  | ready readiness middle trace =>
      rw [slot?_watched]
      exact slot?_of_trace trace nothing

/-- Making a file ready leaves its slot as it was. -/
theorem slot?_of_ready
    {bridge : Bridge} (accounted : Accounted settings bridge) (setting : Setting) (path : Path) :
    ((endOf (ready setting path).run bridge).registry.find (setting.normalise path)).slot? =
      (bridge.registry.find (setting.normalise path)).slot? := by
  cases stored : (bridge.registry.find (setting.normalise path)).slot? with
  | none => exact slot?_of_readying (readying setting path bridge) stored
  | some slot => rw [(ready_of_slot accounted stored).2, slot?_watched, stored]

theorem readFolders_of_ready
    {bridge : Bridge} (accounted : Accounted settings bridge) (setting : Setting) (path : Path) :
    ((endOf (ready setting path).run bridge).registry.find
        (setting.normalise path)).readFolders =
      (bridge.registry.find (setting.normalise path)).readFolders := by
  rw [Record.readFolders, slot?_of_ready accounted, Record.readFolders]

/-! ## What a build returns -/

/--
What a build returns, and what it does on the way: its pipeline gave the artifact for
the selector, from a view of the text that the record had when it was ready.
-/
structure Truthful
    (settings : Setting → Prop) (setting : Setting) (key : Path) (plugin : Plugin)
    (selector? : Option String) (before readied after : Bridge) (built : Built) (view : View) :
    Prop where
  /-- The text that the record had at the revision that is returned. -/
  source :
    (readied.registry.find key).source? = some view.source ∧
      (readied.registry.find key).revision = built.revision ∧ view.revision = built.revision
  /-- The pipeline gave the artifact as it was when it was called, for this build or before. -/
  made :
    ∃ maker options diagnostics,
      settings maker ∧
        (built.cached = false → maker = setting ∧ options = plugin.options) ∧
          (maker.pipeline plugin.id).build view ⟨selector?, options⟩ =
              .built built.artifact diagnostics ∧
            .build plugin.id key built.revision selector? options.ssr ∈ after.journal
  /-- An artifact that is served again took no calls and is of the text there is. -/
  reused :
    built.cached = true →
      after.journal = before.journal ∧
        (after.registry.find key).source? = some view.source ∧
        built.artifact.hasGroups = false
  /-- Behind analyses at most, the pipeline forgets what it read, if it has to, and is called. -/
  called :
    built.cached = false →
      ∃ analyses,
        (∀ call ∈ analyses, call = .analyse key) ∧
          after.journal =
            before.journal ++ analyses ++
              (if (before.registry.find key).readFolders then [.clear plugin.id key] else []) ++
              [.build plugin.id key built.revision selector? plugin.options.ssr]
  /-- The artifact that was built is kept exactly for its own text. -/
  stored :
    built.cached = false →
      ((after.registry.find key).slot? =
          some ⟨plugin.id, built.revision, selector?, built.artifact⟩ ↔
        (after.registry.find key).revision = built.revision)
  younger :
    ∀ slot, (after.registry.find key).slot? = some slot → built.revision ≤ slot.revision

/-- An artifact that is offered does not move the text. -/
theorem revision_offered (slot : Slot) (bridge : Bridge) :
    ((offered key slot bridge).registry.find key).revision =
      (bridge.registry.find key).revision := by
  let holds : Path → Record → Prop :=
    fun other record => record.revision = (bridge.registry.find other).revision
  have here : holds key ((bridge.registry.find key).storeBuild slot).1 := by
    change _ = _
    rw [Record.storeBuild]
    split <;> rfl
  have all : ∀ other, holds other (bridge.registry.find other) := fun _ => rfl
  exact Registry.forall_find_put all here key

/-- An artifact is accepted when its text is there and analysed. -/
theorem slot?_offered
    {slot : Slot} {bridge : Bridge}
    (registered : (bridge.registry.get? key).isSome)
    (current : (bridge.registry.find key).revision = slot.revision)
    (analysed : (bridge.registry.find key).analysed?.isSome) :
    ((offered key slot bridge).registry.find key).slot? = some slot := by
  have found :
      (offered key slot bridge).registry.find key =
        ((bridge.registry.find key).storeBuild slot).1 :=
    Registry.find_put_self registered _
  rw [found, Record.storeBuild, if_pos ⟨current, analysed⟩]

theorem accounted_of_leads
    {ledger : Ledger} (reached : Reached settings before ledger)
    (leads : LeadsOn settings before after) : Accounted settings after := by
  rcases leads ledger reached with ⟨later, reachedLater⟩
  exact accounted_of_reached reachedLater

section

variable {plugin : Plugin} {selector? : Option String} {readied : Bridge}
  (accounted : Accounted settings readied)

include accounted

/-- An artifact that is served again is in the slot, and was made from the view there is. -/
theorem truthful_of_reused
    {view : View} {artifact : Artifact} {warnings : List Diagnostic}
    (untouched : readied.journal = before.journal)
    (viewed : (readied.registry.find key).view? = some view)
    (reusable :
      (readied.registry.find key).reusable? plugin.id view.revision selector? = some artifact)
    (printed : Printed readied after) :
    Truthful settings setting key plugin selector? before readied after
      ⟨key, artifact, warnings, view.revision, true⟩ view := by
  rcases printed with ⟨console, rfl⟩
  rcases Record.slot?_of_reusable reusable with ⟨stored, alone⟩
  rcases (accounted key).slot _ stored with
    ⟨other, viewedOther, -, maker, options, diagnostics, among, answer, -, called⟩
  rcases Option.some.inj (viewed.symm.trans viewedOther) with rfl
  rcases Record.fields_of_view viewed with ⟨-, source, revision⟩
  rw [Record.path_view viewed, (accounted key).path] at called
  have anew : true = false → maker = setting ∧ options = plugin.options :=
    fun uncached => absurd uncached.symm Bool.false_ne_true
  refine
    { source := ⟨source, revision.symm, rfl⟩
      made := ⟨maker, options, diagnostics, among, anew, answer, called⟩
      reused := fun _ => ⟨untouched, source, alone⟩
      called := fun uncached => absurd uncached.symm Bool.false_ne_true
      stored := fun uncached => absurd uncached.symm Bool.false_ne_true
      younger := ?_ }
  intro slot storedNow
  rcases Option.some.inj (stored.symm.trans storedNow) with rfl
  exact Nat.le_refl _

/-- The calls of a build that asks its pipeline. -/
theorem journal_of_called
    (setting : Setting) (plugin : Plugin) (selector? : Option String) {view : View}
    (readies : Makes (fun call => call = .analyse key) before readied)
    (folders :
      (readied.registry.find key).readFolders = (before.registry.find key).readFolders)
    (viewed : (readied.registry.find key).view? = some view) :
    ∃ analyses,
      (∀ call ∈ analyses, call = .analyse key) ∧
        (answered setting key plugin view selector? readied).journal =
          before.journal ++ analyses ++
            (if (before.registry.find key).readFolders then [.clear plugin.id key] else []) ++
            [.build plugin.id key view.revision selector? plugin.options.ssr] := by
  rcases readies with ⟨analyses, journal, only⟩
  have path : view.path = key := by
    rw [Record.path_view viewed, (accounted key).path]
  refine ⟨analyses, only, ?_⟩
  rw [journal_answered, journal, buildCalls, folders, path]
  simp only [List.append_assoc]

/-- An artifact that was built is offered to the record, which may be at another text by then. -/
theorem truthful_of_called
    {view : View} {artifact : Artifact} {diagnostics warnings : List Diagnostic}
    (present : settings setting)
    (accountedAfter : Accounted settings after)
    (readies : Makes (fun call => call = .analyse key) before readied)
    (folders :
      (readied.registry.find key).readFolders = (before.registry.find key).readFolders)
    (viewed : (readied.registry.find key).view? = some view)
    (answer : answerOf setting plugin view selector? = .built artifact diagnostics)
    (kept :
      Printed
        (offered key ⟨plugin.id, view.revision, selector?, artifact⟩
          (answered setting key plugin view selector? readied))
        after) :
    Truthful settings setting key plugin selector? before readied after
      ⟨key, artifact, warnings, view.revision, false⟩ view := by
  rcases kept with ⟨console, rfl⟩
  rcases Record.fields_of_view viewed with ⟨analysed, source, revision⟩
  rcases journal_of_called accounted setting plugin selector? readies folders viewed with
    ⟨analyses, only, calls⟩
  let called := answered setting key plugin view selector? readied
  have influx : Influx readied called := influx_answered readied
  have overtaken : (readied.registry.find key).Overtaken (called.registry.find key) :=
    influx.overtaken key
  refine
    { source := ⟨source, revision.symm, rfl⟩
      made := ⟨setting, plugin.options, diagnostics, present, fun _ => ⟨rfl, rfl⟩, answer, ?_⟩
      reused := fun cached => absurd cached Bool.false_ne_true
      called := fun _ => ⟨analyses, only, calls⟩
      stored := fun _ => ⟨?_, ?_⟩
      younger := ?_ }
  · change _ ∈ called.journal
    rw [calls]
    exact List.mem_append_right _ (List.mem_singleton.2 rfl)
  · intro storedNow
    exact ((accountedAfter key).coherent.built _ storedNow).2.1.symm
  · intro current
    have moved : (called.registry.find key).revision = view.revision :=
      (revision_offered _ called).symm.trans current
    have still := overtaken.core_of_revision (moved.trans revision)
    have registered : (called.registry.get? key).isSome := by
      apply influx.registry.registered key
      rw [Registry.get?_of_held source]
      rfl
    have analysedStill : (called.registry.find key).analysed?.isSome := by
      rw [(Record.fields_of_core_eq still).2.2.2.1]
      exact analysed
    exact slot?_offered registered moved analysedStill
  · intro slot storedNow
    rw [((accountedAfter key).coherent.built slot storedNow).2.1]
    change view.revision ≤ ((offered _ _ called).registry.find key).revision
    rw [revision_offered, revision]
    exact overtaken.revision_le

end

/-- Only a build that calls its pipeline may find a file that was not ready. -/
theorem journal_of_ready
    {path : Path} {slot : Slot} {bridge : Bridge} (accounted : Accounted settings bridge)
    (stored :
      ((endOf (ready setting path).run bridge).registry.find (setting.normalise path)).slot? =
        some slot) :
    (endOf (ready setting path).run bridge).journal = bridge.journal := by
  rw [slot?_of_ready accounted] at stored
  rw [(ready_of_slot accounted stored).2]
  rfl

theorem makes_only_analyses (setting : Setting) (path : Path) (bridge : Bridge) :
    Makes (fun call => call = .analyse (setting.normalise path)) bridge
      (endOf (ready setting path).run bridge) := by
  have bears : Bears setting (setting.normalise path)
      (Makes fun call => call = .analyse (setting.normalise path)) :=
    Blind.bears (makes_note rfl)
  exact bears.ready rfl bridge

/-- From wherever a session came to, a build that succeeds is truthful. -/
theorem truthful_of_build
    {ledger : Ledger} {path : Path} {plugin : Plugin} {selector? : Option String}
    {resource : String} {built : Built}
    (reached : Reached settings before ledger) (present : settings setting)
    (succeeded :
      resultOf (build setting path plugin selector? resource).run before = .ok built) :
    ∃ view,
      Truthful settings setting (setting.normalise path) plugin selector? before
        (endOf (ready setting path).run before)
        (endOf (build setting path plugin selector? resource).run before) built view := by
  let last := endOf (build setting path plugin selector? resource).run before
  have accounted := accounted_of_reached reached
  have accountedReady : Accounted settings (endOf (ready setting path).run before) :=
    accounted_of_leads reached (leads_ready present path before)
  have accountedAfter : Accounted settings last :=
    accounted_of_leads reached (leads_build present path plugin selector? resource before)
  have readies := makes_only_analyses setting path before
  have folders := readFolders_of_ready accounted setting path
  rcases ready_of_built succeeded with ⟨readiness, readied⟩
  rcases building_of_ready readied plugin selector? resource with ⟨result, building⟩
  rw [← result, succeeded] at building
  cases building with
  | reused view artifact warnings viewed reusable printed =>
      have stored := (Record.slot?_of_reusable reusable).1
      exact ⟨view, truthful_of_reused accountedReady (journal_of_ready accounted stored)
        viewed reusable printed⟩
  | built view middle artifact warnings further viewed printed delivered kept =>
      rcases printed with ⟨console, rfl⟩
      rcases BuildAnswer.delivered_eq_ok_iff.1 delivered with ⟨diagnostics, answer, -⟩
      let shown : Bridge := { endOf (ready setting path).run before with console := console }
      have accountedShown : Accounted settings shown := accountedReady
      have truthful :
          Truthful settings setting (setting.normalise path) plugin selector? before shown last
            ⟨setting.normalise path, artifact, warnings ++ further, view.revision, false⟩ view :=
        truthful_of_called accountedShown present accountedAfter readies folders viewed answer kept
      exact ⟨view, { truthful with source := truthful.source }⟩

/--
Every session only comes to bridges that are reached, and from each of them, between happenings
or within one, a build that succeeds returns what its own pipeline built for the selector
from a view of the text that the file had at the revision that is returned, though the
pipeline may answer otherwise at other times.  Served again, it is of the text there is, and
nobody was called; built anew, the pipeline was called once, behind a clearing where one is
due, and the slot holds what was built as long as the text is the same, and never anything
older.
-/
theorem builds_are_truthful (present : settings setting) :
    (∀ story start,
      start.registry = .empty → (∀ each ∈ story, Happening.Among settings each) →
        ∃ ledger, Reached settings (Happening.runAll story start) ledger) ∧
      ∀ before ledger, Reached settings before ledger →
        ∀ path plugin selector? resource built,
          resultOf (build setting path plugin selector? resource).run before = .ok built →
            ∃ view,
              Truthful settings setting (setting.normalise path) plugin selector? before
                (endOf (ready setting path).run before)
                (endOf (build setting path plugin selector? resource).run before) built view := by
  refine ⟨?_, ?_⟩
  · intro story start empty among
    exact reached_runAll among (.start start empty)
  · intro before ledger reached path plugin selector? resource built succeeded
    exact truthful_of_build reached present succeeded

/-! ## Two builds of a file -/

/-- What is there can be built when no errors are found and the pipeline gives an artifact. -/
theorem exists_built
    {path : Path} {plugin : Plugin} {selector? : Option String} {text : String}
    {analysis : Analysis} {bridge : Bridge}
    (steady : Steady setting.analyzer bridge)
    (known : textOf? setting (setting.normalise path) bridge = some text)
    (found : setting.analyzer.analyse (setting.normalise path) text = .ok analysis)
    (clean : ∀ problem ∈ analysis.diagnostics, problem.isError = false)
    (answers : ∀ view, view.source = text → ∃ artifact diagnostics,
      answerOf setting plugin view selector? = .built artifact diagnostics ∧
        ∀ problem ∈ diagnostics, problem.isError = false)
    (resource : String) :
    ∃ built,
      resultOf (build setting path plugin selector? resource).run bridge = .ok built := by
  cases readied_of_steady steady known with
  | refused message refused failed => cases found.symm.trans refused
  | ready other readiness succeeded holds =>
      rcases Except.ok.inj (found.symm.trans holds.1) with rfl
      rw [(building_of_ready succeeded plugin selector? resource).1, builtFrom,
        view_of_holds holds]
      dsimp only
      rw [sifted_eq_ok_iff.2 ⟨clean, rfl⟩]
      dsimp only
      split
      · exact ⟨_, rfl⟩
      · rcases answers ⟨_, _, text, analysis, _⟩ rfl with ⟨artifact, diagnostics, answer, clean⟩
        rw [delivered_of_clean answer clean]
        exact ⟨_, rfl⟩

/-- Where nothing is found, there are no errors. -/
theorem clean_nil : ∀ problem ∈ ([] : List Diagnostic), problem.isError = false :=
  fun _ member => absurd member List.not_mem_nil

/-- Surroundings with one file on disk, where every pipeline answers with the source text. -/
def lonelySetting : Setting :=
  { plainSetting plainAnalyzer with disk := ⟨[(["a.es"], .file (some "a"))], []⟩ }

/-- Nothing but these surroundings. -/
def lonelyOnly (setting : Setting) : Prop := setting = lonelySetting

theorem steady_plainBridge : Steady lonelySetting.analyzer plainBridge where
  quiet := nofun
  coherent _ := Record.coherent_fresh _ _

/-- A file that was built is built again, as what the pipeline made of its text. -/
theorem builds_are_truthful_again :
    let story := [Happening.build lonelySetting ⟨"/a.es"⟩ default none "a"]
    let before := Happening.runAll story plainBridge
    ∃ built view,
      resultOf (build lonelySetting ⟨"/a.es"⟩ default none "a").run before = .ok built ∧
        Truthful lonelyOnly lonelySetting (lonelySetting.normalise ⟨"/a.es"⟩) default none before
          (endOf (ready lonelySetting ⟨"/a.es"⟩).run before)
          (endOf (build lonelySetting ⟨"/a.es"⟩ default none "a").run before) built view := by
  intro story before
  have built :
      Follows nobody (Routine lonelySetting nobody nothing) plainBridge before :=
    routine_build ⟨"/a.es"⟩ default none "a" plainBridge
  have progress := built steady_plainBridge.quiet
  have silent : Silent nothing := fun _ _ asked => absurd asked id
  have innocent : Innocent nothing := fun _ _ asked => absurd asked id
  have normal : lonelySetting.normalise ⟨"/a.es"⟩ = ⟨"/a.es"⟩ := by cbv
  have known : textOf? lonelySetting (lonelySetting.normalise ⟨"/a.es"⟩) before = some "a" := by
    rw [progress.textOf?_eq silent steady_plainBridge, normal]
    cbv
  have steady : Steady lonelySetting.analyzer before := progress.steady innocent steady_plainBridge
  have succeeds :
      ∃ built, resultOf (build lonelySetting ⟨"/a.es"⟩ default none "a").run before = .ok built :=
    exists_built steady known rfl clean_nil (fun view _ => ⟨_, [], rfl, clean_nil⟩) "a"
  have present : lonelyOnly lonelySetting := rfl
  have among : ∀ each ∈ story, each.Among lonelyOnly := by
    intro each member
    rcases List.mem_singleton.1 member with rfl
    exact present
  rcases succeeds with ⟨built, succeeded⟩
  rcases builds_are_truthful present with ⟨reaches, truthful⟩
  rcases reaches story plainBridge rfl among with ⟨ledger, reached⟩
  rcases truthful before ledger reached ⟨"/a.es"⟩ default none "a" built succeeded with
    ⟨view, told⟩
  exact ⟨built, view, succeeded, told⟩

end Bridge

end ModuleBridge
