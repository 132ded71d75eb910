import ModuleBridge.Proofs.Bridge.Dealings
import ModuleBridge.Proofs.Bridge.Reach
import ModuleBridge.Proofs.Bridge.Slots

/-!
# Calls of auxiliary builds

A build calls its pipeline exactly when the file is ready, its analysis holds no errors,
and no artifact of the pipeline is there to be served again.  Where pipelines have ids of
their own, a cross build is the build of the one auxiliary pipeline that owns the path, if
there is one; and what the watcher reports leads to a cross build when the text on disk is
another one than the watcher dealt with last.
-/

namespace ModuleBridge

/-! ## Owners -/

namespace Plugins

variable {plugins : Plugins} {plugin : Plugin}

/-- No two pipelines have the same id. -/
def Distinct (plugins : Plugins) : Prop :=
  (plugins.items.map Plugin.id).Nodup

/-- Pipelines that stand at their ids have ids of their own. -/
theorem distinct_of_standing
    (standing : ∀ (index : Nat) (plugin : Plugin),
      plugins.items[index]? = some plugin → plugin.id = index) :
    plugins.Distinct := by
  have numbered : ∀ index (inside : index < (plugins.items.map Plugin.id).length),
      (plugins.items.map Plugin.id)[index] = index := by
    intro index inside
    rw [List.length_map] at inside
    rw [List.getElem_map]
    exact standing index _ (List.getElem?_eq_getElem inside)
  refine List.nodup_iff_injective_getElem.2 ?_
  intro left right same
  have leftAt := numbered left left.isLt
  have rightAt := numbered right right.isLt
  exact Fin.ext (leftAt.symm.trans (same.trans rightAt))

/-- Pipelines that are bound to a configuration have ids of their own. -/
theorem distinct_of_bind
    {entries : List PipelineEntry} {supplied : List String} {console : Console}
    (binds : (Plugins.bind entries supplied console).2 = .ok plugins) :
    plugins.Distinct :=
  distinct_of_standing fun _ _ stands => id_of_bind binds stands

theorem filter_id {items : List Plugin} (distinct : (items.map Plugin.id).Nodup)
    (member : plugin ∈ items) :
    (items.filter fun other => plugin.id == other.id) = [plugin] := by
  induction items with
  | nil => cases member
  | cons head rest inductionHypothesis =>
      rw [List.map_cons, List.nodup_cons] at distinct
      rcases List.mem_cons.1 member with rfl | later
      · have none : (rest.filter fun other => plugin.id == other.id) = [] := by
          refine List.filter_eq_nil_iff.2 ?_
          intro other among same
          rw [beq_iff_eq] at same
          exact distinct.1 (same ▸ List.mem_map_of_mem among)
        rw [List.filter_cons_of_pos (by exact BEq.rfl), none]
      · have apart : (plugin.id == head.id) = false := by
          refine beq_eq_false_iff_ne.2 ?_
          intro same
          exact distinct.1 (same ▸ List.mem_map_of_mem later)
        rw [List.filter_cons_of_neg (by rw [apart]; exact Bool.false_ne_true)]
        exact inductionHypothesis distinct.2 later

/-- The auxiliary pipelines that own a path are its owner, if that is one. -/
theorem auxiliary_owning (distinct : plugins.Distinct) (path : Path) :
    (plugins.auxiliary.filter fun plugin => plugins.inScope plugin.id path) =
      if (plugins.owner path).isMain then [] else [plugins.owner path] := by
  unfold auxiliary inScope
  rw [List.filter_comm, filter_id distinct (owner_mem plugins path)]
  cases main : (plugins.owner path).isMain <;> simp [main]

end Plugins

/-! ## What a build asks for -/

/-- A view of the text without errors, of which no artifact of a pipeline is there. -/
structure Record.Wants (record : Record) (plugin : Nat) (selector? : Option String)
    (view : View) : Prop where
  viewed : record.view? = some view
  clean : ∀ found ∈ view.analysis.diagnostics, found.isError = false
  unbuilt : record.reusable? plugin view.revision selector? = none

namespace Bridge

variable {setting : Setting} {before middle after : Bridge} {call : Call}

/-- A call was made on the way from one bridge to another. -/
def Made (call : Call) (before after : Bridge) : Prop :=
  ∃ calls, after.journal = before.journal ++ calls ∧ call ∈ calls

theorem made_iff {calls : List Call} (journal : after.journal = before.journal ++ calls) :
    Made call before after ↔ call ∈ calls := by
  constructor
  · rintro ⟨others, told, made⟩
    rw [List.append_cancel_left (journal.symm.trans told)]
    exact made
  · exact fun made => ⟨calls, journal, made⟩

theorem Made.mem (made : Made call before after) : call ∈ after.journal := by
  rcases made with ⟨calls, journal, member⟩
  rw [journal]
  exact List.mem_append_right _ member

theorem Made.allowed
    {allowed : Call → Prop} (made : Made call before after) (makes : Makes allowed before after) :
    allowed call := by
  rcases makes with ⟨calls, journal, permitted⟩
  exact permitted call ((made_iff journal).1 made)

/-- A call that the first part does not make is made by the second one. -/
theorem made_iff_later
    {first second : Call → Prop} (begins : Makes first before middle)
    (ends : Makes second middle after) (other : ¬first call) :
    Made call before after ↔ Made call middle after := by
  rcases begins with ⟨calls, journal, permitted⟩
  rcases ends with ⟨further, journalThen, -⟩
  rw [made_iff journalThen]
  rw [journal, List.append_assoc] at journalThen
  rw [made_iff journalThen, List.mem_append]
  exact or_iff_right fun made => other (permitted call made)

/-- A call that the second part does not make is made by the first one. -/
theorem made_iff_earlier
    {first second : Call → Prop} (begins : Makes first before middle)
    (ends : Makes second middle after) (other : ¬second call) :
    Made call before after ↔ Made call before middle := by
  rcases begins with ⟨calls, journal, -⟩
  rcases ends with ⟨further, journalThen, permitted⟩
  rw [made_iff journal]
  rw [journal, List.append_assoc] at journalThen
  rw [made_iff journalThen, List.mem_append]
  exact or_iff_left fun made => other (permitted call made)

/-- A file is given to nobody. -/
def Unhanded (call : Call) : Prop :=
  call.handed? = none

theorem handed_build
    (id : Nat) (path : Path) (revision : Nat) (selector? : Option String) (ssr? : Option Bool) :
    ¬Unhanded (.build id path revision selector? ssr?) :=
  Option.some_ne_none _

/-- The calls of a build, by the record that was made ready. -/
def callsFor (record : Record) (plugin : Plugin) (selector? : Option String) : List Call :=
  match record.view? with
  | none => []
  | some view =>
    if view.analysis.diagnostics.any Diagnostic.isError then []
    else if (record.reusable? plugin.id view.revision selector?).isSome then []
    else buildCalls record plugin view selector?

theorem mem_callsFor_iff
    {record : Record} {plugin : Plugin} {selector? : Option String} (handed : ¬Unhanded call) :
    call ∈ callsFor record plugin selector? ↔
      ∃ view, record.Wants plugin.id selector? view ∧
        call = .build plugin.id view.path view.revision selector? plugin.options.ssr := by
  rw [callsFor]
  constructor
  · intro made
    split at made
    · cases made
    · rename_i view viewed
      split at made
      · cases made
      · rename_i clean
        split at made
        · cases made
        · rename_i unbuilt
          refine ⟨view, ⟨viewed, ?_, Option.not_isSome_iff_eq_none.1 unbuilt⟩, ?_⟩
          · intro found member
            exact Bool.eq_false_iff.2 fun bad => clean (List.any_eq_true.2 ⟨found, member, bad⟩)
          · rcases List.mem_append.1 made with clears | builds
            · split at clears
              · rcases List.mem_singleton.1 clears with rfl
                exact absurd rfl handed
              · cases clears
            · exact List.mem_singleton.1 builds
  · rintro ⟨view, wants, rfl⟩
    have clean : view.analysis.diagnostics.any Diagnostic.isError = false :=
      List.any_eq_false.2 fun found member => Bool.eq_false_iff.1 (wants.clean found member)
    rw [wants.viewed]
    dsimp only
    rw [clean, wants.unbuilt]
    exact List.mem_append_right _ (List.mem_singleton.2 rfl)

theorem journal_of_printed (printed : Printed before after) : after.journal = before.journal := by
  rcases printed with ⟨console, rfl⟩
  rfl

theorem registry_of_printed (printed : Printed before after) :
    after.registry = before.registry := by
  rcases printed with ⟨console, rfl⟩
  rfl

/-- Keeping an answer calls nobody. -/
theorem journal_of_keeping
    {key : Path} {plugin : Plugin} {view : View} {selector? : Option String}
    {outcome : Except Fault (Artifact × List Diagnostic)}
    (keeping : Keeping key plugin view selector? before outcome after) :
    after.journal = before.journal := by
  cases keeping with
  | refused fault printed => exact journal_of_printed printed
  | built artifact warnings printed => exact (journal_of_printed printed).trans rfl

theorem journal_buildSifted
    (setting : Setting) (key : Path) (plugin : Plugin) (selector? : Option String)
    (resource : String) (view : View) (warnings : List Diagnostic) (bridge : Bridge) :
    let record := bridge.registry.find key
    (endOf (buildSifted setting key plugin selector? resource view warnings).run bridge).journal =
      bridge.journal ++
        if (record.reusable? plugin.id view.revision selector?).isSome then []
        else buildCalls record plugin view selector? := by
  intro record
  cases reusable : record.reusable? plugin.id view.revision selector? with
  | some artifact =>
      rw [journal_of_printed (buildSifted_of_reusable reusable).2, if_pos Option.isSome_some,
        List.append_nil]
  | none =>
      have unbuilt : ¬(none : Option Artifact).isSome = true := Bool.false_ne_true
      rw [journal_of_keeping (buildSifted_of_asked reusable).2, if_neg unbuilt]
      exact journal_answered bridge

theorem journal_buildReady
    (setting : Setting) (key : Path) (plugin : Plugin) (selector? : Option String)
    (resource : String) (bridge : Bridge) :
    (endOf (buildReady setting key plugin selector? resource).run bridge).journal =
      bridge.journal ++ callsFor (bridge.registry.find key) plugin selector? := by
  rw [callsFor]
  cases viewed : (bridge.registry.find key).view? with
  | none => rw [(buildReady_of_unviewed viewed).2, List.append_nil]
  | some view =>
      dsimp only
      cases errors : view.analysis.diagnostics.any Diagnostic.isError with
      | true =>
          have sifts := sifted_of_errors errors (.analysis view.path)
          rw [journal_of_printed (buildReady_of_errors viewed sifts).2, if_pos rfl,
            List.append_nil]
      | false =>
          have sifts := sifted_of_no_errors errors (.analysis view.path)
          rcases buildReady_of_clean viewed sifts with ⟨current, printed, run⟩
          rw [endOf_of_run run, journal_buildSifted, journal_of_printed printed,
            registry_of_printed printed, if_neg Bool.false_ne_true]

/-- A build gives a file away exactly when it is ready and wanted. -/
theorem made_build_iff
    {path : Path} {plugin : Plugin} {selector? : Option String} {resource : String}
    (handed : ¬Unhanded call) (bridge : Bridge) :
    Made call bridge (endOf (build setting path plugin selector? resource).run bridge) ↔
      ∃ readiness view,
        resultOf (ready setting path).run bridge = .ok (setting.normalise path, readiness) ∧
          ((endOf (ready setting path).run bridge).registry.find
            (setting.normalise path)).Wants plugin.id selector? view ∧
          call = .build plugin.id view.path view.revision selector? plugin.options.ssr := by
  have readies : Makes Unhanded bridge (endOf (ready setting path).run bridge) :=
    makes_ready (fun _ free => free) path bridge
  rw [build_eq]
  cases outcome : resultOf (ready setting path).run bridge with
  | error fault =>
      rw [(attempt_of_error outcome _).2]
      constructor
      · exact fun made => absurd (made.allowed readies) handed
      · rintro ⟨_, _, ⟨⟩, -⟩
  | ok found =>
      rcases found with ⟨key, readiness⟩
      rcases key_of_ready outcome with rfl
      rw [(attempt_of_ok outcome _).2]
      have journal := journal_buildReady setting (setting.normalise path) plugin selector? resource
        (endOf (ready setting path).run bridge)
      rw [made_iff_later readies ⟨_, journal, fun _ _ => trivial⟩ handed, made_iff journal,
        mem_callsFor_iff handed]
      constructor
      · rintro ⟨view, wants, called⟩
        exact ⟨readiness, view, rfl, wants, called⟩
      · rintro ⟨_, view, -, wants, called⟩
        exact ⟨view, wants, called⟩

/-! ## Files that are made ready -/

/-- A file that was made ready is valid. -/
theorem valid_of_ready
    {path : Path} {readiness : Readiness} {bridge : Bridge}
    (succeeded :
      resultOf (ready setting path).run bridge = .ok (setting.normalise path, readiness)) :
    ((endOf (ready setting path).run bridge).registry.find (setting.normalise path)).isValid =
      true := by
  have readies := readying setting path bridge
  rw [succeeded] at readies
  generalize endOf (ready setting path).run bridge = after at readies
  cases readies with
  | ready readiness middle trace =>
      rw [Record.isValid_of_core (core_watched _ _ middle)]
      cases trace with
      | cached influx valid => exact valid
      | analysed start revision text analysis influx invalid found accepted =>
          exact isValid_withAnalysis accepted

theorem registered_of_valid
    {key : Path} {bridge : Bridge} (valid : (bridge.registry.find key).isValid = true) :
    (bridge.registry.get? key).isSome := by
  rw [Registry.get?_of_ne_fresh]
  · rfl
  · intro fresh
    rw [fresh] at valid
    cases valid

/-- Texts that come in make no file valid. -/
theorem valid_of_influx
    {key : Path} (influx : Influx before after)
    (valid : (after.registry.find key).isValid = true) :
    (before.registry.find key).isValid = true := by
  let known : Record → Prop := fun record =>
    record.isValid = true → (before.registry.find key).isValid = true
  have step :
      ∀ record action, textsOnly key record action → known record → known (record.act action) := by
    intro record action brings holds validThen
    rcases Record.core_act_of_bringsText brings record with same | ⟨text, renews⟩
    · exact holds (Record.isValid_of_core same ▸ validThen)
    · rw [Record.isValid_of_core renews] at validThen
      cases validThen
  exact (influx.registry.record key).keeps step id valid

/-- A file is analysed when it is made ready exactly when it is not valid. -/
theorem analysed_iff_invalid
    {path : Path} {readiness : Readiness} {bridge : Bridge}
    (succeeded :
      resultOf (ready setting path).run bridge = .ok (setting.normalise path, readiness)) :
    readiness = .analysed ↔
      (bridge.registry.find (setting.normalise path)).isValid = false := by
  constructor
  · rintro rfl
    cases valid : (bridge.registry.find (setting.normalise path)).isValid with
    | false => rfl
    | true =>
        cases succeeded.symm.trans (ready_of_valid (registered_of_valid valid) valid).1
  · intro invalid
    have readies := readying setting path bridge
    rw [succeeded] at readies
    generalize endOf (ready setting path).run bridge = after at readies
    cases readies with
    | ready readiness middle trace =>
        cases trace with
        | analysed => rfl
        | cached influx valid => cases invalid.symm.trans (valid_of_influx influx valid)

/-! ## Cross builds -/

theorem grows_build
    (path : Path) (plugin : Plugin) (selector? : Option String) (resource : String) :
    Keeps (Makes fun _ => True) (build setting path plugin selector? resource).run := by
  intro bridge
  refine build_of blind_print (makes_ready (fun _ _ => trivial) path bridge) ?_
  intro view _
  exact makes_produce (fun _ _ => trivial) _ (fun _ _ => trivial) _ _

theorem grows_crossBuild (path : Path) :
    Keeps (Makes fun _ => True) (crossBuild setting path) := by
  refine keeps_bind keeps_get ?_
  intro bridge
  refine keeps_bind (keeps_filterM ?_) fun _ => keeps_pure _
  intro plugin bridge
  exact trans_of (Makes fun _ => True) (grows_build path plugin none path.display bridge)
    (makes_aside (fun _ _ => trivial) setting path plugin bridge)

/-- What follows an auxiliary build gives no file away. -/
theorem made_buildAside_iff
    {path : Path} {plugin : Plugin} (handed : ¬Unhanded call) (bridge : Bridge) :
    Made call bridge (endOf (buildAside setting path plugin) bridge) ↔
      Made call bridge (endOf (build setting path plugin none path.display).run bridge) :=
  made_iff_earlier (grows_build path plugin none path.display bridge)
    (makes_aside (fun _ free => free) setting path plugin bridge) handed

/-- An auxiliary build tells whether it went well. -/
theorem resultOf_buildAside (path : Path) (plugin : Plugin) (bridge : Bridge) :
    resultOf (buildAside setting path plugin) bridge =
      (resultOf (build setting path plugin none path.display).run bridge).isOk := by
  rw [buildAside, resultOf_bind]
  cases resultOf (build setting path plugin none path.display).run bridge with
  | error fault => rfl
  | ok built =>
      simp only [resultOf_bind, resultOf_ite, resultOf_pure, ite_self]
      rfl

/-- A cross build is the build of the auxiliary pipeline that owns the path. -/
theorem run_crossBuild
    {bridge : Bridge} (distinct : bridge.plugins.Distinct) (setting : Setting) (path : Path) :
    let owner := bridge.plugins.owner path
    let aside := buildAside setting path owner
    (crossBuild setting path).run bridge =
      if owner.isMain then ([], bridge)
      else (if resultOf aside bridge then [owner.name] else [], endOf aside bridge) := by
  intro owner aside
  rw [crossBuild, run_bind, resultOf_get, endOf_get]
  dsimp only
  rw [Plugins.auxiliary_owning distinct]
  cases main : (bridge.plugins.owner path).isMain with
  | true =>
      rw [if_pos rfl, if_pos rfl]
      rfl
  | false =>
      rw [if_neg Bool.false_ne_true, if_neg Bool.false_ne_true]
      rw [List.filterM, run_bind]
      change ((List.map Plugin.name
        (bif resultOf aside bridge then [owner] else []).reverse), endOf aside bridge) = _
      cases resultOf aside bridge <;> rfl

/-- A cross build gives the file away when its owner is an auxiliary pipeline and builds it. -/
theorem made_crossBuild_iff
    {bridge : Bridge} (distinct : bridge.plugins.Distinct) {path : Path}
    (handed : ¬Unhanded call) :
    Made call bridge (endOf (crossBuild setting path) bridge) ↔
      (bridge.plugins.owner path).isMain = false ∧
        Made call bridge
          (endOf (build setting path (bridge.plugins.owner path) none path.display).run
            bridge) := by
  rw [endOf, run_crossBuild distinct setting path]
  cases main : (bridge.plugins.owner path).isMain with
  | true =>
      refine iff_of_false ?_ ?_
      · exact fun made => List.not_mem_nil ((made_iff (List.append_nil _).symm).1 made)
      · rintro ⟨⟨⟩, -⟩
  | false =>
      rw [if_neg Bool.false_ne_true, ← made_buildAside_iff handed]
      exact ⟨fun made => ⟨rfl, made⟩, fun found => found.2⟩

/-- A preparation ends in a cross build when it took an analysis that says nothing against it. -/
theorem endOf_prepare
    {path key : Path} {readiness : Readiness} {bridge : Bridge}
    (succeeded : resultOf (ready setting path).run bridge = .ok (key, readiness))
    (plugin : Plugin) :
    let seen := seenReady setting plugin path bridge
    endOf (prepare setting plugin path).run bridge =
      if readiness = .analysed &&
          !(seen.registry.find (setting.normalise path)).isDescriptionOnly then
        endOf (crossBuild setting path) seen
      else seen := by
  intro seen
  rcases key_of_ready succeeded with rfl
  rw [prepare, (attempt_of_ok succeeded _).2]
  dsimp only
  rw [run_lift_bind, endOf_bind, run_lift_bind, endOf_bind]
  change endOf (ExceptT.run (if
    (readiness = .analysed && !(seen.registry.find (setting.normalise path)).isDescriptionOnly) =
      true then _ else _)) seen = _
  split <;> rfl

/-! ## Where nobody interrupts -/

theorem reusable?_of_slot
    {record other : Record} (same : record.slot? = other.slot?) (plugin revision : Nat)
    (selector? : Option String) :
    record.reusable? plugin revision selector? = other.reusable? plugin revision selector? := by
  rw [Record.reusable?, Record.builtFor?, same, Record.reusable?, Record.builtFor?]

theorem reusable?_of_unbuilt {record : Record} (unbuilt : record.slot? = none)
    (plugin revision : Nat) (selector? : Option String) :
    record.reusable? plugin revision selector? = none := by
  rw [Record.reusable?, Record.builtFor?, unbuilt]
  rfl

section

variable {settings : Setting → Prop} {path : Path} {plugin : Plugin} {selector? : Option String}
  {bridge : Bridge} {text : String}

/-- What a pipeline needs to be given a text: no errors in it, and no artifact of it. -/
structure Buildable (setting : Setting) (key : Path) (plugin : Plugin) (selector? : Option String)
    (text : String) (bridge : Bridge) : Prop where
  clean :
    ∃ analysis, setting.analyzer.analyse key text = .ok analysis ∧
      ∀ found ∈ analysis.diagnostics, found.isError = false
  unbuilt :
    (bridge.registry.find key).reusable? plugin.id (bridge.registry.find key).revision selector? =
      none

/-- The call by which a pipeline is given the text there is. -/
def buildCall (key : Path) (plugin : Plugin) (selector? : Option String) (bridge : Bridge) : Call :=
  .build plugin.id key (bridge.registry.find key).revision selector? plugin.options.ssr

/-- Where nobody interrupts, a build gives the text there is to its pipeline, where it can. -/
theorem made_build_iff_of_steady
    (steady : Steady setting.analyzer bridge) (accounted : Accounted settings bridge)
    (held : (bridge.registry.find (setting.normalise path)).source? = some text)
    {resource : String} (handed : ¬Unhanded call) :
    Made call bridge (endOf (build setting path plugin selector? resource).run bridge) ↔
      Buildable setting (setting.normalise path) plugin selector? text bridge ∧
        call = buildCall (setting.normalise path) plugin selector? bridge := by
  let key := setting.normalise path
  let readied := endOf (ready setting path).run bridge
  have progress : Progress nobody (Routine setting nobody nothing) bridge readied :=
    routine_ready path bridge steady.quiet
  have silent : Silent nothing := fun _ _ asked => absurd asked id
  have revision : (readied.registry.find key).revision = (bridge.registry.find key).revision :=
    progress.revision_eq silent held
  have orderly : Orderly bridge.plugins bridge := ⟨rfl, fun other => (accounted other).path⟩
  have named : (readied.registry.find key).path = key := (progress.orderly orderly).path key
  have sameSlot : (readied.registry.find key).slot? = (bridge.registry.find key).slot? :=
    slot?_of_ready accounted setting path
  have sameReuse := fun revision =>
    reusable?_of_slot sameSlot plugin.id revision selector?
  rw [made_build_iff handed]
  constructor
  · rintro ⟨readiness, view, succeeded, wants, rfl⟩
    cases readied_of_steady steady (textOf?_of_held held) with
    | refused message found failed => cases (succeeded.symm.trans failed)
    | ready analysis other _ holds =>
        have viewed := wants.viewed
        rw [view_of_holds holds] at viewed
        rcases Option.some.inj viewed with rfl
        refine ⟨⟨⟨analysis, holds.1, wants.clean⟩, ?_⟩, ?_⟩
        · have unbuilt := wants.unbuilt
          dsimp only at unbuilt
          rwa [sameReuse, revision] at unbuilt
        · rw [buildCall, ← revision]
          dsimp only
          rw [named]
  · rintro ⟨⟨⟨analysis, found, clean⟩, unbuilt⟩, rfl⟩
    cases readied_of_steady steady (textOf?_of_held held) with
    | refused message refuses failed => cases (found.symm.trans refuses)
    | ready other readiness succeeded holds =>
        rcases Except.ok.inj (found.symm.trans holds.1) with rfl
        refine ⟨readiness, _, succeeded, ⟨view_of_holds holds, clean, ?_⟩, ?_⟩
        · dsimp only
          rw [sameReuse, revision]
          exact unbuilt
        · rw [buildCall, ← revision]
          dsimp only
          rw [named]

/-- What the watcher is told about a text. -/
def verdict (record : Record) (text : String) : Fed :=
  (record.observe .watcher text).2.change

theorem resultOf_observe_watcher
    (setting : Setting) (path : Path) (text : String) (bridge : Bridge) :
    (resultOf (observe setting path text .watcher) bridge).change =
      verdict (bridge.registry.find (setting.normalise path)) text := by
  simp only [observe, resultOf_bind, resultOf_openRecord, endOf_openRecord,
    resultOf_updateRecord, Registry.find_create]
  split <;> rfl

/-- What a rebuild takes in, unless the file is unknown or only declares things. -/
def taken? (setting : Setting) (path : Path) (bridge : Bridge) : Option String :=
  match bridge.registry.get? (setting.normalise (setting.normalise path)) with
  | none => none
  | some record =>
    if record.isDescriptionOnly then none
    else (sourceOnDisk setting.disk (setting.normalise path)).toOption

theorem onDisk_of_taken (taken : taken? setting path bridge = some text) :
    sourceOnDisk setting.disk (setting.normalise path) = .ok text := by
  rw [taken?] at taken
  split at taken
  · cases taken
  · split at taken
    · cases taken
    · cases onDisk : sourceOnDisk setting.disk (setting.normalise path) with
      | error fault =>
          rw [onDisk] at taken
          cases taken
      | ok other =>
          rw [onDisk] at taken
          rw [Option.some.inj taken]

/-- A rebuild passes by a file that is unknown or only declares things. -/
theorem rebuildChanged_of_passed
    (passed : ∀ record,
      bridge.registry.get? (setting.normalise (setting.normalise path)) = some record →
        record.isDescriptionOnly = true) :
    taken? setting path bridge = none ∧
      (rebuildChanged setting path).run.run bridge = (.ok [], bridge) := by
  rw [taken?]
  unfold rebuildChanged
  dsimp only
  rw [run_lift_bind, run_bind, resultOf_record?]
  cases known : bridge.registry.get? (setting.normalise (setting.normalise path)) with
  | none => exact ⟨rfl, rfl⟩
  | some record =>
      dsimp only
      rw [if_pos (passed record known), if_pos (passed record known)]
      exact ⟨rfl, rfl⟩

/-- Of any other file a rebuild takes in what it can read. -/
theorem rebuildChanged_of_followed
    {record : Record}
    (known : bridge.registry.get? (setting.normalise (setting.normalise path)) = some record)
    (followed : record.isDescriptionOnly = false) :
    let file := setting.normalise path
    taken? setting path bridge = (sourceOnDisk setting.disk file).toOption ∧
      (rebuildChanged setting path).run.run bridge =
        (readSource setting file >>= fun text =>
          liftM (observe setting file text .watcher) >>= fun observation =>
            if observation.change = .unchanged then
              liftM (debug "cross" (file.display ++ " unchanged")) >>= fun _ => pure []
            else liftM (crossBuild setting file)).run.run bridge := by
  rw [taken?]
  unfold rebuildChanged
  dsimp only
  rw [run_lift_bind, run_bind, resultOf_record?, endOf_record?, known]
  dsimp only
  rw [followed, if_neg Bool.false_ne_true, if_neg Bool.false_ne_true]
  exact ⟨rfl, rfl⟩

/-- Lines were printed and moments have passed, at most. -/
def Elapsed (before after : Bridge) : Prop :=
  ∃ console schedule, after = { before with console := console, schedule := schedule }

theorem registry_of_elapsed {before after : Bridge} (elapsed : Elapsed before after) :
    after.registry = before.registry := by
  rcases elapsed with ⟨console, schedule, rfl⟩
  rfl

theorem journal_of_elapsed {before after : Bridge} (elapsed : Elapsed before after) :
    after.journal = before.journal := by
  rcases elapsed with ⟨console, schedule, rfl⟩
  rfl

/-- Waiting only lets the moment pass where no text is to come in. -/
theorem elapsed_wait_of_quiet
    (setting : Setting) (quiet : Fits nobody bridge) (moment : Moment) :
    Elapsed bridge (endOf (wait setting moment) bridge) := by
  rcases endOf_wait setting moment bridge with ⟨console, ended⟩
  rw [ended, arriving_of_quiet quiet]
  exact ⟨console, _, rfl⟩

/-- What becomes of a rebuild: nothing is taken in, nothing is new, or the file is built. -/
inductive Rebuilding (setting : Setting) (path : Path) (before : Bridge) :
    Except Fault (List String) → Bridge → Prop where
  | untaken {outcome : Except Fault (List String)} {after : Bridge}
      (untaken : taken? setting path before = none)
      (idle : ∀ names, outcome = .ok names → names = [])
      (elapsed : Elapsed before after) :
      Rebuilding setting path before outcome after
  | unchanged {after : Bridge} (text : String)
      (taken : taken? setting path before = some text)
      (known :
        verdict (before.registry.find (setting.normalise (setting.normalise path))) text =
          .unchanged)
      (printed : Printed (reread setting (setting.normalise path) text before) after) :
      Rebuilding setting path before (.ok []) after
  | changed (text : String)
      (taken : taken? setting path before = some text)
      (other :
        verdict (before.registry.find (setting.normalise (setting.normalise path))) text =
          .changed) :
      Rebuilding setting path before
        (.ok (resultOf (crossBuild setting (setting.normalise path))
          (reread setting (setting.normalise path) text before)))
        (endOf (crossBuild setting (setting.normalise path))
          (reread setting (setting.normalise path) text before))

theorem rebuilding (quiet : Fits nobody bridge) (setting : Setting) (path : Path) :
    Rebuilding setting path bridge (resultOf (rebuildChanged setting path).run bridge)
      (endOf (rebuildChanged setting path).run bridge) := by
  let file := setting.normalise path
  let key := setting.normalise file
  by_cases passed : ∀ record, bridge.registry.get? key = some record →
      record.isDescriptionOnly = true
  · rcases rebuildChanged_of_passed passed with ⟨untaken, run⟩
    rw [resultOf, endOf, run]
    exact .untaken untaken (fun names same => (Except.ok.inj same).symm) ⟨_, _, rfl⟩
  · push Not at passed
    rcases passed with ⟨record, known, followed⟩
    rcases rebuildChanged_of_followed known (Bool.eq_false_iff.2 followed) with ⟨takes, run⟩
    rw [resultOf_of_run run, endOf_of_run run]
    have waited :
        endOf (readSource setting file).run bridge =
          endOf (wait setting (.reading file)) bridge := by
      rw [endOf, run_readSource]
    have outcome :
        resultOf (readSource setting file).run bridge = sourceOnDisk setting.disk file := by
      rw [resultOf, run_readSource]
    cases onDisk : sourceOnDisk setting.disk file with
    | error fault =>
        have refused := outcome.trans onDisk
        rw [(attempt_of_error refused _).1, (attempt_of_error refused _).2, waited]
        refine .untaken ?_ (fun _ same => by cases same) (elapsed_wait_of_quiet setting quiet _)
        rw [takes, onDisk]
        rfl
    | ok text =>
        have read := outcome.trans onDisk
        have taken : taken? setting path bridge = some text := by
          rw [takes, onDisk]
          rfl
        have judged :
            (resultOf (observe setting file text .watcher)
              (endOf (wait setting (.reading file)) bridge)).change =
              verdict (bridge.registry.find key) text := by
          rw [resultOf_observe_watcher, registry_wait_of_quiet setting quiet]
        rw [(attempt_of_ok read _).1, (attempt_of_ok read _).2, waited, run_lift_bind,
          resultOf_bind, endOf_bind, judged]
        cases verdicts : verdict (bridge.registry.find key) text with
        | unchanged =>
            rw [if_pos rfl]
            exact .unchanged text taken verdicts (printed_print _ _)
        | changed =>
            have lifts : ∀ current,
                (liftM (crossBuild setting file) : Attempt _).run.run current =
                  (.ok (resultOf (crossBuild setting file) current),
                    endOf (crossBuild setting file) current) :=
              fun _ => rfl
            have different : Fed.changed ≠ .unchanged := by decide
            rw [if_neg different, resultOf, endOf, lifts]
            exact .changed text taken verdicts

/-! ## Rebuilds by the text on disk -/

theorem influx_reread (setting : Setting) (path : Path) (text : String) (bridge : Bridge) :
    Influx bridge (reread setting path text bridge) :=
  trans_of Influx (influx_wait (.reading path) bridge) (influx_observe path text .watcher _)

theorem journal_reread (setting : Setting) (path : Path) (text : String) (bridge : Bridge) :
    (reread setting path text bridge).journal = bridge.journal := by
  let waited := endOf (wait setting (.reading path)) bridge
  rcases endOf_receive setting ⟨path, text, some .watcher⟩ waited with ⟨console, received⟩
  have ended : reread setting path text bridge = _ := received
  rw [ended]
  exact journal_wait setting (.reading path) bridge

theorem steady_reread (steady : Steady setting.analyzer bridge) (path : Path) (text : String) :
    Steady setting.analyzer (reread setting path text bridge) := by
  let observes : Path → Record.Action → Prop := fun _ action => action = .observe .watcher text
  have innocent : Innocent observes := by
    rintro _ _ rfl record origin
    trivial
  have follows :
      Follows nobody (Routine setting nobody observes) bridge (reread setting path text bridge) :=
    follows_reread rfl bridge
  exact (follows steady.quiet).steady innocent steady

/-- The text under a key has a digest of its own among the text there and another one. -/
def Faithful (key : Path) (text : String) (bridge : Bridge) : Prop :=
  ∀ held, (bridge.registry.find key).source? = some held →
    Digest.of held = Digest.of text → held = text

theorem source?_reread
    (steady : Steady setting.analyzer bridge)
    (faithful : Faithful (setting.normalise path) text bridge) :
    ((reread setting path text bridge).registry.find (setting.normalise path)).source? =
      some text := by
  rw [find_reread steady.quiet]
  exact Record.source?_act_of_text (steady.coherent _).digest rfl faithful

/-- A text that is held already changes nothing but what the watcher remembers. -/
theorem core_reread_of_held
    (steady : Steady setting.analyzer bridge)
    (held : (bridge.registry.find (setting.normalise path)).source? = some text) :
    ((reread setting path text bridge).registry.find (setting.normalise path)).core =
      (bridge.registry.find (setting.normalise path)).core := by
  have digest : (bridge.registry.find (setting.normalise path)).digest? =
      some (Digest.of text) := by
    rw [(steady.coherent _).digest, held]
    rfl
  rw [find_reread steady.quiet, Record.act, Record.core_observe, Record.replace_of_digest digest]

/-- Where nobody interrupts, a rebuild gives the file away when the watcher is told of a change. -/
theorem made_rebuildChanged_iff
    (steady : Steady setting.analyzer bridge) (accounted : Accounted settings bridge)
    (distinct : bridge.plugins.Distinct)
    (faithful : ∀ text, taken? setting path bridge = some text →
      Faithful (setting.normalise (setting.normalise path)) text bridge)
    (handed : ¬Unhanded call) :
    let file := setting.normalise path
    let key := setting.normalise file
    let owner := bridge.plugins.owner file
    Made call bridge (endOf (rebuildChanged setting path).run bridge) ↔
      owner.isMain = false ∧ ∃ text, taken? setting path bridge = some text ∧
        verdict (bridge.registry.find key) text = .changed ∧
        Buildable setting key owner none text (reread setting file text bridge) ∧
        call = buildCall key owner none (reread setting file text bridge) := by
  intro file key owner
  have stays : ∀ {after : Bridge}, after.journal = bridge.journal → ¬Made call bridge after :=
    fun journal made =>
      List.not_mem_nil ((made_iff (journal.trans (List.append_nil _).symm)).1 made)
  have rebuilds := rebuilding steady.quiet setting path
  generalize resultOf (rebuildChanged setting path).run bridge = outcome at rebuilds
  generalize endOf (rebuildChanged setting path).run bridge = after at rebuilds
  cases rebuilds with
  | untaken untaken idle elapsed =>
      refine iff_of_false (stays (journal_of_elapsed elapsed)) ?_
      rintro ⟨-, text, taken, -⟩
      cases untaken.symm.trans taken
  | unchanged text taken known printed =>
      have reads := (journal_of_printed printed).trans (journal_reread setting file text bridge)
      refine iff_of_false (stays reads) ?_
      rintro ⟨-, other, takenToo, different, -⟩
      rcases Option.some.inj (taken.symm.trans takenToo) with rfl
      cases known.symm.trans different
  | changed text taken other =>
      let current := reread setting file text bridge
      have influx : Influx bridge current := influx_reread setting file text bridge
      have plugins : current.plugins = bridge.plugins := influx.plugins
      have distinctThen : current.plugins.Distinct := plugins ▸ distinct
      have reads : Makes Unhanded bridge current :=
        makes_of_journal (journal_reread setting file text bridge)
      have held := source?_reread steady (faithful text taken)
      rw [made_iff_later reads (grows_crossBuild file current) handed,
        made_crossBuild_iff distinctThen handed,
        made_build_iff_of_steady (steady_reread steady file text) (accounted.influx influx) held
          handed, plugins]
      constructor
      · rintro ⟨auxiliary, buildable, called⟩
        exact ⟨auxiliary, text, taken, other, buildable, called⟩
      · rintro ⟨auxiliary, found, takenToo, -, buildable, called⟩
        rcases Option.some.inj (taken.symm.trans takenToo) with rfl
        exact ⟨auxiliary, buildable, called⟩

end

/-! ## A file of the server -/

/-- Surroundings of a file of the server, where all pipelines give the same answer. -/
def asideSetting (text : String) (declares : Bool) (answer : BuildAnswer) : Setting :=
  { linkedSetting [] with
    disk := ⟨[(["s"], .directory), (["s", "a.es"], .file (some text))], []⟩
    analyzer := ⟨fun _ _ => .ok ⟨true, [], [], [], declares⟩, fun _ => none⟩
    pipeline := fun _ =>
      ⟨fun _ _ => answer, fun _ => .ok none, fun _ => .ok [], fun _ _ _ => .ok none⟩ }

section

variable (text : String) (declares : Bool) (answer : BuildAnswer)

theorem normalise_aside :
    (asideSetting text declares answer).normalise ⟨"/s/a.es"⟩ = ⟨"/s/a.es"⟩ := by cbv

theorem sourceOnDisk_aside :
    sourceOnDisk (asideSetting text declares answer).disk ⟨"/s/a.es"⟩ = .ok text := by cbv

end

theorem distinct_linkedPlugins : linkedPlugins.Distinct := by
  unfold Plugins.Distinct linkedPlugins
  decide

theorem owner_aside :
    (linkedPlugins.owner ⟨"/s/a.es"⟩).isMain = false ∧
      (linkedPlugins.owner ⟨"/s/a.es"⟩).id = 1 ∧
      (linkedPlugins.owner ⟨"/s/a.es"⟩).options.ssr = none := by
  refine ⟨?_, ?_, ?_⟩ <;> cbv

theorem digest_a_ne_b : Digest.of "a" ≠ Digest.of "b" := by decide +kernel

/-- A text of the file is handed over. -/
def handedAside (onDisk : String) (declares : Bool) (text : String) : Event :=
  ⟨asideSetting onDisk declares .nothing, .invalidate ⟨"/s/a.es"⟩ text⟩

theorem fits_linkedBridge : Fits nobody linkedBridge :=
  List.forall_mem_nil _

section

variable (onDisk : String) (declares : Bool) (text : String)

/-- The text is there, and it was not analysed yet. -/
theorem find_handedAside :
    ((handedAside onDisk declares text).run linkedBridge).registry.find ⟨"/s/a.es"⟩ =
      (Record.fresh ⟨"/s/a.es"⟩).act (.feed text) := by
  let feed : Feed := ⟨⟨"/s/a.es"⟩, text, none⟩
  rcases endOf_receive (asideSetting onDisk declares .nothing) feed linkedBridge with
    ⟨console, received⟩
  have ended : (handedAside onDisk declares text).run linkedBridge = _ := received
  rw [ended]
  dsimp only
  rw [find_take, normalise_aside, if_pos rfl]
  rfl

theorem steady_handedAside :
    Steady (handedAside onDisk declares text).setting.analyzer
      ((handedAside onDisk declares text).run linkedBridge) :=
  steady_run _ ⟨fits_linkedBridge, fun _ => Record.coherent_fresh _ _⟩

theorem plugins_handedAside :
    ((handedAside onDisk declares text).run linkedBridge).plugins = linkedPlugins := by
  let event := handedAside onDisk declares text
  have progress : Progress nobody (Routine event.setting nobody event.Asks) linkedBridge
      (event.run linkedBridge) :=
    progress_run fits_linkedBridge
  exact progress.plugins

/-- A rebuild takes in the text on disk. -/
theorem taken_handedAside :
    taken? (handedAside onDisk declares text).setting ⟨"/s/a.es"⟩
      ((handedAside onDisk declares text).run linkedBridge) = some onDisk := by
  let setting := (handedAside onDisk declares text).setting
  let bridge := (handedAside onDisk declares text).run linkedBridge
  have root : setting.normalise ⟨"/s/a.es"⟩ = ⟨"/s/a.es"⟩ := normalise_aside _ _ _
  have known :
      bridge.registry.get? (setting.normalise (setting.normalise ⟨"/s/a.es"⟩)) =
        some ((Record.fresh ⟨"/s/a.es"⟩).act (.feed text)) := by
    have held : (bridge.registry.find ⟨"/s/a.es"⟩).source? = some text := by
      rw [find_handedAside]
      rfl
    rw [root, root, Registry.get?_of_held held, find_handedAside]
  rw [(rebuildChanged_of_followed known rfl).1, root]
  exact congrArg Except.toOption (sourceOnDisk_aside onDisk declares .nothing)

theorem find_reread_handedAside (other : String) :
    (reread (handedAside onDisk declares text).setting ⟨"/s/a.es"⟩ other
        ((handedAside onDisk declares text).run linkedBridge)).registry.find ⟨"/s/a.es"⟩ =
      ((Record.fresh ⟨"/s/a.es"⟩).act (.feed text)).act (.observe .watcher other) := by
  let setting := (handedAside onDisk declares text).setting
  let bridge := (handedAside onDisk declares text).run linkedBridge
  have found :
      (reread setting ⟨"/s/a.es"⟩ other bridge).registry.find (setting.normalise ⟨"/s/a.es"⟩) =
        (bridge.registry.find (setting.normalise ⟨"/s/a.es"⟩)).act (.observe .watcher other) :=
    find_reread (steady_handedAside onDisk declares text).quiet
  have root : setting.normalise ⟨"/s/a.es"⟩ = ⟨"/s/a.es"⟩ := normalise_aside _ _ _
  have record : bridge.registry.find ⟨"/s/a.es"⟩ = (Record.fresh ⟨"/s/a.es"⟩).act (.feed text) :=
    find_handedAside onDisk declares text
  rw [root, record] at found
  exact found

theorem faithful_handedAside {other : String} (apart : Digest.of text ≠ Digest.of other) :
    Faithful ⟨"/s/a.es"⟩ other ((handedAside onDisk declares text).run linkedBridge) := by
  intro held source same
  rw [find_handedAside] at source
  rcases Option.some.inj source with rfl
  exact absurd same apart

/-- The watcher compares what it reads with the text that was handed over. -/
theorem verdict_handedAside (other : String) :
    verdict ((Record.fresh ⟨"/s/a.es"⟩).act (.feed text)) other =
      if Digest.of text = Digest.of other then .unchanged else .changed := by
  simp [verdict, Record.judge, Record.act, Record.feed, Record.observe, Record.replace,
    Record.fresh, Record.memory?]

end

end Bridge

end ModuleBridge
