import ModuleBridge.Proofs.Bridge.Asides

/-!
# Registrations of built files

A file that an auxiliary pipeline has built is registered to be watched, unless it already
is, and where there is a watcher it is told so.  Nothing else that answering a change does
registers anything, and neither does it touch the listings of directories.
-/

namespace ModuleBridge

/-- The file of a call that has a built file watched. -/
def Call.watchedBuilt? : Call → Option Path
  | .watchBuilt path => some path
  | _ => none

theorem WatchSet.addFile_eq (set : WatchSet) (path : Path) :
    (set.addFile path).1 =
      { set with files := set.files ++ if set.watches path then [] else [path] } := by
  rw [addFile, watches]
  split
  · rw [List.append_nil]
  · rfl

namespace Bridge

/-- A file is registered as one that an auxiliary pipeline built. -/
def hasBuilt (bridge : Bridge) (path : Path) : Bool :=
  bridge.builtWatches?.any fun watches => watches.watches path

/-- There is a watcher to be told of built files. -/
def tellsBuilt (bridge : Bridge) : Bool :=
  bridge.builtWatches?.any WatchSet.isActive

/-- Built files are registered and told to the watcher; nothing else is registered. -/
structure Enlists (added : List Path) (before after : Bridge) : Prop where
  contexts : after.contexts = before.contexts
  watches : after.watches = before.watches
  built :
    after.builtWatches? =
      before.builtWatches?.map fun watches => { watches with files := watches.files ++ added }
  told :
    ∃ calls,
      after.journal = before.journal ++ calls ∧
        calls.filterMap Call.watchedBuilt? = if before.tellsBuilt then added else []

variable {setting : Setting} {path : Path} {plugin : Plugin} {added further : List Path}
  {before middle after bridge : Bridge}

theorem Enlists.tellsBuilt_eq (enlists : Enlists added before after) :
    after.tellsBuilt = before.tellsBuilt := by
  rw [tellsBuilt, enlists.built, tellsBuilt]
  cases before.builtWatches? <;> rfl

theorem Enlists.trans
    (first : Enlists added before middle) (second : Enlists further middle after) :
    Enlists (added ++ further) before after := by
  rcases first.told with ⟨calls, journal, told⟩
  rcases second.told with ⟨later, journalThen, toldThen⟩
  refine ⟨second.contexts.trans first.contexts, second.watches.trans first.watches, ?_, ?_⟩
  · rw [second.built, first.built, Option.map_map]
    refine congrArg (Option.map · before.builtWatches?) ?_
    funext watches
    simp
  · refine ⟨calls ++ later, ?_, ?_⟩
    · rw [journalThen, journal, List.append_assoc]
    · rw [List.filterMap_append, told, toldThen, first.tellsBuilt_eq]
      split <;> rfl

/-- Files with other steps are registered if they were. -/
theorem Enlists.hasBuilt_eq
    (enlists : Enlists added before after) (apart : added.any path.same = false) :
    after.hasBuilt path = before.hasBuilt path := by
  rw [hasBuilt, enlists.built, hasBuilt]
  cases before.builtWatches? with
  | none => rfl
  | some watches =>
      change WatchSet.watches { watches with files := watches.files ++ added } path = _
      rw [watches_append, apart, Bool.or_false]
      rfl

/-! ## Work that registers nothing -/

theorem enlists_of_calls
    {calls : List Call} (contexts : after.contexts = before.contexts)
    (watches : after.watches = before.watches) (built : after.builtWatches? = before.builtWatches?)
    (journal : after.journal = before.journal ++ calls)
    (silent : calls.filterMap Call.watchedBuilt? = []) : Enlists [] before after := by
  refine ⟨contexts, watches, ?_, calls, journal, ?_⟩
  · simp [built]
  · rw [silent, ite_self]

instance : Blind (Enlists []) where
  refl _ := enlists_of_calls rfl rfl rfl (List.append_nil _).symm rfl
  trans _ _ _ := Enlists.trans
  unseen _ _ _ _ := enlists_of_calls rfl rfl rfl (List.append_nil _).symm rfl

theorem enlists_note {call : Call} (silent : call.watchedBuilt? = none) :
    Keeps (Enlists []) (note call) :=
  fun _ => enlists_of_calls rfl rfl rfl rfl (List.filterMap_cons_none silent)

theorem enlists_of_elapsed (elapsed : Elapsed before after) : Enlists [] before after := by
  rcases elapsed with ⟨console, schedule, rfl⟩
  exact Blind.unseen before before.registry console schedule

theorem enlists_of_printed (printed : Printed before after) : Enlists [] before after := by
  rcases printed with ⟨console, rfl⟩
  exact Blind.unseen before before.registry console before.schedule

theorem enlists_build (path : Path) (plugin : Plugin) (selector? : Option String)
    (resource : String) :
    Keeps (Enlists []) (build setting path plugin selector? resource).run := by
  have readies : Keeps (Enlists []) (ready setting path).run :=
    (Blind.bears (enlists_note rfl)).ready rfl
  intro bridge
  refine build_of blind_print (readies bridge) ?_
  intro view _
  exact blind_produce (enlists_note rfl) (fun _ => enlists_note rfl) resource

theorem enlists_reread (path : Path) (text : String) (bridge : Bridge) :
    Enlists [] bridge (reread setting path text bridge) :=
  trans_of (Enlists []) (blind_wait (.reading path) bridge) (blind_observe path text .watcher _)

/-! ## Work that registers one file -/

/-- What registering a file adds. -/
def newlyBuilt (path : Path) (bridge : Bridge) : List Path :=
  if bridge.hasBuilt path then [] else [path]

/-- A file that is not registered yet is registered from now on, and the watcher is told so. -/
theorem endOf_watchBuilt
    {watches : WatchSet} (registered : bridge.builtWatches? = some watches) (path : Path) :
    endOf (watchBuilt path) bridge =
      { bridge with
        builtWatches? :=
          some { watches with files := watches.files ++ newlyBuilt path bridge }
        journal := bridge.journal ++
          if watches.isActive then (newlyBuilt path bridge).map Call.watchBuilt else [] } := by
  have isNew := WatchSet.snd_addFile watches path
  have known : bridge.hasBuilt path = watches.watches path := by
    rw [hasBuilt, registered]
    rfl
  let enlisted : Bridge :=
    { bridge with
      builtWatches? := some { watches with files := watches.files ++ newlyBuilt path bridge } }
  have work :
      endOf (watchBuilt path) bridge =
        if (!watches.watches path) = true ∧ watches.isActive = true then
          { enlisted with journal := bridge.journal ++ [.watchBuilt path] }
        else enlisted := by
    simp only [watchBuilt, endOf_bind, endOf_get, resultOf_get, registered, isNew,
      WatchSet.addFile_eq, enlisted, newlyBuilt, known]
    split <;> rfl
  rw [work]
  simp only [enlisted, newlyBuilt, known]
  cases watches.watches path <;> cases watches.isActive <;> simp

theorem enlists_watchBuilt (path : Path) (bridge : Bridge) :
    Enlists (newlyBuilt path bridge) bridge (endOf (watchBuilt path) bridge) := by
  cases registered : bridge.builtWatches? with
  | none =>
      have ended : endOf (watchBuilt path) bridge = bridge := by
        simp only [watchBuilt, endOf_bind, endOf_get, resultOf_get, registered]
        rfl
      refine ⟨?_, ?_, ?_, [], ?_, ?_⟩
      · rw [ended]
      · rw [ended]
      · rw [ended, registered]
        rfl
      · rw [ended, List.append_nil]
      · rw [tellsBuilt, registered]
        rfl
  | some watches =>
      rw [endOf_watchBuilt registered]
      refine ⟨rfl, rfl, ?_, _, rfl, ?_⟩
      · rw [registered]
        rfl
      · rw [tellsBuilt, registered]
        cases active : watches.isActive <;>
          simp [active, List.filterMap_map, Function.comp_def, Call.watchedBuilt?]

theorem Enlists.newlyBuilt_eq (enlists : Enlists [] before after) (path : Path) :
    newlyBuilt path after = newlyBuilt path before := by
  rw [newlyBuilt, enlists.hasBuilt_eq rfl, newlyBuilt]

/-- An auxiliary build registers its file when it goes well. -/
theorem enlists_buildAside (path : Path) (plugin : Plugin) (bridge : Bridge) :
    Enlists
      (if resultOf (buildAside setting path plugin) bridge then newlyBuilt path bridge else [])
      bridge (endOf (buildAside setting path plugin) bridge) := by
  let built := endOf (build setting path plugin none path.display).run bridge
  have builds : Enlists [] bridge built := enlists_build path plugin none path.display bridge
  rw [resultOf_buildAside, buildAside, endOf_bind]
  cases outcome : resultOf (build setting path plugin none path.display).run bridge with
  | error fault => exact trans_of (Enlists []) builds (blind_log _ _ built)
  | ok found =>
      let marked :=
        endOf (changeRecord found.key fun record => record.markSeen .watcher found.revision) built
      have marks : Enlists [] bridge marked :=
        trans_of (Enlists []) builds (blind_changeRecord _ built)
      have registers : Enlists (newlyBuilt path bridge) marked (endOf (watchBuilt path) marked) :=
        marks.newlyBuilt_eq path ▸ enlists_watchBuilt path marked
      let prints : Work Bool :=
        if resultOf (watchBuilt path) marked then do
          debug "cross" ("watch " ++ path.display)
          pure true
        else pure true
      have ends :
          Enlists [] (endOf (watchBuilt path) marked)
            (endOf prints (endOf (watchBuilt path) marked)) :=
        keeps_when (blind_debug _ _) true _
      have whole := (marks.trans registers).trans ends
      rwa [List.append_nil] at whole

/-- A cross build registers its file when a pipeline built it. -/
theorem enlists_crossBuild (distinct : bridge.plugins.Distinct) (setting : Setting) (path : Path) :
    Enlists
      (if resultOf (crossBuild setting path) bridge = [] then [] else newlyBuilt path bridge)
      bridge (endOf (crossBuild setting path) bridge) := by
  rw [resultOf, endOf, run_crossBuild distinct]
  split
  · exact refl_of (Enlists []) bridge
  · have aside :
        Enlists _ bridge (endOf (buildAside setting path (bridge.plugins.owner path)) bridge) :=
      enlists_buildAside path (bridge.plugins.owner path) bridge
    cases built : resultOf (buildAside setting path (bridge.plugins.owner path)) bridge with
    | true =>
        rw [built] at aside
        exact aside
    | false =>
        rw [built] at aside
        exact aside

/-- What answering a change registers: a file that was built anew. -/
def enlisted (setting : Setting) (change : Path × ChangeKind) (bridge : Bridge) : List Path :=
  match change.2, resultOf (rebuildChanged setting change.1).run bridge with
  | .modified, .ok (_ :: _) => newlyBuilt (setting.normalise change.1) bridge
  | _, _ => []

theorem enlists_rebuildChanged
    (quiet : Fits nobody bridge) (distinct : bridge.plugins.Distinct) (setting : Setting)
    (path : Path) :
    Enlists (enlisted setting (path, .modified) bridge) bridge
      (endOf (rebuildChanged setting path).run bridge) := by
  have rebuilds := rebuilding quiet setting path
  rw [enlisted]
  generalize resultOf (rebuildChanged setting path).run bridge = outcome at rebuilds ⊢
  generalize endOf (rebuildChanged setting path).run bridge = after at rebuilds ⊢
  cases rebuilds with
  | untaken untaken idle elapsed =>
      cases outcome with
      | error fault => exact enlists_of_elapsed elapsed
      | ok names =>
          rcases idle names rfl with rfl
          exact enlists_of_elapsed elapsed
  | unchanged text taken known printed =>
      exact trans_of (Enlists []) (enlists_reread _ text bridge) (enlists_of_printed printed)
  | changed text taken told =>
      let file := setting.normalise path
      let current := reread setting file text bridge
      have reads : Enlists [] bridge current := enlists_reread file text bridge
      have influx : Influx bridge current := influx_reread setting file text bridge
      have distinctThen : current.plugins.Distinct := influx.plugins.symm ▸ distinct
      have builds := enlists_crossBuild distinctThen setting file
      rw [reads.newlyBuilt_eq] at builds
      have whole := reads.trans builds
      cases names : resultOf (crossBuild setting file) current with
      | nil =>
          rw [names] at whole
          exact whole
      | cons name rest =>
          rw [names] at whole
          exact whole

theorem enlists_answer
    (quiet : Fits nobody bridge) (distinct : bridge.plugins.Distinct) (setting : Setting)
    (change : Path × ChangeKind) :
    Enlists (enlisted setting change bridge) bridge (endOf (answer setting change) bridge) := by
  rcases change with ⟨path, kind⟩
  cases kind with
  | created => exact enlists_of_printed (keeps_answerListed printed_print path _ bridge)
  | removed => exact enlists_of_printed (keeps_answerListed printed_print path _ bridge)
  | modified =>
      have rebuilds := enlists_rebuildChanged quiet distinct setting path
      have tells :
          Enlists [] (endOf (rebuildChanged setting path).run bridge)
            (endOf (answer setting (path, .modified)) bridge) :=
        enlists_of_printed (keeps_tellRebuilt printed_print path _ _)
      have both := rebuilds.trans tells
      rwa [List.append_nil] at both

end Bridge

end ModuleBridge
