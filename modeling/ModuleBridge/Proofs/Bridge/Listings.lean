import ModuleBridge.Proofs.Bridge.Asides
import ModuleBridge.Proofs.Contexts

/-!
# Directories that builds have read

A build may read files from directories.  Where hot updates run, a load lists its file
under the directories that its artifact read, and these directories and the files in them
are watched from then on.  Nothing else lists a file: an artifact that is stored on behalf
of an auxiliary pipeline, or by a build that serves nobody, leaves the directories it read
untracked.
-/

namespace ModuleBridge

/-! ## What is listed and watched -/

/-- A directory is watched. -/
def WatchSet.watchesFolder (set : WatchSet) (path : Path) : Bool :=
  covers set.folders path

namespace WatchSet

variable {set : WatchSet} {path : Path}

theorem watchesFolder_addFile (added : Path) :
    (set.addFile added).1.watchesFolder path = set.watchesFolder path := by
  rw [addFile]
  split <;> rfl

theorem watches_addFolder (added : Path) :
    (set.addFolder added).1.watches path = set.watches path := by
  rw [addFolder]
  split <;> rfl

theorem watchesFolder_addFolder_self (set : WatchSet) (path : Path) :
    (set.addFolder path).1.watchesFolder path = true := by
  by_cases known : covers set.folders path = true
  · simp [addFolder, watchesFolder, known]
  · simp only [addFolder, watchesFolder, if_neg known]
    simp [covers, Path.same]

theorem watchesFolder_addFolder (watched : set.watchesFolder path = true) (added : Path) :
    (set.addFolder added).1.watchesFolder path = true := by
  by_cases known : covers set.folders added = true
  · simpa [addFolder, known] using watched
  · simp only [addFolder, if_neg known]
    simp only [watchesFolder, covers, List.any_append, Bool.or_eq_true] at watched ⊢
    exact .inl watched

end WatchSet

namespace Bridge

variable {setting : Setting} {before after bridge : Bridge} {group : DependGroup}
  {folder file path key : Path}

/-- Nothing that is watched is forgotten, and no listing is. -/
structure KeepsTrack (before after : Bridge) : Prop where
  lists : ∀ folder file, before.contexts.Lists folder file → after.contexts.Lists folder file
  files : ∀ path, before.watches.watches path = true → after.watches.watches path = true
  folders :
    ∀ path, before.watches.watchesFolder path = true → after.watches.watchesFolder path = true

instance : IsPreorder Bridge KeepsTrack where
  refl _ := ⟨fun _ _ => id, fun _ => id, fun _ => id⟩
  trans _ _ _ first second :=
    ⟨fun folder file => second.lists folder file ∘ first.lists folder file,
      fun path => second.files path ∘ first.files path,
      fun path => second.folders path ∘ first.folders path⟩

/-- No file is listed under another directory, and nothing that is watched is forgotten. -/
structure ListsNothing (before after : Bridge) : Prop where
  contexts : after.contexts = before.contexts
  files : ∀ path, before.watches.watches path = true → after.watches.watches path = true
  folders :
    ∀ path, before.watches.watchesFolder path = true → after.watches.watchesFolder path = true

theorem ListsNothing.keepsTrack (nothing : ListsNothing before after) :
    KeepsTrack before after := by
  refine ⟨?_, nothing.files, nothing.folders⟩
  rw [nothing.contexts]
  exact fun _ _ => id

instance : Blind ListsNothing where
  refl _ := ⟨rfl, fun _ => id, fun _ => id⟩
  trans _ _ _ first second :=
    ⟨second.contexts.trans first.contexts, fun path => second.files path ∘ first.files path,
      fun path => second.folders path ∘ first.folders path⟩
  unseen _ _ _ _ := ⟨rfl, fun _ => id, fun _ => id⟩

/-- Every directory that lists files is watched. -/
def Attended (bridge : Bridge) : Prop :=
  ∀ folder, bridge.contexts.tracks folder = true → bridge.watches.watchesFolder folder = true

theorem Attended.of_nothing (attended : Attended before) (nothing : ListsNothing before after) :
    Attended after := by
  intro folder tracked
  rw [nothing.contexts] at tracked
  exact nothing.folders folder (attended folder tracked)

/-- A file is listed under the directory of a group, which is watched with the files in it. -/
structure GroupTracked
    (setting : Setting) (file : Path) (group : DependGroup) (bridge : Bridge) : Prop where
  listed : bridge.contexts.Lists (setting.normalise group.folder) file
  followed : bridge.watches.watchesFolder (setting.normalise group.folder) = true
  /-- The files that are there are watched, unless only the directory is to be. -/
  watched :
    group.disabled = false → ∀ each ∈ group.files, setting.disk.isFile each = true →
      bridge.watches.watches (setting.normalise each) = true

theorem GroupTracked.retained
    (tracked : GroupTracked setting file group before) (retains : KeepsTrack before after) :
    GroupTracked setting file group after where
  listed := retains.lists _ _ tracked.listed
  followed := retains.folders _ tracked.followed
  watched enabled each member isFile := retains.files _ (tracked.watched enabled each member isFile)

/-! ## Work that lists nothing -/

theorem listsNothing_note (call : Call) : Keeps ListsNothing (note call) :=
  fun _ => ⟨rfl, fun _ => id, fun _ => id⟩

theorem listsNothing_watchFile (path : Path) : Keeps ListsNothing (watchFile path) := by
  intro bridge
  rw [endOf_watchFile]
  refine ⟨rfl, fun _ watched => WatchSet.watches_addFile_of_watches watched path, ?_⟩
  intro folder watched
  rwa [WatchSet.watchesFolder_addFile]

theorem listsNothing_watchFolder (path : Path) : Keeps ListsNothing (watchFolder path) := by
  intro bridge
  let watches := (bridge.watches.addFolder path).1
  have added : ListsNothing bridge { bridge with watches := watches } := by
    refine ⟨rfl, ?_, fun _ watched => WatchSet.watchesFolder_addFolder watched path⟩
    intro file watched
    rwa [WatchSet.watches_addFolder]
  exact trans_of ListsNothing added (keeps_when (listsNothing_note _) _ _)

theorem listsNothing_watchBuilt (path : Path) : Keeps ListsNothing (watchBuilt path) := by
  intro bridge
  simp only [watchBuilt, endOf_bind, endOf_get, resultOf_get]
  split
  · exact refl_of ListsNothing bridge
  · rename_i watches watched
    have added :
        ListsNothing bridge { bridge with builtWatches? := some (watches.addFile path).1 } :=
      ⟨rfl, fun _ => id, fun _ => id⟩
    exact trans_of ListsNothing added (keeps_when (listsNothing_note _) _ _)

theorem listsNothing_parts (setting : Setting) : Parts setting ListsNothing :=
  blind_parts listsNothing_note listsNothing_watchFile listsNothing_watchBuilt

/-! ## Groups that are tracked -/

theorem watches_watchFile_self (path : Path) (bridge : Bridge) :
    (endOf (watchFile path) bridge).watches.watches path = true := by
  rw [endOf_watchFile]
  exact WatchSet.watches_addFile_self bridge.watches path

theorem watchesFolder_watchFolder_self (path : Path) (bridge : Bridge) :
    (endOf (watchFolder path) bridge).watches.watchesFolder path = true := by
  let added : Bridge := { bridge with watches := (bridge.watches.addFolder path).1 }
  have tells : ListsNothing added (endOf (watchFolder path) bridge) :=
    keeps_when (listsNothing_note _) _ added
  exact tells.folders path (WatchSet.watchesFolder_addFolder_self bridge.watches path)

/-- The files of a list that are there are watched. -/
theorem watches_files (setting : Setting) (files : List Path) (bridge : Bridge) :
    let watching :=
      files.forM fun file => (discard (watchFile (setting.normalise file)) : Work Unit)
    ListsNothing bridge (endOf watching bridge) ∧
      ∀ file ∈ files, (endOf watching bridge).watches.watches (setting.normalise file) = true := by
  intro watching
  have keeps : ∀ files : List Path,
      Keeps ListsNothing
        (files.forM fun file => (discard (watchFile (setting.normalise file)) : Work Unit)) :=
    fun files => keeps_forM fun file => keeps_map (listsNothing_watchFile _) _
  refine ⟨keeps files bridge, ?_⟩
  induction files generalizing bridge with
  | nil => exact List.forall_mem_nil _
  | cons head rest inductionHypothesis =>
      let next := endOf (watchFile (setting.normalise head)) bridge
      intro file member
      rcases List.mem_cons.1 member with rfl | later
      · exact (keeps rest next).files _ (watches_watchFile_self _ bridge)
      · exact inductionHypothesis next file later

/-- Watches the files of a group that are there, unless only its directory is to be watched. -/
def watchMembers (setting : Setting) (group : DependGroup) : Work Unit :=
  if !group.disabled then
    (group.files.filter setting.disk.isFile).forM fun file =>
      discard (watchFile (setting.normalise file))
  else pure ()

theorem watches_members (setting : Setting) (group : DependGroup) (bridge : Bridge) :
    let last := endOf (watchMembers setting group) bridge
    ListsNothing bridge last ∧
      (group.disabled = false → ∀ each ∈ group.files, setting.disk.isFile each = true →
        last.watches.watches (setting.normalise each) = true) := by
  unfold watchMembers
  cases group.disabled with
  | true => exact ⟨refl_of ListsNothing bridge, nofun⟩
  | false =>
      rcases watches_files setting (group.files.filter setting.disk.isFile) bridge with
        ⟨after, watched⟩
      refine ⟨after, ?_⟩
      intro _ each member isFile
      exact watched each (List.mem_filter.2 ⟨member, isFile⟩)

/-- Where hot updates run, a directory that was read is added before anything is watched. -/
theorem endOf_trackGroup (setting : Setting) (path : Path) (group : DependGroup) (bridge : Bridge) :
    endOf (trackGroup setting path group) bridge =
      endOf (watchMembers setting group)
        (if setting.config.hotEnabled then
          let folder := setting.normalise group.folder
          let listed : Bridge :=
            { bridge with contexts := bridge.contexts.insert folder (setting.normalise path) }
          if bridge.contexts.tracks folder then listed else endOf (watchFolder folder) listed
        else bridge) := by
  rw [trackGroup]
  cases setting.config.hotEnabled with
  | false => rfl
  | true =>
      rw [if_pos rfl, if_pos rfl]
      let folder := setting.normalise group.folder
      let listed : Bridge :=
        { bridge with contexts := bridge.contexts.insert folder (setting.normalise path) }
      change
        endOf
          (if !bridge.contexts.tracks folder then
            discard (watchFolder folder) >>= fun _ => watchMembers setting group
          else watchMembers setting group)
          listed = _
      dsimp only
      cases bridge.contexts.tracks folder <;> rfl

/-- What a load does with a directory that was read, where hot updates run. -/
theorem tracked_trackGroup
    (path : Path) (group : DependGroup) (hot : setting.config.hotEnabled = true)
    (attended : Attended bridge) :
    let last := endOf (trackGroup setting path group) bridge
    last.contexts =
        bridge.contexts.insert (setting.normalise group.folder) (setting.normalise path) ∧
      KeepsTrack bridge last ∧ Attended last ∧
        GroupTracked setting (setting.normalise path) group last := by
  intro last
  let folder := setting.normalise group.folder
  let user := setting.normalise path
  let listed : Bridge := { bridge with contexts := bridge.contexts.insert folder user }
  have run : last = endOf (trackGroup setting path group) bridge := rfl
  rw [endOf_trackGroup, if_pos hot] at run
  have lists : KeepsTrack bridge listed := by
    refine ⟨?_, fun _ => id, fun _ => id⟩
    intro other file before
    exact (Contexts.lists_insert_iff _ _ _ _ _).2 (.inl before)
  have follows : ∃ followed,
      last = endOf (watchMembers setting group) followed ∧ ListsNothing listed followed ∧
        followed.watches.watchesFolder folder = true := by
    cases known : bridge.contexts.tracks folder with
    | true =>
        rw [if_pos known] at run
        exact ⟨listed, run, refl_of ListsNothing listed, attended folder known⟩
    | false =>
        rw [if_neg (Bool.eq_false_iff.1 known)] at run
        exact ⟨endOf (watchFolder folder) listed, run, listsNothing_watchFolder folder listed,
          watchesFolder_watchFolder_self folder listed⟩
  rcases follows with ⟨followed, ended, before, follows⟩
  have watches := watches_members setting group followed
  rw [← ended] at watches
  have after : ListsNothing listed last := trans_of ListsNothing before watches.1
  have contexts : last.contexts = bridge.contexts.insert folder user := after.contexts
  refine ⟨contexts, trans_of KeepsTrack lists after.keepsTrack, ?_, ?_, ?_, watches.2⟩
  · intro other tracked
    rw [contexts, Contexts.tracks_insert_iff] at tracked
    rcases tracked with known | rfl
    · exact after.folders other (attended other known)
    · exact watches.1.folders folder follows
  · rw [contexts]
    exact (Contexts.lists_insert_iff _ _ _ _ _).2 (.inr ⟨rfl, rfl⟩)
  · exact watches.1.folders folder follows

/-- What a load does with all directories that were read. -/
theorem tracked_groups
    (path : Path) (hot : setting.config.hotEnabled = true) (attended : Attended bridge)
    (groups : List DependGroup) :
    let last := endOf (groups.forM fun group => trackGroup setting path group) bridge
    (∀ folder file,
        last.contexts.Lists folder file ↔
          bridge.contexts.Lists folder file ∨
            file = setting.normalise path ∧
              ∃ group ∈ groups, setting.normalise group.folder = folder) ∧
      KeepsTrack bridge last ∧ Attended last ∧
        ∀ group ∈ groups, GroupTracked setting (setting.normalise path) group last := by
  induction groups generalizing bridge with
  | nil =>
      refine ⟨?_, refl_of KeepsTrack bridge, attended, List.forall_mem_nil _⟩
      intro folder file
      refine ⟨.inl, ?_⟩
      rintro (before | ⟨-, group, member, -⟩)
      · exact before
      · cases member
  | cons group rest inductionHypothesis =>
      intro last
      let next := endOf (trackGroup setting path group) bridge
      rcases tracked_trackGroup path group hot attended with
        ⟨contexts, retains, attendedNext, tracked⟩
      rcases inductionHypothesis attendedNext with ⟨lists, retainsRest, attendedLast, trackedRest⟩
      refine ⟨?_, trans_of KeepsTrack retains retainsRest, attendedLast, ?_⟩
      · intro folder file
        change (endOf (rest.forM fun group => trackGroup setting path group) next).contexts.Lists
          folder file ↔ _
        rw [lists, contexts, Contexts.lists_insert_iff, or_assoc]
        refine or_congr_right ?_
        constructor
        · rintro (⟨rfl, rfl⟩ | ⟨rfl, other, member, rfl⟩)
          · exact ⟨rfl, group, List.mem_cons_self, rfl⟩
          · exact ⟨rfl, other, List.mem_cons_of_mem group member, rfl⟩
        · rintro ⟨rfl, other, member, rfl⟩
          rcases List.mem_cons.1 member with rfl | later
          · exact .inl ⟨rfl, rfl⟩
          · exact .inr ⟨rfl, other, later, rfl⟩
      · intro other member
        rcases List.mem_cons.1 member with rfl | later
        · exact tracked.retained retainsRest
        · exact trackedRest other later

end Bridge

/-! ## Artifacts that loads hand out -/

/-- An artifact that a load built for the pipeline that asks, and the file it was built from. -/
structure Handout where
  setting : Setting
  file : Path
  artifact : Artifact

/-- The file is listed under a directory that its artifact read. -/
def Handout.Names (handout : Handout) (folder file : Path) : Prop :=
  file = handout.file ∧
    ∃ group ∈ handout.artifact.groups, handout.setting.normalise group.folder = folder

namespace Happening

/-- What a load hands out, where it serves a file by an artifact. -/
def handout? (each : Happening) (bridge : Bridge) : Option Handout :=
  each.load?.bind fun (setting, plugin, id) =>
    (Bridge.ownBuilt? setting plugin id bridge).map fun built =>
      ⟨setting, setting.normalise (Event.fileOf setting id), built.artifact⟩

/-- What the loads of a story hand out. -/
def handouts : List Happening → Bridge → List Handout
  | [], _ => []
  | each :: rest, bridge => (each.handout? bridge).toList ++ handouts rest (each.run bridge)

theorem handout?_eq_some
    {each : Happening} {bridge : Bridge} {handout : Handout}
    (handed : each.handout? bridge = some handout) :
    ∃ setting plugin id built,
      each.load? = some (setting, plugin, id) ∧
        Bridge.ownBuilt? setting plugin id bridge = some built ∧
        handout = ⟨setting, setting.normalise (Event.fileOf setting id), built.artifact⟩ := by
  rcases Option.bind_eq_some_iff.1 handed with ⟨⟨setting, plugin, id⟩, loads, serves⟩
  rcases Option.map_eq_some_iff.1 serves with ⟨built, own, made⟩
  exact ⟨setting, plugin, id, built, loads, own, made.symm⟩

end Happening

namespace Bridge

variable {setting : Setting} {before after bridge : Bridge} {plugin : Plugin} {id : String}
  {built : Built} {handouts : List Handout}

/-- Exactly what was handed out was listed, and all of it is tracked. -/
structure ListsFor (handouts : List Handout) (before after : Bridge) : Prop where
  lists :
    ∀ folder file,
      after.contexts.Lists folder file ↔
        before.contexts.Lists folder file ∨ ∃ handout ∈ handouts, handout.Names folder file
  keeps : KeepsTrack before after
  attended : Attended after
  tracked :
    ∀ handout ∈ handouts, ∀ group ∈ handout.artifact.groups,
      GroupTracked handout.setting handout.file group after

theorem ListsNothing.listsFor
    (nothing : ListsNothing before after) (attended : Attended before) :
    ListsFor [] before after where
  lists folder file := by
    rw [nothing.contexts]
    simp
  keeps := nothing.keepsTrack
  attended := attended.of_nothing nothing
  tracked := List.forall_mem_nil _

theorem ListsFor.append
    {middle : Bridge} {further : List Handout}
    (first : ListsFor handouts before middle) (second : ListsFor further middle after) :
    ListsFor (handouts ++ further) before after where
  lists folder file := by
    rw [second.lists, first.lists, or_assoc]
    simp only [List.mem_append, or_and_right, exists_or]
  keeps := trans_of KeepsTrack first.keeps second.keeps
  attended := second.attended
  tracked handout member group among := by
    rcases List.mem_append.1 member with earlier | later
    · exact (first.tracked handout earlier group among).retained second.keeps
    · exact second.tracked handout later group among

theorem endOf_forM_lift (items : List α) (body : α → Work Unit) (bridge : Bridge) :
    resultOf (items.forM fun item => (liftM (body item) : Attempt Unit)).run bridge = .ok () ∧
      endOf (items.forM fun item => (liftM (body item) : Attempt Unit)).run bridge =
        endOf (items.forM body) bridge := by
  induction items generalizing bridge with
  | nil => exact ⟨rfl, rfl⟩
  | cons item rest inductionHypothesis => exact inductionHypothesis (endOf (body item) bridge)

theorem listsNothing_tends : Tends ListsNothing where
  prints := blind_print
  files := listsNothing_watchFile
  styles _ := listsNothing_note _

/-- A load tracks the directories that the artifact read which it hands out. -/
theorem listsFor_load
    (hot : setting.config.hotEnabled = true) (attended : Attended bridge)
    (own : ownBuilt? setting plugin id bridge = some built) :
    ListsFor [⟨setting, setting.normalise (Event.fileOf setting id), built.artifact⟩] bridge
      (endOf (load setting plugin id).run bridge) := by
  let path := Event.fileOf setting id
  let tracking : Work Unit :=
    built.artifact.groups.forM fun group => trackGroup setting path group
  let building := ownBuilding setting plugin id bridge
  have builds : ListsFor [] bridge building :=
    ((listsNothing_parts setting).ownBuilding plugin id bridge).listsFor attended
  have tracks :
      ListsFor [⟨setting, setting.normalise path, built.artifact⟩] building
        (endOf tracking building) := by
    rcases tracked_groups path hot builds.attended built.artifact.groups with
      ⟨lists, keeps, attendedThen, tracked⟩
    refine ⟨?_, keeps, attendedThen, ?_⟩
    · intro folder file
      rw [lists]
      simp [Handout.Names]
    · intro handout member
      rcases List.mem_singleton.1 member with rfl
      dsimp only
      exact tracked
  rw [load_of_own own, serveBuilt_eq]
  rcases endOf_forM_lift built.artifact.groups (fun group => trackGroup setting path group)
    building with ⟨succeeds, ended⟩
  rw [(attempt_of_ok succeeds _).2, ended]
  have serves :
      Keeps ListsNothing
        (serveTracked setting (Resource.parse setting.config.resolve id) (setting.normalise path)
          built).run :=
    listsNothing_tends.serveTracked _ _ _
  exact (builds.append tracks).append ((serves _).listsFor tracks.attended)

/-! ## Stories -/

/-- What happens tracks the directories of what it hands out, and of nothing else. -/
theorem listsFor_run
    {each : Happening} (hot : each.Among fun setting => setting.config.hotEnabled = true)
    (attended : Attended bridge) :
    ListsFor (each.handout? bridge).toList bridge (each.run bridge) := by
  let anywhere : Setting → Prop := fun _ => True
  have among : each.Among anywhere := by cases each <;> trivial
  cases handed : each.handout? bridge with
  | none =>
      refine ListsNothing.listsFor ?_ attended
      refine Happening.keeps_run (fun setting _ => listsNothing_parts setting) among ?_ ?_ ?_
      · intro setting plugin id loads _
        refine (listsNothing_parts setting).load_of_nothing_own ?_
        rw [Happening.handout?, loads] at handed
        exact Option.map_eq_none_iff.1 handed
      · exact fun _ _ => ⟨rfl, fun _ => id, fun _ => id⟩
      · intro _
        exact keeps_bind keeps_get (fun current =>
          keeps_bind (keeps_forM fun key => listsNothing_note (.release key)) fun _ bridge =>
            ⟨rfl, fun _ => id, fun _ => id⟩) bridge
  | some handout =>
      rcases Happening.handout?_eq_some handed with ⟨setting, plugin, id, built, loads, own, rfl⟩
      rcases Happening.run_of_load loads with ⟨run, among⟩
      rw [run]
      exact listsFor_load (among _ hot) attended own

theorem listsFor_runAll
    {story : List Happening}
    (hot : ∀ each ∈ story, each.Among fun setting => setting.config.hotEnabled = true)
    (attended : Attended bridge) :
    ListsFor (Happening.handouts story bridge) bridge (Happening.runAll story bridge) := by
  induction story generalizing bridge with
  | nil => exact (refl_of ListsNothing bridge).listsFor attended
  | cons each rest inductionHypothesis =>
      have first := listsFor_run (hot each List.mem_cons_self) attended
      have hotRest := fun other member => hot other (List.mem_cons_of_mem each member)
      exact first.append (inductionHypothesis hotRest first.attended)

/-! ## What is stored -/

/-- While texts come in, the core of a record stays as it is, or its slot is emptied. -/
theorem core_or_emptied
    (key : Path) (influx : Influx before after) :
    (after.registry.find key).core = (before.registry.find key).core ∨
      (after.registry.find key).slot? = none := by
  let known : Record → Prop := fun record =>
    record.core = (before.registry.find key).core ∨ record.slot? = none
  have step :
      ∀ record action, textsOnly key record action → known record → known (record.act action) := by
    intro record action brings before
    rcases Record.core_act_of_bringsText brings record with same | ⟨text, renews⟩
    · rcases before with still | empty
      · exact .inl (same.trans still)
      · exact .inr ((Record.fields_of_core_eq same).2.2.2.2.trans empty)
    · exact .inr (Record.fields_of_core_eq renews).2.2.2.2
  exact (influx.registry.record key).keeps step (.inl rfl)

/-- What a pipeline built is in the slot, or another text came in and nothing is. -/
theorem slot_of_offered
    {key : Path} {view : View} {selector? : Option String} {artifact : Artifact} {slot : Slot}
    (viewed : (bridge.registry.find key).view? = some view)
    (stored :
      ((offered key ⟨plugin.id, view.revision, selector?, artifact⟩
        (answered setting key plugin view selector? bridge)).registry.find key).slot? =
          some slot) :
    slot = ⟨plugin.id, view.revision, selector?, artifact⟩ := by
  let asked := answered setting key plugin view selector? bridge
  have influx : Influx bridge asked := influx_answered bridge
  rcases Record.fields_of_view viewed with ⟨analysed, source, revision⟩
  have known : (bridge.registry.get? key).isSome := by
    rw [Registry.get?_of_held source]
    rfl
  have registered : (asked.registry.get? key).isSome := influx.registry.registered key known
  rcases core_or_emptied key influx with same | empty
  · rcases Record.fields_of_core_eq same with ⟨-, -, revisions, analyses, -⟩
    rw [slot?_offered registered (revisions.trans revision.symm) (analyses ▸ analysed)] at stored
    exact (Option.some.inj stored).symm
  · have found :
        (offered key ⟨plugin.id, view.revision, selector?, artifact⟩ asked).registry.find key =
          ((asked.registry.find key).storeBuild
            ⟨plugin.id, view.revision, selector?, artifact⟩).1 :=
      Registry.find_put_self registered _
    rw [found, Record.storeBuild] at stored
    split at stored
    · exact (Option.some.inj stored).symm
    · cases empty.symm.trans stored

/-- A build that succeeds leaves its own artifact in the slot, or nothing. -/
theorem artifact_of_slot
    {path : Path} {selector? : Option String} {resource : String} {slot : Slot}
    (succeeded :
      resultOf (build setting path plugin selector? resource).run bridge = .ok built)
    (stored :
      ((endOf (build setting path plugin selector? resource).run bridge).registry.find
        (setting.normalise path)).slot? = some slot) :
    slot.artifact = built.artifact := by
  rcases ready_of_built succeeded with ⟨readiness, readied⟩
  rcases building_of_ready readied plugin selector? resource with ⟨result, building⟩
  rw [← result, succeeded] at building
  cases building with
  | reused view artifact warnings viewed reusable printed =>
      rw [registry_of_printed printed, (Record.slot?_of_reusable reusable).1] at stored
      rcases Option.some.inj stored with rfl
      rfl
  | built view middle artifact warnings further viewed printed delivered kept =>
      rw [registry_of_printed kept] at stored
      rw [← registry_of_printed printed] at viewed
      rcases slot_of_offered viewed stored with rfl
      rfl

/-- Behind a load that hands an artifact out, the slot of the file holds it, or nothing. -/
theorem artifact_of_handout
    {each : Happening} {handout : Handout} {slot : Slot}
    (handed : each.handout? bridge = some handout)
    (stored : ((each.run bridge).registry.find handout.file).slot? = some slot) :
    slot.artifact = handout.artifact := by
  rcases Happening.handout?_eq_some handed with ⟨setting, plugin, id, built, loads, own, rfl⟩
  rw [(Happening.run_of_load loads).1, load_of_own own,
    (apart_attends.serveBuilt _ _ _ built _).registry] at stored
  dsimp only at stored
  exact artifact_of_slot (own_iff.1 own).2 stored

/-- Something that happens puts an artifact into the slot of a file. -/
structure Puts (each : Happening) (key : Path) (slot : Slot) (before : Bridge) : Prop where
  missing : (before.registry.find key).slot? ≠ some slot
  stored : ((each.run before).registry.find key).slot? = some slot

/-- What was not in a slot before a story, and is at its end, was put there on the way. -/
theorem puts_of_stored
    {story : List Happening} {start : Bridge} {key : Path} {slot : Slot}
    (missing : (start.registry.find key).slot? ≠ some slot)
    (stored : ((Happening.runAll story start).registry.find key).slot? = some slot) :
    ∃ earlier each later,
      story = earlier ++ each :: later ∧ Puts each key slot (Happening.runAll earlier start) := by
  induction story generalizing start with
  | nil => exact absurd stored missing
  | cons each rest inductionHypothesis =>
      by_cases put : ((each.run start).registry.find key).slot? = some slot
      · exact ⟨[], each, rest, rfl, missing, put⟩
      · rcases inductionHypothesis put stored with ⟨earlier, other, later, rfl, puts⟩
        exact ⟨each :: earlier, other, later, rfl, puts⟩

theorem mem_handouts
    {earlier later : List Happening} {each : Happening} {start : Bridge} {handout : Handout}
    (handed : each.handout? (Happening.runAll earlier start) = some handout) :
    handout ∈ Happening.handouts (earlier ++ each :: later) start := by
  induction earlier generalizing start with
  | nil => exact List.mem_append_left _ (Option.mem_toList.2 handed)
  | cons first rest inductionHypothesis =>
      exact List.mem_append_right _ (inductionHypothesis handed)

/--
Where hot updates run and no directory was tracked before: in the end a file is listed under
a directory exactly when a load handed out an artifact of it that had read the directory, and
every directory that lists files is watched.  Whatever has come into a slot was put there by
something that happened; when that was a load that handed out the artifact, all directories
that it read are tracked to the end, with the files in them.
-/
theorem stored_groups_tracked
    {story : List Happening} {start : Bridge}
    (hot : ∀ each ∈ story, each.Among fun setting => setting.config.hotEnabled = true)
    (untracked : start.contexts = .empty) :
    let last := Happening.runAll story start
    (∀ folder file,
        last.contexts.Lists folder file ↔
          ∃ handout ∈ Happening.handouts story start, handout.Names folder file) ∧
      (∀ folder, last.contexts.tracks folder = true →
        last.watches.watchesFolder folder = true) ∧
      ∀ key slot, (start.registry.find key).slot? ≠ some slot →
        (last.registry.find key).slot? = some slot →
          (∃ earlier each later,
            story = earlier ++ each :: later ∧
              Puts each key slot (Happening.runAll earlier start)) ∧
          ∀ earlier each later handout,
            story = earlier ++ each :: later →
              Puts each key slot (Happening.runAll earlier start) →
                each.handout? (Happening.runAll earlier start) = some handout →
                  handout.file = key →
                    ∀ group ∈ slot.artifact.groups,
                      GroupTracked handout.setting key group last := by
  intro last
  have attended : Attended start := by
    intro folder tracked
    rw [untracked] at tracked
    cases tracked
  have told := listsFor_runAll hot attended
  refine ⟨?_, told.attended, ?_⟩
  · intro folder file
    refine (told.lists folder file).trans (or_iff_right ?_)
    intro before
    have tracked := Contexts.tracks_of_lists before
    rw [untracked] at tracked
    cases tracked
  · intro key slot missing stored
    refine ⟨puts_of_stored missing stored, ?_⟩
    rintro earlier each later handout rfl puts handed rfl group member
    rw [artifact_of_handout handed puts.stored] at member
    exact told.tracked handout (mem_handouts handed) group member

/-! ## Builds that read a directory -/

/-- A directory, and a file in it. -/
def pagesGroup : DependGroup :=
  ⟨⟨"/p"⟩, [⟨"/p/a.es"⟩], false⟩

/-- An artifact that read the directory. -/
def pagesArtifact : Artifact :=
  { Artifact.ofCode "" with groups := [pagesGroup] }

/-- Surroundings where hot updates run and every build reads the directory. -/
def pagesSetting : Setting :=
  { asideSetting "a" false (.built pagesArtifact []) with
    config := { Config.standard with hot := { HotSettings.standard with enabled := some true } }
    disk :=
      ⟨[(["s"], .directory), (["s", "a.es"], .file (some "a")), (["c"], .directory),
        (["c", "b.es"], .file (some "b")), (["p"], .directory),
        (["p", "a.es"], .file (some "p"))], []⟩ }

/-- The file that the main pipeline loads. -/
def loadedPages : Happening :=
  .job ⟨pagesSetting, .load linkedPlugins.main "/c/b.es"⟩

set_option maxRecDepth 2000 in
theorem handout?_loadedPages :
    loadedPages.handout? linkedBridge = some ⟨pagesSetting, ⟨"/c/b.es"⟩, pagesArtifact⟩ := by
  have file : pagesSetting.normalise (Event.fileOf pagesSetting "/c/b.es") = ⟨"/c/b.es"⟩ := by cbv
  have artifact :
      (ownBuilt? pagesSetting linkedPlugins.main "/c/b.es" linkedBridge).map Built.artifact =
        some pagesArtifact := by
    cbv
  rcases Option.map_eq_some_iff.1 artifact with ⟨built, own, made⟩
  change (ownBuilt? pagesSetting linkedPlugins.main "/c/b.es" linkedBridge).map _ = _
  rw [own, ← made, ← file]
  rfl

set_option maxRecDepth 2000 in
theorem artifact_loadedPages :
    ((Happening.runAll [loadedPages] linkedBridge).registry.find ⟨"/c/b.es"⟩).slot?.map
      Slot.artifact = some pagesArtifact := by
  cbv

/-- The load of a local file tracks the directory that its build read. -/
theorem stored_groups_tracked_loaded :
    let last := Happening.runAll [loadedPages] linkedBridge
    (∀ each ∈ [loadedPages], each.Among fun setting => setting.config.hotEnabled = true) ∧
      linkedBridge.contexts = .empty ∧
      (last.registry.find ⟨"/c/b.es"⟩).slot?.map Slot.artifact = some pagesArtifact ∧
      GroupTracked pagesSetting ⟨"/c/b.es"⟩ pagesGroup last := by
  intro last
  have hot : ∀ each ∈ [loadedPages],
      each.Among fun setting => setting.config.hotEnabled = true := by
    intro each member
    rcases List.mem_singleton.1 member with rfl
    change pagesSetting.config.hotEnabled = true
    decide
  rcases Option.map_eq_some_iff.1 artifact_loadedPages with ⟨slot, stored, made⟩
  have missing : (linkedBridge.registry.find ⟨"/c/b.es"⟩).slot? ≠ some slot := nofun
  have tracked := ((stored_groups_tracked hot rfl).2.2 ⟨"/c/b.es"⟩ slot missing stored).2
    [] loadedPages [] _ rfl ⟨missing, stored⟩ handout?_loadedPages rfl pagesGroup
  refine ⟨hot, rfl, artifact_loadedPages, tracked ?_⟩
  rw [made]
  exact List.mem_cons_self

set_option maxRecDepth 2000 in
/--
The auxiliary pipeline builds a file of the server and reads the directory.  Its artifact
is stored, but neither the directory nor the file in it is tracked.
-/
theorem aside_groups_untracked :
    let last := Happening.runAll [.job ⟨pagesSetting, .crossBuild ⟨"/s/a.es"⟩⟩] linkedBridge
    pagesSetting.config.hotEnabled = true ∧
      pagesSetting.disk.isFile ⟨"/p/a.es"⟩ = true ∧
      linkedBridge.contexts = .empty ∧
      (last.registry.find ⟨"/s/a.es"⟩).slot?.map Slot.artifact = some pagesArtifact ∧
      pagesArtifact.groups = [pagesGroup] ∧
      last.contexts = .empty ∧
      last.watches.watchesFolder (pagesSetting.normalise pagesGroup.folder) = false ∧
      last.watches.watches (pagesSetting.normalise ⟨"/p/a.es"⟩) = false := by
  cbv

end Bridge

end ModuleBridge
