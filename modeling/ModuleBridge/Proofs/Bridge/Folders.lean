import ModuleBridge.Proofs.Bridge.Listings
import ModuleBridge.Proofs.Disk

/-!
# What follows from directories that were read

A load that hands out an artifact adds its file to every directory that the artifact read.
A change of a path then affects the files of the deepest such directory above the path.
The host is asked to watch a directory when it is added first, and never again.
-/

namespace ModuleBridge

/-- The directory that a call asks the host to watch. -/
def Call.watchedFolder? : Call → Option Path
  | .watchFolder path => some path
  | _ => none

/-- The groups of an artifact that was built from a file. -/
structure Reading where
  file : Path
  groups : List DependGroup

/-- A file depends on the directories of the groups. -/
def Reading.additions (reading : Reading) : List Contexts.Addition :=
  reading.groups.map fun group => ⟨group.folder, reading.file⟩

namespace Bridge

variable {α : Type} {setting : Setting} {before middle after bridge : Bridge}
  {folder : Path} {added further : List Path} {additions others : List Contexts.Addition}

/-- Tracks what was read for one artifact after another. -/
def trackAll (setting : Setting) (readings : List Reading) : Work Unit :=
  readings.forM fun reading =>
    reading.groups.forM fun group => trackGroup setting reading.file group

/-! ## Directories that the host is told of -/

/-- Directories that are watched in addition, each told to the host if it wants to know. -/
structure Registers (added : List Path) (before after : Bridge) : Prop where
  folders : after.watches.folders = before.watches.folders ++ added
  active : after.watches.isActive = before.watches.isActive
  told :
    ∃ calls,
      after.journal = before.journal ++ calls ∧
        calls.filterMap Call.watchedFolder? = if before.watches.isActive then added else []

theorem Registers.append
    (first : Registers added before middle) (second : Registers further middle after) :
    Registers (added ++ further) before after where
  folders := by rw [second.folders, first.folders, List.append_assoc]
  active := second.active.trans first.active
  told := by
    rcases first.told with ⟨calls, journal, told⟩
    rcases second.told with ⟨later, journalAfter, toldLater⟩
    refine ⟨calls ++ later, by rw [journalAfter, journal, List.append_assoc], ?_⟩
    rw [List.filterMap_append, told, toldLater, first.active]
    split <;> rfl

instance : IsPreorder Bridge (Registers []) where
  refl _ := ⟨(List.append_nil _).symm, rfl, [], (List.append_nil _).symm, (ite_self _).symm⟩
  trans _ _ _ := Registers.append

theorem Registers.watchesFolder
    (registers : Registers added before after) (folder : Path) :
    after.watches.watchesFolder folder =
      (before.watches.watchesFolder folder || added.any folder.same) := by
  rw [WatchSet.watchesFolder, WatchSet.covers, registers.folders, List.any_append]
  rfl

theorem Registers.of_listed
    {contexts : Contexts}
    (registers : Registers added { before with contexts := contexts } after) :
    Registers added before after :=
  ⟨registers.folders, registers.active, registers.told⟩

theorem registers_watchFile (path : Path) : Keeps (Registers []) (watchFile path) := by
  intro bridge
  rw [endOf_watchFile]
  refine ⟨?_, ?_, _, rfl, ?_⟩
  · rw [List.append_nil, WatchSet.addFile]
    split <;> rfl
  · rw [WatchSet.addFile]
    split <;> rfl
  · rw [ite_self]
    split <;> rfl

theorem registers_watchMembers (setting : Setting) (group : DependGroup) :
    Keeps (Registers []) (watchMembers setting group) :=
  keeps_ite (keeps_forM fun _ => keeps_map (registers_watchFile _) _) (keeps_pure ())

theorem registers_watchFolder (path : Path) (bridge : Bridge) :
    Registers (if !bridge.watches.watchesFolder path then [path] else []) bridge
      (endOf (watchFolder path) bridge) := by
  cases watched : bridge.watches.watchesFolder path with
  | true =>
      have known : bridge.watches.addFolder path = (bridge.watches, false) := if_pos watched
      have idle : endOf (watchFolder path) bridge = bridge := by
        simp only [watchFolder, endOf_bind, endOf_get, resultOf_get, known]
        rfl
      rw [idle]
      exact refl_of (Registers []) bridge
  | false =>
      let watches : WatchSet :=
        { bridge.watches with folders := bridge.watches.folders ++ [path] }
      have new : bridge.watches.addFolder path = (watches, true) :=
        if_neg fun known => Bool.false_ne_true (watched.symm.trans known)
      have ended :
          endOf (watchFolder path) bridge =
            if bridge.watches.isActive then
              { bridge with watches := watches, journal := bridge.journal ++ [.watchFolder path] }
            else { bridge with watches := watches } := by
        simp only [watchFolder, endOf_bind, endOf_get, resultOf_get, new]
        cases bridge.watches.isActive <;> rfl
      rw [ended, if_pos Bool.not_false]
      split
      · rename_i active
        exact ⟨rfl, rfl, [.watchFolder path], rfl, (if_pos active).symm⟩
      · rename_i inactive
        exact ⟨rfl, rfl, [], (List.append_nil _).symm, (if_neg inactive).symm⟩

/-! ## Directories that are tracked -/

/-- A directory that will be watched when it is read: it is neither tracked nor watched yet. -/
def isFresh (setting : Setting) (bridge : Bridge) (folder : Path) : Bool :=
  setting.config.hotEnabled && !bridge.contexts.tracks folder &&
    !bridge.watches.watchesFolder folder

theorem isFresh_iff :
    isFresh setting bridge folder = true ↔
      setting.config.hotEnabled = true ∧ bridge.contexts.tracks folder = false ∧
        bridge.watches.watchesFolder folder = false := by
  simp only [isFresh, Bool.and_eq_true, Bool.not_eq_true', and_assoc]

theorem registers_trackGroup
    (setting : Setting) (path : Path) (group : DependGroup) (bridge : Bridge) :
    let folder := setting.normalise group.folder
    Registers (if isFresh setting bridge folder then [folder] else []) bridge
      (endOf (trackGroup setting path group) bridge) := by
  intro folder
  have members := registers_watchMembers setting group
  rw [endOf_trackGroup, isFresh]
  cases setting.config.hotEnabled with
  | false => exact members bridge
  | true =>
      let listed : Bridge :=
        { bridge with contexts := bridge.contexts.insert folder (setting.normalise path) }
      rw [if_pos rfl]
      dsimp only
      cases bridge.contexts.tracks folder with
      | true => exact (members listed).of_listed
      | false =>
          have watches := (registers_watchFolder folder listed).append (members _)
          rw [List.append_nil] at watches
          exact watches.of_listed

theorem contexts_trackGroup
    (setting : Setting) (path : Path) (group : DependGroup) (bridge : Bridge) :
    (endOf (trackGroup setting path group) bridge).contexts =
      if setting.config.hotEnabled then
        bridge.contexts.insert (setting.normalise group.folder) (setting.normalise path)
      else bridge.contexts := by
  rw [endOf_trackGroup, (watches_members setting group _).1.contexts]
  split
  · dsimp only
    split
    · rfl
    · exact (listsNothing_watchFolder _ _).contexts
  · rfl

/--
What was added is tracked where hot updates run, and the directories among it that were fresh
before are registered.
-/
structure TracksFor
    (setting : Setting) (additions : List Contexts.Addition) (before after : Bridge) : Prop where
  contexts :
    after.contexts =
      if setting.config.hotEnabled then before.contexts.after setting.normalise additions
      else before.contexts
  registers :
    ∃ added,
      Registers added before after ∧ added.Nodup ∧
        ∀ folder, folder ∈ added ↔
          Contexts.Reaches setting.normalise additions folder ∧
            isFresh setting before folder = true

theorem TracksFor.refl (setting : Setting) (bridge : Bridge) :
    TracksFor setting [] bridge bridge := by
  refine ⟨(ite_self _).symm, [], refl_of (Registers []) bridge, List.nodup_nil, ?_⟩
  intro folder
  simp [Contexts.Reaches]

theorem tracksFor_trackGroup
    (setting : Setting) (path : Path) (group : DependGroup) (bridge : Bridge) :
    TracksFor setting [⟨group.folder, path⟩] bridge
      (endOf (trackGroup setting path group) bridge) := by
  refine ⟨contexts_trackGroup setting path group bridge, _,
    registers_trackGroup setting path group bridge, ?_, ?_⟩
  · split
    · exact List.nodup_singleton _
    · exact List.nodup_nil
  · intro folder
    rw [Contexts.reaches_singleton_iff]
    split
    · rename_i fresh
      rw [List.mem_singleton]
      constructor
      · rintro rfl
        exact ⟨rfl, fresh⟩
      · rintro ⟨rfl, -⟩
        rfl
    · rename_i stale
      refine iff_of_false List.not_mem_nil ?_
      rintro ⟨rfl, fresh⟩
      exact stale fresh

/-- Of the directories that are read next, those stay fresh that were not read before. -/
theorem TracksFor.isFresh_iff
    (working : Disk.PlainPlace setting.disk.working)
    (tracks : TracksFor setting additions before after)
    (next : Contexts.Reaches setting.normalise others folder) :
    isFresh setting after folder = true ↔
      isFresh setting before folder = true ∧
        ¬Contexts.Reaches setting.normalise additions folder := by
  rcases tracks with ⟨contexts, added, registers, -, fresh⟩
  have watched :
      after.watches.watchesFolder folder = false ↔
        before.watches.watchesFolder folder = false ∧ ∀ other ∈ added, ¬folder.same other := by
    rw [registers.watchesFolder, Bool.or_eq_false_iff, List.any_eq_false]
  rw [Bridge.isFresh_iff, Bridge.isFresh_iff, watched]
  constructor
  · rintro ⟨hot, untracked, unwatched, -⟩
    rw [contexts, if_pos hot, Bool.eq_false_iff] at untracked
    rw [Bool.eq_false_iff]
    exact ⟨⟨hot, fun known => untracked (Contexts.tracks_after_iff.2 (.inl known)), unwatched⟩,
      fun reached => untracked (Contexts.tracks_after_iff.2 (.inr reached))⟩
  · rintro ⟨⟨hot, untracked, unwatched⟩, unread⟩
    refine ⟨hot, ?_, unwatched, ?_⟩
    · rw [contexts, if_pos hot, Bool.eq_false_iff]
      intro tracked
      rcases Contexts.tracks_after_iff.1 tracked with known | reached
      · exact Bool.false_ne_true (untracked.symm.trans known)
      · exact unread reached
    · -- Both are normal forms, which are spelled in one way.
      intro other registered same
      have reached := ((fresh other).1 registered).1
      have isOther : folder = other :=
        next.eq_of_components (Disk.spelled_normalise working) reached (beq_iff_eq.1 same)
      rw [isOther] at unread
      exact unread reached

theorem TracksFor.append
    (working : Disk.PlainPlace setting.disk.working)
    (first : TracksFor setting additions before middle)
    (second : TracksFor setting others middle after) :
    TracksFor setting (additions ++ others) before after := by
  have staysFresh (folder : Path) (next : Contexts.Reaches setting.normalise others folder) :=
    first.isFresh_iff working next
  rcases first with ⟨contexts, added, registers, once, fresh⟩
  rcases second with ⟨contextsAfter, further, registersAfter, onceAfter, freshAfter⟩
  refine ⟨?_, added ++ further, registers.append registersAfter, ?_, ?_⟩
  · rw [contextsAfter, contexts]
    split
    · exact (Contexts.after_append _ _).symm
    · rfl
  · refine once.append onceAfter ?_
    intro folder early late
    rcases (freshAfter folder).1 late with ⟨next, stillFresh⟩
    exact ((staysFresh folder next).1 stillFresh).2 ((fresh folder).1 early).1
  · intro folder
    rw [List.mem_append, fresh, freshAfter, Contexts.reaches_append_iff, or_and_right]
    constructor
    · rintro (early | ⟨next, stillFresh⟩)
      · exact .inl early
      · exact .inr ⟨next, ((staysFresh folder next).1 stillFresh).1⟩
    · rintro (early | ⟨next, isFresh⟩)
      · exact .inl early
      · by_cases read : Contexts.Reaches setting.normalise additions folder
        · exact .inl ⟨read, isFresh⟩
        · exact .inr ⟨next, (staysFresh folder next).2 ⟨isFresh, read⟩⟩

theorem tracksFor_forM
    {items : List α} {body : α → Work Unit} {additionsOf : α → List Contexts.Addition}
    (working : Disk.PlainPlace setting.disk.working)
    (each : ∀ item bridge, TracksFor setting (additionsOf item) bridge (endOf (body item) bridge))
    (bridge : Bridge) :
    TracksFor setting (items.flatMap additionsOf) bridge (endOf (items.forM body) bridge) := by
  induction items generalizing bridge with
  | nil => exact .refl setting bridge
  | cons item rest inductionHypothesis =>
      rw [List.flatMap_cons]
      exact (each item bridge).append working (inductionHypothesis (endOf (body item) bridge))

/-- What was read for one artifact after another is tracked. -/
theorem tracksFor_trackAll
    (working : Disk.PlainPlace setting.disk.working) (readings : List Reading) (bridge : Bridge) :
    TracksFor setting (readings.flatMap Reading.additions) bridge
      (endOf (trackAll setting readings) bridge) := by
  refine tracksFor_forM working ?_ bridge
  intro reading bridge
  rw [Reading.additions, List.map_eq_flatMap]
  exact tracksFor_forM working (fun group => tracksFor_trackGroup setting reading.file group) bridge

/-- The host is asked once to watch each directory that was fresh before. -/
theorem TracksFor.told_once (tracks : TracksFor setting additions before after) :
    ∃ calls,
      after.journal = before.journal ++ calls ∧
        (calls.filterMap Call.watchedFolder?).Nodup ∧
        ∀ folder,
          folder ∈ calls.filterMap Call.watchedFolder? ↔
            setting.config.hotEnabled = true ∧ before.watches.isActive = true ∧
              Contexts.Reaches setting.normalise additions folder ∧
              before.contexts.tracks folder = false ∧
              before.watches.watchesFolder folder = false := by
  rcases tracks.registers with ⟨added, ⟨-, -, calls, journal, told⟩, once, fresh⟩
  refine ⟨calls, journal, ?_⟩
  rw [told]
  split
  · rename_i active
    refine ⟨once, ?_⟩
    intro folder
    rw [fresh, Bridge.isFresh_iff, and_iff_right active]
    exact and_left_comm
  · rename_i inactive
    refine ⟨List.nodup_nil, ?_⟩
    intro folder
    refine iff_of_false List.not_mem_nil ?_
    rintro ⟨-, active, -⟩
    exact inactive active

/--
A change of a path affects nothing where files were added to no directory that lies above the path
or is the path.  Otherwise there is a deepest one of these directories, and what is affected are
the files that were added to it, each once, where it was added first.  For that it matters neither
in which order directories are looked at, nor what was added elsewhere, short of a deeper directory
above the path.  Adding tells whether nothing was added to the directory before; and while what
builds read is tracked, the host is asked at most once to watch a directory: where hot updates run,
when the first file is added to it.
-/
theorem affected_by_deepest_folder
    (working : Disk.PlainPlace setting.disk.working)
    (additions : List Contexts.Addition) (path : Path) :
    let normalise := setting.normalise
    let contexts := Contexts.empty.after normalise additions
    (contexts.affected? normalise path = none ↔
        ∀ folder, ¬Contexts.Above normalise additions path folder) ∧
      (∀ files,
        contexts.affected? normalise path = some files ↔
          ∃ folder,
            Contexts.Deepest normalise additions path folder ∧
              files = (Contexts.addedTo normalise additions folder).eraseDups) ∧
      (∀ folders, folders.Perm contexts.folders →
        Contexts.affected? normalise ⟨folders⟩ path = contexts.affected? normalise path) ∧
      (∀ folder others,
        Contexts.Deepest normalise additions path folder →
          Contexts.addedTo normalise others folder =
              Contexts.addedTo normalise additions folder →
            (∀ other, Contexts.Above normalise others path other → other ≠ folder →
              ¬folder.components.length < other.components.length) →
              (Contexts.empty.after normalise others).affected? normalise path =
                contexts.affected? normalise path) ∧
      (∀ folder file,
        (contexts.add normalise folder file).2 = true ↔
          ∀ addition ∈ additions, normalise addition.folder ≠ normalise folder) ∧
      ∀ readings bridge,
        let last := endOf (trackAll setting readings) bridge
        let read := readings.flatMap Reading.additions
        (last.contexts =
            if setting.config.hotEnabled then bridge.contexts.after normalise read
            else bridge.contexts) ∧
          ∃ calls,
            last.journal = bridge.journal ++ calls ∧
              (calls.filterMap Call.watchedFolder?).Nodup ∧
              ∀ folder,
                folder ∈ calls.filterMap Call.watchedFolder? ↔
                  setting.config.hotEnabled = true ∧ bridge.watches.isActive = true ∧
                    Contexts.Reaches normalise read folder ∧
                    bridge.contexts.tracks folder = false ∧
                    bridge.watches.watchesFolder folder = false := by
  intro normalise contexts
  have spelled := Disk.spelled_normalise working
  refine ⟨Contexts.affected?_after_eq_none_iff spelled,
    fun _ => Contexts.affected?_after_eq_some_iff spelled,
    fun _ => Contexts.affected?_perm (Contexts.apart_after spelled additions),
    fun _ _ => Contexts.affected?_after_of_addedTo spelled, fun _ _ => Contexts.isNew_add_iff, ?_⟩
  intro readings bridge last read
  have tracks := tracksFor_trackAll working readings bridge
  exact ⟨tracks.contexts, tracks.told_once⟩

/-- Builds read a folder through a link, and the one above it. -/
def readThroughLink : List Contexts.Addition :=
  [⟨⟨"/"⟩, ⟨"/s/a.es"⟩⟩, ⟨⟨"/s/l"⟩, ⟨"/c/b.es"⟩⟩, ⟨⟨"/c"⟩, ⟨"/s/a.es"⟩⟩, ⟨⟨"/c/"⟩, ⟨"/s/l/b.es"⟩⟩]

theorem affected_readThroughLink :
    (Contexts.empty.after (linkedSetting []).normalise readThroughLink).affected?
        (linkedSetting []).normalise ⟨"/s/l/b.es"⟩ =
      some [⟨"/c/b.es"⟩, ⟨"/s/a.es"⟩] := by
  cbv

/-- The folder behind the link lies above the file, and nothing deeper does. -/
theorem affected_by_deepest_folder_linked :
    let normalise := (linkedSetting []).normalise
    let affected := [⟨"/c/b.es"⟩, ⟨"/s/a.es"⟩]
    Disk.PlainPlace (linkedSetting []).disk.working ∧
      (Contexts.empty.after normalise readThroughLink).affected? normalise ⟨"/s/l/b.es"⟩ =
        some affected ∧
      ∃ folder,
        Contexts.Deepest normalise readThroughLink ⟨"/s/l/b.es"⟩ folder ∧
          affected = (Contexts.addedTo normalise readThroughLink folder).eraseDups := by
  intro normalise affected
  have working : Disk.PlainPlace (linkedSetting []).disk.working := nofun
  have affects := affected_readThroughLink
  rcases affected_by_deepest_folder working readThroughLink ⟨"/s/l/b.es"⟩ with ⟨-, found, -⟩
  exact ⟨working, affects, (found affected).1 affects⟩

end Bridge

end ModuleBridge
