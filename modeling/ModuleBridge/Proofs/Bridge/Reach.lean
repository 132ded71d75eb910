import ModuleBridge.Proofs.Bridge.Walks

/-!
# What a walk finds

The walk from a root passes through the server files that lead from one to the
next, and finds the local files that these and the root import.  Where it passes
through finitely many files it ends, with each local file once and ring by ring.
It only asks the analyzer for the files it passes through, under their normal
form, and the host is told of each file at most once over all walks.
-/

namespace ModuleBridge

/-- The file that a call asks the host to watch. -/
def Call.watched? : Call → Option Path
  | .watchFile path => some path
  | _ => none

theorem Path.same_comm (left right : Path) : left.same right = right.same left :=
  Bool.eq_iff_iff.2 ⟨fun same => beq_iff_eq.2 (beq_iff_eq.1 same).symm,
    fun same => beq_iff_eq.2 (beq_iff_eq.1 same).symm⟩

namespace Bridge

variable {setting : Setting} {bridge : Bridge} {root : Path}

/-- What a walk passes through: the root, and the server files that lead on from there. -/
inductive Passes (setting : Setting) (bridge : Bridge) (root : Path) : Path → Prop where
  | root : Passes setting bridge root root
  | server {importer file : Path}
      (before : Passes setting bridge root importer)
      (imported : file ∈ (importsAt setting bridge importer).map setting.normalise)
      (server : bridge.plugins.isServerScoped file = true) :
      Passes setting bridge root file

/-- A file that the walk passes through imports another one. -/
def Imported (setting : Setting) (bridge : Bridge) (root file : Path) : Prop :=
  ∃ importer,
    Passes setting bridge root importer ∧
      file ∈ (importsAt setting bridge importer).map setting.normalise

/-! ## Walks and rings -/

theorem Passes.root_or_server {file : Path} (passes : Passes setting bridge root file) :
    file = root ∨ bridge.plugins.isServerScoped file = true := by
  cases passes with
  | root => exact .inl rfl
  | server before imported server => exact .inr server

theorem Passes.successors_eq {file : Path} (passes : Passes setting bridge root file) :
    successors setting bridge root file =
      (importsAt setting bridge file).map setting.normalise := by
  rw [successors, importsThrough]
  split
  · rename_i same
    rw [same]
  · rename_i other
    rw [onward, if_pos (passes.root_or_server.resolve_left other)]

theorem Passes.leads {file : Path} (passes : Passes setting bridge root file) :
    ∃ distance, Leads (successors setting bridge root) root distance file := by
  induction passes with
  | root => exact ⟨0, .start⟩
  | server before imported server inductionHypothesis =>
      rcases inductionHypothesis with ⟨distance, leads⟩
      rw [← before.successors_eq] at imported
      exact ⟨distance + 1, .step leads imported⟩

theorem passes_of_successor
    {importer file : Path} {distance : Nat}
    (leads : Leads (successors setting bridge root) root distance importer)
    (child : file ∈ successors setting bridge root importer) :
    Passes setting bridge root importer := by
  induction leads generalizing file with
  | start => exact .root
  | @step distance before importer leads imported inductionHypothesis =>
      have passes := inductionHypothesis imported
      by_cases isRoot : importer = root
      · rw [isRoot]
        exact .root
      · cases server : bridge.plugins.isServerScoped importer with
        | true =>
            rw [passes.successors_eq] at imported
            exact .server passes imported server
        | false =>
            rw [successors, importsThrough, if_neg isRoot, onward, server] at child
            cases child

/-- What is reached at all is the root, or imported by a file that the walk passes through. -/
theorem exists_leads_iff (file : Path) :
    (∃ distance, Leads (successors setting bridge root) root distance file) ↔
      file = root ∨ Imported setting bridge root file := by
  constructor
  · rintro ⟨distance, leads⟩
    cases leads with
    | start => exact .inl rfl
    | @step distance importer _ before child =>
        have passes := passes_of_successor before child
        rw [passes.successors_eq] at child
        exact .inr ⟨importer, passes, child⟩
  · rintro (rfl | ⟨importer, passes, imported⟩)
    · exact ⟨0, .start⟩
    · rcases passes.leads with ⟨distance, leads⟩
      rw [← passes.successors_eq] at imported
      exact ⟨distance + 1, .step leads imported⟩

theorem passes_of_imported
    {file : Path} (imported : Imported setting bridge root file)
    (server : bridge.plugins.isServerScoped file = true) :
    Passes setting bridge root file := by
  rcases imported with ⟨importer, passes, member⟩
  exact .server passes member server

/-- Where the walk passes through finitely many files, some ring leads nowhere. -/
theorem exists_last_ring (finite : {file | Passes setting bridge root file}.Finite) :
    ∃ rings,
      (frontAt setting bridge root rings).ring.flatMap (successors setting bridge root) =
        [] := by
  apply Front.exists_ended
  apply finite.subset
  rintro file ⟨leadsOn, distance, leads⟩
  rcases List.exists_mem_of_ne_nil _ leadsOn with ⟨child, member⟩
  exact passes_of_successor leads member

/-- The front behind which nothing is left holds what is imported, the root apart. -/
theorem mem_found_iff
    {rings : Nat}
    (ended :
      (frontAt setting bridge root rings).ring.flatMap (successors setting bridge root) = [])
    (file : Path) :
    file ∈ (frontAt setting bridge root rings).found ↔
      file ≠ root ∧ Imported setting bridge root file := by
  have exact := Front.exact_after (successors setting bridge root) root rings
  have all := exact.mem_of_ended ended file
  rw [exists_leads_iff, List.mem_cons] at all
  have apart : root ∉ (frontAt setting bridge root rings).found :=
    (List.nodup_cons.1 exact.nodup).1
  constructor
  · intro member
    have other : file ≠ root := by
      rintro rfl
      exact apart member
    exact ⟨other, (all.1 (.inr member)).resolve_left other⟩
  · rintro ⟨other, imported⟩
    exact (all.2 (.inr imported)).resolve_left other

/-! ## Calls -/

/-- The calls of a walk. -/
inductive WalkCall (setting : Setting) (bridge : Bridge) (root : Path) : Call → Prop where
  | analyse {file : Path} (passes : Passes setting bridge root file) :
      WalkCall setting bridge root (.analyse (setting.normalise file))
  | watch {file : Path}
      (other : file ≠ root) (imported : Imported setting bridge root file)
      (isLocal : bridge.plugins.isServerScoped file = false) :
      WalkCall setting bridge root (.watchFile file)

theorem visits_walkCall
    {file : Path} (other : file ≠ root) (imported : Imported setting bridge root file) :
    Visits setting (Makes (WalkCall setting bridge root)) bridge file := by
  rw [Visits]
  split
  · rename_i server
    exact makes_note (.analyse (passes_of_imported imported server))
  · rename_i isLocal
    exact makes_watchFile (.watch other imported (by simpa using isLocal))

theorem visits_found
    (setting : Setting) (bridge : Bridge) (root : Path) (rings : Nat) :
    ∀ file ∈ (frontAt setting bridge root rings).found,
      Visits setting (Makes (WalkCall setting bridge root)) bridge file := by
  intro file member
  have exact := Front.exact_after (successors setting bridge root) root rings
  have other : file ≠ root := by
    rintro rfl
    exact (List.nodup_cons.1 exact.nodup).1 member
  rcases (exact.found file).1 (List.mem_cons_of_mem root member) with ⟨distance, -, leads⟩
  have imported := ((exists_leads_iff file).1 ⟨distance, leads⟩).resolve_left other
  exact visits_walkCall other imported

/-! ## Each file is told once -/

/-- Files that are watched in addition, each told to the host once if it wants to know. -/
def Tells (before after : Bridge) : Prop :=
  ∃ calls added,
    after.journal = before.journal ++ calls ∧
      after.watches = { before.watches with files := before.watches.files ++ added } ∧
      calls.filterMap Call.watched? = (if before.watches.isActive then added else []) ∧
      (added.Pairwise fun first second => ¬first.same second) ∧
      ∀ path ∈ added, before.watches.watches path = false

theorem watches_append (watches : WatchSet) (added : List Path) (path : Path) :
    ({ watches with files := watches.files ++ added } : WatchSet).watches path =
      (watches.watches path || added.any path.same) :=
  List.any_append

theorem Tells.trans
    {before middle after : Bridge} (first : Tells before middle)
    (second : Tells middle after) : Tells before after := by
  rcases first with ⟨calls, added, journal, watches, told, apart, fresh⟩
  rcases second with
    ⟨later, further, journalAfter, watchesAfter, toldLater, apartLater, freshLater⟩
  have freshBoth :
      ∀ path ∈ further, before.watches.watches path = false ∧ added.any path.same = false := by
    intro path member
    have unwatched := freshLater path member
    rw [watches, watches_append, Bool.or_eq_false_iff] at unwatched
    exact unwatched
  refine ⟨calls ++ later, added ++ further, ?_, ?_, ?_, ?_, ?_⟩
  · rw [journalAfter, journal, List.append_assoc]
  · rw [watchesAfter, watches, List.append_assoc]
  · rw [List.filterMap_append, told, toldLater, watches]
    split <;> rfl
  · refine List.pairwise_append.2 ⟨apart, apartLater, ?_⟩
    intro old known path member same
    have different := List.any_eq_false.1 (freshBoth path member).2 old known
    exact different ((Path.same_comm path old).trans same)
  · intro path member
    rcases List.mem_append.1 member with earlier | last
    · exact fresh path earlier
    · exact (freshBoth path last).1

instance : Blind Tells where
  refl _ := ⟨[], [], (List.append_nil _).symm, by rw [List.append_nil], by simp, .nil, nofun⟩
  trans _ _ _ := Tells.trans
  unseen _ _ _ _ :=
    ⟨[], [], (List.append_nil _).symm, by rw [List.append_nil], by simp, .nil, nofun⟩

theorem tells_analyse (path : Path) : Keeps Tells (note (.analyse path)) := by
  intro bridge
  have same : bridge.watches = { bridge.watches with files := bridge.watches.files ++ [] } := by
    rw [List.append_nil]
  exact ⟨[.analyse path], [], rfl, same, by simp [Call.watched?], .nil, nofun⟩

theorem tells_watchFile (path : Path) : Keeps Tells (watchFile path) := by
  intro bridge
  rw [endOf_watchFile]
  cases watched : bridge.watches.watches path with
  | true =>
      have known : bridge.watches.addFile path = (bridge.watches, false) := if_pos watched
      refine ⟨[], [], ?_, ?_, ?_, .nil, nofun⟩
      · simp
      · rw [known, List.append_nil]
      · simp
  | false =>
      have unknown : ¬WatchSet.covers bridge.watches.files path = true := by
        rw [show WatchSet.covers bridge.watches.files path = false from watched]
        exact Bool.false_ne_true
      have added :
          bridge.watches.addFile path =
            ({ bridge.watches with files := bridge.watches.files ++ [path] }, true) :=
        if_neg unknown
      refine ⟨_, [path], rfl, ?_, ?_, List.pairwise_singleton _ _, ?_⟩
      · rw [added]
      · cases bridge.watches.isActive <;> simp [Call.watched?]
      · intro other member
        rwa [List.mem_singleton.1 member]

theorem tells_localDependencies (setting : Setting) (root : Path) :
    Keeps Tells (localDependencies setting root) :=
  blind_localDependencies tells_analyse tells_watchFile root

/-- Walks one after another, each in its own surroundings. -/
def walkAll (walks : List (Setting × Path)) (bridge : Bridge) : Bridge :=
  walks.foldl (fun bridge walk => endOf (localDependencies walk.1 walk.2) bridge) bridge

theorem tells_walkAll (walks : List (Setting × Path)) (bridge : Bridge) :
    Tells bridge (walkAll walks bridge) := by
  induction walks generalizing bridge with
  | nil => exact refl_of Tells bridge
  | cons walk rest inductionHypothesis =>
      exact (tells_localDependencies walk.1 walk.2 bridge).trans (inductionHypothesis _)

/-- The host is told of different files only, and of none that was watched before. -/
theorem Tells.once {before after : Bridge} (tells : Tells before after) :
    ∃ calls,
      after.journal = before.journal ++ calls ∧
        ((calls.filterMap Call.watched?).Pairwise fun first second => ¬first.same second) ∧
        ∀ path ∈ calls.filterMap Call.watched?, before.watches.watches path = false := by
  rcases tells with ⟨calls, added, journal, -, told, apart, fresh⟩
  refine ⟨calls, journal, ?_⟩
  rw [told]
  split
  · exact ⟨apart, fresh⟩
  · exact ⟨.nil, nofun⟩

/-! ## Whole walks -/

theorem makes_importsOf (file : Path) (passes : Passes setting bridge root file) :
    Keeps (Makes (WalkCall setting bridge root)) (importsOf setting file) :=
  blind_importsOf (makes_note (.analyse passes))

/-- A walk that comes to a ring that leads nowhere has ended. -/
theorem walkOut_of_ended
    (steady : Steady setting.analyzer bridge)
    {rings : Nat}
    (ended :
      (frontAt setting bridge root rings).ring.flatMap (successors setting bridge root) = []) :
    let begun := endOf (importsOf setting root) bridge
    let found := (frontAt setting bridge root rings).found
    ∃ after,
      walkOut setting ⟨[root], importsAt setting bridge root, []⟩ begun =
          some (locals bridge found, after) ∧
        Swept setting (Makes (WalkCall setting bridge root)) bridge begun found after := by
  intro begun found
  have standing := ((Standing.start steady).importsOf root).2
  rcases walkOut_front root standing (visits_found setting bridge root) rings with
    ⟨visited, after, walked, -, swept⟩
  have empty :
      (frontAt setting bridge root rings).ring.flatMap (importsThrough setting bridge root) =
        [] := by
    have ended :
        ((frontAt setting bridge root rings).ring.flatMap (importsThrough setting bridge root)).map
            setting.normalise =
          [] := by
      rw [List.map_flatMap]
      exact ended
    exact List.map_eq_nil_iff.1 ended
  refine ⟨after, ?_, swept⟩
  rw [walked, empty, walkOut]

theorem run_localDependencies_of_out
    {found : List Path} {last : Bridge}
    (steady : Steady setting.analyzer bridge)
    (out :
      walkOut setting
          ⟨[setting.normalise root], importsAt setting bridge (setting.normalise root), []⟩
          (endOf (importsOf setting (setting.normalise root)) bridge) =
        some (found, last)) :
    (localDependencies setting root).run bridge = (found, last) := by
  rw [← resultOf_importsOf steady] at out
  have ends : walkFrom? setting root bridge = some (found, last) := out
  rw [run_localDependencies, ends]
  rfl

/--
Where a walk passes through finitely many files it ends.  It finds exactly the
local files, the root apart, that are imported by a file it passes through, each
once and ring by ring.  It asks the analyzer for the normal forms of the files
that it passes through and for nothing else; so where normal forms are stable it
asks for no local file but the root.  What it found is watched.  Over any walks,
the host is told of each file at most once, and of none that was watched before.
-/
theorem localDependencies_of_finite
    (setting : Setting) (root : Path) (bridge : Bridge)
    (steady : Steady setting.analyzer bridge)
    (finite : {file | Passes setting bridge (setting.normalise root) file}.Finite) :
    let start := setting.normalise root
    let found := resultOf (localDependencies setting root) bridge
    let last := endOf (localDependencies setting root) bridge
    walkOut setting ⟨[start], importsAt setting bridge start, []⟩
        (endOf (importsOf setting start) bridge) = some (found, last) ∧
      (∀ file,
        file ∈ found ↔
          bridge.plugins.isServerScoped file = false ∧ file ≠ start ∧
            Imported setting bridge start file) ∧
      found.Nodup ∧
      (∃ rings,
        (frontAt setting bridge start rings).ring.flatMap (successors setting bridge start) =
            [] ∧
          found = locals bridge (frontAt setting bridge start rings).found) ∧
      Makes (WalkCall setting bridge start) bridge last ∧
      ((∀ file, Passes setting bridge start file → setting.normalise file = file) →
        Makes
          (fun call =>
            ∀ path, call = .analyse path →
              path = start ∨ bridge.plugins.isServerScoped path = true)
          bridge last) ∧
      (∀ file ∈ found, last.watches.watches file = true) ∧
      ∀ walks before,
        ∃ calls,
          (walkAll walks before).journal = before.journal ++ calls ∧
            ((calls.filterMap Call.watched?).Pairwise fun first second =>
              ¬first.same second) ∧
            ∀ path ∈ calls.filterMap Call.watched?,
              before.watches.watches path = false := by
  intro start found last
  rcases exists_last_ring finite with ⟨rings, ended⟩
  rcases walkOut_of_ended steady ended with ⟨after, out, swept⟩
  have run := run_localDependencies_of_out steady out
  have foundIs : found = locals bridge (frontAt setting bridge start rings).found :=
    congrArg Prod.fst run
  have lastIs : last = after := congrArg Prod.snd run
  have calls : Makes (WalkCall setting bridge start) bridge last := by
    rw [lastIs]
    exact trans_of (Makes _) (makes_importsOf start .root bridge) swept.kept
  refine ⟨?_, ?_, ?_, ⟨rings, ended, foundIs⟩, calls, ?_, ?_, ?_⟩
  · rw [out, foundIs, lastIs]
  · intro file
    rw [foundIs, locals, List.mem_filter, mem_found_iff ended, Bool.not_eq_true']
    exact And.comm
  · rw [foundIs]
    exact (List.nodup_cons.1 (Front.exact_after _ start rings).nodup).2.filter _
  · intro stable
    rcases calls with ⟨made, journal, permitted⟩
    refine ⟨made, journal, ?_⟩
    rintro call member path rfl
    have walkCall := permitted _ member
    generalize asked : Call.analyse path = call at walkCall
    cases walkCall with
    | @analyse file passes =>
        rw [Call.analyse.inj asked, stable file passes]
        exact passes.root_or_server
    | watch => cases asked
  · rw [lastIs, foundIs]
    exact swept.watched
  · intro walks before
    exact (tells_walkAll walks before).once

/-! ## A link beside a directory that does not exist -/

/--
A server's directory with a file that has some imports, and a link in it to the
directory of a local file.
-/
def linkedSetting (imports : List Path) : Setting where
  config := default
  filter := ⟨[], []⟩
  disk :=
    ⟨[(["s"], .directory), (["s", "a.es"], .file (some "a")), (["s", "l"], .link "/c"),
      (["c"], .directory), (["c", "b.es"], .file (some "b"))], []⟩
  analyzer :=
    { analyse := fun path _ =>
        .ok ⟨true, [], [], if path = ⟨"/s/a.es"⟩ then imports else [], false⟩
      resolve := fun _ => none }
  pipeline _ :=
    ⟨fun _ _ => .nothing, fun _ => .ok none, fun _ => .ok [], fun _ _ _ => .ok none⟩
  preprocessor? := none
  modulesOf _ := []

/-- A main pipeline, and one for the server's directory. -/
def linkedPlugins : Plugins where
  items :=
    [⟨0, "client", true, .bundled, [], none, default⟩,
      ⟨1, "server", false, .server, [],
        some [.follow (.letter ⟨[(47, 47)]⟩)
          (.follow (.letter ⟨[(115, 115)]⟩) (.letter ⟨[(47, 47)]⟩))], default⟩]
  mainId := 0
  mainId_lt := Nat.zero_lt_two

/-- A bridge of these pipelines that has done nothing yet. -/
def linkedBridge : Bridge :=
  .ofPlugins default ⟨[], false, false⟩ linkedPlugins default

theorem steady_linkedBridge (imports : List Path) :
    Steady (linkedSetting imports).analyzer linkedBridge where
  quiet := nofun
  coherent _ := Record.coherent_fresh _ _

theorem importsAt_linkedBridge (imports : List Path) :
    importsAt (linkedSetting imports) linkedBridge ⟨"/s/a.es"⟩ = imports := by
  have normal : (linkedSetting imports).normalise ⟨"/s/a.es"⟩ = ⟨"/s/a.es"⟩ := by cbv
  have text : textOf? (linkedSetting imports) ⟨"/s/a.es"⟩ linkedBridge = some "a" := by cbv
  rw [importsAt, normal, text]
  rfl

theorem localDependencies_of_finite_linked :
    let setting := linkedSetting [⟨"/s/a.es"⟩, ⟨"/c/b.es"⟩]
    let found := resultOf (localDependencies setting ⟨"/s/a.es"⟩) linkedBridge
    Steady setting.analyzer linkedBridge ∧
      {file | Passes setting linkedBridge (setting.normalise ⟨"/s/a.es"⟩) file}.Finite ∧
        ∀ file, file ∈ found ↔ file = ⟨"/c/b.es"⟩ := by
  intro setting found
  have root : setting.normalise ⟨"/s/a.es"⟩ = ⟨"/s/a.es"⟩ := by cbv
  have other : setting.normalise ⟨"/c/b.es"⟩ = ⟨"/c/b.es"⟩ := by cbv
  have isLocal : linkedBridge.plugins.isServerScoped ⟨"/c/b.es"⟩ = false := by cbv
  have server : linkedBridge.plugins.isServerScoped ⟨"/s/a.es"⟩ = true := by cbv
  have steady := steady_linkedBridge [⟨"/s/a.es"⟩, ⟨"/c/b.es"⟩]
  have imports :
      (importsAt setting linkedBridge ⟨"/s/a.es"⟩).map setting.normalise =
        [⟨"/s/a.es"⟩, ⟨"/c/b.es"⟩] := by
    rw [importsAt_linkedBridge, List.map_cons, List.map_singleton, root, other]
  have passes :
      ∀ file, Passes setting linkedBridge ⟨"/s/a.es"⟩ file → file = ⟨"/s/a.es"⟩ := by
    intro file passed
    induction passed with
    | root => rfl
    | server before imported isServer inductionHypothesis =>
        rw [inductionHypothesis, imports] at imported
        rcases List.mem_pair.1 imported with same | rfl
        · exact same
        · rw [isLocal] at isServer
          cases isServer
  have finite :
      {file | Passes setting linkedBridge (setting.normalise ⟨"/s/a.es"⟩) file}.Finite := by
    rw [root]
    exact (Set.finite_singleton _).subset passes
  refine ⟨steady, finite, ?_⟩
  rcases localDependencies_of_finite setting ⟨"/s/a.es"⟩ linkedBridge steady finite with
    ⟨-, exactly, -⟩
  rw [root] at exactly
  intro file
  refine (exactly file).trans ⟨?_, ?_⟩
  · rintro ⟨-, different, importer, passed, imported⟩
    rw [passes importer passed, imports] at imported
    exact (List.mem_pair.1 imported).resolve_left different
  · rintro rfl
    refine ⟨isLocal, ?_, ⟨"/s/a.es"⟩, .root, ?_⟩
    · decide
    · rw [imports]
      exact List.mem_cons_of_mem _ List.mem_cons_self

/--
The import of a server file leads through a directory that does not exist.  Its
normal form leads through the link, and to a server's path; when that file is made
ready, its normal form is taken again, and a local file is analysed.
-/
theorem analysed_through_link :
    let setting := linkedSetting [⟨"/s/n/../l/b.es"⟩]
    Steady setting.analyzer linkedBridge ∧
      {file | Passes setting linkedBridge ⟨"/s/a.es"⟩ file}.Finite ∧
        linkedBridge.plugins.isServerScoped ⟨"/c/b.es"⟩ = false ∧
          .analyse ⟨"/c/b.es"⟩ ∈
            (endOf (localDependencies setting ⟨"/s/a.es"⟩) linkedBridge).journal := by
  intro setting
  have root : setting.normalise ⟨"/s/a.es"⟩ = ⟨"/s/a.es"⟩ := by cbv
  have once : setting.normalise ⟨"/s/n/../l/b.es"⟩ = ⟨"/s/l/b.es"⟩ := by cbv
  have twice : setting.normalise ⟨"/s/l/b.es"⟩ = ⟨"/c/b.es"⟩ := by cbv
  have isLocal : linkedBridge.plugins.isServerScoped ⟨"/c/b.es"⟩ = false := by cbv
  have server : linkedBridge.plugins.isServerScoped ⟨"/s/l/b.es"⟩ = true := by cbv
  have text : textOf? setting ⟨"/c/b.es"⟩ linkedBridge = some "b" := by cbv
  have steady := steady_linkedBridge [⟨"/s/n/../l/b.es"⟩]
  have imports : importsAt setting linkedBridge ⟨"/s/a.es"⟩ = [⟨"/s/n/../l/b.es"⟩] :=
    importsAt_linkedBridge _
  have nothing : importsAt setting linkedBridge ⟨"/s/l/b.es"⟩ = [] := by
    rw [importsAt, twice, text]
    rfl
  have passes :
      ∀ file, Passes setting linkedBridge ⟨"/s/a.es"⟩ file →
        file ∈ ({⟨"/s/a.es"⟩, ⟨"/s/l/b.es"⟩} : Set Path) := by
    intro file passed
    induction passed with
    | root => exact .inl rfl
    | server before imported isServer inductionHypothesis =>
        rcases inductionHypothesis with rfl | rfl
        · rw [imports, List.map_singleton, once] at imported
          exact .inr (List.mem_singleton.1 imported)
        · rw [nothing] at imported
          cases imported
  let begun := endOf (importsOf setting ⟨"/s/a.es"⟩) linkedBridge
  let after := endOf (importsOf setting ⟨"/s/l/b.es"⟩) begun
  have standing : Standing setting linkedBridge begun :=
    ((Standing.start steady).importsOf ⟨"/s/a.es"⟩).2
  have visits :
      (visit setting ⟨[⟨"/s/a.es"⟩], [⟨"/s/n/../l/b.es"⟩], []⟩ ⟨"/s/n/../l/b.es"⟩ []).run
          begun =
        (⟨[⟨"/s/l/b.es"⟩, ⟨"/s/a.es"⟩], [], []⟩, after) := by
    rw [visit_of_server standing (by rw [once]; decide) (by rw [once]; exact server), once,
      nothing]
    rfl
  have run :
      (localDependencies setting ⟨"/s/a.es"⟩).run linkedBridge = ([], after) := by
    apply run_localDependencies_of_out steady
    rw [root, imports]
    exact (walkOut_of_visit visits).trans (by rw [walkOut])
  have journal :
      (endOf (localDependencies setting ⟨"/s/a.es"⟩) linkedBridge).journal = after.journal :=
    congrArg (fun ended => ended.2.journal) run
  -- The first file was made ready, which has not touched the record of the local one.
  have away : Away ⟨"/s/a.es"⟩ linkedBridge begun := by
    have kept := (Away.bears setting (setting.normalise ⟨"/s/a.es"⟩)).importsOf linkedBridge
    rwa [root] at kept
  have invalid : (begun.registry.find ⟨"/c/b.es"⟩).isValid = false := by
    rw [(away rfl).2.2.find_eq (by decide)]
    rfl
  have known : textOf? setting (setting.normalise ⟨"/s/l/b.es"⟩) begun = some "b" := by
    rw [twice, standing.text, text]
  refine ⟨steady, (Set.toFinite _).subset passes, isLocal, ?_⟩
  rw [journal]
  cases readied_of_steady standing.steady known with
  | refused message found failed => cases found
  | ready analysis readiness succeeded holds =>
      have analysed := analyse_mem_of_ready (standing.steady.coherent _) ?_ succeeded
      · rw [twice] at analysed
        change _ ∈ (endOf (importsOf setting ⟨"/s/l/b.es"⟩) begun).journal
        rw [importsOf, endOf_bind, succeeded]
        exact analysed
      · rw [twice]
        exact invalid

end Bridge

end ModuleBridge
