import ModuleBridge.Proofs.Bridge.Imports
import ModuleBridge.Proofs.Bridge.Serving
import ModuleBridge.Proofs.Rings

/-!
# Walks through the imports of server files

A walk takes its queue from the front and appends the imports of each server file
it comes to.  So a queue is worked off as a whole before what it led to, and what
it leads to is the next ring around the root.  The walk ends when a ring leads
nowhere, which some ring does where the walk passes through finitely many files.
-/

namespace ModuleBridge.Bridge

variable {setting : Setting}

/-! ## What stays -/

/-- Nothing has changed that the imports of files depend on. -/
structure Standing (setting : Setting) (origin bridge : Bridge) : Prop where
  steady : Steady setting.analyzer bridge
  plugins : bridge.plugins = origin.plugins
  text : ∀ key, textOf? setting key bridge = textOf? setting key origin

theorem Standing.start {bridge : Bridge} (steady : Steady setting.analyzer bridge) :
    Standing setting bridge bridge :=
  ⟨steady, rfl, fun _ => rfl⟩

theorem Standing.importsAt_eq
    {origin bridge : Bridge} (standing : Standing setting origin bridge) (file : Path) :
    importsAt setting bridge file = importsAt setting origin file := by
  rw [importsAt, importsAt, standing.text]

/-- Work that follows the routine and brings neither texts nor results changes nothing of this. -/
theorem Standing.follow
    {asked : Path → Record.Action → Prop} {origin bridge after : Bridge}
    (standing : Standing setting origin bridge) (innocent : Innocent asked)
    (silent : Silent asked)
    (follows : Follows nobody (Routine setting nobody asked) bridge after) :
    Standing setting origin after := by
  have progress := follows standing.steady.quiet
  refine ⟨progress.steady innocent standing.steady,
    progress.plugins.trans standing.plugins, ?_⟩
  intro key
  exact (progress.textOf?_eq silent standing.steady key).trans (standing.text key)

theorem Standing.keep
    {α : Type} {work : Work α} {origin bridge : Bridge}
    (standing : Standing setting origin bridge)
    (routine : Keeps (Follows nobody (Routine setting nobody nothing)) work) :
    Standing setting origin (endOf work bridge) :=
  standing.follow (fun _ _ asked => absurd asked id) (fun _ _ asked => absurd asked id)
    (routine bridge)

theorem Standing.importsOf
    {origin bridge : Bridge} (standing : Standing setting origin bridge) (file : Path) :
    resultOf (Bridge.importsOf setting file) bridge = importsAt setting origin file ∧
      Standing setting origin (endOf (Bridge.importsOf setting file) bridge) :=
  ⟨(resultOf_importsOf standing.steady).trans (standing.importsAt_eq file),
    standing.keep (routine_importsOf file)⟩

/-! ## Relations that a walk keeps -/

theorem Bears.importsOf
    {rel : Bridge → Bridge → Prop} [IsPreorder Bridge rel] {path : Path}
    (bears : Bears setting (setting.normalise path) rel) :
    Keeps rel (Bridge.importsOf setting path) := by
  refine keeps_bind (bears.ready rfl) ?_
  intro outcome
  cases outcome with
  | ok found => exact keeps_bind (keeps_recordAt found.1) fun _ => keeps_pure _
  | error fault =>
      refine keeps_bind (bears.prints _) ?_
      intro _
      exact keeps_pure _

section

variable {rel : Bridge → Bridge → Prop} [Blind rel]

theorem blind_importsOf
    {path : Path} (calls : Keeps rel (note (.analyse (setting.normalise path)))) :
    Keeps rel (importsOf setting path) :=
  (Blind.bears calls).importsOf

theorem blind_reachLocal {path : Path} (watches : Keeps rel (watchFile path)) :
    Keeps rel (reachLocal path) := by
  refine keeps_bind watches ?_
  intro isNew
  exact keeps_ite (blind_debug _ _) (keeps_pure _)

theorem blind_localDependencies
    (analyses : ∀ path, Keeps rel (note (.analyse path)))
    (watches : ∀ path, Keeps rel (watchFile path)) (root : Path) :
    Keeps rel (localDependencies setting root) := by
  have visits : ∀ walk path queue, Keeps rel (visit setting walk path queue) := by
    intro walk path queue
    refine keeps_ite (keeps_pure _) ?_
    refine keeps_bind keeps_get ?_
    intro bridge
    refine keeps_ite ?_ ?_
    · exact keeps_bind (blind_importsOf (analyses _)) fun _ => keeps_pure _
    · exact keeps_bind (blind_reachLocal (watches _)) fun _ => keeps_pure _
  refine keeps_bind (blind_importsOf (analyses _)) ?_
  intro imports
  exact keeps_walkOut visits _

end

/-- What is watched stays watched. -/
def Covers (before after : Bridge) : Prop :=
  ∀ path, before.watches.watches path = true → after.watches.watches path = true

instance : Blind Covers where
  refl _ _ watched := watched
  trans _ _ _ first second path watched := second path (first path watched)
  unseen _ _ _ _ _ watched := watched

theorem covers_note (call : Call) : Keeps Covers (note call) :=
  fun _ _ watched => watched

/-- A file that is not watched yet is watched from now on, and the host is told so. -/
theorem endOf_watchFile (path : Path) (bridge : Bridge) :
    endOf (watchFile path) bridge =
      { bridge with
        watches := (bridge.watches.addFile path).1
        journal := bridge.journal ++
          if bridge.watches.watches path = false ∧ bridge.watches.isActive = true then
            [.watchFile path]
          else [] } := by
  have isNew := WatchSet.snd_addFile bridge.watches path
  have active : (bridge.watches.addFile path).1.isActive = bridge.watches.isActive := by
    rw [WatchSet.addFile]
    split <;> rfl
  have asks :
      ((!bridge.watches.watches path) = true ∧ bridge.watches.isActive = true) ↔
        bridge.watches.watches path = false ∧ bridge.watches.isActive = true := by
    rw [Bool.not_eq_true']
  have work :
      endOf (watchFile path) bridge =
        if bridge.watches.watches path = false ∧ bridge.watches.isActive = true then
          { bridge with
            watches := (bridge.watches.addFile path).1
            journal := bridge.journal ++ [.watchFile path] }
        else { bridge with watches := (bridge.watches.addFile path).1 } := by
    simp only [watchFile, endOf_bind, endOf_get, resultOf_get, isNew, active, asks]
    split <;> rfl
  rw [work]
  split
  · rfl
  · rw [List.append_nil]

theorem covers_watchFile (path : Path) : Keeps Covers (watchFile path) := by
  intro bridge other watched
  rw [endOf_watchFile]
  exact WatchSet.watches_addFile_of_watches watched path

theorem makes_watchFile
    {allowed : Call → Prop} {file : Path} (permitted : allowed (.watchFile file)) :
    Keeps (Makes allowed) (watchFile file) := by
  intro bridge
  refine ⟨_, by rw [endOf_watchFile], ?_⟩
  intro call made
  split at made
  · rwa [List.mem_singleton.1 made]
  · cases made

/-! ## One visit -/

section

variable {origin bridge : Bridge} {walk : Walk} {path : Path} {queue : List Path}

theorem visit_of_visited (known : setting.normalise path ∈ walk.visited) :
    (visit setting walk path queue).run bridge = ({ walk with queue := queue }, bridge) := by
  rw [visit]
  rw [if_pos (List.contains_iff_mem.2 known)]
  rfl

theorem visit_of_server
    (standing : Standing setting origin bridge)
    (unknown : setting.normalise path ∉ walk.visited)
    (server : origin.plugins.isServerScoped (setting.normalise path) = true) :
    (visit setting walk path queue).run bridge =
      (⟨setting.normalise path :: walk.visited,
          queue ++ importsAt setting origin (setting.normalise path), walk.reached⟩,
        endOf (importsOf setting (setting.normalise path)) bridge) := by
  rw [← standing.plugins] at server
  rw [visit, ← (standing.importsOf (setting.normalise path)).1]
  rw [if_neg (fun known => unknown (List.contains_iff_mem.1 known))]
  change (ite _ _ _ : Work Walk).run bridge = _
  rw [if_pos server]
  rfl

theorem visit_of_local
    (standing : Standing setting origin bridge)
    (unknown : setting.normalise path ∉ walk.visited)
    (isLocal : origin.plugins.isServerScoped (setting.normalise path) = false) :
    (visit setting walk path queue).run bridge =
      (⟨setting.normalise path :: walk.visited, queue,
          walk.reached ++ [setting.normalise path]⟩,
        endOf (reachLocal (setting.normalise path)) bridge) := by
  rw [← standing.plugins] at isLocal
  rw [visit]
  rw [if_neg (fun known => unknown (List.contains_iff_mem.1 known))]
  change (ite _ _ _ : Work Walk).run bridge = _
  rw [if_neg (by rw [isLocal]; exact Bool.false_ne_true)]
  rfl

theorem walkOut_of_visit
    {visited reached : List Path} {next : Walk} {after : Bridge}
    (visits :
      (visit setting ⟨visited, path :: queue, reached⟩ path queue).run bridge =
        (next, after)) :
    walkOut setting ⟨visited, path :: queue, reached⟩ bridge = walkOut setting next after := by
  rw [walkOut]
  dsimp only
  rw [visits]

end

/-- The walk from a file, if it ends. -/
def walkFrom? (setting : Setting) (root : Path) (bridge : Bridge) :
    Option (List Path × Bridge) :=
  let start := setting.normalise root
  walkOut setting ⟨[start], resultOf (importsOf setting start) bridge, []⟩
    (endOf (importsOf setting start) bridge)

theorem run_localDependencies (setting : Setting) (root : Path) (bridge : Bridge) :
    (localDependencies setting root).run bridge =
      (walkFrom? setting root bridge).getD
        ([], endOf (importsOf setting (setting.normalise root)) bridge) := rfl

/-- A walk that does not end finds nothing. -/
theorem resultOf_localDependencies (setting : Setting) (root : Path) (bridge : Bridge) :
    resultOf (localDependencies setting root) bridge =
      ((walkFrom? setting root bridge).map Prod.fst).getD [] := by
  rw [resultOf, run_localDependencies]
  cases walkFrom? setting root bridge with
  | none => rw [Option.map_none, Option.getD_none, Option.getD_none]
  | some ended => rw [Option.map_some, Option.getD_some, Option.getD_some]

/-! ## A queue as a whole -/

/-- The imports through which a walk goes on: those of server files. -/
def onward (setting : Setting) (bridge : Bridge) (file : Path) : List Path :=
  if bridge.plugins.isServerScoped file then importsAt setting bridge file else []

/-- The local ones of some files. -/
def locals (bridge : Bridge) (files : List Path) : List Path :=
  files.filter fun file => !bridge.plugins.isServerScoped file

theorem locals_cons_of_server
    {bridge : Bridge} {file : Path} (server : bridge.plugins.isServerScoped file = true)
    (files : List Path) :
    locals bridge (file :: files) = locals bridge files := by
  simp [locals, server]

theorem locals_cons_of_local
    {bridge : Bridge} {file : Path} (isLocal : bridge.plugins.isServerScoped file = false)
    (files : List Path) :
    locals bridge (file :: files) = file :: locals bridge files := by
  simp [locals, isLocal]

/-- What a walk leaves that has come to some files. -/
structure Swept
    (setting : Setting) (rel : Bridge → Bridge → Prop) (origin before : Bridge)
    (files : List Path) (after : Bridge) : Prop where
  standing : Standing setting origin after
  kept : rel before after
  covers : Covers before after
  watched : ∀ file ∈ locals origin files, after.watches.watches file = true

/-- A walk comes to a single file. -/
theorem swept_single
    {rel : Bridge → Bridge → Prop} {origin before after : Bridge} {file : Path}
    (standing : Standing setting origin after)
    (kept : rel before after) (covers : Covers before after)
    (watched :
      origin.plugins.isServerScoped file = false → after.watches.watches file = true) :
    Swept setting rel origin before [file] after where
  standing := standing
  kept := kept
  covers := covers
  watched other member := by
    rcases List.mem_filter.1 member with ⟨present, isLocal⟩
    rw [List.mem_singleton.1 present] at isLocal ⊢
    exact watched (by simpa using isLocal)

section

variable {rel : Bridge → Bridge → Prop} [Blind rel] {origin : Bridge}

/-- The calls that a walk makes for a file it comes to. -/
def Visits (setting : Setting) (rel : Bridge → Bridge → Prop) (origin : Bridge) (file : Path) :
    Prop :=
  if origin.plugins.isServerScoped file then
    Keeps rel (note (.analyse (setting.normalise file)))
  else
    Keeps rel (watchFile file)

theorem watches_reachLocal (file : Path) (bridge : Bridge) :
    (endOf (reachLocal file) bridge).watches.watches file = true := by
  have watched : (endOf (watchFile file) bridge).watches.watches file = true := by
    rw [endOf_watchFile]
    exact WatchSet.watches_addFile_self _ _
  have kept : Covers (endOf (watchFile file) bridge) (endOf (reachLocal file) bridge) :=
    keeps_ite (blind_debug _ _) (keeps_pure _) _
  exact kept file watched

theorem Swept.append
    {before middle after : Bridge} {files others : List Path}
    (first : Swept setting rel origin before files middle)
    (second : Swept setting rel origin middle others after) :
    Swept setting rel origin before (files ++ others) after where
  standing := second.standing
  kept := trans_of rel first.kept second.kept
  covers := trans_of Covers first.covers second.covers
  watched file member := by
    rw [locals, List.filter_append] at member
    rcases List.mem_append.1 member with earlier | later
    · exact second.covers file (first.watched file earlier)
    · exact second.watched file later

/-- The walk comes to a file that it has not visited yet. -/
theorem walkOut_of_new
    {path : Path} {queue visited reached : List Path} {bridge : Bridge}
    (standing : Standing setting origin bridge)
    (unknown : setting.normalise path ∉ visited)
    (visits : Visits setting rel origin (setting.normalise path)) :
    let file := setting.normalise path
    ∃ next,
      walkOut setting ⟨visited, path :: queue, reached⟩ bridge =
          walkOut setting
            ⟨file :: visited, queue ++ onward setting origin file,
              reached ++ locals origin [file]⟩ next ∧
        Swept setting rel origin bridge [file] next := by
  intro file
  rw [Visits] at visits
  cases server : origin.plugins.isServerScoped file with
  | true =>
      rw [if_pos server] at visits
      refine ⟨endOf (importsOf setting file) bridge, ?_, ?_⟩
      · rw [walkOut_of_visit (visit_of_server standing unknown server), onward, if_pos server,
          locals_cons_of_server server, locals, List.filter_nil, List.append_nil]
      · refine
          swept_single (standing.importsOf file).2 (blind_importsOf visits bridge)
            (blind_importsOf (covers_note _) bridge) ?_
        intro isLocal
        rw [server] at isLocal
        cases isLocal
  | false =>
      have other : ¬origin.plugins.isServerScoped file = true := by
        rw [server]
        exact Bool.false_ne_true
      rw [if_neg other] at visits
      refine ⟨endOf (reachLocal file) bridge, ?_, ?_⟩
      · rw [walkOut_of_visit (visit_of_local standing unknown server), onward, if_neg other,
          List.append_nil, locals_cons_of_local server]
        rfl
      · exact
          swept_single (standing.keep (keeps_follows_of_apart (apart_reachLocal file)))
            (blind_reachLocal visits bridge) (blind_reachLocal (covers_watchFile file) bridge)
            fun _ => watches_reachLocal file bridge

/-- A queue is worked off: all that it leads to comes behind what waits already. -/
theorem sweep
    (queue later visited reached : List Path) {bridge : Bridge}
    (standing : Standing setting origin bridge)
    (visits :
      ∀ file ∈ firsts visited (queue.map setting.normalise), Visits setting rel origin file) :
    ∃ after,
      walkOut setting ⟨visited, queue ++ later, reached⟩ bridge =
          walkOut setting
            ⟨(firsts visited (queue.map setting.normalise)).reverse ++ visited,
              later ++
                (firsts visited (queue.map setting.normalise)).flatMap (onward setting origin),
              reached ++ locals origin (firsts visited (queue.map setting.normalise))⟩
            after ∧
        Swept setting rel origin bridge (firsts visited (queue.map setting.normalise))
          after := by
  induction queue generalizing later visited reached bridge with
  | nil =>
      refine ⟨bridge, ?_, standing, refl_of rel bridge, refl_of Covers bridge, nofun⟩
      simp [locals]
  | cons path queue inductionHypothesis =>
      let file := setting.normalise path
      rw [List.map_cons] at visits ⊢
      rw [List.cons_append]
      by_cases known : file ∈ visited
      · rw [firsts_cons_of_mem known] at visits ⊢
        rw [walkOut_of_visit (visit_of_visited known)]
        exact inductionHypothesis later visited reached standing visits
      · rw [firsts_cons_of_not_mem known] at visits ⊢
        rcases walkOut_of_new standing known (visits file List.mem_cons_self) with
          ⟨next, comes, first⟩
        rcases
          inductionHypothesis (later ++ onward setting origin file) (file :: visited)
            (reached ++ locals origin [file]) first.standing
            fun other member => visits other (List.mem_cons_of_mem file member)
          with ⟨after, rest, others⟩
        refine ⟨after, ?_, first.append others⟩
        rw [comes, List.append_assoc, rest, List.flatMap_cons, List.reverse_cons,
          List.append_assoc, List.append_assoc, List.append_assoc, locals, locals, locals,
          ← List.filter_append]
        rfl

/-! ## Ring by ring -/

/-- The imports through which a walk from a root goes on. -/
def importsThrough (setting : Setting) (bridge : Bridge) (root file : Path) : List Path :=
  if file = root then importsAt setting bridge root else onward setting bridge file

/-- The files that these imports lead to. -/
def successors (setting : Setting) (bridge : Bridge) (root file : Path) : List Path :=
  (importsThrough setting bridge root file).map setting.normalise

/-- The front that a walk has come to after a number of rings. -/
def frontAt (setting : Setting) (bridge : Bridge) (root : Path) (rings : Nat) : Front :=
  .after (successors setting bridge root) root rings

theorem walkOut_front
    (root : Path) {bridge : Bridge}
    (standing : Standing setting origin bridge)
    (visits :
      ∀ rings, ∀ file ∈ (frontAt setting origin root rings).found,
        Visits setting rel origin file)
    (rings : Nat) :
    let front := frontAt setting origin root rings
    ∃ visited after,
      walkOut setting ⟨[root], importsAt setting origin root, []⟩ bridge =
          walkOut setting
            ⟨visited, front.ring.flatMap (importsThrough setting origin root),
              locals origin front.found⟩
            after ∧
        (∀ file, file ∈ visited ↔ file ∈ root :: front.found) ∧
        Swept setting rel origin bridge front.found after := by
  intro front
  induction rings with
  | zero =>
      refine ⟨[root], bridge, ?_, fun _ => Iff.rfl, standing, refl_of rel bridge,
        refl_of Covers bridge, nofun⟩
      have through : importsThrough setting origin root root = importsAt setting origin root :=
        if_pos rfl
      change _ = walkOut setting
        ⟨[root], [root].flatMap (importsThrough setting origin root), []⟩ bridge
      rw [List.flatMap_singleton, through]
  | succ rings inductionHypothesis =>
      let last := frontAt setting origin root rings
      rcases inductionHypothesis with ⟨visited, middle, walked, seen, sweptBefore⟩
      let queue := last.ring.flatMap (importsThrough setting origin root)
      have ring : firsts visited (queue.map setting.normalise) = front.ring := by
        rw [List.map_flatMap, firsts_congr seen]
        rfl
      have fresh : root ∉ front.ring := by
        intro again
        exact (mem_firsts.1 again).2 List.mem_cons_self
      have found : front.found = last.found ++ front.ring := rfl
      have visitsRing : ∀ file ∈ front.ring, Visits setting rel origin file := by
        intro file member
        apply visits (rings + 1) file
        change file ∈ front.found
        rw [found]
        exact List.mem_append_right _ member
      rw [← ring] at visitsRing
      rcases
        sweep queue [] visited (locals origin last.found) sweptBefore.standing visitsRing
        with ⟨after, further, swept⟩
      rw [List.append_nil, ring, List.nil_append] at further
      rw [ring] at swept
      have onwards :
          front.ring.flatMap (onward setting origin) =
            front.ring.flatMap (importsThrough setting origin root) := by
        apply List.flatMap_congr
        intro file member
        rw [importsThrough, if_neg]
        rintro rfl
        exact fresh member
      refine ⟨front.ring.reverse ++ visited, after, ?_, ?_, ?_⟩
      · rw [walked, further, onwards, found, locals, locals, locals, List.filter_append]
      · intro file
        rw [found, List.mem_append, List.mem_reverse, seen, ← List.cons_append, List.mem_append]
        exact Or.comm
      · rw [found]
        exact sweptBefore.append swept

end

end ModuleBridge.Bridge
