import ModuleBridge.Proofs.Bridge.Jobs
import ModuleBridge.Proofs.Bridge.Twins

/-!
# Loads by twins

Twins may hold different texts for the file in which they differ.  Where both texts
can be analysed and have the same imports, the walks through imports find the same
files, loads leave twins, and a pipeline that does not own the file is served the
same for it.
-/

namespace ModuleBridge.Bridge

variable {file : Path} {setting : Setting} {disk : Disk} {left right : Bridge}

/-! ## Walks side by side -/

/-- The texts of a file can be analysed in both, and have the same imports. -/
def SameImports (file : Path) (setting : Setting) (disk : Disk) (left right : Bridge) : Prop :=
  ∃ text other analysis another,
    textOf? setting file left = some text ∧
      textOf? (setting.onDisk disk) file right = some other ∧
      setting.analyzer.analyse file text = .ok analysis ∧
      setting.analyzer.analyse file other = .ok another ∧
      another.dependencies = analysis.dependencies

theorem Twins.symm (twins : Twins file left right) : Twins file right left where
  plugins := twins.plugins.symm
  idleLeft := twins.idleRight
  idleRight := twins.idleLeft
  records key other := (twins.records key other).symm

section

variable (besides : setting.Besides file disk)

include besides

theorem besides_symm : (setting.onDisk disk).Besides file setting.disk where
  normalise path := (besides.normalise path).symm
  text path other := by
    rw [besides.normalise] at other ⊢
    exact (besides.text path other).symm

/-- Every file has the same imports in both. -/
theorem importsAt_eq
    (twins : Twins file left right) (same : SameImports file setting disk left right)
    (path : Path) :
    importsAt (setting.onDisk disk) right path = importsAt setting left path := by
  rw [importsAt, importsAt, besides.normalise]
  by_cases here : setting.normalise path = file
  · rcases same with ⟨text, other, analysis, another, held, heldRight, found, foundRight, imports⟩
    have foundThere : (setting.onDisk disk).analyzer.analyse file other = .ok another := foundRight
    rw [here, held, heldRight]
    dsimp only
    rw [found, foundThere]
    exact imports
  · have text :
        textOf? (setting.onDisk disk) (setting.normalise path) right =
          textOf? setting (setting.normalise path) left := by
      have read :
          sourceOnDisk (setting.onDisk disk).disk (setting.normalise path) =
            sourceOnDisk setting.disk (setting.normalise path) :=
        besides.text _ here
      rw [textOf?, textOf?, twins.find_eq here, read]
    rw [text]
    rfl

theorem paired_importsOf (path : Path) :
    Paired file (importsOf setting path) (importsOf (setting.onDisk disk) path) := by
  by_cases here : setting.normalise path = file
  · have there : (setting.onDisk disk).normalise path = file :=
      (besides.normalise path).trans here
    refine paired_of_away ?_ ?_
    · rw [← here]
      exact (Away.bears setting (setting.normalise path)).importsOf
    · rw [← there]
      exact (Away.bears (setting.onDisk disk) _).importsOf
  · refine paired_bind (matched_ready besides here) ?_
    intro outcome
    cases outcome with
    | ok found =>
        exact paired_of_apart (keeps_bind (keeps_recordAt found.1) fun _ => keeps_pure _)
          (keeps_bind (keeps_recordAt found.1) fun _ => keeps_pure _)
    | error fault =>
        exact paired_bind (matched_print _) fun _ => (matched_pure _).paired

/-- A visit goes on alike in both, where every file has the same imports. -/
theorem visit_twins
    {origin other : Bridge}
    (imports : ∀ path,
      importsAt (setting.onDisk disk) other path = importsAt setting origin path)
    (same : other.plugins = origin.plugins)
    (standing : Standing setting origin left)
    (standingRight : Standing (setting.onDisk disk) other right)
    (twins : Twins file left right) (walk : Walk) (path : Path) (queue : List Path) :
    resultOf (visit (setting.onDisk disk) walk path queue) right =
        resultOf (visit setting walk path queue) left ∧
      Twins file (endOf (visit setting walk path queue) left)
        (endOf (visit (setting.onDisk disk) walk path queue) right) := by
  rw [resultOf, endOf, resultOf, endOf]
  have normal := besides.normalise path
  by_cases known : setting.normalise path ∈ walk.visited
  · have knownRight : (setting.onDisk disk).normalise path ∈ walk.visited := by
      rwa [normal]
    rw [visit_of_visited known, visit_of_visited knownRight]
    exact ⟨rfl, twins⟩
  · have unknownRight : (setting.onDisk disk).normalise path ∉ walk.visited := by
      rwa [normal]
    cases server : origin.plugins.isServerScoped (setting.normalise path) with
    | true =>
        have serverRight :
            other.plugins.isServerScoped ((setting.onDisk disk).normalise path) = true := by
          rw [same, normal, server]
        rw [visit_of_server standing known server,
          visit_of_server standingRight unknownRight serverRight, normal, imports]
        exact ⟨rfl, paired_importsOf besides _ _ _ twins⟩
    | false =>
        have localRight :
            other.plugins.isServerScoped ((setting.onDisk disk).normalise path) = false := by
          rw [same, normal, server]
        rw [visit_of_local standing known server,
          visit_of_local standingRight unknownRight localRight, normal]
        exact ⟨rfl, paired_of_apart (apart_reachLocal _) (apart_reachLocal _) _ _ twins⟩

/-- A walk that ends in the one ends in the other, and has found the same. -/
theorem walkOut_twins
    {origin other : Bridge} {walk : Walk} {ended : List Path × Bridge}
    (imports : ∀ path,
      importsAt (setting.onDisk disk) other path = importsAt setting origin path)
    (same : other.plugins = origin.plugins)
    (standing : Standing setting origin left)
    (standingRight : Standing (setting.onDisk disk) other right)
    (twins : Twins file left right)
    (out : walkOut setting walk left = some ended) :
    ∃ last,
      walkOut (setting.onDisk disk) walk right = some (ended.1, last) ∧
        Twins file ended.2 last := by
  refine
    walkOut.partial_correctness setting
      (fun walk left ended => ∀ right,
        Standing setting origin left → Standing (setting.onDisk disk) other right →
          Twins file left right →
            ∃ last,
              walkOut (setting.onDisk disk) walk right = some (ended.1, last) ∧
                Twins file ended.2 last)
      ?_ walk left ended out right standing standingRight twins
  intro further inductionHypothesis walk left ended out right standing standingRight twins
  rw [walkOut]
  split at out
  · rcases Option.some.inj out with rfl
    exact ⟨right, rfl, twins⟩
  · rename_i path queue waiting
    rcases visit_twins besides imports same standing standingRight twins walk path queue with
      ⟨next, twinsThen⟩
    have moved := standing.keep (routine_visit walk path queue)
    have movedRight := standingRight.keep (routine_visit walk path queue)
    let visited := resultOf (visit setting walk path queue) left
    let reached := endOf (visit setting walk path queue) left
    rcases inductionHypothesis visited reached ended out _ moved movedRight twinsThen with
      ⟨last, rest, twinsLast⟩
    refine ⟨last, ?_, twinsLast⟩
    change
      walkOut (setting.onDisk disk)
          (resultOf (visit (setting.onDisk disk) walk path queue) right)
          (endOf (visit (setting.onDisk disk) walk path queue) right) =
        some (ended.1, last)
    rw [next]
    exact rest

/-- The walks from a file end alike in both. -/
theorem walkFrom?_twins
    (steady : Steady setting.analyzer left) (steadyRight : Steady setting.analyzer right)
    (twins : Twins file left right) (same : SameImports file setting disk left right)
    (root : Path) :
    (walkFrom? (setting.onDisk disk) root right).map Prod.fst =
        (walkFrom? setting root left).map Prod.fst ∧
      Twins file (endOf (localDependencies setting root) left)
        (endOf (localDependencies (setting.onDisk disk) root) right) := by
  have imports := importsAt_eq besides twins same
  have standing := Standing.start steady
  have standingRight : Standing (setting.onDisk disk) right right := .start steadyRight
  let start := setting.normalise root
  let begun := endOf (importsOf setting start) left
  let begunRight := endOf (importsOf (setting.onDisk disk) start) right
  have moved : Standing setting left begun := (standing.importsOf start).2
  have movedRight : Standing (setting.onDisk disk) right begunRight :=
    (standingRight.importsOf start).2
  have twinsThen : Twins file begun begunRight := paired_importsOf besides start left right twins
  have walk :
      walkFrom? setting root left =
        walkOut setting ⟨[start], importsAt setting left start, []⟩ begun := by
    rw [← resultOf_importsOf steady]
    rfl
  have walkRight :
      walkFrom? (setting.onDisk disk) root right =
        walkOut (setting.onDisk disk) ⟨[start], importsAt setting left start, []⟩
          begunRight := by
    have steadyThere : Steady (setting.onDisk disk).analyzer right := steadyRight
    rw [walkFrom?, resultOf_importsOf steadyThere, besides.normalise, imports]
  have ends :
      endOf (localDependencies setting root) left =
        ((walkFrom? setting root left).getD ([], begun)).2 := by
    rw [endOf, run_localDependencies]
  have endsRight :
      endOf (localDependencies (setting.onDisk disk) root) right =
        ((walkFrom? (setting.onDisk disk) root right).getD ([], begunRight)).2 := by
    rw [endOf, run_localDependencies, besides.normalise]
  rw [ends, endsRight, walk, walkRight]
  cases out : walkOut setting ⟨[start], importsAt setting left start, []⟩ begun with
  | some ended =>
      rcases walkOut_twins besides imports twins.plugins moved movedRight twinsThen out with
        ⟨last, outRight, twinsLast⟩
      rw [outRight]
      exact ⟨rfl, twinsLast⟩
  | none =>
      cases outRight :
          walkOut (setting.onDisk disk) ⟨[start], importsAt setting left start, []⟩ begunRight with
      | none => exact ⟨rfl, twinsThen⟩
      | some ended =>
          -- What ends in the other would end in the one as well.
          rcases
            walkOut_twins (besides_symm besides) (fun path => (imports path).symm)
              twins.plugins.symm movedRight moved twinsThen.symm outRight
            with ⟨last, ends, -⟩
          rw [show (setting.onDisk disk).onDisk setting.disk = setting from rfl, out] at ends
          cases ends

theorem resultOf_localDependencies_twins
    (steady : Steady setting.analyzer left) (steadyRight : Steady setting.analyzer right)
    (twins : Twins file left right) (same : SameImports file setting disk left right)
    (root : Path) :
    resultOf (localDependencies (setting.onDisk disk) root) right =
      resultOf (localDependencies setting root) left := by
  rw [resultOf_localDependencies, resultOf_localDependencies,
    (walkFrom?_twins besides steady steadyRight twins same root).1]

end

/-! ## Loads side by side -/

/-- An attempt whose value is only changed ends where it did. -/
theorem attempt_map
    {α β : Type} (attempt : Attempt α) (change : α → β) (bridge : Bridge) :
    resultOf (attempt >>= fun value => pure (change value)).run bridge =
        (resultOf attempt.run bridge).map change ∧
      endOf (attempt >>= fun value => pure (change value)).run bridge =
        endOf attempt.run bridge := by
  cases outcome : resultOf attempt.run bridge with
  | error fault => exact attempt_of_error outcome _
  | ok value => exact attempt_of_ok outcome _

theorem resultOf_load_of_foreign
    {plugin : Plugin} {id : String} {bridge : Bridge}
    (foreign : setting.filter.accepts id = false) :
    resultOf (load setting plugin id).run bridge = .ok none := by
  rw [load, if_neg (by rw [foreign]; exact Bool.false_ne_true)]
  rfl

/-- Observers are told what they have seen. -/
def marks (_ : Path) (action : Record.Action) : Prop :=
  ∃ observer revision, action = .markSeen observer revision

theorem innocent_marks : Innocent marks := by
  rintro key _ ⟨observer, revision, rfl⟩ record origin
  trivial

theorem silent_marks : Silent marks := by
  rintro key _ ⟨observer, revision, rfl⟩
  rfl

theorem Standing.prepare
    {origin bridge : Bridge} (standing : Standing setting origin bridge) (plugin : Plugin)
    (path : Path) :
    Standing setting origin (endOf (Bridge.prepare setting plugin path).run bridge) := by
  have routine :
      Keeps (Follows nobody (Routine setting nobody marks))
        (Bridge.prepare setting plugin path).run :=
    routine_prepare (fun _ revision => ⟨.watcher, revision, rfl⟩)
      fun revision => ⟨.pipeline plugin.id, revision, rfl⟩
  exact standing.follow innocent_marks silent_marks (routine bridge)

/-- A file whose text can be analysed can be prepared. -/
theorem resultOf_prepare_of_text
    {path : Path} {text : String} {analysis : Analysis} {bridge : Bridge}
    (steady : Steady setting.analyzer bridge)
    (known : textOf? setting (setting.normalise path) bridge = some text)
    (found : setting.analyzer.analyse (setting.normalise path) text = .ok analysis)
    (plugin : Plugin) :
    resultOf (prepare setting plugin path).run bridge = .ok (setting.normalise path) := by
  cases readied_of_steady steady known with
  | ready other readiness succeeded holds =>
      exact (prepare_of_ready nobody plugin watching_watcherMarks succeeded).2
  | refused message refusal failed =>
      rw [found] at refusal
      cases refusal

theorem SameImports.keep
    {leftThen rightThen : Bridge} (same : SameImports file setting disk left right)
    (standing : Standing setting left leftThen)
    (standingRight : Standing (setting.onDisk disk) right rightThen) :
    SameImports file setting disk leftThen rightThen := by
  rcases same with ⟨text, other, analysis, another, held, heldRight, found, foundRight, imports⟩
  exact ⟨text, other, analysis, another, (standing.text file).trans held,
    (standingRight.text file).trans heldRight, found, foundRight, imports⟩

section

variable (besides : setting.Besides file disk)

include besides

theorem fileOf_onDisk (id : String) :
    Event.fileOf (setting.onDisk disk) id = Event.fileOf setting id :=
  besides.normalise _

theorem load_onDisk_of_accepted
    {id : String} (accepted : setting.filter.accepts id = true) (plugin : Plugin) :
    load (setting.onDisk disk) plugin id =
      prepare (setting.onDisk disk) plugin (Event.fileOf setting id) >>= fun key =>
        serve (setting.onDisk disk) plugin (Resource.parse setting.config.resolve id)
          (Event.fileOf setting id) key >>= fun served => pure (some served) := by
  have there : (setting.onDisk disk).filter.accepts id = true := accepted
  rw [load_of_accepted there, fileOf_onDisk besides]
  rfl

theorem paired_loadOwned (plugin : Plugin) (resource : Resource) (path : Path) :
    Paired file (loadOwned setting plugin resource path (setting.normalise path)).run
      (loadOwned (setting.onDisk disk) plugin resource path (setting.normalise path)).run := by
  by_cases here : setting.normalise path = file
  · have away :
        Keeps (Away (setting.normalise path))
          (loadOwned setting plugin resource path (setting.normalise path)).run :=
      away_loadOwned plugin resource path _
    have awayThere :
        Keeps (Away ((setting.onDisk disk).normalise path))
          (loadOwned (setting.onDisk disk) plugin resource path (setting.normalise path)).run :=
      away_loadOwned plugin resource path _
    rw [besides.normalise] at awayThere
    rw [here] at away awayThere ⊢
    exact paired_of_away away awayThere
  · rw [loadOwned_eq, loadOwned_eq]
    exact paired_attempt_bind (matched_build besides here plugin _ _) fun built =>
      paired_of_apart (apart_attends.serveBuilt resource path _ built)
        (apart_attends.serveBuilt resource path _ built)

variable (steady : Steady setting.analyzer left) (steadyRight : Steady setting.analyzer right)
  (twins : Twins file left right) (same : SameImports file setting disk left right)

include steady steadyRight twins same

theorem twins_serve (plugin : Plugin) (resource : Resource) (path : Path) :
    Twins file
      (endOf (serve setting plugin resource path (setting.normalise path)).run left)
      (endOf (serve (setting.onDisk disk) plugin resource path (setting.normalise path)).run
        right) := by
  rw [serve, serve]
  rw [run_get_bind, run_get_bind, endOf_bind, endOf_bind, resultOf_get, resultOf_get, endOf_get,
    endOf_get, twins.plugins]
  cases left.plugins.sight plugin.id path with
  | excluded owner =>
      exact paired_of_apart (keeps_bind (apart_debug _ _) fun _ => keeps_attempt_pure _)
        (keeps_bind (apart_debug _ _) fun _ => keeps_attempt_pure _) _ _ twins
  | aggregate owner => exact (walkFrom?_twins besides steady steadyRight twins same path).2
  | owned =>
      cases actionOf? resource with
      | some action =>
          exact paired_of_apart (apart_callHook _ plugin resource action)
            (apart_callHook _ plugin resource action) _ _ twins
      | none => exact paired_loadOwned besides plugin resource path _ _ twins

/-- A preparation ends alike in both, also for the file itself. -/
theorem twins_prepare (plugin : Plugin) (path : Path) :
    resultOf (prepare (setting.onDisk disk) plugin path).run right =
        resultOf (prepare setting plugin path).run left ∧
      Twins file (endOf (prepare setting plugin path).run left)
        (endOf (prepare (setting.onDisk disk) plugin path).run right) := by
  by_cases here : setting.normalise path = file
  · have there : (setting.onDisk disk).normalise path = file :=
      (besides.normalise path).trans here
    have steadyThere : Steady (setting.onDisk disk).analyzer right := steadyRight
    rcases same with ⟨text, other, analysis, another, held, heldRight, found, foundRight, -⟩
    subst here
    rw [← there] at heldRight foundRight
    refine ⟨?_, ?_⟩
    · rw [resultOf_prepare_of_text steady held found,
        resultOf_prepare_of_text steadyThere heldRight foundRight, there]
    · have awayThere :
          Keeps (Away ((setting.onDisk disk).normalise path))
            (prepare (setting.onDisk disk) plugin path).run :=
        away_prepare plugin path
      rw [there] at awayThere
      exact paired_of_away (away_prepare plugin path) awayThere _ _ twins
  · exact matched_prepare besides here plugin _ _ twins

theorem twins_load (plugin : Plugin) (id : String) :
    Twins file (endOf (load setting plugin id).run left)
      (endOf (load (setting.onDisk disk) plugin id).run right) := by
  cases accepted : setting.filter.accepts id with
  | false =>
      have foreign : (setting.onDisk disk).filter.accepts id = false := accepted
      rw [load_of_foreign accepted, load_of_foreign foreign]
      exact twins
  | true =>
      rw [load_of_accepted accepted, load_onDisk_of_accepted besides accepted]
      let path := Event.fileOf setting id
      rcases twins_prepare besides steady steadyRight twins same plugin path with
        ⟨alike, twinsThen⟩
      cases outcome : resultOf (prepare setting plugin path).run left with
      | error fault =>
          rw [(attempt_of_error outcome _).2, (attempt_of_error (alike.trans outcome) _).2]
          exact twinsThen
      | ok key =>
          rcases key_of_prepare outcome with rfl
          have standing := (Standing.start steady).prepare plugin path
          have steadyThere : Steady (setting.onDisk disk).analyzer right := steadyRight
          have standingRight := (Standing.start steadyThere).prepare plugin path
          rw [(attempt_of_ok outcome _).2, (attempt_of_ok (alike.trans outcome) _).2,
            (attempt_map _ _ _).2, (attempt_map _ _ _).2]
          exact twins_serve besides standing.steady standingRight.steady twinsThen
            (same.keep standing standingRight) plugin _ path

/-- A pipeline is served the same in both for a file that it does not own. -/
theorem resultOf_load_twins
    {plugin : Plugin} {id : String}
    (bound : left.plugins.Bound) (member : plugin ∈ left.plugins.items)
    (other : (left.plugins.owner (Event.fileOf setting id)).id ≠ plugin.id) :
    resultOf (load (setting.onDisk disk) plugin id).run right =
      resultOf (load setting plugin id).run left := by
  cases accepted : setting.filter.accepts id with
  | false =>
      have foreign : (setting.onDisk disk).filter.accepts id = false := accepted
      rw [resultOf_load_of_foreign accepted, resultOf_load_of_foreign foreign]
  | true =>
      rw [load_of_accepted accepted, load_onDisk_of_accepted besides accepted]
      let path := Event.fileOf setting id
      rcases twins_prepare besides steady steadyRight twins same plugin path with
        ⟨alike, twinsThen⟩
      cases outcome : resultOf (prepare setting plugin path).run left with
      | error fault =>
          rw [(attempt_of_error outcome _).1, (attempt_of_error (alike.trans outcome) _).1]
      | ok key =>
          rcases key_of_prepare outcome with rfl
          let prepared := endOf (prepare setting plugin path).run left
          let preparedRight := endOf (prepare (setting.onDisk disk) plugin path).run right
          have standing := (Standing.start steady).prepare plugin path
          have steadyThere : Steady (setting.onDisk disk).analyzer right := steadyRight
          have standingRight := (Standing.start steadyThere).prepare plugin path
          have walks :
              resultOf (localDependencies (setting.onDisk disk) path) preparedRight =
                resultOf (localDependencies setting path) prepared :=
            resultOf_localDependencies_twins besides standing.steady standingRight.steady
              twinsThen (same.keep standing standingRight) path
          have stays : prepared.plugins = left.plugins := standing.plugins
          have staysRight : preparedRight.plugins = left.plugins :=
            twinsThen.plugins.trans stays
          let resource := Resource.parse setting.config.resolve id
          have serves :
              resultOf (serve setting plugin resource path (setting.normalise path)).run
                  prepared =
                .ok (standIn left.plugins plugin path
                  (resultOf (localDependencies setting path) prepared)) := by
            rw [← stays] at bound member other ⊢
            exact resultOf_serve_of_other bound member other resource _
          have servesRight :
              resultOf
                  (serve (setting.onDisk disk) plugin resource path (setting.normalise path)).run
                  preparedRight =
                .ok (standIn left.plugins plugin path
                  (resultOf (localDependencies setting path) prepared)) := by
            rw [← staysRight] at bound member other ⊢
            rw [← walks]
            exact resultOf_serve_of_other bound member other resource _
          rw [(attempt_of_ok outcome _).1, (attempt_of_ok (alike.trans outcome) _).1,
            (attempt_map _ _ _).1, (attempt_map _ _ _).1, serves, servesRight]

end

end ModuleBridge.Bridge
