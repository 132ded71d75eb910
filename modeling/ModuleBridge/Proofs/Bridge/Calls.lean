import ModuleBridge.Proofs.Bridge.Quiet

/-!
# Relations that making a file ready keeps

Making a file ready touches the record of that file only, waits, prints, and
calls the analyzer.  A relation between bridges that bears these four is kept by
the whole of it.  The calls that were made are one such relation; those that see
neither records nor lines nor the schedule bear all but the calls by themselves.
-/

namespace ModuleBridge

/-- The registries hold the same records, but perhaps for one key. -/
def Registry.SameBut (key : Path) (before after : Registry) : Prop :=
  ∀ other, other ≠ key → after.get? other = before.get? other

theorem Registry.sameBut_create (registry : Registry) (key : Path) :
    registry.SameBut key (registry.create key) :=
  fun _ different => get?_create_of_ne different registry

theorem Registry.sameBut_put (registry : Registry) (key : Path) (record : Record) :
    registry.SameBut key (registry.put key record) :=
  fun _ different => get?_put_of_ne different registry record

theorem Registry.SameBut.find_eq
    {key other : Path} {before after : Registry}
    (same : before.SameBut key after) (different : other ≠ key) :
    after.find other = before.find other :=
  congrArg (Option.getD · (Record.fresh other)) (same other different)

/-- What work on the record under a key does to the registry. -/
inductive Registry.Touched (key : Path) (before : Registry) : Registry → Prop where
  | created : Touched key before (before.create key)
  | put (record : Record) : Touched key before (before.put key record)
  /-- Only the imports or the count of analyses differ. -/
  | indexed (after : Registry) (same : after.records = before.records) :
      Touched key before after

theorem Registry.Touched.sameBut
    {key : Path} {before after : Registry} (touched : before.Touched key after) :
    before.SameBut key after := by
  cases touched with
  | created => exact sameBut_create before key
  | put record => exact sameBut_put before key record
  | indexed after same =>
      intro other _
      rw [get?, same, get?]

namespace Bridge

variable {α : Type} {setting : Setting} {key : Path}

/-- A relation is kept by all that making the file under a key ready consists of. -/
structure Bears (setting : Setting) (key : Path) (rel : Bridge → Bridge → Prop) : Prop where
  prints : ∀ show?, Keeps rel (print show?)
  waits : ∀ moment, Keeps rel (wait setting moment)
  touches :
    ∀ (bridge : Bridge) (registry : Registry),
      bridge.registry.Touched key registry → rel bridge { bridge with registry := registry }
  analyses : Keeps rel (note (.analyse key))

/-! ## Making a file ready -/

namespace Bears

variable {rel : Bridge → Bridge → Prop} (bears : Bears setting key rel)

include bears

theorem debug (part message : String) : Keeps rel (debug part message) :=
  bears.prints _

theorem changeRecord (change : Record → Record) : Keeps rel (changeRecord key change) :=
  fun bridge => bears.touches bridge _ (.put _)

theorem updateRecord (change : Record → Record × α) : Keeps rel (updateRecord key change) :=
  fun bridge => bears.touches bridge _ (.put _)

/-- The records stay when only the imports or the count of analyses change. -/
theorem changeRegistry
    {change : Registry → Registry}
    (same : ∀ registry, (change registry).records = registry.records) :
    Keeps rel (changeRegistry change) := by
  intro bridge
  exact bears.touches bridge _ (.indexed _ (same bridge.registry))

theorem openRecord {path : Path} (normal : setting.normalise path = key) :
    Keeps rel (openRecord setting path) := by
  intro bridge
  rw [endOf_openRecord, normal]
  exact bears.touches bridge _ .created

variable [IsPreorder Bridge rel]

theorem observe
    {path : Path} (normal : setting.normalise path = key) (text : String)
    (observer : Observer) :
    Keeps rel (observe setting path text observer) := by
  intro bridge
  subst normal
  let created := bridge.registry.create (setting.normalise path)
  rcases endOf_receive setting ⟨path, text, some observer⟩ bridge with ⟨console, received⟩
  have ended : endOf (Bridge.observe setting path text observer) bridge = _ := received
  have opens : rel bridge { bridge with registry := created } :=
    bears.touches bridge created .created
  have taken :
      rel { bridge with registry := created }
        { bridge with registry := bridge.registry.take setting ⟨path, text, some observer⟩ } :=
    bears.touches _ _ (.put _)
  rw [ended]
  exact trans_of rel (trans_of rel opens taken) (bears.prints (fun _ => console) _)

theorem readSource (path : Path) : Keeps rel (readSource setting path).run := by
  rw [Bridge.readSource]
  rw [run_lift_bind]
  refine keeps_bind (bears.waits _) ?_
  intro _
  cases sourceOnDisk setting.disk path with
  | error fault => exact keeps_throw fault
  | ok text => exact keeps_attempt_pure text

theorem loadSource : Keeps rel (loadSource setting key).run := by
  refine keeps_attempt_bind (bears.readSource key) ?_
  intro text
  exact keeps_lift (bears.changeRecord _)

theorem keepAnalysis (revision : Nat) (text : String) (analysis : Analysis) :
    Keeps rel (keepAnalysis setting key revision text analysis) := by
  refine keeps_bind (bears.updateRecord _) ?_
  intro stored
  refine keeps_ite ?_ ?_
  · exact keeps_bind (bears.changeRegistry fun _ => rfl) fun _ => keeps_pure _
  · exact keeps_bind (bears.debug _ _) fun _ => keeps_pure _

theorem analyse (text : String) (revision : Nat) :
    Keeps rel (analyse setting key text revision).run := by
  rw [run_analyse]
  have asks : Keeps rel (callAnalyzer setting key text revision) := by
    refine keeps_bind (bears.changeRegistry fun _ => rfl) ?_
    intro _
    refine keeps_bind (bears.debug _ _) ?_
    intro _
    refine keeps_bind bears.analyses ?_
    intro _
    exact bears.waits _
  refine keeps_bind asks ?_
  intro _
  cases setting.analyzer.analyse key text with
  | error message => exact keeps_pure _
  | ok analysis => exact keeps_map (bears.keepAnalysis revision text analysis) _

theorem settle (bound : Nat) (readiness : Readiness) :
    Keeps rel (settle setting key bound readiness).run := by
  induction bound generalizing readiness with
  | zero =>
      rw [Bridge.settle]
      rw [run_lift_bind]
      refine keeps_bind (keeps_recordAt key) ?_
      intro record
      split
      · exact keeps_attempt_pure _
      · exact keeps_throw _
  | succ bound inductionHypothesis =>
      rw [Bridge.settle]
      rw [run_lift_bind]
      refine keeps_bind (keeps_recordAt key) ?_
      intro record
      split
      · exact keeps_attempt_pure _
      · cases record.pending? with
        | none => exact keeps_attempt_bind bears.loadSource fun _ => inductionHypothesis _
        | some pending =>
            exact keeps_attempt_bind (bears.analyse pending.1 pending.2)
              fun _ => inductionHypothesis _

theorem ready {path : Path} (normal : setting.normalise path = key) :
    Keeps rel (ready setting path).run := by
  intro bridge
  let opened := endOf (Bridge.openRecord setting path) bridge
  have opens : rel bridge opened := bears.openRecord normal bridge
  subst normal
  have settles :
      rel bridge
        (endOf
          (Bridge.settle setting (setting.normalise path) (bridge.schedule.length + 2)
            .cached).run
          opened) :=
    trans_of rel opens (bears.settle (bridge.schedule.length + 2) .cached opened)
  rcases passes :
    (Bridge.settle setting (setting.normalise path) (bridge.schedule.length + 2)
      .cached).run.run opened
    with ⟨fault | readiness, settled⟩
  · rw [endOf, passes] at settles
    rw [(ready_of_refused passes).2]
    exact settles
  · rw [endOf, passes] at settles
    rw [(ready_of_settled passes).2]
    exact trans_of rel settles (bears.changeRecord _ settled)

/-! ## Hot updates -/

theorem updateLocalFile
    {file : Path} (normal : setting.normalise file = key)
    (requester : Nat) (suffix? : Option String) (previous? : Option Snapshot) :
    Keeps rel (updateLocalFile setting requester suffix? key file previous?) := by
  refine keeps_bind (bears.changeRecord _) ?_
  intro _ bridge
  rw [endOf_bind]
  refine trans_of rel (bears.ready normal bridge) ?_
  cases outcome : resultOf (Bridge.ready setting file).run bridge with
  | error fault => exact keeps_bind (bears.prints _) (fun _ => keeps_pure _) _
  | ok found =>
      rcases found with ⟨found, readiness⟩
      rcases key_of_ready outcome with rfl
      subst normal
      exact
        keeps_updateAnalysed bears.prints (fun _ => bears.changeRecord _) suffix? file previous? _

/-- A hot update touches the record of its file only. -/
theorem update
    {file : Path} (normal : setting.normalise (setting.normalise file) = key)
    (requester : Nat) (suffix? : Option String) (text : String) :
    Keeps rel (update setting requester suffix? file text) := by
  intro bridge
  unfold Bridge.update
  dsimp only
  rw [endOf_bind, resultOf_openRecord, normal]
  refine trans_of rel (bears.openRecord normal bridge) ?_
  refine keeps_bind (bears.observe normal text _) ?_ _
  intro observation
  refine keeps_ite ?_ ?_
  · exact keeps_bind (bears.prints _) fun _ => keeps_pure _
  · refine keeps_bind keeps_get ?_
    intro current
    refine keeps_ite ?_ ?_
    · exact keeps_updateServerFile bears.prints requester _
    · exact bears.updateLocalFile normal requester suffix? _

end Bears

/-! ## Blind relations -/

/-- A relation that sees neither the records nor the console nor the schedule. -/
class Blind (rel : Bridge → Bridge → Prop) : Prop extends IsPreorder Bridge rel where
  unseen :
    ∀ (bridge : Bridge) (registry : Registry) (console : Console)
      (schedule : List Interruption),
      rel bridge
        { bridge with registry := registry, console := console, schedule := schedule }

section

variable {rel : Bridge → Bridge → Prop} [Blind rel]

theorem blind_print (show? : Console → Console) : Keeps rel (print show?) :=
  fun bridge => Blind.unseen bridge bridge.registry _ bridge.schedule

theorem blind_log (part message : String) : Keeps rel (log part message) :=
  blind_print _

theorem blind_debug (part message : String) : Keeps rel (debug part message) :=
  blind_print _

theorem blind_wait (moment : Moment) : Keeps rel (wait setting moment) := by
  intro bridge
  rcases endOf_wait setting moment bridge with ⟨console, ended⟩
  rw [ended]
  exact Blind.unseen bridge _ _ _

theorem blind_changeRecord (change : Record → Record) : Keeps rel (changeRecord key change) :=
  fun bridge => Blind.unseen bridge _ bridge.console bridge.schedule

theorem blind_updateRecord (change : Record → Record × α) : Keeps rel (updateRecord key change) :=
  fun bridge => Blind.unseen bridge _ bridge.console bridge.schedule

theorem blind_observe (path : Path) (text : String) (observer : Observer) :
    Keeps rel (observe setting path text observer) := by
  intro bridge
  rcases endOf_receive setting ⟨path, text, some observer⟩ bridge with ⟨console, received⟩
  have ended : endOf (observe setting path text observer) bridge = _ := received
  rw [ended]
  exact Blind.unseen bridge _ _ bridge.schedule

theorem Blind.bears (analyses : Keeps rel (note (.analyse key))) : Bears setting key rel where
  prints := blind_print
  waits := blind_wait
  touches bridge registry _ := Blind.unseen bridge registry bridge.console bridge.schedule
  analyses := analyses

end

/-! ## Calls of some kind -/

/-- Only calls of some kind are made. -/
def Makes (allowed : Call → Prop) (before after : Bridge) : Prop :=
  ∃ calls, after.journal = before.journal ++ calls ∧ ∀ call ∈ calls, allowed call

instance (allowed : Call → Prop) : Blind (Makes allowed) where
  refl bridge := ⟨[], (List.append_nil _).symm, nofun⟩
  trans := by
    rintro before middle after ⟨first, begun, allowedFirst⟩ ⟨second, ended, allowedSecond⟩
    refine ⟨first ++ second, ?_, ?_⟩
    · rw [ended, begun, List.append_assoc]
    · intro call made
      rcases List.mem_append.1 made with earlier | later
      · exact allowedFirst call earlier
      · exact allowedSecond call later
  unseen bridge _ _ _ := ⟨[], (List.append_nil _).symm, nofun⟩

theorem makes_of_journal
    {allowed : Call → Prop} {before after : Bridge} (same : after.journal = before.journal) :
    Makes allowed before after :=
  ⟨[], same.trans (List.append_nil _).symm, nofun⟩

theorem makes_note {allowed : Call → Prop} {call : Call} (permitted : allowed call) :
    Keeps (Makes allowed) (note call) := by
  intro bridge
  refine ⟨[call], rfl, ?_⟩
  intro other made
  rwa [List.mem_singleton.1 made]

/-- A file that was not ready and is now was analysed. -/
theorem analyse_mem_of_ready
    {path : Path} {bridge : Bridge} {found : Path × Readiness}
    (coherent :
      (bridge.registry.find (setting.normalise path)).Coherent
        (setting.analyzer.findings (setting.normalise path)))
    (invalid : (bridge.registry.find (setting.normalise path)).isValid = false)
    (succeeded : resultOf (ready setting path).run bridge = .ok found) :
    .analyse (setting.normalise path) ∈ (endOf (ready setting path).run bridge).journal := by
  rcases ready_settled path coherent with ⟨calls, told, ended, answered, -⟩
  cases told with
  | error fault => cases (answered.symm.trans succeeded)
  | ok readiness =>
      have called : calls ≠ 0 := by
        intro none
        have valid := ended.idle readiness rfl none
        rcases called_textRead setting (isSome_openRecord setting path bridge) with
          ⟨actions, read, arrive, -⟩
        rw [read.record, find_openRecord, Record.isValid_foldl_of_text arrive invalid] at valid
        cases valid
      rw [ended.journal]
      exact List.mem_append_right _ (List.mem_replicate.2 ⟨called, rfl⟩)

/-! ## Records of other files -/

/-- Where no text is to come in, waiting does nothing. -/
theorem run_wait_of_idle
    (setting : Setting) (moment : Moment) {bridge : Bridge} (idle : bridge.schedule = []) :
    (wait setting moment).run bridge = ((), bridge) := by
  have next : nextAt? moment bridge.schedule = none := by
    rw [idle]
    rfl
  rw [wait, run_bind, resultOf_get, next]
  rfl

/-- Where no text is to come in, nothing happens but to the record under one key. -/
def Away (key : Path) (before after : Bridge) : Prop :=
  before.schedule = [] →
    after.schedule = [] ∧ after.plugins = before.plugins ∧
      before.registry.SameBut key after.registry

instance (key : Path) : IsPreorder Bridge (Away key) where
  refl _ idle := ⟨idle, rfl, fun _ _ => rfl⟩
  trans := by
    intro before middle after first second idle
    rcases first idle with ⟨idleBetween, plugins, same⟩
    rcases second idleBetween with ⟨idleAfter, pluginsAfter, sameAfter⟩
    refine ⟨idleAfter, pluginsAfter.trans plugins, ?_⟩
    intro other different
    exact (sameAfter other different).trans (same other different)

theorem away_of_apart {before after : Bridge} (apart : before.Apart after) :
    Away key before after := by
  intro idle
  refine ⟨apart.schedule.trans idle, apart.plugins, ?_⟩
  rw [apart.registry]
  exact fun _ _ => rfl

theorem keeps_away_of_apart {work : Work α} (apart : Keeps Apart work) :
    Keeps (Away key) work :=
  fun bridge => away_of_apart (apart bridge)

theorem Away.bears (setting : Setting) (key : Path) : Bears setting key (Away key) where
  prints show? := keeps_away_of_apart (apart_print show?)
  waits moment bridge idle := by
    rw [endOf, run_wait_of_idle setting moment idle]
    exact ⟨idle, rfl, fun _ _ => rfl⟩
  touches _ _ touched idle := ⟨idle, rfl, touched.sameBut⟩
  analyses := keeps_away_of_apart (apart_note _)

end Bridge

end ModuleBridge
