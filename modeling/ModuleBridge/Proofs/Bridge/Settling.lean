import Mathlib
import ModuleBridge.Bridge.Start
import ModuleBridge.Proofs.Bridge.Passes

/-!
# Making a file ready ends

Every pass but the last one is paid for by a text that altered the record and
makes the schedule shorter.  So every schedule is used up in the end, the
analyzer is called at most once more than the record was altered, and the record
is left valid, or invalid with the reason why.
-/

namespace ModuleBridge.Bridge

variable {setting : Setting} {key : Path}

/-! ## All passes -/

/-- More passes than the schedule can ask for make no difference. -/
theorem settle_bound
    {first second : Nat} {bridge : Bridge} {text : String} {readiness : Readiness}
    (registered : (bridge.registry.get? key).isSome)
    (coherent : (bridge.registry.find key).Coherent (setting.analyzer.findings key))
    (held : (bridge.registry.find key).source? = some text)
    (enough : bridge.schedule.length < first)
    (alsoEnough : bridge.schedule.length < second) :
    (settle setting key first readiness).run.run bridge =
      (settle setting key second readiness).run.run bridge := by
  induction first generalizing second bridge text readiness with
  | zero => exact absurd enough (Nat.not_lt_zero _)
  | succ first inductionHypothesis =>
      obtain ⟨second, rfl⟩ : ∃ fewer, second = fewer + 1 :=
        Nat.exists_eq_succ_of_ne_zero (Nat.ne_zero_of_lt alsoEnough)
      cases valid : (bridge.registry.find key).isValid with
      | true => rw [settle_of_valid valid, settle_of_valid valid]
      | false =>
          cases pass registered coherent held valid with
          | failed message last refused called ends => rw [ends, ends]
          | stored next action found unaltered silent called valid coherent continues =>
              rw [continues, continues, settle_of_valid valid, settle_of_valid valid]
          | dropped next other found called coherent held invalid schedule altered continues =>
              -- A dropped answer used up an interruption, which pays for the pass.
              have shorter := length_left_of_altered altered
              rw [continues, continues]
              refine inductionHypothesis called.registered coherent held ?_ ?_
              · rw [schedule]
                omega
              · rw [schedule]
                omega

/-- Why a file cannot be made ready: the analyzer fails on a text, or there is none on disk. -/
def Refusal (setting : Setting) (key : Path) (fault : Fault) : Prop :=
  (∃ text message,
    setting.analyzer.analyse key text = .error message ∧ fault = .analysis key message) ∨
      sourceOnDisk setting.disk key = .error fault

/-- How making a file ready goes from a bridge in which its text is known or cannot be read. -/
structure Settled
    (setting : Setting) (key : Path) (before : Bridge) (readiness : Readiness)
    (calls : Nat) (outcome : Except Fault Readiness) (after : Bridge) : Prop where
  journal : after.journal = before.journal ++ List.replicate calls (.analyse key)
  analyses : after.registry.analyses = before.registry.analyses + calls
  registered : (after.registry.get? key).isSome
  coherent : (after.registry.find key).Coherent (setting.analyzer.findings key)
  source :
    (after.registry.find key).source? =
      ((incomings setting key (.analysing key) calls before.schedule).foldl Record.act
        (before.registry.find key)).source?
  few :
    calls ≤ 1 + (before.registry.find key).alterations
      (incomings setting key (.analysing key) calls before.schedule)
  idle :
    ∀ told, outcome = .ok told → calls = 0 → (before.registry.find key).isValid = true
  ready :
    ∀ told, outcome = .ok told →
      (after.registry.find key).isValid = true ∧
        told = if calls = 0 then readiness else .analysed
  refused :
    ∀ fault, outcome = .error fault →
      (after.registry.find key).isValid = false ∧ Refusal setting key fault

theorem settled_of_valid
    {bridge : Bridge} {readiness : Readiness}
    (registered : (bridge.registry.get? key).isSome)
    (coherent : (bridge.registry.find key).Coherent (setting.analyzer.findings key))
    (valid : (bridge.registry.find key).isValid = true) :
    Settled setting key bridge readiness 0 (.ok readiness) bridge where
  journal := (List.append_nil _).symm
  analyses := rfl
  registered := registered
  coherent := coherent
  source := rfl
  few := Nat.zero_le _
  idle _ _ _ := valid
  ready := by
    rintro _ ⟨⟩
    exact ⟨valid, rfl⟩
  refused := nofun

theorem incomings_one (moment : Moment) (schedule : List Interruption) :
    incomings setting key moment 1 schedule = incoming setting key moment schedule :=
  List.append_nil _

/-- The analyzer fails in the last pass. -/
theorem settled_of_failed
    {bridge last : Bridge} {text message : String} {readiness : Readiness}
    (coherent : (bridge.registry.find key).Coherent (setting.analyzer.findings key))
    (invalid : (bridge.registry.find key).isValid = false)
    (refused : setting.analyzer.analyse key text = .error message)
    (called :
      Called key 1 (incoming setting key (.analysing key) bridge.schedule) bridge last) :
    Settled setting key bridge readiness 1 (.error (.analysis key message)) last where
  journal := called.journal
  analyses := called.analyses
  registered := called.registered
  coherent := by
    rw [called.record]
    exact Record.coherent_foldl coherent fun _ => isSome_text_of_incoming
  source := by
    rw [incomings_one, called.record]
  few := Nat.le_add_right 1 _
  idle _ _ := nofun
  ready := nofun
  refused := by
    rintro _ ⟨⟩
    refine ⟨?_, .inl ⟨text, message, refused, rfl⟩⟩
    rw [called.record]
    exact Record.isValid_foldl_of_text (fun _ => isSome_text_of_incoming) invalid

/-- The answer is stored in the last pass. -/
theorem settled_of_stored
    {bridge next : Bridge} {action : Record.Action} {readiness : Readiness}
    (silent : action.text? = none)
    (called :
      Called key 1 (incoming setting key (.analysing key) bridge.schedule ++ [action])
        bridge next)
    (valid : (next.registry.find key).isValid = true)
    (coherent : (next.registry.find key).Coherent (setting.analyzer.findings key)) :
    Settled setting key bridge readiness 1 (.ok .analysed) next where
  journal := called.journal
  analyses := called.analyses
  registered := called.registered
  coherent := coherent
  source := by
    rw [incomings_one, called.record, List.foldl_append]
    exact Record.source?_act_of_no_text silent _
  few := Nat.le_add_right 1 _
  idle _ _ := nofun
  ready := by
    rintro _ ⟨⟩
    exact ⟨valid, rfl⟩
  refused := nofun

/-- The answer is dropped, and further passes follow. -/
theorem settled_of_dropped
    {bridge next last : Bridge} {readiness : Readiness} {calls : Nat}
    {outcome : Except Fault Readiness}
    (called :
      Called key 1 (incoming setting key (.analysing key) bridge.schedule) bridge next)
    (invalid : (next.registry.find key).isValid = false)
    (schedule : next.schedule = left (.analysing key) bridge.schedule)
    (altered :
      0 < (bridge.registry.find key).alterations
        (incoming setting key (.analysing key) bridge.schedule))
    (rest : Settled setting key next readiness calls outcome last) :
    Settled setting key bridge readiness (calls + 1) outcome last where
  journal := by
    rw [rest.journal, called.journal, List.append_assoc, List.replicate_append_replicate,
      Nat.add_comm]
  analyses := by
    rw [rest.analyses, called.analyses, Nat.add_assoc, Nat.add_comm 1 calls]
  registered := rest.registered
  coherent := rest.coherent
  source := by
    rw [rest.source, called.record, schedule, incomings, List.foldl_append]
  few := by
    have fewer := rest.few
    rw [called.record, schedule] at fewer
    rw [incomings, Record.alterations_append]
    omega
  idle _ _ := nofun
  ready := by
    intro told succeeded
    rcases rest.ready told succeeded with ⟨valid, readinessTold⟩
    refine ⟨valid, ?_⟩
    have worked : calls ≠ 0 := by
      intro none
      rw [rest.idle told succeeded none] at invalid
      cases invalid
    rw [readinessTold, if_neg worked, if_neg (Nat.succ_ne_zero calls)]
  refused := rest.refused

/-- Making a file ready ends, whatever the schedule brings. -/
theorem settled
    {bound : Nat} {bridge : Bridge} {text : String} {readiness : Readiness}
    (registered : (bridge.registry.get? key).isSome)
    (coherent : (bridge.registry.find key).Coherent (setting.analyzer.findings key))
    (held : (bridge.registry.find key).source? = some text)
    (enough : bridge.schedule.length < bound) :
    ∃ calls,
      Settled setting key bridge readiness calls
        (resultOf (settle setting key bound readiness).run bridge)
        (endOf (settle setting key bound readiness).run bridge) := by
  induction bound generalizing bridge text with
  | zero => exact absurd enough (Nat.not_lt_zero _)
  | succ bound inductionHypothesis =>
      rw [resultOf, endOf]
      cases valid : (bridge.registry.find key).isValid with
      | true =>
          rw [settle_of_valid valid]
          exact ⟨0, settled_of_valid registered coherent valid⟩
      | false =>
          cases pass registered coherent held valid with
          | failed message last refused called ends =>
              rw [ends]
              exact ⟨1, settled_of_failed coherent valid refused called⟩
          | stored next action found unaltered silent called validNow coherentNow continues =>
              rw [continues, settle_of_valid validNow]
              exact ⟨1, settled_of_stored silent called validNow coherentNow⟩
          | dropped next other found called coherentNow heldNow invalid schedule altered
              continues =>
              have shorter := length_left_of_altered altered
              have enoughLeft : next.schedule.length < bound := by
                rw [schedule]
                omega
              rcases inductionHypothesis called.registered coherentNow heldNow enoughLeft with
                ⟨calls, rest⟩
              rw [continues]
              exact ⟨calls + 1, settled_of_dropped called invalid schedule altered rest⟩

/-! ## Reading the text -/

/-- The bridge in which the first analysis may start: a text that was not known has been read. -/
def textRead (setting : Setting) (key : Path) (bridge : Bridge) : Bridge :=
  if (bridge.registry.find key).source?.isSome then bridge
  else endOf (loadSource setting key).run bridge

theorem textRead_of_known
    {bridge : Bridge} (known : (bridge.registry.find key).source?.isSome) :
    textRead setting key bridge = bridge :=
  if_pos known

theorem textRead_of_unknown
    {bridge : Bridge} (unknown : (bridge.registry.find key).source? = none) :
    textRead setting key bridge = endOf (loadSource setting key).run bridge := by
  apply if_neg
  rw [unknown]
  exact Bool.false_ne_true

/-- The text on disk comes in behind those that came while it was read. -/
theorem run_loadSource (setting : Setting) (key : Path) (bridge : Bridge) :
    (loadSource setting key).run.run bridge =
      match sourceOnDisk setting.disk key with
      | .ok text =>
        (.ok (), endOf (changeRecord key fun record => (record.feed text).1)
          (endOf (wait setting (.reading key)) bridge))
      | .error fault => (.error fault, endOf (wait setting (.reading key)) bridge) := by
  rw [loadSource, ExceptT.run_bind, readSource, run_lift_bind]
  cases sourceOnDisk setting.disk key <;> rfl

/-- Before the first analysis only texts come in. -/
theorem called_textRead
    (setting : Setting) {bridge : Bridge} (registered : (bridge.registry.get? key).isSome) :
    ∃ actions,
      Called key 0 actions bridge (textRead setting key bridge) ∧
        (∀ action ∈ actions, action.text?.isSome) ∧
        (textRead setting key bridge).schedule.length ≤ bridge.schedule.length := by
  let early := incoming setting key (.reading key) bridge.schedule
  let waited := endOf (wait setting (.reading key)) bridge
  obtain ⟨called, schedule⟩ :
      Called key 0 early bridge waited ∧
        waited.schedule = left (.reading key) bridge.schedule :=
    called_wait setting registered (.reading key)
  have arrive : ∀ action ∈ early, action.text?.isSome :=
    fun action arrives => isSome_text_of_incoming arrives
  have shorter : waited.schedule.length ≤ bridge.schedule.length := by
    rw [schedule]
    exact length_left_le _ _
  cases known : (bridge.registry.find key).source? with
  | some text =>
      rw [textRead_of_known (by rw [known]; rfl)]
      exact ⟨[], ⟨(List.append_nil _).symm, rfl, registered, rfl⟩, nofun, Nat.le_refl _⟩
  | none =>
      rw [textRead_of_unknown known, endOf, run_loadSource]
      cases sourceOnDisk setting.disk key with
      | error fault => exact ⟨early, called, arrive, shorter⟩
      | ok text =>
          have fed :
              Called key 0 [.feed text] waited
                (endOf (changeRecord key fun record => (record.feed text).1) waited) :=
            ⟨(List.append_nil _).symm, rfl, Registry.isSome_put called.registered _ _,
              Registry.find_put_self called.registered _⟩
          refine ⟨early ++ [.feed text], called.trans fed, ?_, shorter⟩
          intro action arrives
          rcases List.mem_append.1 arrives with earlier | last
          · exact arrive action earlier
          · rw [List.mem_singleton.1 last]
            rfl

theorem coherent_textRead
    {bridge : Bridge} (registered : (bridge.registry.get? key).isSome)
    (coherent : (bridge.registry.find key).Coherent (setting.analyzer.findings key)) :
    ((textRead setting key bridge).registry.find key).Coherent
      (setting.analyzer.findings key) := by
  rcases called_textRead setting registered with ⟨actions, called, arrive, -⟩
  rw [called.record]
  exact Record.coherent_foldl coherent arrive

/-- A text is read first where none is known; when it cannot be read, that is the outcome. -/
theorem settle_of_unknown
    {bridge : Bridge}
    (coherent : (bridge.registry.find key).Coherent (setting.analyzer.findings key))
    (unknown : (bridge.registry.find key).source? = none)
    (bound : Nat) (readiness : Readiness) :
    (settle setting key (bound + 1) readiness).run.run bridge =
      match sourceOnDisk setting.disk key with
      | .ok _ =>
        (settle setting key bound readiness).run.run (textRead setting key bridge)
      | .error fault => (.error fault, textRead setting key bridge) := by
  have invalid := coherent.isValid_of_unknown unknown
  have loaded := run_loadSource setting key bridge
  rw [settle_of_nothing invalid unknown, textRead_of_unknown unknown, endOf, ExceptT.run_bind,
    StateT.run_bind, loaded]
  cases sourceOnDisk setting.disk key <;> rfl

/-- The text is known when it is read, or the disk refuses it. -/
theorem isSome_source?_textRead
    {bridge : Bridge} (registered : (bridge.registry.get? key).isSome)
    (coherent : (bridge.registry.find key).Coherent (setting.analyzer.findings key))
    {text : String} (onDisk : sourceOnDisk setting.disk key = .ok text) :
    ((textRead setting key bridge).registry.find key).source?.isSome := by
  cases known : (bridge.registry.find key).source? with
  | some held =>
      rw [textRead_of_known (by rw [known]; rfl), known]
      rfl
  | none =>
      rcases called_wait setting registered (.reading key) with ⟨called, -⟩
      rw [textRead_of_unknown known, endOf, run_loadSource, onDisk]
      change ((Registry.put _ key _).find key).source?.isSome
      rw [Registry.find_put_self called.registered]
      have arrive : ∀ action ∈ incoming setting key (.reading key) bridge.schedule,
          action.text?.isSome :=
        fun _ => isSome_text_of_incoming
      have waited := Record.coherent_foldl coherent arrive
      rw [← called.record] at waited
      have brings : (Record.Action.feed text).text? = some text := rfl
      exact Record.isSome_source?_act_of_text waited.digest brings

/-- The loop from a record whose text may be unknown: there is none, or it is known from now on. -/
inductive Begins
    (setting : Setting) (key : Path) (bridge : Bridge) (bound : Nat) (readiness : Readiness) :
    Prop where
  | unreadable (fault : Fault)
      (unknown : (bridge.registry.find key).source? = none)
      (onDisk : sourceOnDisk setting.disk key = .error fault)
      (ends :
        (settle setting key bound readiness).run.run bridge =
          (.error fault, textRead setting key bridge))
  | known (text : String) (passes : Nat)
      (readable :
        (bridge.registry.find key).source?.isSome ∨
          ∃ text, sourceOnDisk setting.disk key = .ok text)
      (held : ((textRead setting key bridge).registry.find key).source? = some text)
      (enough : (textRead setting key bridge).schedule.length < passes)
      (continues :
        (settle setting key bound readiness).run.run bridge =
          (settle setting key passes readiness).run.run (textRead setting key bridge))

theorem begins
    {bound : Nat} {bridge : Bridge} (readiness : Readiness)
    (registered : (bridge.registry.get? key).isSome)
    (coherent : (bridge.registry.find key).Coherent (setting.analyzer.findings key))
    (enough : bridge.schedule.length + 2 ≤ bound) :
    Begins setting key bridge bound readiness := by
  cases source : (bridge.registry.find key).source? with
  | some text =>
      have known : (bridge.registry.find key).source?.isSome := by
        rw [source]
        rfl
      have same : textRead setting key bridge = bridge := textRead_of_known known
      refine .known text bound (.inl known) ?_ ?_ ?_
      · rw [same]
        exact source
      · rw [same]
        omega
      · rw [same]
  | none =>
      obtain ⟨passes, rfl⟩ : ∃ passes, bound = passes + 1 :=
        Nat.exists_eq_succ_of_ne_zero (by omega)
      rcases called_textRead setting registered with ⟨actions, -, -, shorter⟩
      have run := settle_of_unknown coherent source passes readiness
      cases onDisk : sourceOnDisk setting.disk key with
      | error fault =>
          rw [onDisk] at run
          exact .unreadable fault source onDisk run
      | ok text =>
          rw [onDisk] at run
          obtain ⟨held, heldRead⟩ :=
            Option.isSome_iff_exists.1 (isSome_source?_textRead registered coherent onDisk)
          exact .known held passes (.inr ⟨text, onDisk⟩) heldRead (by omega) run

/-! ## The outcome -/

theorem find_openRecord (path : Path) (bridge : Bridge) (key : Path) :
    (endOf (openRecord setting path) bridge).registry.find key =
      bridge.registry.find key :=
  Registry.find_create _ _ _

theorem isSome_openRecord (setting : Setting) (path : Path) (bridge : Bridge) :
    ((endOf (openRecord setting path) bridge).registry.get? (setting.normalise path)).isSome :=
  Registry.isSome_create_self _ _

theorem coherent_openRecord
    (path : Path) {bridge : Bridge}
    (coherent : (bridge.registry.find key).Coherent (setting.analyzer.findings key)) :
    ((endOf (openRecord setting path) bridge).registry.find key).Coherent
      (setting.analyzer.findings key) := by
  rw [find_openRecord]
  exact coherent

theorem run_ready (setting : Setting) (path : Path) (bridge : Bridge) :
    (ready setting path).run.run bridge =
      match
        (settle setting (setting.normalise path) (bridge.schedule.length + 2) .cached).run.run
          (endOf (openRecord setting path) bridge) with
      | (.ok readiness, settled) =>
        (.ok (setting.normalise path, readiness),
          endOf (changeRecord (setting.normalise path) Record.markWatched) settled)
      | (.error fault, settled) => (.error fault, settled) := by
  rw [ready, run_lift_bind]
  change
    (settle setting (setting.normalise path) (bridge.schedule.length + 2) .cached >>=
      fun readiness => _ : Attempt (Path × Readiness)).run.run
        (endOf (openRecord setting path) bridge) = _
  rw [ExceptT.run_bind, StateT.run_bind]
  rcases (settle setting (setting.normalise path) (bridge.schedule.length + 2) .cached).run.run
    (endOf (openRecord setting path) bridge) with ⟨fault | readiness, settled⟩
  · rfl
  · rfl


section

variable {path : Path} {bridge settled : Bridge}

theorem ready_of_refused
    {fault : Fault}
    (passes :
      (settle setting (setting.normalise path) (bridge.schedule.length + 2) .cached).run.run
          (endOf (openRecord setting path) bridge) =
        (.error fault, settled)) :
    resultOf (ready setting path).run bridge = .error fault ∧
      endOf (ready setting path).run bridge = settled := by
  have run := run_ready setting path bridge
  rw [passes] at run
  exact ⟨congrArg Prod.fst run, congrArg Prod.snd run⟩

theorem ready_of_settled
    {readiness : Readiness}
    (passes :
      (settle setting (setting.normalise path) (bridge.schedule.length + 2) .cached).run.run
          (endOf (openRecord setting path) bridge) =
        (.ok readiness, settled)) :
    resultOf (ready setting path).run bridge = .ok (setting.normalise path, readiness) ∧
      endOf (ready setting path).run bridge =
        endOf (changeRecord (setting.normalise path) Record.markWatched) settled := by
  have run := run_ready setting path bridge
  rw [passes] at run
  exact ⟨congrArg Prod.fst run, congrArg Prod.snd run⟩

end

/-- The key of a file that was made ready. -/
theorem key_of_ready
    {path key : Path} {readiness : Readiness} {bridge : Bridge}
    (succeeded : resultOf (ready setting path).run bridge = .ok (key, readiness)) :
    key = setting.normalise path := by
  rw [resultOf, run_ready] at succeeded
  split at succeeded
  · exact (Prod.mk.inj (Except.ok.inj succeeded)).1.symm
  · cases succeeded

/-- The loop ends from every coherent record, and the text it analyses first has been read. -/
theorem settled_textRead
    {bound : Nat} {bridge : Bridge} (readiness : Readiness)
    (registered : (bridge.registry.get? key).isSome)
    (coherent : (bridge.registry.find key).Coherent (setting.analyzer.findings key))
    (enough : bridge.schedule.length + 2 ≤ bound) :
    ∃ calls,
      Settled setting key (textRead setting key bridge) readiness calls
        (resultOf (settle setting key bound readiness).run bridge)
        (endOf (settle setting key bound readiness).run bridge) := by
  rcases called_textRead setting registered with ⟨actions, called, arrive, -⟩
  have coherentRead := coherent_textRead registered coherent
  rw [resultOf, endOf]
  cases begins readiness registered coherent enough with
  | unreadable fault unknown onDisk ends =>
      have invalid :
          ((textRead setting key bridge).registry.find key).isValid = false := by
        rw [called.record]
        exact Record.isValid_foldl_of_text arrive (coherent.isValid_of_unknown unknown)
      rw [ends]
      refine ⟨0, (List.append_nil _).symm, rfl, called.registered, coherentRead, rfl,
        Nat.zero_le _, nofun, nofun, ?_⟩
      rintro _ ⟨⟩
      exact ⟨invalid, .inr onDisk⟩
  | known text passes readable held enoughLeft continues =>
      rw [continues]
      exact settled called.registered coherentRead held enoughLeft

/-- The number of passes is not what ends the loop. -/
theorem settle_enough
    {bound other : Nat} {bridge : Bridge} {readiness : Readiness}
    (registered : (bridge.registry.get? key).isSome)
    (coherent : (bridge.registry.find key).Coherent (setting.analyzer.findings key))
    (enough : bridge.schedule.length + 2 ≤ bound)
    (alsoEnough : bridge.schedule.length + 2 ≤ other) :
    (settle setting key bound readiness).run.run bridge =
      (settle setting key other readiness).run.run bridge := by
  cases known : (bridge.registry.find key).source? with
  | some text => exact settle_bound registered coherent known (by omega) (by omega)
  | none =>
      obtain ⟨passes, rfl⟩ : ∃ passes, bound = passes + 1 :=
        Nat.exists_eq_succ_of_ne_zero (by omega)
      obtain ⟨others, rfl⟩ : ∃ others, other = others + 1 :=
        Nat.exists_eq_succ_of_ne_zero (by omega)
      rw [settle_of_unknown coherent known, settle_of_unknown coherent known]
      cases onDisk : sourceOnDisk setting.disk key with
      | error fault => rfl
      | ok text =>
          rcases called_textRead setting registered with ⟨actions, called, arrive, shorter⟩
          obtain ⟨held, heldRead⟩ :=
            Option.isSome_iff_exists.1 (isSome_source?_textRead registered coherent onDisk)
          exact settle_bound called.registered (coherent_textRead registered coherent)
            heldRead (by omega) (by omega)

/-- Making a file ready again that was just made ready does nothing. -/
theorem run_ready_of_put
    {path : Path} {bridge : Bridge} {registry : Registry} {record : Record}
    (registered : (registry.get? (setting.normalise path)).isSome)
    (put : bridge.registry = registry.put (setting.normalise path) record.markWatched)
    (valid : record.markWatched.isValid = true) :
    (ready setting path).run.run bridge =
      (.ok (setting.normalise path, .cached), bridge) := by
  have found : bridge.registry.find (setting.normalise path) = record.markWatched := by
    rw [put, Registry.find_put_self registered]
  have opened : endOf (openRecord setting path) bridge = bridge := by
    rw [endOf_openRecord, Registry.create_of_isSome]
    rw [put]
    exact Registry.isSome_put registered _ _
  have same : bridge.registry.put (setting.normalise path) record.markWatched =
      bridge.registry := by
    rw [put, Registry.put_put]
  rw [run_ready, opened, settle_of_valid (by rw [found]; exact valid)]
  change (_, endOf (changeRecord (setting.normalise path) Record.markWatched) bridge) = _
  rw [endOf_changeRecord, found, Record.markWatched_markWatched, same]

theorem analyses_openRecord (path : Path) (bridge : Bridge) :
    (endOf (openRecord setting path) bridge).registry.analyses =
      bridge.registry.analyses := by
  simp only [endOf_openRecord, Registry.create]
  split
  · rfl
  · rfl

/-- That the file is followed does not touch how it was settled. -/
theorem Settled.watched
    {before settled : Bridge} {readiness told : Readiness} {calls : Nat}
    (ended : Settled setting key before readiness calls (.ok told) settled) :
    Settled setting key before readiness calls (.ok told)
      (endOf (changeRecord key Record.markWatched) settled) := by
  have found :
      (endOf (changeRecord key Record.markWatched) settled).registry.find key =
        (settled.registry.find key).markWatched :=
    Registry.find_put_self ended.registered _
  have same := Record.core_markWatched (settled.registry.find key)
  have timely :
      (settled.registry.find key).Timely (setting.analyzer.findings key) .markWatched :=
    trivial
  refine
    ⟨ended.journal, ended.analyses, Registry.isSome_put ended.registered _ _, ?_, ?_,
      ended.few, ended.idle, ?_, nofun⟩
  · rw [found]
    exact ended.coherent.act timely
  · rw [found, (Record.fields_of_core_eq same).1]
    exact ended.source
  · intro other succeeded
    rw [found]
    exact ⟨(congrArg Record.isValid same).trans (ended.ready other succeeded).1,
      (ended.ready other succeeded).2⟩

/-- How making a file ready goes; once it is ready, it is so at once the next time. -/
theorem ready_settled
    (path : Path) {bridge : Bridge}
    (coherent :
      (bridge.registry.find (setting.normalise path)).Coherent
        (setting.analyzer.findings (setting.normalise path))) :
    let key := setting.normalise path
    let last := endOf (ready setting path).run bridge
    ∃ calls told,
      Settled setting key (textRead setting key (endOf (openRecord setting path) bridge))
          .cached calls told last ∧
        resultOf (ready setting path).run bridge =
            told.map (fun readiness => (key, readiness)) ∧
          ∀ readiness, told = .ok readiness →
            (ready setting path).run.run last = (.ok (key, .cached), last) := by
  intro key last
  let opened := endOf (openRecord setting path) bridge
  have registered : (opened.registry.get? key).isSome :=
    Registry.isSome_create_self bridge.registry key
  have coherentOpened : (opened.registry.find key).Coherent (setting.analyzer.findings key) := by
    rw [find_openRecord]
    exact coherent
  rcases
    settled_textRead .cached registered coherentOpened
      (Nat.le_refl (bridge.schedule.length + 2))
    with ⟨calls, ended⟩
  rcases passes : (settle setting key (bridge.schedule.length + 2) .cached).run.run opened with
    ⟨fault | told, settled⟩
  · rw [resultOf, endOf, passes] at ended
    rcases ready_of_refused passes with ⟨answered, lastIs⟩
    refine ⟨calls, .error fault, ?_, answered, nofun⟩
    rw [show last = settled from lastIs]
    exact ended
  · rw [resultOf, endOf, passes] at ended
    rcases ready_of_settled passes with ⟨answered, lastIs⟩
    have watched := ended.watched
    rw [← lastIs] at watched
    refine ⟨calls, .ok told, watched, answered, ?_⟩
    intro readiness _
    have put : last.registry =
        settled.registry.put key (settled.registry.find key).markWatched :=
      congrArg Bridge.registry lastIs
    have found : last.registry.find key = (settled.registry.find key).markWatched := by
      rw [put, Registry.find_put_self ended.registered]
    have valid := (watched.ready told rfl).1
    rw [show (endOf (ready setting path).run bridge).registry.find key = _ from found] at valid
    exact run_ready_of_put ended.registered put valid

/--
From every coherent record, whatever the schedule brings: making a file ready
ends, and the number of passes it may take is not what ends it.  The analyzer is
called at most once more than texts came in that altered the record while it
ran, and the counter counts its calls.  The file is ready when the record is
valid, with the analysis and the sections of the text it holds, and it took an
analysis exactly when there was a call; made ready again at once it is as it
was.  Else the record stays and is not valid, for the analyzer failed on a text
or none could be read.
-/
theorem ready_ends
    (setting : Setting) (path : Path) (bridge : Bridge)
    (coherent :
      (bridge.registry.find (setting.normalise path)).Coherent
        (setting.analyzer.findings (setting.normalise path))) :
    let key := setting.normalise path
    let opened := endOf (openRecord setting path) bridge
    let begun := textRead setting key opened
    let outcome := resultOf (ready setting path).run bridge
    let last := endOf (ready setting path).run bridge
    let record := last.registry.find key
    (∀ bound, bridge.schedule.length + 2 ≤ bound →
      (settle setting key bound .cached).run.run opened =
        (settle setting key (bridge.schedule.length + 2) .cached).run.run opened) ∧
    ∃ calls,
      last.journal = bridge.journal ++ List.replicate calls (.analyse key) ∧
      last.registry.analyses = bridge.registry.analyses + calls ∧
      calls ≤ 1 + (begun.registry.find key).alterations
        (incomings setting key (.analysing key) calls begun.schedule) ∧
      record.source? =
        ((incomings setting key (.analysing key) calls begun.schedule).foldl Record.act
          (begun.registry.find key)).source? ∧
      (last.registry.get? key).isSome ∧
      (∀ found readiness, outcome = .ok (found, readiness) →
        found = key ∧ record.isValid = true ∧
          (∃ text analysed,
            record.source? = some text ∧ record.analysed? = some analysed ∧
              setting.analyzer.analyse key text = .ok analysed.analysis ∧
              analysed.sections = analysed.analysis.sections text) ∧
          (readiness = .analysed ↔ 0 < calls) ∧
          (ready setting path).run.run last = (.ok (key, .cached), last)) ∧
      (∀ fault, outcome = .error fault →
        record.isValid = false ∧ Refusal setting key fault) := by
  intro key opened begun outcome last record
  have registered : (opened.registry.get? key).isSome :=
    Registry.isSome_create_self bridge.registry key
  have coherentOpened : (opened.registry.find key).Coherent (setting.analyzer.findings key) := by
    rw [find_openRecord]
    exact coherent
  constructor
  · intro bound least
    exact settle_enough registered coherentOpened least (Nat.le_refl _)
  · rcases called_textRead setting registered with ⟨actions, called, arrive, -⟩
    rcases ready_settled path coherent with ⟨calls, told, ended, answered, repeats⟩
    have journal : begun.journal = bridge.journal :=
      called.journal.trans (List.append_nil _)
    have analyses : begun.registry.analyses = bridge.registry.analyses :=
      called.analyses.trans (analyses_openRecord path bridge)
    refine ⟨calls, ?_, ?_, ended.few, ended.source, ended.registered, ?_, ?_⟩
    · rw [ended.journal, journal]
    · rw [ended.analyses, analyses]
    · intro found readiness succeeded
      cases told with
      | error fault => cases (answered.symm.trans succeeded)
      | ok told =>
          rcases Prod.mk.inj (Except.ok.inj (answered.symm.trans succeeded)) with ⟨rfl, rfl⟩
          rcases ended.ready told rfl with ⟨valid, toldIs⟩
          refine ⟨rfl, valid, ?_, ?_, repeats told rfl⟩
          · rcases Option.isSome_iff_exists.1 (ended.coherent.isValid_iff.1 valid) with
              ⟨analysed, stored⟩
            rcases ended.coherent.analysed analysed stored with
              ⟨text, held, -, found, sections⟩
            exact ⟨text, analysed, held, stored, found, sections⟩
          · rw [toldIs]
            cases calls with
            | zero => simp
            | succ further => simp
    · intro fault failed
      cases told with
      | error other =>
          cases answered.symm.trans failed
          exact ended.refused fault rfl
      | ok told => cases (answered.symm.trans failed)

/-! ## A file whose text changes under the analyzer -/

/-- Every text can be parsed, and nothing is found in it. -/
def plainAnalyzer : Analyzer where
  analyse _ _ := .ok ⟨true, [], [], [], false⟩
  resolve _ := none

/-- Surroundings with an empty disk, where every pipeline answers with the source text. -/
def plainSetting (analyzer : Analyzer) : Setting where
  config := default
  filter := ⟨[], []⟩
  disk := .empty
  analyzer := analyzer
  pipeline _ :=
    ⟨fun view _ => .built (.ofCode view.source) [], fun _ => .ok none, fun _ => .ok [],
      fun _ _ _ => .ok none⟩
  preprocessor? := none
  modulesOf _ := []

/-- A bridge that has done nothing yet, with a single pipeline. -/
def plainBridge : Bridge :=
  .ofPlugins default ⟨[], false, false⟩ ⟨[default], 0, Nat.zero_lt_one⟩ default

/-- A bridge that holds a text, and another text comes in while the analyzer runs. -/
def overtakenBridge : Bridge :=
  { plainBridge with
    registry := ⟨[(⟨"/a.es"⟩, (Record.fresh ⟨"/a.es"⟩).act (.feed "a"))], .empty, 0⟩
    schedule := [⟨[.analysing ⟨"/a.es"⟩], [⟨⟨"/a.es"⟩, "b", none⟩]⟩] }

theorem ready_ends_overtaken :
    let setting := plainSetting plainAnalyzer
    let last := endOf (ready setting ⟨"/a.es"⟩).run overtakenBridge
    (overtakenBridge.registry.find ⟨"/a.es"⟩).Coherent
        (setting.analyzer.findings ⟨"/a.es"⟩) ∧
      ∃ calls,
        last.journal = List.replicate calls (.analyse ⟨"/a.es"⟩) ∧
          last.registry.analyses = calls ∧ (last.registry.get? ⟨"/a.es"⟩).isSome := by
  intro setting last
  have key : setting.normalise ⟨"/a.es"⟩ = ⟨"/a.es"⟩ := by cbv
  have coherent :
      (overtakenBridge.registry.find ⟨"/a.es"⟩).Coherent
        (setting.analyzer.findings ⟨"/a.es"⟩) := by
    have found :
        overtakenBridge.registry.find ⟨"/a.es"⟩ =
          (Record.fresh ⟨"/a.es"⟩).act (.feed "a") := by
      simp [overtakenBridge, Registry.find, Registry.get?]
    rw [found]
    exact (Record.coherent_fresh _ _).act (Record.timely_of_text rfl _)
  rcases ready_ends setting ⟨"/a.es"⟩ overtakenBridge (by rw [key]; exact coherent) with
    ⟨-, calls, journal, analyses, -, -, registered, -⟩
  rw [key] at journal registered
  exact ⟨coherent, calls, journal, analyses.trans (Nat.zero_add calls), registered⟩

end ModuleBridge.Bridge
