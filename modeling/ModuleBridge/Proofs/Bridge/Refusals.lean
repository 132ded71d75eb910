import ModuleBridge.Proofs.Bridge.Settling

/-!
# Texts that the analyzer fails on

What the analyzer finds in a text is dropped when another text came in meanwhile,
but its failure ends the work on the spot.  So the text that decides is the first
one that the analyzer fails on, and it need not be there any more: the main
statement names it by what comes in during each call.
-/

namespace ModuleBridge.Bridge

variable {setting : Setting} {key : Path} {text message : String} {calls : Nat}

/--
The analyzer fails on a text, with a message, in the call after `calls` others:
it finds something in each text before, and each of these is overtaken while it
runs.
-/
inductive Refuses (setting : Setting) (key : Path) (text message : String) :
    Nat → Record → List Interruption → Prop where
  | failed {record : Record} {schedule : List Interruption}
      (held : record.source? = some text)
      (refused : setting.analyzer.analyse key text = .error message) :
      Refuses setting key text message 0 record schedule
  | overtaken {calls : Nat} {record : Record} {schedule : List Interruption}
      (other : String)
      (held : record.source? = some other)
      (found : ∃ analysis, setting.analyzer.analyse key other = .ok analysis)
      (altered : 0 < record.alterations (incoming setting key (.analysing key) schedule))
      (rest : Refuses setting key text message calls
        ((incoming setting key (.analysing key) schedule).foldl Record.act record)
        (left (.analysing key) schedule)) :
      Refuses setting key text message (calls + 1) record schedule

namespace Refuses

variable {record : Record} {schedule : List Interruption}

theorem refused (refuses : Refuses setting key text message calls record schedule) :
    setting.analyzer.analyse key text = .error message := by
  induction refuses with
  | failed held refused => exact refused
  | overtaken other held found altered rest inductionHypothesis => exact inductionHypothesis

/-- The text is there when the last call starts. -/
theorem held (refuses : Refuses setting key text message calls record schedule) :
    ((incomings setting key (.analysing key) calls schedule).foldl Record.act record).source? =
      some text := by
  induction refuses with
  | failed held refused => exact held
  | overtaken other held found altered rest inductionHypothesis =>
      rw [incomings, List.foldl_append]
      exact inductionHypothesis

end Refuses

/-- What comes in during the call after `calls` others. -/
def incomingAfter (setting : Setting) (key : Path) (moment : Moment) :
    Nat → List Interruption → List Record.Action
  | 0, schedule => incoming setting key moment schedule
  | calls + 1, schedule => incomingAfter setting key moment calls (left moment schedule)

theorem incomings_succ
    (moment : Moment) (calls : Nat) (schedule : List Interruption) :
    incomings setting key moment (calls + 1) schedule =
      incomings setting key moment calls schedule ++
        incomingAfter setting key moment calls schedule := by
  induction calls generalizing schedule with
  | zero => exact List.append_nil _
  | succ calls inductionHypothesis =>
      rw [incomings, inductionHypothesis, incomings, List.append_assoc, incomingAfter]

/-! ## The loop -/

section

variable {bridge : Bridge} {bound : Nat} {readiness : Readiness}

/-- A failure ends the loop, and what came in during the calls is there. -/
theorem settle_of_refuses
    (registered : (bridge.registry.get? key).isSome)
    (coherent : (bridge.registry.find key).Coherent (setting.analyzer.findings key))
    (invalid : (bridge.registry.find key).isValid = false)
    (enough : bridge.schedule.length < bound)
    (refuses :
      Refuses setting key text message calls (bridge.registry.find key) bridge.schedule) :
    ∃ last,
      (settle setting key bound readiness).run.run bridge =
          (.error (.analysis key message), last) ∧
        Called key (calls + 1)
          (incomings setting key (.analysing key) (calls + 1) bridge.schedule)
          bridge last := by
  induction bound generalizing bridge calls with
  | zero => exact absurd enough (Nat.not_lt_zero _)
  | succ bound inductionHypothesis =>
      cases refuses with
      | failed held refused =>
          cases pass registered coherent held invalid with
          | failed other last refusedToo called ends =>
              obtain rfl : message = other := Except.error.inj (refused.symm.trans refusedToo)
              refine ⟨last, ends bound readiness, ?_⟩
              rw [incomings_one]
              exact called
          | stored next action found =>
              rcases found with ⟨analysis, found⟩
              cases refused.symm.trans found
          | dropped next other found =>
              rcases found with ⟨analysis, found⟩
              cases refused.symm.trans found
      | overtaken other held found altered rest =>
          cases pass registered coherent held invalid with
          | failed refusal last refused =>
              rcases found with ⟨analysis, found⟩
              cases refused.symm.trans found
          | stored next action found unaltered =>
              rw [unaltered] at altered
              exact absurd altered (Nat.lt_irrefl 0)
          | dropped next later _ called coherentNow _ invalidNow schedule _ continues =>
              have shorter := length_left_of_altered altered
              rw [← called.record, ← schedule] at rest
              have enoughLeft : next.schedule.length < bound := by
                rw [schedule]
                omega
              rcases
                inductionHypothesis called.registered coherentNow invalidNow enoughLeft rest
                with ⟨last, run, others⟩
              refine ⟨last, (continues bound readiness).trans run, ?_⟩
              have all := called.trans others
              rw [schedule, Nat.add_comm 1] at all
              exact all

/-- The loop fails with a message of the analyzer only so. -/
theorem refuses_of_settle
    (registered : (bridge.registry.get? key).isSome)
    (coherent : (bridge.registry.find key).Coherent (setting.analyzer.findings key))
    (known : (bridge.registry.find key).source?.isSome)
    (enough : bridge.schedule.length < bound)
    (failed :
      resultOf (settle setting key bound readiness).run bridge =
        .error (.analysis key message)) :
    (bridge.registry.find key).isValid = false ∧
      ∃ calls text,
        Refuses setting key text message calls (bridge.registry.find key)
          bridge.schedule := by
  induction bound generalizing bridge with
  | zero => exact absurd enough (Nat.not_lt_zero _)
  | succ bound inductionHypothesis =>
      rw [resultOf] at failed
      cases valid : (bridge.registry.find key).isValid with
      | true =>
          rw [settle_of_valid valid] at failed
          cases failed
      | false =>
          refine ⟨rfl, ?_⟩
          rcases Option.isSome_iff_exists.1 known with ⟨text, held⟩
          cases pass registered coherent held valid with
          | failed other last refused called ends =>
              rw [ends] at failed
              injection failed with same
              injection same with _ sameMessage
              rw [sameMessage] at refused
              exact ⟨0, text, .failed held refused⟩
          | stored next action found unaltered silent called validNow coherentNow continues =>
              rw [continues, settle_of_valid validNow] at failed
              cases failed
          | dropped next other found called coherentNow heldNow invalid schedule altered
              continues =>
              have shorter := length_left_of_altered altered
              have enoughLeft : next.schedule.length < bound := by
                rw [schedule]
                omega
              rw [continues] at failed
              rcases
                inductionHypothesis called.registered coherentNow (by rw [heldNow]; rfl)
                  enoughLeft failed
                with ⟨-, calls, last, rest⟩
              rw [called.record, schedule] at rest
              exact ⟨calls + 1, last, .overtaken text held found altered rest⟩

end

/-! ## Making a file ready -/

/-- The file's text is known, or it can be read. -/
def CanBeRead (setting : Setting) (key : Path) (bridge : Bridge) : Prop :=
  (bridge.registry.find key).source?.isSome ∨
    ∃ text, sourceOnDisk setting.disk key = .ok text

/-- The disk fails with faults of its own. -/
theorem sourceOnDisk_ne_analysis (disk : Disk) (path key : Path) (message : String) :
    sourceOnDisk disk path ≠ .error (.analysis key message) := by
  rw [sourceOnDisk]
  split <;> exact nofun

/-- From a text that can be read, the first call of the analyzer starts with a text known. -/
theorem settle_of_canBeRead
    {bridge : Bridge}
    (registered : (bridge.registry.get? key).isSome)
    (coherent : (bridge.registry.find key).Coherent (setting.analyzer.findings key))
    (readable : CanBeRead setting key bridge) :
    ((textRead setting key bridge).registry.find key).source?.isSome ∧
      ∃ bound,
        (textRead setting key bridge).schedule.length < bound ∧
          (settle setting key (bridge.schedule.length + 2) .cached).run.run bridge =
            (settle setting key bound .cached).run.run (textRead setting key bridge) := by
  cases begins .cached registered coherent (Nat.le_refl _) with
  | unreadable fault unknown onDisk ends =>
      rcases readable with known | ⟨text, read⟩
      · rw [unknown] at known
        cases known
      · cases onDisk.symm.trans read
  | known text passes readable held enough continues =>
      refine ⟨?_, passes, enough, continues⟩
      rw [held]
      rfl

theorem settle_of_ready_refused
    {path : Path} {bridge : Bridge} {fault : Fault}
    (failed : resultOf (ready setting path).run bridge = .error fault) :
    resultOf
        (settle setting (setting.normalise path) (bridge.schedule.length + 2) .cached).run
        (endOf (openRecord setting path) bridge) =
      .error fault := by
  rcases passes :
    (settle setting (setting.normalise path) (bridge.schedule.length + 2) .cached).run.run
      (endOf (openRecord setting path) bridge)
    with ⟨other | readiness, settled⟩
  · have answered := (ready_of_refused passes).1.symm.trans failed
    rw [resultOf, passes, Except.error.inj answered]
  · cases (ready_of_settled passes).1.symm.trans failed

/-- What cannot be read fails with a fault of the disk. -/
theorem canBeRead_of_settle
    {bridge : Bridge}
    (registered : (bridge.registry.get? key).isSome)
    (coherent : (bridge.registry.find key).Coherent (setting.analyzer.findings key))
    (failed :
      resultOf (settle setting key (bridge.schedule.length + 2) .cached).run bridge =
        .error (.analysis key message)) :
    CanBeRead setting key bridge := by
  cases begins .cached registered coherent (Nat.le_refl _) with
  | unreadable fault unknown onDisk ends =>
      rw [resultOf, ends] at failed
      rw [Except.error.inj failed] at onDisk
      exact absurd onDisk (sourceOnDisk_ne_analysis _ _ _ _)
  | known text passes readable held enough continues => exact readable

theorem canBeRead_openRecord (path : Path) (bridge : Bridge) :
    CanBeRead setting key (endOf (openRecord setting path) bridge) ↔
      CanBeRead setting key bridge := by
  rw [CanBeRead, find_openRecord, CanBeRead]

/-- A text that the analyzer refuses decides how making the file ready ends. -/
theorem ready_of_refuses
    {path : Path} {bridge : Bridge}
    (coherent :
      (bridge.registry.find (setting.normalise path)).Coherent
        (setting.analyzer.findings (setting.normalise path)))
    (readable : CanBeRead setting (setting.normalise path) bridge) :
    let key := setting.normalise path
    let begun := textRead setting key (endOf (openRecord setting path) bridge)
    (begun.registry.find key).isValid = false →
      Refuses setting key text message calls (begun.registry.find key) begun.schedule →
        resultOf (ready setting path).run bridge = .error (.analysis key message) ∧
          Called key (calls + 1)
            (incomings setting key (.analysing key) (calls + 1) begun.schedule)
            begun (endOf (ready setting path).run bridge) := by
  intro key begun invalid refuses
  have registered :
      ((endOf (openRecord setting path) bridge).registry.get? key).isSome :=
    isSome_openRecord setting path bridge
  have coherentOpened := coherent_openRecord path coherent
  have readableOpened := (canBeRead_openRecord path bridge).2 readable
  rcases called_textRead setting registered with ⟨actions, called, -, -⟩
  rcases settle_of_canBeRead registered coherentOpened readableOpened with
    ⟨-, bound, enough, same⟩
  rcases
    settle_of_refuses called.registered (coherent_textRead registered coherentOpened) invalid
      enough refuses
    with ⟨settled, run, all⟩
  rcases ready_of_refused (same.trans run) with ⟨answered, lastIs⟩
  refine ⟨answered, ?_⟩
  rw [lastIs]
  exact all

/-- The work fails with a message of the analyzer only so. -/
theorem refuses_of_ready
    {path : Path} {bridge : Bridge}
    (coherent :
      (bridge.registry.find (setting.normalise path)).Coherent
        (setting.analyzer.findings (setting.normalise path))) :
    let key := setting.normalise path
    let begun := textRead setting key (endOf (openRecord setting path) bridge)
    resultOf (ready setting path).run bridge = .error (.analysis key message) →
      CanBeRead setting key bridge ∧ (begun.registry.find key).isValid = false ∧
        ∃ calls text,
          Refuses setting key text message calls (begun.registry.find key)
            begun.schedule := by
  intro key begun failed
  have registered :
      ((endOf (openRecord setting path) bridge).registry.get? key).isSome :=
    isSome_openRecord setting path bridge
  have coherentOpened := coherent_openRecord path coherent
  have failedLoop := settle_of_ready_refused failed
  have readable := canBeRead_of_settle registered coherentOpened failedLoop
  rcases called_textRead setting registered with ⟨actions, called, -, -⟩
  rcases settle_of_canBeRead registered coherentOpened readable with
    ⟨known, bound, enough, same⟩
  exact ⟨(canBeRead_openRecord path bridge).1 readable,
    refuses_of_settle called.registered (coherent_textRead registered coherentOpened) known
      enough ((resultOf_of_run same).symm.trans failedLoop)⟩

/-- A text that is known and refused ends the work with the first call. -/
theorem ready_of_held
    (setting : Setting) (path : Path) (bridge : Bridge) (text message : String)
    (coherent :
      (bridge.registry.find (setting.normalise path)).Coherent
        (setting.analyzer.findings (setting.normalise path)))
    (invalid : (bridge.registry.find (setting.normalise path)).isValid = false)
    (held : (bridge.registry.find (setting.normalise path)).source? = some text)
    (refused : setting.analyzer.analyse (setting.normalise path) text = .error message) :
    let key := setting.normalise path
    let opened := endOf (openRecord setting path) bridge
    textRead setting key opened = opened ∧
      resultOf (ready setting path).run bridge = .error (.analysis key message) ∧
        (endOf (ready setting path).run bridge).registry.find key =
          (incoming setting key (.analysing key) bridge.schedule).foldl Record.act
            (bridge.registry.find key) := by
  intro key opened
  have found : opened.registry.find key = bridge.registry.find key := find_openRecord _ _ _
  have begun : textRead setting key opened = opened := by
    apply textRead_of_known
    rw [found, held]
    rfl
  have readable : CanBeRead setting key bridge := .inl (by rw [held]; rfl)
  have refuses :
      Refuses setting key text message 0 (opened.registry.find key) opened.schedule := by
    rw [found]
    exact .failed held refused
  rw [← found] at invalid
  rw [← begun] at invalid refuses
  rcases ready_of_refuses coherent readable invalid refuses with ⟨failed, called⟩
  have record := called.record
  rw [incomings_one, begun, found] at record
  exact ⟨begun, failed, record⟩

/--
Making a file ready fails with a message of the analyzer exactly when its text
can be read and the analyzer refuses a text after some calls.  All that came in
during the calls is there then.  So the text that was refused is the one that is
there, unless the record was altered during the last call: then a text that is
gone has decided.
-/
theorem refused_iff
    (setting : Setting) (path : Path) (bridge : Bridge) (message : String)
    (coherent :
      (bridge.registry.find (setting.normalise path)).Coherent
        (setting.analyzer.findings (setting.normalise path))) :
    let key := setting.normalise path
    let begun := textRead setting key (endOf (openRecord setting path) bridge)
    let outcome := resultOf (ready setting path).run bridge
    let last := endOf (ready setting path).run bridge
    (outcome = .error (.analysis key message) ↔
      CanBeRead setting key bridge ∧ (begun.registry.find key).isValid = false ∧
        ∃ calls text,
          Refuses setting key text message calls (begun.registry.find key)
            begun.schedule) ∧
      ∀ calls text,
        outcome = .error (.analysis key message) →
        Refuses setting key text message calls (begun.registry.find key) begun.schedule →
          let before :=
            (incomings setting key (.analysing key) calls begun.schedule).foldl Record.act
              (begun.registry.find key)
          let late := incomingAfter setting key (.analysing key) calls begun.schedule
          setting.analyzer.analyse key text = .error message ∧
            before.source? = some text ∧
            last.registry.find key = late.foldl Record.act before ∧
            last.registry.analyses = bridge.registry.analyses + (calls + 1) ∧
            (before.alterations late = 0 →
              (last.registry.find key).source? = some text) := by
  intro key begun outcome last
  refine ⟨⟨refuses_of_ready coherent, ?_⟩, ?_⟩
  · rintro ⟨readable, invalid, calls, text, refuses⟩
    exact (ready_of_refuses coherent readable invalid refuses).1
  · intro calls text failed refuses before late
    rcases refuses_of_ready coherent failed with ⟨readable, invalid, -⟩
    rcases ready_of_refuses coherent readable invalid refuses with ⟨-, called⟩
    have record : last.registry.find key = late.foldl Record.act before := by
      rw [called.record, incomings_succ, List.foldl_append]
    have registered :
        ((endOf (openRecord setting path) bridge).registry.get? key).isSome :=
      isSome_openRecord setting path bridge
    rcases called_textRead setting registered with ⟨actions, read, -, -⟩
    refine ⟨refuses.refused, refuses.held, record, ?_, ?_⟩
    · rw [called.analyses]
      exact congrArg (· + (calls + 1)) (read.analyses.trans (analyses_openRecord path bridge))
    · intro unaltered
      rw [record, Record.source?_foldl_of_unaltered unaltered]
      exact refuses.held

/-! ## A text that is refused -/

/-- Fails on one text and finds nothing in any other. -/
def pickyAnalyzer (refused : String) : Analyzer where
  analyse _ text :=
    if text = refused then .error "refused" else .ok ⟨true, [], [], [], false⟩
  resolve _ := none

theorem find_overtakenBridge :
    overtakenBridge.registry.find ⟨"/a.es"⟩ = (Record.fresh ⟨"/a.es"⟩).act (.feed "a") := by
  simp [overtakenBridge, Registry.find, Registry.get?]

theorem coherent_overtakenBridge (analyzer : Analyzer) :
    (overtakenBridge.registry.find ⟨"/a.es"⟩).Coherent (analyzer.findings ⟨"/a.es"⟩) := by
  rw [find_overtakenBridge]
  exact (Record.coherent_fresh _ _).act (Record.timely_of_text rfl _)

/-- A bridge that holds a text, where nothing comes in. -/
def heldBridge : Bridge :=
  { overtakenBridge with schedule := [] }

theorem invalid_overtakenBridge :
    (overtakenBridge.registry.find ⟨"/a.es"⟩).isValid = false := by
  rw [find_overtakenBridge]
  rfl

theorem refused_iff_held :
    let setting := plainSetting (pickyAnalyzer "a")
    let last := endOf (ready setting ⟨"/a.es"⟩).run heldBridge
    (heldBridge.registry.find ⟨"/a.es"⟩).Coherent (setting.analyzer.findings ⟨"/a.es"⟩) ∧
      resultOf (ready setting ⟨"/a.es"⟩).run heldBridge =
        .error (.analysis ⟨"/a.es"⟩ "refused") ∧
      (last.registry.find ⟨"/a.es"⟩).source? = some "a" := by
  intro setting last
  have key : setting.normalise ⟨"/a.es"⟩ = ⟨"/a.es"⟩ := by cbv
  have coherent := coherent_overtakenBridge setting.analyzer
  have held : (heldBridge.registry.find ⟨"/a.es"⟩).source? = some "a" := by
    rw [show heldBridge.registry = overtakenBridge.registry from rfl, find_overtakenBridge]
    rfl
  have only := refused_iff setting ⟨"/a.es"⟩ heldBridge "refused"
  have failed := ready_of_held setting ⟨"/a.es"⟩ heldBridge "a" "refused"
  simp only [key] at only failed
  rcases failed coherent invalid_overtakenBridge held rfl with ⟨begun, outcome, -⟩
  have refuses :
      Refuses setting ⟨"/a.es"⟩ "a" "refused" 0
        ((endOf (openRecord setting ⟨"/a.es"⟩) heldBridge).registry.find ⟨"/a.es"⟩)
        heldBridge.schedule := by
    rw [find_openRecord]
    exact .failed held rfl
  rw [begun] at only
  rcases (only coherent).2 0 "a" outcome refuses with ⟨-, -, -, -, stays⟩
  exact ⟨coherent, outcome, stays rfl⟩

/--
The analyzer fails on "a" while "b" comes in, in which it would find something:
the failure is reported, although the text it is about is gone.
-/
theorem refused_by_overtaken_text :
    let setting := plainSetting (pickyAnalyzer "a")
    let last := endOf (ready setting ⟨"/a.es"⟩).run overtakenBridge
    resultOf (ready setting ⟨"/a.es"⟩).run overtakenBridge =
        .error (.analysis ⟨"/a.es"⟩ "refused") ∧
      (last.registry.find ⟨"/a.es"⟩).source? = some "b" ∧
      setting.analyzer.analyse ⟨"/a.es"⟩ "b" = .ok ⟨true, [], [], [], false⟩ := by
  intro setting last
  have key : setting.normalise ⟨"/a.es"⟩ = ⟨"/a.es"⟩ := by cbv
  have coherent := coherent_overtakenBridge setting.analyzer
  have held : (overtakenBridge.registry.find ⟨"/a.es"⟩).source? = some "a" := by
    rw [find_overtakenBridge]
    rfl
  have failed := ready_of_held setting ⟨"/a.es"⟩ overtakenBridge "a" "refused"
  simp only [key] at failed
  rcases failed coherent invalid_overtakenBridge held rfl with ⟨-, outcome, record⟩
  have comes :
      incoming setting ⟨"/a.es"⟩ (.analysing ⟨"/a.es"⟩) overtakenBridge.schedule =
        [.feed "b"] := by
    have here : setting.normalise ⟨"/a.es"⟩ = ⟨"/a.es"⟩ := key
    simp [incoming, actionsOn, arriving, nextAt?, overtakenBridge, here, Feed.action]
  have different : Digest.of "a" ≠ Digest.of "b" := by decide +kernel
  refine ⟨outcome, ?_, rfl⟩
  have another :
      ∀ other, (overtakenBridge.registry.find ⟨"/a.es"⟩).source? = some other →
        Digest.of other = Digest.of "b" → other = "b" := by
    intro other source same
    obtain rfl : "a" = other := Option.some.inj (held.symm.trans source)
    exact absurd same different
  have brings : (Record.Action.feed "b").text? = some "b" := rfl
  have now := Record.source?_act_of_text coherent.digest brings another
  rw [record, comes, List.foldl_cons, List.foldl_nil]
  exact now

end ModuleBridge.Bridge
