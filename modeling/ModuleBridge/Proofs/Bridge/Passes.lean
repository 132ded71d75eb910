import ModuleBridge.Bridge.Ready
import ModuleBridge.Proofs.Bridge.Arrivals
import ModuleBridge.Proofs.Record.Alterations

/-!
# Passes of the loop that makes a file ready

A pass calls the analyzer once and lets in what is scheduled meanwhile.  Its
answer fails, or it is stored and the record is valid, or it is dropped because
a text came in that altered the record, and then the schedule is shorter.
-/

namespace ModuleBridge

/-- Analyses are what the analyzer finds; artifacts may come from anywhere. -/
def Analyzer.findings (analyzer : Analyzer) (key : Path) : Record.Provenance where
  made text analysis sections :=
    analyzer.analyse key text = .ok analysis ∧ sections = analysis.sections text
  built _ _ := True

namespace Bridge

variable {setting : Setting} {key : Path}

/-! ## What comes in -/

/-- The actions on the record of a file that come in at a moment. -/
def incoming (setting : Setting) (key : Path) (moment : Moment) (schedule : List Interruption) :
    List Record.Action :=
  actionsOn setting key (arriving moment schedule)

/-- The actions that come in when work waits for a moment several times. -/
def incomings (setting : Setting) (key : Path) (moment : Moment) :
    Nat → List Interruption → List Record.Action
  | 0, _ => []
  | count + 1, schedule =>
    incoming setting key moment schedule ++
      incomings setting key moment count (left moment schedule)

theorem isSome_text_of_incoming
    {moment : Moment} {schedule : List Interruption} {action : Record.Action}
    (arrives : action ∈ incoming setting key moment schedule) :
    action.text?.isSome := by
  rcases List.mem_map.1 arrives with ⟨⟨path, text, observer?⟩, -, rfl⟩
  cases observer? <;> rfl

theorem length_left_of_incoming
    {moment : Moment} {schedule : List Interruption}
    (arrived : incoming setting key moment schedule ≠ []) :
    (left moment schedule).length < schedule.length := by
  apply length_left_lt
  intro nothing
  rw [incoming, nothing] at arrived
  exact arrived rfl

/-! ## One call of the analyzer -/

/-- The call of the analyzer, and the wait for its answer. -/
def callAnalyzer (setting : Setting) (key : Path) (text : String) (revision : Nat) :
    Work Unit := do
  changeRegistry fun registry => { registry with analyses := registry.analyses + 1 }
  debug "analyze"
    (key.display ++ " (rev " ++ toString revision ++ ", " ++ (Digest.of text).short ++ ")")
  note (.analyse key)
  wait setting (.analysing key)

theorem run_analyse (text : String) (revision : Nat) :
    (analyse setting key text revision).run =
      callAnalyzer setting key text revision >>= fun _ =>
        match setting.analyzer.analyse key text with
        | .error message => pure (.error (.analysis key message))
        | .ok analysis => Except.ok <$> keepAnalysis setting key revision text analysis := by
  rw [analyse]
  cases setting.analyzer.analyse key text <;> rfl

/-- What a number of calls of the analyzer leaves, when some actions came in meanwhile. -/
structure Called
    (key : Path) (calls : Nat) (actions : List Record.Action)
    (before after : Bridge) : Prop where
  journal : after.journal = before.journal ++ List.replicate calls (.analyse key)
  analyses : after.registry.analyses = before.registry.analyses + calls
  registered : (after.registry.get? key).isSome
  record : after.registry.find key = actions.foldl Record.act (before.registry.find key)

theorem Called.trans
    {first second : Nat} {earlier later : List Record.Action} {before middle after : Bridge}
    (begun : Called key first earlier before middle)
    (ended : Called key second later middle after) :
    Called key (first + second) (earlier ++ later) before after where
  journal := by
    rw [ended.journal, begun.journal, List.append_assoc, List.replicate_append_replicate]
  analyses := by
    rw [ended.analyses, begun.analyses, Nat.add_assoc]
  registered := ended.registered
  record := by
    rw [ended.record, begun.record, List.foldl_append]

theorem called_wait
    (setting : Setting) {bridge : Bridge}
    (registered : (bridge.registry.get? key).isSome) (moment : Moment) :
    Called key 0 (incoming setting key moment bridge.schedule) bridge
        (endOf (wait setting moment) bridge) ∧
      (endOf (wait setting moment) bridge).schedule = left moment bridge.schedule := by
  rcases endOf_wait setting moment bridge with ⟨console, ended⟩
  rw [ended]
  refine ⟨⟨?_, ?_, ?_, ?_⟩, rfl⟩
  · exact (List.append_nil _).symm
  · exact analyses_takeAll _ _
  · exact isSome_takeAll _ registered
  · exact find_takeAll _ _ key

theorem called_callAnalyzer
    {bridge : Bridge} (registered : (bridge.registry.get? key).isSome)
    (text : String) (revision : Nat) :
    Called key 1 (incoming setting key (.analysing key) bridge.schedule) bridge
        (endOf (callAnalyzer setting key text revision) bridge) ∧
      (endOf (callAnalyzer setting key text revision) bridge).schedule =
        left (.analysing key) bridge.schedule := by
  let asked : Bridge :=
    { bridge with
      registry := { bridge.registry with analyses := bridge.registry.analyses + 1 }
      console := bridge.console.debug "analyze"
        (key.display ++ " (rev " ++ toString revision ++ ", " ++ (Digest.of text).short ++ ")")
      journal := bridge.journal ++ [.analyse key] }
  have stillRegistered : (asked.registry.get? key).isSome := registered
  have waited := called_wait setting stillRegistered (.analysing key)
  have asking : Called key 1 [] bridge asked := ⟨rfl, rfl, registered, rfl⟩
  exact ⟨asking.trans waited.1, waited.2⟩

/-- An answer of the analyzer is stored or dropped. -/
theorem called_keepAnalysis
    {bridge : Bridge} (registered : (bridge.registry.get? key).isSome)
    (revision : Nat) (text : String) (analysis : Analysis) :
    Called key 0 [.storeAnalysis revision analysis (analysis.sections text)] bridge
        (endOf (keepAnalysis setting key revision text analysis) bridge) ∧
      (endOf (keepAnalysis setting key revision text analysis) bridge).schedule =
        bridge.schedule ∧
      resultOf (keepAnalysis setting key revision text analysis) bridge =
        ((bridge.registry.find key).storeAnalysis revision analysis
          (analysis.sections text)).2 := by
  have known := Registry.isSome_put registered key
  have found := fun record => Registry.find_put_self registered record
  have journal := (List.append_nil bridge.journal).symm
  simp only [keepAnalysis, endOf_bind, resultOf_bind, endOf_updateRecord, resultOf_updateRecord,
    resultOf_ite, endOf_ite, endOf_pure, resultOf_pure]
  split
  · exact ⟨⟨journal, rfl, known _, found _⟩, rfl, rfl⟩
  · exact ⟨⟨journal, rfl, known _, found _⟩, rfl, rfl⟩

/-! ## One pass -/

theorem settle_of_valid
    {bridge : Bridge} (valid : (bridge.registry.find key).isValid = true)
    (bound : Nat) (readiness : Readiness) :
    (settle setting key bound readiness).run.run bridge = (.ok readiness, bridge) := by
  rw [settle, run_lift_bind]
  change (ite _ _ _ : Attempt Readiness).run.run bridge = _
  rw [if_pos valid]
  rfl

theorem settle_of_nothing
    {bridge : Bridge}
    (invalid : (bridge.registry.find key).isValid = false)
    (unknown : (bridge.registry.find key).source? = none)
    (bound : Nat) (readiness : Readiness) :
    (settle setting key (bound + 1) readiness).run.run bridge =
      (loadSource setting key >>= fun _ => settle setting key bound readiness).run.run
        bridge := by
  have nothing : (bridge.registry.find key).pending? = none := by
    rw [Record.pending?, unknown]
    rfl
  rw [settle, run_lift_bind]
  change (ite _ _ _ : Attempt Readiness).run.run bridge = _
  rw [if_neg (by rw [invalid]; exact Bool.false_ne_true), nothing]

theorem settle_of_pending
    {bridge : Bridge} {text : String} {revision : Nat}
    (invalid : (bridge.registry.find key).isValid = false)
    (pending : (bridge.registry.find key).pending? = some (text, revision))
    (bound : Nat) (readiness : Readiness) :
    (settle setting key (bound + 1) readiness).run.run bridge =
      (analyse setting key text revision >>= fun stored =>
        settle setting key bound (if stored then .analysed else readiness)).run.run
        bridge := by
  rw [settle, run_lift_bind]
  change (ite _ _ _ : Attempt Readiness).run.run bridge = _
  rw [if_neg (by rw [invalid]; exact Bool.false_ne_true), pending]

/--
What a pass of the loop does with a text: the analyzer fails, or its answer is
stored, or it is dropped because another text came in.
-/
inductive Pass (setting : Setting) (key : Path) (bridge : Bridge) (text : String) : Prop where
  | failed (message : String) (last : Bridge)
      (refused : setting.analyzer.analyse key text = .error message)
      (called :
        Called key 1 (incoming setting key (.analysing key) bridge.schedule) bridge last)
      (ends : ∀ bound readiness,
        (settle setting key (bound + 1) readiness).run.run bridge =
          (.error (.analysis key message), last))
  | stored (next : Bridge) (action : Record.Action)
      (found : ∃ analysis, setting.analyzer.analyse key text = .ok analysis)
      (unaltered :
        (bridge.registry.find key).alterations
          (incoming setting key (.analysing key) bridge.schedule) = 0)
      (silent : action.text? = none)
      (called :
        Called key 1 (incoming setting key (.analysing key) bridge.schedule ++ [action])
          bridge next)
      (valid : (next.registry.find key).isValid = true)
      (coherent : (next.registry.find key).Coherent (setting.analyzer.findings key))
      (continues : ∀ bound readiness,
        (settle setting key (bound + 1) readiness).run.run bridge =
          (settle setting key bound .analysed).run.run next)
  | dropped (next : Bridge) (other : String)
      (found : ∃ analysis, setting.analyzer.analyse key text = .ok analysis)
      (called :
        Called key 1 (incoming setting key (.analysing key) bridge.schedule) bridge next)
      (coherent : (next.registry.find key).Coherent (setting.analyzer.findings key))
      (held : (next.registry.find key).source? = some other)
      (invalid : (next.registry.find key).isValid = false)
      (schedule : next.schedule = left (.analysing key) bridge.schedule)
      (altered :
        0 < (bridge.registry.find key).alterations
          (incoming setting key (.analysing key) bridge.schedule))
      (continues : ∀ bound readiness,
        (settle setting key (bound + 1) readiness).run.run bridge =
          (settle setting key bound readiness).run.run next)

section

variable {bridge : Bridge} {text : String}

/-- A pass for a text that the analyzer refuses. -/
theorem pass_of_refused
    (registered : (bridge.registry.get? key).isSome)
    (held : (bridge.registry.find key).source? = some text)
    (invalid : (bridge.registry.find key).isValid = false)
    {message : String} (refused : setting.analyzer.analyse key text = .error message) :
    Pass setting key bridge text := by
  let revision := (bridge.registry.find key).revision
  refine .failed message _ refused (called_callAnalyzer registered text revision).1 ?_
  intro bound readiness
  rw [settle_of_pending invalid (Record.pending?_of_source? held), ExceptT.run_bind, run_analyse,
    refused]
  rfl

/-- The record after an answer to its text and what came in before, and whether it is stored. -/
def told
    (setting : Setting) (key : Path) (text : String) (analysis : Analysis) (bridge : Bridge) :
    Record × Bool :=
  ((incoming setting key (.analysing key) bridge.schedule).foldl Record.act
    (bridge.registry.find key)).storeAnalysis
      (bridge.registry.find key).revision analysis (analysis.sections text)

/-- A pass in which the analyzer answers leaves the record as the answer has it. -/
theorem called_told
    (registered : (bridge.registry.get? key).isSome)
    (held : (bridge.registry.find key).source? = some text)
    (invalid : (bridge.registry.find key).isValid = false)
    {analysis : Analysis} (found : setting.analyzer.analyse key text = .ok analysis) :
    ∃ next,
      Called key 1
          (incoming setting key (.analysing key) bridge.schedule ++
            [.storeAnalysis (bridge.registry.find key).revision analysis
              (analysis.sections text)])
          bridge next ∧
        next.schedule = left (.analysing key) bridge.schedule ∧
        next.registry.find key = (told setting key text analysis bridge).1 ∧
        ∀ bound readiness,
          (settle setting key (bound + 1) readiness).run.run bridge =
            (settle setting key bound
              (if (told setting key text analysis bridge).2 then .analysed
                else readiness)).run.run next := by
  let revision := (bridge.registry.find key).revision
  let waited := endOf (callAnalyzer setting key text revision) bridge
  let late := incoming setting key (.analysing key) bridge.schedule
  obtain ⟨called, schedule⟩ :
      Called key 1 late bridge waited ∧
        waited.schedule = left (.analysing key) bridge.schedule :=
    called_callAnalyzer registered text revision
  obtain ⟨kept, sameSchedule, stored⟩ :
      Called key 0 [.storeAnalysis revision analysis (analysis.sections text)] waited
          (endOf (keepAnalysis setting key revision text analysis) waited) ∧ _ ∧ _ :=
    called_keepAnalysis called.registered revision text analysis
  rw [called.record] at stored
  refine ⟨_, called.trans kept, sameSchedule.trans schedule, ?_, ?_⟩
  · rw [kept.record, called.record]
    rfl
  · intro bound readiness
    rw [settle_of_pending invalid (Record.pending?_of_source? held), ExceptT.run_bind,
      run_analyse, found, told, ← stored]
    rfl

/-- A pass for the text of a coherent record that is not valid. -/
theorem pass
    (registered : (bridge.registry.get? key).isSome)
    (coherent : (bridge.registry.find key).Coherent (setting.analyzer.findings key))
    (held : (bridge.registry.find key).source? = some text)
    (invalid : (bridge.registry.find key).isValid = false) :
    Pass setting key bridge text := by
  let late := incoming setting key (.analysing key) bridge.schedule
  have arrive : ∀ action ∈ late, action.text?.isSome :=
    fun action arrives => isSome_text_of_incoming arrives
  have lateCoherent := Record.coherent_foldl coherent arrive
  have known : (bridge.registry.find key).source?.isSome := by
    rw [held]
    rfl
  cases found : setting.analyzer.analyse key text with
  | error message => exact pass_of_refused registered held invalid found
  | ok analysis =>
      rcases called_told registered held invalid found with
        ⟨next, called, schedule, record, continues⟩
      by_cases unaltered : (bridge.registry.find key).alterations late = 0
      · have accepted : (told setting key text analysis bridge).2 = true :=
          Record.storeAnalysis_of_unaltered coherent known arrive unaltered analysis _
        have heldStill :
            (late.foldl Record.act (bridge.registry.find key)).source? = some text := by
          rw [Record.source?_foldl_of_unaltered unaltered]
          exact held
        refine .stored next _ ⟨analysis, found⟩ unaltered rfl called ?_ ?_ ?_
        · rw [record]
          exact Record.isValid_storeAnalysis accepted
        · rw [record]
          have timely :
              (late.foldl Record.act (bridge.registry.find key)).Timely
                (setting.analyzer.findings key)
                (.storeAnalysis (bridge.registry.find key).revision analysis
                  (analysis.sections text)) :=
            fun _ => ⟨text, heldStill, found, rfl⟩
          exact lateCoherent.act timely
        · intro bound readiness
          rw [continues, accepted]
          rfl
      · have dropped : told setting key text analysis bridge =
            (late.foldl Record.act (bridge.registry.find key), false) :=
          Record.storeAnalysis_of_altered coherent arrive unaltered analysis _
        rw [dropped] at record
        rcases Option.isSome_iff_exists.1 (Record.isSome_source?_foldl known late) with
          ⟨other, heldNow⟩
        refine
          .dropped next other ⟨analysis, found⟩
            ⟨called.journal, called.analyses, called.registered, record⟩ ?_ ?_ ?_
            schedule (Nat.pos_of_ne_zero unaltered) ?_
        · rw [record]
          exact lateCoherent
        · rw [record]
          exact heldNow
        · rw [record]
          exact Record.isValid_foldl_of_text arrive invalid
        · intro bound readiness
          rw [continues, dropped]
          rfl

end

theorem length_left_of_altered
    {record : Record} {moment : Moment} {schedule : List Interruption}
    (altered : 0 < record.alterations (incoming setting key moment schedule)) :
    (left moment schedule).length < schedule.length := by
  apply length_left_of_incoming
  intro nothing
  rw [nothing] at altered
  exact absurd altered (Nat.lt_irrefl 0)

end Bridge

end ModuleBridge
