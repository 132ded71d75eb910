import ModuleBridge.Proofs.Bridge.Settling

/-!
# Texts that are handed over and texts that are read

Texts come into a record in two ways: they are handed over by whoever has seen
an edit, or they are read from disk where none is known.  Here calls for one file
follow each other, and further texts come in wherever these wait.  The record
holds the text that came in last at every instant.  Whether none is known is
asked before the disk is read, so a text that is handed over during the reading
stands behind the one on disk.
-/

namespace ModuleBridge

/-- A text that comes into a record. -/
inductive Intake where
  | handed (feed : Feed)
  | read (text : String)
  deriving DecidableEq, Repr

namespace Intake

/-- What happens to the record. -/
def action : Intake → Record.Action
  | handed feed => feed.action
  | read text => .feed text

/-- The text that comes in. -/
def text : Intake → String
  | handed feed => feed.text
  | read text => text

/-- What was handed over. -/
def feed? : Intake → Option Feed
  | handed feed => some feed
  | read _ => none

theorem text?_action (intake : Intake) : intake.action.text? = some intake.text := by
  cases intake with
  | handed feed =>
      rcases feed with ⟨path, text, observer?⟩
      cases observer? <;> rfl
  | read text => rfl

/-- The text that was handed over last: what came in of late is another text, read from disk. -/
def Overwritten (taken : List Intake) (feed : Feed) : Prop :=
  ∃ earlier text, taken = earlier ++ [read text] ∧ text ≠ feed.text

theorem last_eq_handed_iff
    {taken : List Intake} {feed : Feed}
    (last : (taken.filterMap feed?).getLast? = some feed) (before? : Option String) :
    (taken.getLast?.map text).or before? = some feed.text ↔ ¬Overwritten taken feed := by
  induction taken using List.reverseRecOn with
  | nil => cases last
  | append_singleton earlier intake _ =>
      rw [List.getLast?_concat]
      change some intake.text = some feed.text ↔ _
      cases intake with
      | handed other =>
          rw [List.filterMap_append, show [handed other].filterMap feed? = [other] from rfl,
            List.getLast?_concat] at last
          obtain rfl : other = feed := Option.some.inj last
          refine ⟨?_, fun _ => rfl⟩
          rintro - ⟨before, text, same, -⟩
          cases (List.append_inj' same rfl).2
      | read text =>
          constructor
          · rintro sameText ⟨before, other, same, different⟩
            cases (List.append_inj' same rfl).2
            exact different (Option.some.inj sameText)
          · intro kept
            by_cases sameText : text = feed.text
            · exact congrArg some sameText
            · exact absurd ⟨earlier, text, rfl, sameText⟩ kept

/-- Where a list of intakes has a single text that was read, it falls apart in one way. -/
theorem split_at_read
    {first : List Feed} {text other : String} {second earlier later : List Intake}
    (handedLater : ∀ intake ∈ second, ∃ feed, intake = handed feed)
    (same : first.map handed ++ read text :: second = earlier ++ read other :: later) :
    earlier = first.map handed ∧ other = text ∧ later = second := by
  induction first generalizing earlier with
  | nil =>
      cases earlier with
      | nil =>
          rcases List.cons.inj same with ⟨sameText, rest⟩
          exact ⟨rfl, (read.inj sameText).symm, rest.symm⟩
      | cons intake earlier =>
          rcases List.cons.inj same with ⟨-, rest⟩
          have present : read other ∈ second := by
            rw [rest]
            exact List.mem_append_right _ List.mem_cons_self
          rcases handedLater _ present with ⟨feed, impossible⟩
          cases impossible
  | cons feed first inductionHypothesis =>
      cases earlier with
      | nil => cases (List.cons.inj same).1
      | cons intake earlier =>
          rcases List.cons.inj same with ⟨rfl, rest⟩
          rcases inductionHypothesis rest with ⟨rfl, sameText, sameLater⟩
          exact ⟨rfl, sameText, sameLater⟩

end Intake

/-- One thing that happens to a record: a text comes in, or something else happens. -/
inductive Deed where
  | took (intake : Intake)
  | other (action : Record.Action) (silent : action.text? = none)

namespace Deed

def action : Deed → Record.Action
  | took intake => intake.action
  | other action _ => action

def intake? : Deed → Option Intake
  | took intake => some intake
  | other _ _ => none

end Deed

namespace Record

/-- A record takes texts in, one after another, and nothing else brings it a text. -/
def Takes (taken : List Intake) (before after : Record) : Prop :=
  ∃ deeds : List Deed,
    after = (deeds.map Deed.action).foldl act before ∧ deeds.filterMap Deed.intake? = taken

namespace Takes

variable {first second : List Intake} {before middle after : Record}

theorem refl (record : Record) : record.Takes [] record :=
  ⟨[], rfl, rfl⟩

theorem trans (begun : before.Takes first middle) (ended : middle.Takes second after) :
    before.Takes (first ++ second) after := by
  rcases begun with ⟨earlier, rfl, rfl⟩
  rcases ended with ⟨later, rfl, rfl⟩
  refine ⟨earlier ++ later, ?_, List.filterMap_append⟩
  rw [List.map_append, List.foldl_append]

theorem intakes (taken : List Intake) (record : Record) :
    record.Takes taken ((taken.map Intake.action).foldl act record) := by
  refine ⟨taken.map .took, ?_, ?_⟩
  · rw [List.map_map]
    rfl
  · induction taken with
    | nil => rfl
    | cons intake rest inductionHypothesis =>
        exact congrArg (intake :: ·) inductionHypothesis

theorem others
    {actions : List Action} (silent : ∀ action ∈ actions, action.text? = none)
    (record : Record) :
    record.Takes [] (actions.foldl act record) := by
  induction actions generalizing record with
  | nil => exact refl record
  | cons action rest inductionHypothesis =>
      have first : record.Takes [] (record.act action) :=
        ⟨[.other action (silent action List.mem_cons_self)], rfl, rfl⟩
      have later : ∀ other ∈ rest, other.text? = none :=
        fun other member => silent other (List.mem_cons_of_mem action member)
      exact first.trans (inductionHypothesis later _)

end Takes

/-- The text that came in last is the one there is. -/
theorem source?_deeds
    {texts : Set String} {record : Record} {deeds : List Deed}
    (distinct : Set.InjOn Digest.of texts)
    (digested : record.Digested)
    (held : ∀ text, record.source? = some text → text ∈ texts)
    (taken : ∀ intake ∈ deeds.filterMap Deed.intake?, intake.text ∈ texts) :
    ((deeds.map Deed.action).foldl act record).Digested ∧
      ((deeds.map Deed.action).foldl act record).source? =
        ((deeds.filterMap Deed.intake?).getLast?.map Intake.text).or record.source? := by
  induction deeds using List.reverseRecOn with
  | nil => exact ⟨digested, rfl⟩
  | append_singleton deeds deed inductionHypothesis =>
      rw [List.filterMap_append] at taken
      have takenBefore : ∀ intake ∈ deeds.filterMap Deed.intake?, intake.text ∈ texts :=
        fun intake came => taken intake (List.mem_append_left _ came)
      rcases inductionHypothesis takenBefore with ⟨digestedBefore, source⟩
      rw [List.map_append, List.foldl_append, List.filterMap_append]
      refine ⟨digested_act digestedBefore _, ?_⟩
      cases deed with
      | other action silent =>
          have same := source?_act_of_no_text silent ((deeds.map Deed.action).foldl act record)
          rw [List.filterMap_cons_none rfl, List.filterMap_nil, List.append_nil]
          exact same.trans source
      | took intake =>
          have now :
              (((deeds.map Deed.action).foldl act record).act intake.action).source? =
                some intake.text := by
            apply source?_act_of_text digestedBefore intake.text?_action
            intro other heldBefore same
            refine distinct ?_ ?_ same
            · rw [source, Option.or_eq_some_iff, Option.map_eq_some_iff] at heldBefore
              rcases heldBefore with ⟨earlier, last, rfl⟩ | ⟨-, kept⟩
              · exact takenBefore earlier (List.mem_of_getLast? last)
              · exact held other kept
            · exact taken intake (List.mem_append_right _ List.mem_cons_self)
          rw [show [Deed.took intake].filterMap Deed.intake? = [intake] from rfl,
            List.getLast?_concat]
          exact now

/-- A record that knew a text, or takes one in, knows a text. -/
theorem Takes.isSome_source?
    {taken : List Intake} {before after : Record}
    (takes : before.Takes taken after)
    (digested : before.Digested)
    (known : before.source?.isSome ∨ taken ≠ []) :
    after.source?.isSome := by
  rcases takes with ⟨deeds, rfl, rfl⟩
  induction deeds generalizing before with
  | nil =>
      rcases known with held | came
      · exact held
      · exact absurd rfl came
  | cons deed rest inductionHypothesis =>
      have digestedNext := Record.digested_act digested deed.action
      cases deed with
      | other action silent =>
          refine inductionHypothesis digestedNext ?_
          rcases known with held | came
          · exact .inl (isSome_source?_act held action)
          · exact .inr came
      | took intake =>
          exact inductionHypothesis digestedNext
            (.inl (isSome_source?_act_of_text digested intake.text?_action))

end Record

namespace Bridge

variable {setting : Setting} {key : Path}

/-! ## What is handed over while work waits -/

/-- The texts for a file that are handed over at a moment. -/
def heard (setting : Setting) (key : Path) (moment : Moment) (schedule : List Interruption) :
    List Feed :=
  (arriving moment schedule).filter fun feed => setting.normalise feed.path = key

/-- The texts for a file that are handed over when work waits for a moment several times. -/
def heards (setting : Setting) (key : Path) (moment : Moment) :
    Nat → List Interruption → List Feed
  | 0, _ => []
  | count + 1, schedule =>
    heard setting key moment schedule ++
      heards setting key moment count (left moment schedule)

theorem takes_heard
    (moment : Moment) (schedule : List Interruption) (record : Record) :
    record.Takes ((heard setting key moment schedule).map .handed)
      ((incoming setting key moment schedule).foldl Record.act record) := by
  have taken :=
    Record.Takes.intakes ((heard setting key moment schedule).map .handed) record
  rw [List.map_map] at taken
  exact taken

/-! ## What comes in while a file is made ready -/

/-- The texts that come in before the first analysis. -/
def readIntakes (setting : Setting) (key : Path) (bridge : Bridge) : List Intake :=
  if (bridge.registry.find key).source?.isSome then
    []
  else
    (heard setting key (.reading key) bridge.schedule).map .handed ++
      match sourceOnDisk setting.disk key with
      | .ok text => [.read text]
      | .error _ => []

theorem takes_textRead
    (setting : Setting) {bridge : Bridge} (registered : (bridge.registry.get? key).isSome) :
    (bridge.registry.find key).Takes (readIntakes setting key bridge)
      ((textRead setting key bridge).registry.find key) := by
  rw [readIntakes, textRead]
  split
  · exact .refl _
  · rcases called_wait setting registered (.reading key) with ⟨called, -⟩
    have waited :
        (bridge.registry.find key).Takes
          ((heard setting key (.reading key) bridge.schedule).map .handed)
          ((endOf (wait setting (.reading key)) bridge).registry.find key) := by
      rw [called.record]
      exact takes_heard _ _ _
    refine waited.trans ?_
    change Record.Takes _ _ (((loadSource setting key).run.run bridge).2.registry.find key)
    rw [run_loadSource]
    cases sourceOnDisk setting.disk key with
    | error fault => exact .refl _
    | ok text =>
        change Record.Takes _ _ ((Registry.put _ key _).find key)
        rw [Registry.find_put_self called.registered]
        exact .intakes [.read text] _

/-- Calls of the analyzer for a file, and the texts that are handed over meanwhile. -/
def Hears (setting : Setting) (key : Path) (calls : Nat) (before after : Bridge) : Prop :=
  after.registry.analyses = before.registry.analyses + calls ∧
    (before.registry.find key).Takes
      ((heards setting key (.analysing key) calls before.schedule).map .handed)
      (after.registry.find key)

theorem hears_none (bridge : Bridge) : Hears setting key 0 bridge bridge :=
  ⟨rfl, .refl _⟩

/-- One call, what comes in meanwhile, and then further calls. -/
theorem hears_succ
    {calls : Nat} {before next after : Bridge}
    (called :
      Called key 1 (incoming setting key (.analysing key) before.schedule) before next)
    (schedule : next.schedule = left (.analysing key) before.schedule)
    (rest : Hears setting key calls next after) :
    Hears setting key (calls + 1) before after := by
  rcases rest with ⟨analyses, takes⟩
  constructor
  · rw [analyses, called.analyses, Nat.add_assoc, Nat.add_comm 1]
  · rw [schedule, called.record] at takes
    rw [heards, List.map_append]
    exact (takes_heard _ _ _).trans takes

/-- The last call: its answer is a failure, or it is kept. -/
theorem hears_one
    {actions : List Record.Action} {before after : Bridge}
    (silent : ∀ action ∈ actions, action.text? = none)
    (called :
      Called key 1 (incoming setting key (.analysing key) before.schedule ++ actions)
        before after) :
    Hears setting key 1 before after := by
  refine ⟨called.analyses, ?_⟩
  have heardFirst :
      (before.registry.find key).Takes
        ((heard setting key (.analysing key) before.schedule).map .handed)
        ((incoming setting key (.analysing key) before.schedule).foldl Record.act
          (before.registry.find key)) :=
    takes_heard _ _ _
  rw [called.record, List.foldl_append, heards, heards, List.append_nil]
  have all := heardFirst.trans (.others silent _)
  rwa [List.append_nil] at all

/-- Every text that comes in while the loop runs is handed over during a call. -/
theorem hears_settle
    {bound : Nat} {bridge : Bridge} {readiness : Readiness} {text : String}
    (registered : (bridge.registry.get? key).isSome)
    (coherent : (bridge.registry.find key).Coherent (setting.analyzer.findings key))
    (held : (bridge.registry.find key).source? = some text)
    (enough : bridge.schedule.length < bound) :
    ∃ calls,
      Hears setting key calls bridge
        (endOf (settle setting key bound readiness).run bridge) := by
  induction bound generalizing bridge text with
  | zero => exact absurd enough (Nat.not_lt_zero _)
  | succ bound inductionHypothesis =>
      rw [endOf]
      cases valid : (bridge.registry.find key).isValid with
      | true =>
          rw [settle_of_valid valid]
          exact ⟨0, hears_none bridge⟩
      | false =>
          cases pass registered coherent held valid with
          | failed message last refused called ends =>
              rw [ends]
              refine ⟨1, hears_one (List.forall_mem_nil _) ?_⟩
              rwa [List.append_nil]
          | stored next action found unaltered silent called validNow coherentNow continues =>
              rw [continues, settle_of_valid validNow]
              refine ⟨1, hears_one ?_ called⟩
              intro other member
              rwa [List.mem_singleton.1 member]
          | dropped next other found called coherentNow heldNow invalid schedule altered
              continues =>
              have shorter := length_left_of_altered altered
              have enoughLeft : next.schedule.length < bound := by
                rw [schedule]
                omega
              rcases inductionHypothesis called.registered coherentNow heldNow enoughLeft with
                ⟨calls, rest⟩
              rw [continues]
              exact ⟨calls + 1, hears_succ called schedule rest⟩

/-- That the file is followed brings no text. -/
theorem Hears.watched
    {calls : Nat} {before settled : Bridge}
    (registered : (settled.registry.get? key).isSome)
    (hears : Hears setting key calls before settled) :
    Hears setting key calls before (endOf (changeRecord key Record.markWatched) settled) := by
  refine ⟨hears.1, ?_⟩
  have found :
      (endOf (changeRecord key Record.markWatched) settled).registry.find key =
        [Record.Action.markWatched].foldl Record.act (settled.registry.find key) :=
    Registry.find_put_self registered _
  have silent : ∀ action ∈ [Record.Action.markWatched], action.text? = none := by
    intro action member
    rw [List.mem_singleton.1 member]
    rfl
  have all := hears.2.trans (.others silent _)
  rwa [List.append_nil, ← found] at all

/-- Once the text has been read, only texts come in that are handed over during a call. -/
theorem hears_ready
    (path : Path) {bridge : Bridge}
    (coherent :
      (bridge.registry.find (setting.normalise path)).Coherent
        (setting.analyzer.findings (setting.normalise path))) :
    let key := setting.normalise path
    let begun := textRead setting key (endOf (openRecord setting path) bridge)
    ∃ calls, Hears setting key calls begun (endOf (ready setting path).run bridge) := by
  intro key begun
  let opened := endOf (openRecord setting path) bridge
  have registered : (opened.registry.get? key).isSome :=
    isSome_openRecord setting path bridge
  have coherentOpened := coherent_openRecord path coherent
  rcases called_textRead setting registered with ⟨actions, called, -, -⟩
  have loop :
      ∃ calls,
        Hears setting key calls begun
          (endOf (settle setting key (bridge.schedule.length + 2) .cached).run opened) := by
    rw [endOf]
    cases begins .cached registered coherentOpened (Nat.le_refl _) with
    | unreadable fault unknown onDisk ends =>
        refine ⟨0, ?_⟩
        rw [show opened.schedule.length = bridge.schedule.length from rfl] at ends
        rw [ends]
        exact hears_none begun
    | known text passes readable held enough continues =>
        rw [show opened.schedule.length = bridge.schedule.length from rfl] at continues
        rw [continues]
        exact hears_settle called.registered (coherent_textRead registered coherentOpened)
          held enough
  rcases loop with ⟨calls, hears⟩
  rcases
    settled_textRead .cached registered coherentOpened
      (Nat.le_refl (bridge.schedule.length + 2))
    with ⟨_, ended⟩
  refine ⟨calls, ?_⟩
  rcases passes : (settle setting key (bridge.schedule.length + 2) .cached).run.run opened with
    ⟨fault | readiness, settled⟩
  · rw [endOf, passes] at hears
    rw [(ready_of_refused passes).2]
    exact hears
  · rw [endOf, passes] at hears
    rw [resultOf, endOf, passes] at ended
    rw [(ready_of_settled passes).2]
    exact hears.watched ended.registered

/-! ## One call after another -/

/-- A call for a file: it is made ready, or a text of it is handed over. -/
inductive Handling where
  | ready (path : Path)
  | hand (feed : Feed)
  deriving DecidableEq, Repr

/-- The file a call is for. -/
def Handling.path : Handling → Path
  | ready path => path
  | hand feed => feed.path

/-- A call with the surroundings in which it takes place. -/
structure Turn where
  setting : Setting
  handling : Handling

namespace Turn

/-- The bridge that a call leaves. -/
def run (turn : Turn) (bridge : Bridge) : Bridge :=
  match turn.handling with
  | .ready path => endOf (Bridge.ready turn.setting path).run bridge
  | .hand feed => endOf (receive turn.setting feed) bridge

/-- The bridge that calls leave one after another. -/
def runAll (turns : List Turn) (bridge : Bridge) : Bridge :=
  turns.foldl (fun bridge turn => turn.run bridge) bridge

/-- The texts that come in during a call. -/
def intakes (key : Path) (turn : Turn) (bridge : Bridge) : List Intake :=
  match turn.handling with
  | .ready path =>
    let opened := endOf (openRecord turn.setting path) bridge
    let begun := textRead turn.setting key opened
    let calls := (turn.run bridge).registry.analyses - bridge.registry.analyses
    readIntakes turn.setting key opened ++
      (heards turn.setting key (.analysing key) calls begun.schedule).map .handed
  | .hand feed => [.handed feed]

/-- The texts that come in during calls one after another. -/
def intakesAll (key : Path) : List Turn → Bridge → List Intake
  | [], _ => []
  | turn :: rest, bridge => turn.intakes key bridge ++ intakesAll key rest (turn.run bridge)

/-- A call reads a text where it finds none and there is one on disk. -/
inductive Brings (key : Path) (turn : Turn) (bridge : Bridge) : Prop where
  | handed
      (handed : ∀ intake ∈ turn.intakes key bridge, ∃ feed, intake = .handed feed)
  | read (setting : Setting) (path : Path) (text : String) (late : List Feed)
      (isReady : turn = ⟨setting, .ready path⟩)
      (unknown : (bridge.registry.find key).source? = none)
      (onDisk : sourceOnDisk setting.disk key = .ok text)
      (intakes :
        turn.intakes key bridge =
          (heard setting key (.reading key) bridge.schedule).map .handed ++
            .read text :: late.map .handed)

theorem brings (key : Path) (turn : Turn) (bridge : Bridge) : Brings key turn bridge := by
  rcases turn with ⟨setting, path | feed⟩
  · let opened := endOf (openRecord setting path) bridge
    let begun := textRead setting key opened
    let calls :=
      (run ⟨setting, .ready path⟩ bridge).registry.analyses - bridge.registry.analyses
    let late := heards setting key (.analysing key) calls begun.schedule
    have same :
        intakes key ⟨setting, .ready path⟩ bridge =
          readIntakes setting key opened ++ late.map .handed := rfl
    have found : opened.registry.find key = bridge.registry.find key := find_openRecord _ _ _
    rw [readIntakes, found] at same
    cases source : (bridge.registry.find key).source? with
    | some text =>
        rw [if_pos (by rw [source]; rfl), List.nil_append] at same
        refine .handed ?_
        rw [same]
        intro intake came
        rcases List.mem_map.1 came with ⟨feed, -, rfl⟩
        exact ⟨feed, rfl⟩
    | none =>
        rw [if_neg (by rw [source]; exact Bool.false_ne_true)] at same
        cases onDisk : sourceOnDisk setting.disk key with
        | error fault =>
            rw [onDisk, List.append_nil, ← List.map_append] at same
            refine .handed ?_
            rw [same]
            intro intake came
            rcases List.mem_map.1 came with ⟨feed, -, rfl⟩
            exact ⟨feed, rfl⟩
        | ok text =>
            rw [onDisk, List.append_assoc] at same
            exact .read setting path text late rfl source onDisk same
  · refine .handed ?_
    intro intake came
    exact ⟨feed, List.mem_singleton.1 came⟩

end Turn

/-- Calls for one file, whose text the same analyzer judges. -/
def ForFile (analyzer : Analyzer) (key : Path) (turn : Turn) : Prop :=
  turn.setting.analyzer = analyzer ∧ turn.setting.normalise turn.handling.path = key

/-! ## Every instant -/

theorem takes_ready
    (path : Path) {bridge : Bridge}
    (coherent :
      (bridge.registry.find (setting.normalise path)).Coherent
        (setting.analyzer.findings (setting.normalise path))) :
    (bridge.registry.find (setting.normalise path)).Takes
      (Turn.intakes (setting.normalise path) ⟨setting, .ready path⟩ bridge)
      ((endOf (ready setting path).run bridge).registry.find (setting.normalise path)) := by
  let key := setting.normalise path
  let opened := endOf (openRecord setting path) bridge
  have registered : (opened.registry.get? key).isSome :=
    isSome_openRecord setting path bridge
  rcases called_textRead setting registered with ⟨actions, called, -, -⟩
  rcases hears_ready path coherent with ⟨calls, analyses, heard⟩
  have begun := takes_textRead setting registered
  rw [find_openRecord] at begun
  have counted :
      (endOf (ready setting path).run bridge).registry.analyses -
        bridge.registry.analyses = calls := by
    have before := called.analyses.trans (analyses_openRecord path bridge)
    rw [analyses, before]
    exact Nat.add_sub_cancel_left _ _
  rw [Turn.intakes]
  dsimp only [Turn.run]
  rw [counted]
  exact begun.trans heard

theorem find_receive (setting : Setting) (feed : Feed) (bridge : Bridge) :
    (endOf (receive setting feed) bridge).registry.find (setting.normalise feed.path) =
      (bridge.registry.find (setting.normalise feed.path)).act feed.action := by
  rcases endOf_receive setting feed bridge with ⟨console, received⟩
  rw [received]
  dsimp only
  rw [find_take, if_pos rfl]

section

variable {analyzer : Analyzer} {turn : Turn} {turns : List Turn} {bridge : Bridge}

theorem takes_run
    (forFile : ForFile analyzer key turn)
    (coherent : (bridge.registry.find key).Coherent (analyzer.findings key)) :
    ((turn.run bridge).registry.find key).Coherent (analyzer.findings key) ∧
      (bridge.registry.find key).Takes (turn.intakes key bridge)
        ((turn.run bridge).registry.find key) := by
  rcases turn with ⟨setting, handling⟩
  rcases forFile with ⟨rfl, rfl⟩
  cases handling with
  | ready path =>
      rcases ready_settled path coherent with ⟨_, _, ended, -, -⟩
      exact ⟨ended.coherent, takes_ready path coherent⟩
  | hand feed =>
      have found := find_receive setting feed bridge
      have brings := Intake.text?_action (.handed feed)
      constructor
      · refine Eq.subst found.symm (coherent.act (Record.timely_of_text ?_ _))
        exact Option.isSome_iff_exists.2 ⟨_, brings⟩
      · exact Eq.subst found.symm (Record.Takes.intakes [.handed feed] _)

theorem takes_runAll
    (forFile : ∀ turn ∈ turns, ForFile analyzer key turn)
    (coherent : (bridge.registry.find key).Coherent (analyzer.findings key)) :
    ((Turn.runAll turns bridge).registry.find key).Coherent (analyzer.findings key) ∧
      (bridge.registry.find key).Takes (Turn.intakesAll key turns bridge)
        ((Turn.runAll turns bridge).registry.find key) := by
  induction turns generalizing bridge with
  | nil => exact ⟨coherent, .refl _⟩
  | cons turn rest inductionHypothesis =>
      rcases takes_run (forFile turn List.mem_cons_self) coherent with ⟨coherentNext, first⟩
      have forFileLater : ∀ other ∈ rest, ForFile analyzer key other :=
        fun other member => forFile other (List.mem_cons_of_mem turn member)
      rcases inductionHypothesis forFileLater coherentNext with ⟨coherentLast, later⟩
      exact ⟨coherentLast, first.trans later⟩

/-- Where a text is known none is read. -/
theorem handed_of_known
    (forFile : ∀ turn ∈ turns, ForFile analyzer key turn)
    (coherent : (bridge.registry.find key).Coherent (analyzer.findings key))
    (known : (bridge.registry.find key).source?.isSome) :
    ∀ intake ∈ Turn.intakesAll key turns bridge, ∃ feed, intake = .handed feed := by
  induction turns generalizing bridge with
  | nil => exact nofun
  | cons turn rest inductionHypothesis =>
      rcases takes_run (forFile turn List.mem_cons_self) coherent with ⟨coherentNext, takes⟩
      have forFileLater : ∀ other ∈ rest, ForFile analyzer key other :=
        fun other member => forFile other (List.mem_cons_of_mem turn member)
      have knownNext := takes.isSome_source? coherent.digest (.inl known)
      intro intake came
      rcases List.mem_append.1 came with first | later
      · cases turn.brings key bridge with
        | handed handed => exact handed intake first
        | read setting path text late isReady unknown onDisk intakes =>
            rw [unknown] at known
            cases known
      · exact inductionHypothesis forFileLater coherentNext knownNext intake later

/--
A text is read from disk at most once: by the first call that finds none and
succeeds.  What was handed over before came in while the disk was read.
-/
theorem read_of_intakesAll
    {earlier later : List Intake} {text : String}
    (forFile : ∀ turn ∈ turns, ForFile analyzer key turn)
    (coherent : (bridge.registry.find key).Coherent (analyzer.findings key))
    (taken : Turn.intakesAll key turns bridge = earlier ++ .read text :: later) :
    (∀ intake ∈ later, ∃ feed, intake = .handed feed) ∧
      ∃ before setting path after,
        turns = before ++ ⟨setting, .ready path⟩ :: after ∧
          Turn.intakesAll key before bridge = [] ∧
          ((Turn.runAll before bridge).registry.find key).source? = none ∧
          sourceOnDisk setting.disk key = .ok text ∧
          earlier =
            (heard setting key (.reading key) (Turn.runAll before bridge).schedule).map
              .handed := by
  induction turns generalizing bridge with
  | nil => cases List.append_eq_nil_iff.1 taken.symm |>.2
  | cons turn rest inductionHypothesis =>
      rcases takes_run (forFile turn List.mem_cons_self) coherent with ⟨coherentNext, takes⟩
      have forFileLater : ∀ other ∈ rest, ForFile analyzer key other :=
        fun other member => forFile other (List.mem_cons_of_mem turn member)
      have handedLater :
          turn.intakes key bridge ≠ [] →
            ∀ intake ∈ Turn.intakesAll key rest (turn.run bridge),
              ∃ feed, intake = .handed feed :=
        fun came =>
          handed_of_known forFileLater coherentNext
            (takes.isSome_source? coherent.digest (.inr came))
      rw [Turn.intakesAll] at taken
      cases turn.brings key bridge with
      | handed handed =>
          by_cases none : turn.intakes key bridge = []
          · rw [none, List.nil_append] at taken
            rcases inductionHypothesis forFileLater coherentNext taken with
              ⟨last, before, setting, path, after, rfl, nothing, unknown, onDisk, early⟩
            refine
              ⟨last, turn :: before, setting, path, after, rfl, ?_, unknown, onDisk, early⟩
            rw [Turn.intakesAll, none, nothing]
            rfl
          · have present :
                Intake.read text ∈
                  turn.intakes key bridge ++ Turn.intakesAll key rest (turn.run bridge) := by
              rw [taken]
              exact List.mem_append_right _ List.mem_cons_self
            rcases List.mem_append.1 present with first | later
            · rcases handed _ first with ⟨feed, impossible⟩
              cases impossible
            · rcases handedLater none _ later with ⟨feed, impossible⟩
              cases impossible
      | read setting path other late isReady unknown onDisk intakes =>
          have came : turn.intakes key bridge ≠ [] := by
            rw [intakes]
            exact List.append_ne_nil_of_right_ne_nil _ (List.cons_ne_nil _ _)
          have rests := handedLater came
          rw [intakes, List.append_assoc, List.cons_append] at taken
          have onlyHanded :
              ∀ intake ∈
                late.map .handed ++ Turn.intakesAll key rest (turn.run bridge),
                ∃ feed, intake = Intake.handed feed := by
            intro intake member
            rcases List.mem_append.1 member with first | later
            · rcases List.mem_map.1 first with ⟨feed, -, rfl⟩
              exact ⟨feed, rfl⟩
            · exact rests intake later
          rcases Intake.split_at_read onlyHanded taken with ⟨early, rfl, rfl⟩
          subst isReady
          exact ⟨onlyHanded, [], setting, path, rest, rfl, rfl, unknown, onDisk, early⟩

/--
Calls for one file follow each other, and further texts come in wherever they
wait.  At every instant the text that was handed over last is the one there is,
unless the text that came in last was read from disk and is another one.  This
happens at most once: in the call that finds no text and reads one, to what was
handed over while the disk was read.
-/
theorem source?_eq_handed_iff
    (analyzer : Analyzer) (key : Path) (turns : List Turn) (bridge : Bridge)
    (texts : Set String)
    (forFile : ∀ turn ∈ turns, ForFile analyzer key turn)
    (coherent : (bridge.registry.find key).Coherent (analyzer.findings key))
    (distinct : Set.InjOn Digest.of texts)
    (held : ∀ text, (bridge.registry.find key).source? = some text → text ∈ texts)
    (bring : ∀ intake ∈ Turn.intakesAll key turns bridge, intake.text ∈ texts) :
    (∃ deeds : List Deed,
      (Turn.runAll turns bridge).registry.find key =
          (deeds.map Deed.action).foldl Record.act (bridge.registry.find key) ∧
        deeds.filterMap Deed.intake? = Turn.intakesAll key turns bridge ∧
        ∀ instant feed, instant <+: deeds →
          let taken := instant.filterMap Deed.intake?
          (taken.filterMap Intake.feed?).getLast? = some feed →
            (((instant.map Deed.action).foldl Record.act
                  (bridge.registry.find key)).source? = some feed.text ↔
              ¬Intake.Overwritten taken feed)) ∧
      ∀ earlier text later,
        Turn.intakesAll key turns bridge = earlier ++ .read text :: later →
          (∀ intake ∈ later, ∃ feed, intake = .handed feed) ∧
            ∃ before setting path after,
              turns = before ++ ⟨setting, .ready path⟩ :: after ∧
                Turn.intakesAll key before bridge = [] ∧
                ((Turn.runAll before bridge).registry.find key).source? = none ∧
                sourceOnDisk setting.disk key = .ok text ∧
                earlier =
                  (heard setting key (.reading key)
                    (Turn.runAll before bridge).schedule).map .handed := by
  constructor
  · rcases (takes_runAll forFile coherent).2 with ⟨deeds, record, same⟩
    refine ⟨deeds, record, same, ?_⟩
    intro instant feed earlier taken last
    rcases earlier with ⟨rest, rfl⟩
    have brings : ∀ intake ∈ taken, intake.text ∈ texts := by
      intro intake came
      apply bring
      rw [← same, List.filterMap_append]
      exact List.mem_append_left _ came
    rw [(Record.source?_deeds distinct coherent.digest held brings).2]
    exact Intake.last_eq_handed_iff last _
  · intro earlier text later taken
    exact read_of_intakesAll forFile coherent taken

end

/-! ## A text that is handed over while the disk is read -/

/-- Surroundings with a single file on disk. -/
def fileSetting (text : String) : Setting :=
  { plainSetting plainAnalyzer with disk := ⟨[(["a.es"], .file (some text))], []⟩ }

theorem normalise_fileSetting (text : String) :
    (fileSetting text).normalise ⟨"/a.es"⟩ = ⟨"/a.es"⟩ := by
  cbv

theorem heards_of_empty (moment : Moment) (calls : Nat) :
    heards setting key moment calls [] = [] := by
  induction calls with
  | zero => rfl
  | succ calls inductionHypothesis =>
      rw [heards, heard, arriving]
      exact inductionHypothesis

theorem intakes_of_uninterrupted
    {path : Path} {bridge : Bridge}
    (schedule :
      (textRead setting key (endOf (openRecord setting path) bridge)).schedule = []) :
    Turn.intakes key ⟨setting, .ready path⟩ bridge =
      readIntakes setting key (endOf (openRecord setting path) bridge) := by
  rw [Turn.intakes]
  dsimp only
  rw [schedule, heards_of_empty]
  exact List.append_nil _

/-- A bridge that knows nothing, and "new" comes in while the disk is read. -/
def readingBridge : Bridge :=
  { plainBridge with schedule := [⟨[.reading ⟨"/a.es"⟩], [⟨⟨"/a.es"⟩, "new", none⟩]⟩] }

theorem injOn_new_old : Set.InjOn Digest.of {"new", "old"} := by
  have different : Digest.of "new" ≠ Digest.of "old" := by decide +kernel
  exact Set.injOn_pair.2 fun same => absurd same different

theorem schedule_textRead
    {bridge : Bridge}
    (registered : (bridge.registry.get? key).isSome)
    (unknown : (bridge.registry.find key).source? = none) :
    (textRead setting key bridge).schedule = left (.reading key) bridge.schedule := by
  rcases called_wait setting registered (.reading key) with ⟨-, schedule⟩
  rw [textRead_of_unknown unknown]
  change ((loadSource setting key).run.run bridge).2.schedule = _
  rw [run_loadSource]
  cases sourceOnDisk setting.disk key <;> exact schedule

theorem source?_eq_handed_iff_kept :
    let setting := fileSetting "old"
    let turns : List Turn :=
      [⟨setting, .hand ⟨⟨"/a.es"⟩, "new", none⟩⟩, ⟨setting, .ready ⟨"/a.es"⟩⟩]
    Turn.intakesAll ⟨"/a.es"⟩ turns plainBridge = [.handed ⟨⟨"/a.es"⟩, "new", none⟩] ∧
      ((Turn.runAll turns plainBridge).registry.find ⟨"/a.es"⟩).source? = some "new" := by
  intro setting turns
  let feed : Feed := ⟨⟨"/a.es"⟩, "new", none⟩
  let fed := endOf (receive setting feed) plainBridge
  have normal : setting.normalise ⟨"/a.es"⟩ = ⟨"/a.es"⟩ := normalise_fileSetting "old"
  have forFile : ∀ turn ∈ turns, ForFile plainAnalyzer ⟨"/a.es"⟩ turn := by
    intro turn member
    rcases List.mem_pair.1 member with rfl | rfl
    · exact ⟨rfl, normal⟩
    · exact ⟨rfl, normal⟩
  have coherent :
      (plainBridge.registry.find ⟨"/a.es"⟩).Coherent (plainAnalyzer.findings ⟨"/a.es"⟩) :=
    Record.coherent_fresh _ _
  have intakes : Turn.intakesAll ⟨"/a.es"⟩ turns plainBridge = [.handed feed] := by
    let opened := endOf (openRecord setting ⟨"/a.es"⟩) fed
    have brings := Intake.text?_action (.handed feed)
    have known : (opened.registry.find ⟨"/a.es"⟩).source?.isSome := by
      have found := find_receive setting feed plainBridge
      rw [show setting.normalise feed.path = ⟨"/a.es"⟩ from normal] at found
      rw [find_openRecord, found]
      exact Record.isSome_source?_act_of_text coherent.digest brings
    have schedule : (textRead setting ⟨"/a.es"⟩ opened).schedule = [] := by
      rcases endOf_receive setting feed plainBridge with ⟨console, received⟩
      rw [textRead_of_known known]
      exact congrArg Bridge.schedule received
    rw [Turn.intakesAll, Turn.intakesAll, Turn.intakesAll, Turn.run,
      intakes_of_uninterrupted schedule, readIntakes, if_pos known]
    rfl
  have alone : ∀ intake ∈ [Intake.handed feed], intake.text ∈ ({"new"} : Set String) := by
    intro intake member
    rw [List.mem_singleton.1 member]
    rfl
  rcases
    source?_eq_handed_iff plainAnalyzer ⟨"/a.es"⟩ turns plainBridge {"new"} forFile coherent
      (Set.injOn_singleton _ _) nofun (by rw [intakes]; exact alone)
    with ⟨⟨deeds, record, same, instants⟩, -⟩
  refine ⟨intakes, ?_⟩
  have last := instants deeds feed (List.prefix_refl deeds)
  rw [same, intakes] at last
  rw [record]
  refine (last rfl).2 ?_
  rintro ⟨earlier, text, taken, -⟩
  have present : Intake.read text ∈ [Intake.handed feed] := by
    rw [taken]
    exact List.mem_append_right _ List.mem_cons_self
  cases List.mem_singleton.1 present

/-- Making the file ready replaces the text that was handed over by the one on disk. -/
theorem overwritten_while_reading :
    let turns : List Turn := [⟨fileSetting "old", .ready ⟨"/a.es"⟩⟩]
    Turn.intakesAll ⟨"/a.es"⟩ turns readingBridge =
        [.handed ⟨⟨"/a.es"⟩, "new", none⟩, .read "old"] ∧
      ((Turn.runAll turns readingBridge).registry.find ⟨"/a.es"⟩).source? = some "old" := by
  intro turns
  have normal := normalise_fileSetting "old"
  have forFile : ∀ turn ∈ turns, ForFile plainAnalyzer ⟨"/a.es"⟩ turn := by
    intro turn member
    rw [List.mem_singleton.1 member]
    exact ⟨rfl, normal⟩
  have coherent :
      (readingBridge.registry.find ⟨"/a.es"⟩).Coherent (plainAnalyzer.findings ⟨"/a.es"⟩) :=
    Record.coherent_fresh _ _
  have intakes :
      Turn.intakesAll ⟨"/a.es"⟩ turns readingBridge =
        [.handed ⟨⟨"/a.es"⟩, "new", none⟩, .read "old"] := by
    let setting := fileSetting "old"
    let opened := endOf (openRecord setting ⟨"/a.es"⟩) readingBridge
    have unknown : (opened.registry.find ⟨"/a.es"⟩).source? = none := by
      rw [find_openRecord]
      rfl
    have registered : (opened.registry.get? ⟨"/a.es"⟩).isSome := by
      have made := isSome_openRecord (fileSetting "old") ⟨"/a.es"⟩ readingBridge
      rwa [normal] at made
    have schedule : (textRead setting ⟨"/a.es"⟩ opened).schedule = [] :=
      schedule_textRead registered unknown
    have onDisk : sourceOnDisk setting.disk ⟨"/a.es"⟩ = .ok "old" := by cbv
    have early :
        heard setting ⟨"/a.es"⟩ (.reading ⟨"/a.es"⟩) opened.schedule =
          [⟨⟨"/a.es"⟩, "new", none⟩] := by
      simp [heard, arriving, nextAt?, opened, readingBridge, setting, normal]
    rw [Turn.intakesAll, Turn.intakesAll, intakes_of_uninterrupted schedule, readIntakes,
      if_neg (by rw [unknown]; exact Bool.false_ne_true), early, onDisk]
    rfl
  refine ⟨intakes, ?_⟩
  rcases (takes_runAll forFile coherent).2 with ⟨deeds, record, same⟩
  have nothing :
      ∀ text, (readingBridge.registry.find ⟨"/a.es"⟩).source? = some text →
        text ∈ ({"new", "old"} : Set String) := by
    intro text held
    cases held
  rw [record, (Record.source?_deeds injOn_new_old coherent.digest nothing ?_).2, same, intakes]
  · rfl
  · intro intake came
    rw [same, intakes] at came
    rcases List.mem_pair.1 came with rfl | rfl
    · exact .inl rfl
    · exact .inr rfl

end Bridge

end ModuleBridge
