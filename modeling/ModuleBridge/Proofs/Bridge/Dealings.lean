import Mathlib
import ModuleBridge.Proofs.Bridge.Answers

/-!
# What a pipeline dealt with

Beside a session stands what one pipeline did to one file: the text it dealt
with last, and the text whose sections it acted on last.  Only its own loads and
updates of the file move them.  The record remembers just these two, so that the
answer to the next update follows from them.
-/

namespace ModuleBridge

/-- Two texts of a file: the one dealt with last, and the one acted on last. -/
structure Dealings where
  last : String
  baseline : String
  deriving DecidableEq, Repr

/-- The pipeline's update was answered. -/
def Dealings.answered (dealings : Dealings) (text : String) : HotUpdate → Dealings
  | .updated _ _ => ⟨text, text⟩
  | .unchanged | .failed _ => { dealings with last := text }

/-- The text that an operation hands over. -/
def Operation.text? : Operation → Option String
  | .update _ _ _ text | .invalidate _ text => some text
  | .load _ _ | .rebuild _ => none

namespace Event

open Bridge

/-- A text that an operation hands over, or that it can read from disk. -/
def Brings (event : Event) (text : String) : Prop :=
  event.operation.text? = some text ∨
    ∃ path, sourceOnDisk event.setting.disk path = .ok text

/-- The text that the file of a module id has when a load made it ready. -/
def loadedText? (setting : Setting) (id : String) (bridge : Bridge) : Option String :=
  if setting.filter.accepts id then
    match resultOf (ready setting (fileOf setting id)).run bridge with
    | .ok (key, _) =>
      ((endOf (ready setting (fileOf setting id)).run bridge).registry.find key).source?
    | .error _ => none
  else
    none

/-- An operation that a pipeline asks for on the file under a key. -/
def Concerns (event : Event) (requester : Nat) (key : Path) : Prop :=
  match event.operation with
  | .update asking _ file _ =>
    asking = requester ∧ event.setting.normalise (event.setting.normalise file) = key
  | .load plugin id =>
    plugin.id = requester ∧ event.setting.normalise (fileOf event.setting id) = key
  | .rebuild _ | .invalidate _ _ => False

instance (event : Event) (requester : Nat) (key : Path) :
    Decidable (event.Concerns requester key) :=
  match event with
  | ⟨_, .update _ _ _ _⟩ => inferInstanceAs (Decidable (_ ∧ _))
  | ⟨_, .load _ _⟩ => inferInstanceAs (Decidable (_ ∧ _))
  | ⟨_, .rebuild _⟩ => inferInstanceAs (Decidable False)
  | ⟨_, .invalidate _ _⟩ => inferInstanceAs (Decidable False)

/-- What a pipeline dealt with after an operation. -/
def deal (requester : Nat) (key : Path) (event : Event) (bridge : Bridge)
    (dealt? : Option Dealings) : Option Dealings :=
  if event.Concerns requester key then
    match event.operation with
    | .update asking suffix? file text =>
      dealt?.map fun dealings =>
        dealings.answered text
          (resultOf (update event.setting asking suffix? file text) bridge)
    | .load _ id =>
      match loadedText? event.setting id bridge with
      | some text => some ⟨text, text⟩
      | none => dealt?
    | .rebuild _ | .invalidate _ _ => dealt?
  else
    dealt?

/-- What a pipeline dealt with after operations one after another. -/
def dealings? (requester : Nat) (key : Path) :
    List Event → Bridge → Option Dealings → Option Dealings
  | [], _, dealt? => dealt?
  | event :: rest, bridge, dealt? =>
    dealings? requester key rest (event.run bridge) (event.deal requester key bridge dealt?)

/-- The file under a key is not a server file where it is updated. -/
def IsLocal (plugins : Plugins) (key : Path) (event : Event) : Prop :=
  match event.operation with
  | .update _ _ file _ =>
    event.setting.normalise (event.setting.normalise file) = key →
      plugins.isServerScoped (event.setting.normalise file) = false
  | .load _ _ | .rebuild _ | .invalidate _ _ => True

end Event

namespace Bridge

variable {analyzer : Analyzer} {requester : Nat} {key : Path} {texts : Set String}
  {event : Event} {bridge : Bridge}

/-! ## One operation -/

theorem innocent_asks (event : Event) : Innocent event.Asks := by
  rcases event with ⟨setting, operation⟩
  rintro key action ordered record origin
  cases operation with
  | update asking suffix? file text =>
      rcases ordered with ⟨-, rfl | ⟨watch, rfl⟩ | ⟨revision, rfl⟩⟩
      · trivial
      · trivial
      · trivial
  | load plugin id =>
      rcases ordered with ⟨revision, rfl⟩ | ⟨-, revision, rfl⟩
      · trivial
      · trivial
  | rebuild path =>
      rcases ordered with ⟨revision, rfl⟩ | ⟨-, text, -, rfl⟩
      · trivial
      · trivial
  | invalidate path text =>
      rcases ordered with ⟨-, rfl⟩
      trivial

/-- Every text that comes in is one that the operation brings. -/
theorem Routine.brings
    {record : Record} {action : Record.Action} {text : String}
    (routine : Routine event.setting nobody event.Asks key record action)
    (incoming : action.text? = some text) :
    event.Brings text := by
  cases routine with
  | asked _ ordered =>
      rcases event with ⟨setting, operation⟩
      cases operation with
      | update asking suffix? file own =>
          rcases ordered with ⟨-, rfl | ⟨watch, rfl⟩ | ⟨revision, rfl⟩⟩
          · exact .inl incoming
          · cases incoming
          · cases incoming
      | load plugin id =>
          rcases ordered with ⟨revision, rfl⟩ | ⟨-, revision, rfl⟩
          · cases incoming
          · cases incoming
      | rebuild path =>
          rcases ordered with ⟨revision, rfl⟩ | ⟨-, own, onDisk, rfl⟩
          · cases incoming
          · obtain rfl : own = text := Option.some.inj incoming
            exact .inr ⟨_, onDisk⟩
      | invalidate path own =>
          rcases ordered with ⟨-, rfl⟩
          exact .inl incoming
  | received feed permitted here => exact absurd permitted id
  | read own onDisk unknown =>
      obtain rfl : own = text := Option.some.inj incoming
      exact .inr ⟨_, onDisk⟩
  | analysed => cases incoming
  | built => cases incoming
  | watched => cases incoming

/-- An operation goes by the routine, with nothing but what it asks for. -/
theorem progress_run (quiet : Fits nobody bridge) :
    Progress nobody (Routine event.setting nobody event.Asks) bridge (event.run bridge) :=
  routine_run event bridge quiet

theorem steady_run (event : Event) (steady : Steady event.setting.analyzer bridge) :
    Steady event.setting.analyzer (event.run bridge) :=
  (progress_run steady.quiet).steady (innocent_asks event) steady

/-- Among the texts that operations bring are all that a record ever holds. -/
theorem held_of_progress
    (event : Event) {bridge after : Bridge}
    (progress :
      Progress nobody (Routine event.setting nobody event.Asks) bridge after)
    (brings : ∀ text, event.Brings text → text ∈ texts)
    (held : ∀ text, (bridge.registry.find key).source? = some text → text ∈ texts) :
    ∀ text, (after.registry.find key).source? = some text → text ∈ texts := by
  have step :
      ∀ record action, Routine event.setting nobody event.Asks key record action →
        (∀ text, record.source? = some text → text ∈ texts) →
        ∀ text, (record.act action).source? = some text → text ∈ texts := by
    intro record action routine known text source
    rcases record.source?_act action with same | incoming
    · exact known text (same.symm.trans source)
    · exact brings text (routine.brings (incoming.symm.trans source))
  exact (progress.registry.record key).keeps step held

/-- Operations that do not concern a pipeline leave its memory alone. -/
theorem memory?_run_of_foreign
    (quiet : Fits nobody bridge) (foreign : ¬event.Concerns requester key) :
    ((event.run bridge).registry.find key).memory? (.pipeline requester) =
      (bridge.registry.find key).memory? (.pipeline requester) := by
  refine (progress_run quiet).memory?_eq ?_
  intro action ordered same
  rcases event with ⟨setting, operation⟩
  cases operation with
  | update asking suffix? file text =>
      rcases ordered with ⟨rfl, rfl | ⟨watch, rfl⟩ | ⟨revision, rfl⟩⟩
      · cases same
        exact foreign ⟨rfl, rfl⟩
      · cases same
      · cases same
        exact foreign ⟨rfl, rfl⟩
  | load plugin id =>
      rcases ordered with ⟨revision, rfl⟩ | ⟨rfl, revision, rfl⟩
      · cases same
      · cases same
        exact foreign ⟨rfl, rfl⟩
  | rebuild path =>
      rcases ordered with ⟨revision, rfl⟩ | ⟨-, text, -, rfl⟩
      · cases same
      · cases same
  | invalidate path text =>
      rcases ordered with ⟨-, rfl⟩
      cases same

/-! ## Loads -/

theorem loadedText?_of_foreign
    {setting : Setting} {id : String} (foreign : setting.filter.accepts id = false) :
    Event.loadedText? setting id bridge = none := by
  apply if_neg
  rw [foreign]
  exact Bool.false_ne_true

theorem loadedText?_of_refused
    {setting : Setting} {id : String} {fault : Fault}
    (refused :
      resultOf (ready setting (Event.fileOf setting id)).run bridge = .error fault) :
    Event.loadedText? setting id bridge = none := by
  rw [Event.loadedText?]
  rw [refused, ite_self]

theorem loadedText?_of_ready
    {setting : Setting} {id : String} {key : Path} {readiness : Readiness}
    (accepted : setting.filter.accepts id = true)
    (succeeded :
      resultOf (ready setting (Event.fileOf setting id)).run bridge = .ok (key, readiness)) :
    Event.loadedText? setting id bridge =
      ((endOf (ready setting (Event.fileOf setting id)).run bridge).registry.find
        (setting.normalise (Event.fileOf setting id))).source? := by
  rcases key_of_ready succeeded with rfl
  rw [Event.loadedText?]
  rw [if_pos accepted, succeeded]

/-- A text that can be analysed is loaded. -/
theorem loadedText?_of_known
    {setting : Setting} {id text : String} {analysis : Analysis}
    (steady : Steady setting.analyzer bridge)
    (accepted : setting.filter.accepts id = true)
    (known :
      textOf? setting (setting.normalise (Event.fileOf setting id)) bridge = some text)
    (found :
      setting.analyzer.analyse (setting.normalise (Event.fileOf setting id)) text =
        .ok analysis) :
    Event.loadedText? setting id bridge = some text := by
  cases readied_of_steady steady known with
  | ready analysis readiness succeeded holds =>
      rw [loadedText?_of_ready accepted succeeded]
      exact holds.2.1
  | refused message refused failed =>
      rw [found] at refused
      cases refused

theorem find_seenReady
    (plugin : Plugin) {setting : Setting} {path : Path} {found : Path × Readiness}
    (steady : Steady setting.analyzer bridge)
    (succeeded : resultOf (ready setting path).run bridge = .ok found) :
    (seenReady setting plugin path bridge).registry.find (setting.normalise path) =
      ((endOf (ready setting path).run bridge).registry.find
          (setting.normalise path)).markSeen (.pipeline plugin.id)
        ((endOf (ready setting path).run bridge).registry.find
          (setting.normalise path)).revision :=
  Registry.find_put_self (holds_of_ready steady succeeded).1 _

/-- What a pipeline remembers once its load has made a file ready. -/
theorem memory?_seenReady
    (plugin : Plugin) {setting : Setting} {path : Path} {found : Path × Readiness}
    (steady : Steady setting.analyzer bridge)
    (succeeded : resultOf (ready setting path).run bridge = .ok found) :
    ∃ text analysis,
      ((endOf (ready setting path).run bridge).registry.find
          (setting.normalise path)).source? = some text ∧
        setting.analyzer.analyse (setting.normalise path) text = .ok analysis ∧
        ((seenReady setting plugin path bridge).registry.find
            (setting.normalise path)).memory? (.pipeline plugin.id) =
          some ⟨Digest.of text, some (analysis.sections text)⟩ := by
  have progress : Progress nobody (Routine setting nobody nothing) bridge
      (endOf (ready setting path).run bridge) :=
    routine_ready path bridge steady.quiet
  have steadyReady : Steady setting.analyzer (endOf (ready setting path).run bridge) :=
    progress.steady (fun _ _ asked => absurd asked id) steady
  rcases holds_of_ready steady succeeded with ⟨-, text, analysis, holds⟩
  refine ⟨text, analysis, holds.2.1, holds.1, ?_⟩
  rw [find_seenReady plugin steady succeeded]
  exact memory?_of_holds (steadyReady.coherent _) holds _

/-- What a load leaves: a text was made ready and is remembered, or nothing is new. -/
inductive LoadEnd
    (setting : Setting) (plugin : Plugin) (id : String) (before after : Bridge) : Prop where
  | idle
      (unloaded : Event.loadedText? setting id before = none)
      (remembered :
        (after.registry.find (setting.normalise (Event.fileOf setting id))).memory?
            (.pipeline plugin.id) =
          (before.registry.find (setting.normalise (Event.fileOf setting id))).memory?
            (.pipeline plugin.id))
  | loaded (text : String) (analysis : Analysis)
      (loaded : Event.loadedText? setting id before = some text)
      (found :
        setting.analyzer.analyse (setting.normalise (Event.fileOf setting id)) text =
          .ok analysis)
      (held :
        (after.registry.find (setting.normalise (Event.fileOf setting id))).source? =
          some text)
      (remembered :
        (after.registry.find (setting.normalise (Event.fileOf setting id))).memory?
            (.pipeline plugin.id) =
          some ⟨Digest.of text, some (analysis.sections text)⟩)

theorem loadEnd
    (setting : Setting) (plugin : Plugin) (id : String)
    (steady : Steady setting.analyzer bridge) :
    LoadEnd setting plugin id bridge (Event.run ⟨setting, .load plugin id⟩ bridge) := by
  let path := Event.fileOf setting id
  let key := setting.normalise path
  let readied := endOf (ready setting path).run bridge
  let seen := seenReady setting plugin path bridge
  let after := Event.run ⟨setting, .load plugin id⟩ bridge
  have progress : Progress nobody (Routine setting nobody nothing) bridge readied :=
    routine_ready path bridge steady.quiet
  cases accepted : setting.filter.accepts id with
  | false =>
      have unchanged : after = bridge := load_of_foreign accepted
      refine .idle (loadedText?_of_foreign accepted) ?_
      rw [show Event.run _ bridge = bridge from unchanged]
  | true =>
      cases outcome : resultOf (ready setting path).run bridge with
      | error fault =>
          have ended : after = readied := load_of_refused accepted outcome
          have stillRemembered :
              (readied.registry.find key).memory? (.pipeline plugin.id) =
                (bridge.registry.find key).memory? (.pipeline plugin.id) :=
            progress.memory?_eq fun _ asked => asked.elim
          refine .idle (loadedText?_of_refused outcome) ?_
          rw [show Event.run _ bridge = readied from ended]
          exact stillRemembered
      | ok found =>
          rcases found with ⟨found, readiness⟩
          rcases memory?_seenReady plugin steady outcome with
            ⟨text, analysis, source, analysed, remembered⟩
          have follows : Follows nobody (Routine setting nobody watcherMarks) seen after :=
            load_of_ready nobody plugin watching_watcherMarks accepted outcome
          have serves : Progress nobody (Routine setting nobody watcherMarks) seen after :=
            follows progress.fits
          refine .loaded text analysis ?_ analysed ?_ ?_
          · rw [loadedText?_of_ready accepted outcome]
            exact source
          · refine serves.source?_eq silent_watcherMarks ?_
            rw [find_seenReady plugin steady outcome,
              (Record.fields_of_core_eq (Record.core_markSeen _ _ _)).1]
            exact source
          · rw [serves.memory?_eq, remembered]
            rintro _ ⟨revision, rfl⟩
            exact nofun

/-! ## What is remembered -/

/-- What a pipeline dealt with is what the record remembers of it. -/
structure Recalls
    (analyzer : Analyzer) (requester : Nat) (key : Path) (texts : Set String)
    (bridge : Bridge) (dealt? : Option Dealings) : Prop where
  steady : Steady analyzer bridge
  held : ∀ text, (bridge.registry.find key).source? = some text → text ∈ texts
  last : ∀ dealings, dealt? = some dealings → dealings.last ∈ texts
  remembered :
    ∀ dealings, dealt? = some dealings →
      ∃ analysis,
        analyzer.analyse key dealings.baseline = .ok analysis ∧
          (bridge.registry.find key).memory? (.pipeline requester) =
            some ⟨Digest.of dealings.last, some (analysis.sections dealings.baseline)⟩

/-- The memory after an operation is all that has to be looked at. -/
theorem recalls_run
    {dealt? : Option Dealings}
    (recalls : Recalls event.setting.analyzer requester key texts bridge dealt?)
    (brings : ∀ text, event.Brings text → text ∈ texts)
    {after? : Option Dealings}
    (last : ∀ dealings, after? = some dealings → dealings.last ∈ texts)
    (remembered :
      ∀ dealings, after? = some dealings →
        ∃ analysis,
          event.setting.analyzer.analyse key dealings.baseline = .ok analysis ∧
            ((event.run bridge).registry.find key).memory? (.pipeline requester) =
              some ⟨Digest.of dealings.last, some (analysis.sections dealings.baseline)⟩) :
    Recalls event.setting.analyzer requester key texts (event.run bridge) after? where
  steady := steady_run event recalls.steady
  held := held_of_progress event (progress_run recalls.steady.quiet) brings recalls.held
  last := last
  remembered := remembered

/-- An update of a local file is answered by what the pipeline dealt with. -/
theorem answer_of_recalls
    {setting : Setting} {suffix? : Option String} {file : Path} {text : String}
    {dealings : Dealings}
    (recalls :
      Recalls setting.analyzer requester (setting.normalise (setting.normalise file)) texts
        bridge (some dealings))
    (distinct : Set.InjOn Digest.of texts) (brought : text ∈ texts)
    (isLocal : bridge.plugins.isServerScoped (setting.normalise file) = false) :
    ∃ analysis,
      setting.analyzer.analyse (setting.normalise (setting.normalise file))
          dealings.baseline = .ok analysis ∧
        Answer setting requester suffix? (setting.normalise file) text false
          ⟨Digest.of dealings.last, some (analysis.sections dealings.baseline)⟩
          (resultOf (update setting requester suffix? file text) bridge)
          (((endOf (update setting requester suffix? file text) bridge).registry.find
            (setting.normalise (setting.normalise file))).memory? (.pipeline requester)) := by
  rcases recalls.remembered dealings rfl with ⟨analysis, found, remembered⟩
  refine ⟨analysis, found, ?_⟩
  rw [← isLocal]
  apply answer_of_memory recalls.steady remembered
  intro held source same
  exact distinct (recalls.held held source) brought same

theorem recalls_update
    {setting : Setting} {suffix? : Option String} {file : Path} {text : String}
    {dealt? : Option Dealings}
    (recalls :
      Recalls setting.analyzer requester (setting.normalise (setting.normalise file)) texts
        bridge dealt?)
    (distinct : Set.InjOn Digest.of texts)
    (brings :
      ∀ brought, Event.Brings ⟨setting, .update requester suffix? file text⟩ brought →
        brought ∈ texts)
    (isLocal : bridge.plugins.isServerScoped (setting.normalise file) = false) :
    Recalls setting.analyzer requester (setting.normalise (setting.normalise file)) texts
      (Event.run ⟨setting, .update requester suffix? file text⟩ bridge)
      (dealt?.map fun dealings =>
        dealings.answered text
          (resultOf (update setting requester suffix? file text) bridge)) := by
  have brought : text ∈ texts := brings text (.inl rfl)
  refine recalls_run recalls brings ?_ ?_
  · intro after answered
    rcases Option.map_eq_some_iff.1 answered with ⟨dealings, -, rfl⟩
    cases resultOf (update setting requester suffix? file text) bridge with
    | unchanged => exact brought
    | updated modules renderOnly => exact brought
    | failed diagnostics => exact brought
  · intro after answered
    rcases Option.map_eq_some_iff.1 answered with ⟨dealings, rfl, rfl⟩
    rcases answer_of_recalls recalls distinct brought isLocal with ⟨analysis, found, answer⟩
    cases answer with
    | unchanged same answered remembered =>
        rw [answered]
        exact ⟨analysis, found, remembered⟩
    | server modules other server answered remembered => cases server
    | «local» other isLocal answer =>
        cases answer with
        | failed diagnostics unsound answered remembered =>
            rw [answered]
            exact ⟨analysis, found, remembered⟩
        | updated other found sound answered remembered =>
            rw [answered]
            exact ⟨other, found, remembered⟩

theorem recalls_load
    {setting : Setting} {plugin : Plugin} {id : String} {dealt? : Option Dealings}
    (recalls :
      Recalls setting.analyzer plugin.id (setting.normalise (Event.fileOf setting id)) texts
        bridge dealt?)
    (brings : ∀ text, Event.Brings ⟨setting, .load plugin id⟩ text → text ∈ texts) :
    Recalls setting.analyzer plugin.id (setting.normalise (Event.fileOf setting id)) texts
      (Event.run ⟨setting, .load plugin id⟩ bridge)
      (match Event.loadedText? setting id bridge with
        | some text => some ⟨text, text⟩
        | none => dealt?) := by
  cases loadEnd setting plugin id recalls.steady with
  | idle unloaded remembered =>
      rw [unloaded]
      apply recalls_run recalls brings recalls.last
      rw [remembered]
      exact recalls.remembered
  | loaded text analysis loaded found held remembered =>
      have brought : text ∈ texts :=
        held_of_progress _ (progress_run recalls.steady.quiet) brings recalls.held text held
      rw [loaded]
      refine recalls_run recalls brings ?_ ?_
      · rintro _ ⟨⟩
        exact brought
      · rintro _ ⟨⟩
        exact ⟨analysis, found, remembered⟩

/-- What a pipeline dealt with stays what the record remembers of it. -/
theorem recalls_deal
    {dealt? : Option Dealings}
    (recalls : Recalls event.setting.analyzer requester key texts bridge dealt?)
    (distinct : Set.InjOn Digest.of texts)
    (brings : ∀ text, event.Brings text → text ∈ texts)
    (isLocal : event.IsLocal bridge.plugins key) :
    Recalls event.setting.analyzer requester key texts (event.run bridge)
      (event.deal requester key bridge dealt?) := by
  rw [Event.deal]
  split
  · rename_i concerns
    rcases event with ⟨setting, operation⟩
    cases operation with
    | update asking suffix? file text =>
        rcases concerns with ⟨rfl, rfl⟩
        exact recalls_update recalls distinct brings (isLocal rfl)
    | load plugin id =>
        rcases concerns with ⟨rfl, rfl⟩
        exact recalls_load recalls brings
    | rebuild path => exact concerns.elim
    | invalidate path text => exact concerns.elim
  · -- What others do reaches the text of the record, but not this pipeline's memory.
    rename_i foreign
    apply recalls_run recalls brings recalls.last
    rw [memory?_run_of_foreign recalls.steady.quiet foreign]
    exact recalls.remembered

/-! ## Sessions -/

/--
A session that nobody interrupts, with one analyzer, on a file that is not a
server file; the texts that come up have digests of their own.
-/
structure Undisturbed
    (analyzer : Analyzer) (key : Path) (start : Bridge) (events : List Event) : Prop where
  fresh : start.registry = .empty
  uninterrupted : start.schedule = []
  analyzer : ∀ event ∈ events, event.setting.analyzer = analyzer
  isLocal : ∀ event ∈ events, event.IsLocal start.plugins key
  distinct : Set.InjOn Digest.of {text | ∃ event ∈ events, event.Brings text}

/-- An operation of such a session. -/
structure Admits
    (analyzer : Analyzer) (key : Path) (texts : Set String) (plugins : Plugins)
    (event : Event) : Prop where
  analyzer : event.setting.analyzer = analyzer
  brings : ∀ text, event.Brings text → text ∈ texts
  isLocal : event.IsLocal plugins key

theorem Undisturbed.admits
    {start : Bridge} {events : List Event} {asked : Event}
    (undisturbed : Undisturbed analyzer key start (events ++ [asked])) :
    ∀ event ∈ events,
      Admits analyzer key {text | ∃ event ∈ events ++ [asked], event.Brings text}
        start.plugins event := by
  intro event member
  have among : event ∈ events ++ [asked] := List.mem_append_left _ member
  constructor
  · exact undisturbed.analyzer event among
  · intro text brings
    exact ⟨event, among, brings⟩
  · exact undisturbed.isLocal event among

/-- Operations keep what the pipeline dealt with remembered, and the pipelines as they are. -/
theorem recalls_dealings?
    {events : List Event} {dealt? : Option Dealings}
    (recalls : Recalls analyzer requester key texts bridge dealt?)
    (distinct : Set.InjOn Digest.of texts)
    (admitted : ∀ event ∈ events, Admits analyzer key texts bridge.plugins event) :
    Recalls analyzer requester key texts (Event.runAll events bridge)
        (Event.dealings? requester key events bridge dealt?) ∧
      (Event.runAll events bridge).plugins = bridge.plugins := by
  induction events generalizing bridge dealt? with
  | nil => exact ⟨recalls, rfl⟩
  | cons event rest inductionHypothesis =>
      rcases admitted event List.mem_cons_self with ⟨rfl, brings, isLocal⟩
      have plugins : (event.run bridge).plugins = bridge.plugins :=
        (progress_run recalls.steady.quiet).plugins
      have next := recalls_deal recalls distinct brings isLocal
      have further := inductionHypothesis next <| by
        intro other later
        rw [plugins]
        exact admitted other (List.mem_cons_of_mem event later)
      exact ⟨further.1, further.2.trans plugins⟩

theorem find_start {start : Bridge} (fresh : start.registry = .empty) (key : Path) :
    start.registry.find key = Record.fresh key := by
  rw [fresh, Registry.find_empty]

theorem steady_start
    {start : Bridge} (fresh : start.registry = .empty) (uninterrupted : start.schedule = []) :
    Steady analyzer start where
  quiet := by
    intro interruption planned
    rw [uninterrupted] at planned
    exact absurd planned List.not_mem_nil
  coherent key := by
    rw [find_start fresh]
    exact Record.coherent_fresh _ key

theorem recalls_start
    {start : Bridge} (fresh : start.registry = .empty) (uninterrupted : start.schedule = []) :
    Recalls analyzer requester key texts start none where
  steady := steady_start fresh uninterrupted
  held := by
    intro text source
    rw [find_start fresh] at source
    cases source
  last := nofun
  remembered := nofun

/-- What an undisturbed session leaves is remembered. -/
theorem recalls_of_undisturbed
    {start : Bridge} {events : List Event} {asked : Event}
    (undisturbed : Undisturbed analyzer key start (events ++ [asked])) (requester : Nat) :
    Recalls analyzer requester key {text | ∃ event ∈ events ++ [asked], event.Brings text}
        (Event.runAll events start) (Event.dealings? requester key events start none) ∧
      (Event.runAll events start).plugins = start.plugins := by
  have begins :
      Recalls analyzer requester key
        {text | ∃ event ∈ events ++ [asked], event.Brings text} start none :=
    recalls_start undisturbed.fresh undisturbed.uninterrupted
  exact recalls_dealings? begins undisturbed.distinct undisturbed.admits

/-- An update after an undisturbed session is answered by what the pipeline dealt with. -/
theorem answer_of_undisturbed
    {start : Bridge} {events : List Event} {dealings : Dealings} {setting : Setting}
    {suffix? : Option String} {file : Path} {text : String}
    (undisturbed :
      Undisturbed setting.analyzer (setting.normalise (setting.normalise file)) start
        (events ++ [⟨setting, .update requester suffix? file text⟩]))
    (dealt :
      Event.dealings? requester (setting.normalise (setting.normalise file)) events start
        none = some dealings) :
    (Digest.of dealings.last = Digest.of text → dealings.last = text) ∧
      ∃ acted after?,
        setting.analyzer.analyse (setting.normalise (setting.normalise file))
            dealings.baseline = .ok acted ∧
          Answer setting requester suffix? (setting.normalise file) text false
            ⟨Digest.of dealings.last, some (acted.sections dealings.baseline)⟩
            (resultOf (update setting requester suffix? file text)
              (Event.runAll events start))
            after? := by
  let asked : Event := ⟨setting, .update requester suffix? file text⟩
  have last : asked ∈ events ++ [asked] := List.mem_append_right _ List.mem_cons_self
  rcases recalls_of_undisturbed undisturbed requester with ⟨recalls, plugins⟩
  rw [dealt] at recalls
  have brought : text ∈ {text | ∃ event ∈ events ++ [asked], event.Brings text} :=
    ⟨asked, last, .inl rfl⟩
  have isLocal :
      (Event.runAll events start).plugins.isServerScoped (setting.normalise file) = false := by
    rw [plugins]
    exact undisturbed.isLocal asked last rfl
  refine ⟨fun same => undisturbed.distinct (recalls.last dealings rfl) brought same, ?_⟩
  rcases answer_of_recalls recalls undisturbed.distinct brought isLocal with
    ⟨acted, found, answered⟩
  exact ⟨acted, _, found, answered⟩

/-! ## A file with two modules -/

/-- What is read from disk stands there. -/
theorem mem_entries_of_sourceOnDisk
    {disk : Disk} {path : Path} {text : String}
    (read : sourceOnDisk disk path = .ok text) :
    ∃ place, (place, Entry.file (some text)) ∈ disk.entries := by
  unfold sourceOnDisk Disk.readText at read
  cases located : disk.locate path with
  | error failure =>
      rw [located] at read
      cases failure with
      | missing => cases read
      | unreadable => cases read
  | ok place =>
      rw [located] at read
      dsimp only at read
      split at read
      · rename_i found same
        split at same
        · rename_i held stands
          rcases Except.ok.inj same with rfl
          rcases Except.ok.inj read with rfl
          cases place with
          | nil => cases stands
          | cons name rest =>
              rcases List.lookup_eq_some_iff.1 stands with ⟨before, after, entries, -⟩
              refine ⟨name :: rest, ?_⟩
              rw [entries]
              exact List.mem_append_right _ List.mem_cons_self
        · cases same
      · cases read
      · cases read

/-- A file with this text is all there is; the host has two modules of it. -/
def pairedSetting (text : String) : Setting :=
  { plainSetting plainAnalyzer with
    disk := Disk.empty.put ["a.es"] (.file (some text))
    modulesOf := fun path =>
      if path = ⟨"/a.es"⟩ then [⟨"/a.es", "/a.es"⟩, ⟨"/a.es?direct", "/a.es?direct"⟩]
      else [] }

theorem normalise_paired (text : String) :
    (pairedSetting text).normalise ⟨"/a.es"⟩ = ⟨"/a.es"⟩ := by cbv

theorem sourceOnDisk_paired (text : String) :
    sourceOnDisk (pairedSetting text).disk ⟨"/a.es"⟩ = .ok text := by cbv

theorem fileOf_paired (text : String) :
    Event.fileOf (pairedSetting text) "/a.es" = ⟨"/a.es"⟩ := by cbv

theorem brings_paired
    {text other : String} {operation : Operation}
    (brings : Event.Brings ⟨pairedSetting text, operation⟩ other) :
    operation.text? = some other ∨ other = text := by
  rcases brings with own | ⟨path, onDisk⟩
  · exact .inl own
  · rcases mem_entries_of_sourceOnDisk onDisk with ⟨place, stands⟩
    have same : Entry.file (some other) = Entry.file (some text) :=
      congrArg Prod.snd (List.mem_singleton.1 stands)
    cases same
    exact .inr rfl

theorem loadedText?_paired
    {id text held : String}
    (steady : Steady plainAnalyzer bridge)
    (accepted : (pairedSetting text).filter.accepts id = true)
    (parsed : Event.fileOf (pairedSetting text) id = ⟨"/a.es"⟩)
    (known : textOf? (pairedSetting text) ⟨"/a.es"⟩ bridge = some held) :
    Event.loadedText? (pairedSetting text) id bridge = some held := by
  refine loadedText?_of_known steady accepted ?_ rfl
  rw [parsed, normalise_paired]
  exact known

/-- A session with these two texts only. -/
theorem undisturbed_paired
    {events : List Event}
    (paired : ∀ event ∈ events,
      event.setting = pairedSetting "a" ∨ event.setting = pairedSetting "b")
    (own : ∀ event ∈ events, ∀ text, event.operation.text? = some text →
      text = "a" ∨ text = "b") :
    Undisturbed plainAnalyzer ⟨"/a.es"⟩ plainBridge events := by
  have known : ∀ text, (∃ event ∈ events, event.Brings text) → text = "a" ∨ text = "b" := by
    rintro text ⟨⟨setting, operation⟩, member, brings⟩
    rcases paired _ member with rfl | rfl
    · rcases brings_paired brings with handed | rfl
      · exact own _ member text handed
      · exact .inl rfl
    · rcases brings_paired brings with handed | rfl
      · exact own _ member text handed
      · exact .inr rfl
  have apart : Digest.of "a" ≠ Digest.of "b" := by decide +kernel
  refine ⟨rfl, rfl, ?_, ?_, ?_⟩
  · rintro ⟨setting, operation⟩ member
    rcases paired _ member with rfl | rfl
    · rfl
    · rfl
  · rintro ⟨setting, operation⟩ member
    cases operation with
    | update requester suffix? file text => exact fun _ => rfl
    | load plugin id => trivial
    | rebuild path => trivial
    | invalidate path text => trivial
  · intro left leftBrought right rightBrought same
    rcases known left leftBrought with rfl | rfl
    · rcases known right rightBrought with rfl | rfl
      · rfl
      · exact absurd same apart
    · rcases known right rightBrought with rfl | rfl
      · exact absurd same.symm apart
      · rfl

/-- The module of the file is loaded while its text is "a". -/
def loadPaired : Event :=
  ⟨pairedSetting "a", .load default "/a.es"⟩

theorem loadedText?_loadPaired :
    Event.loadedText? (pairedSetting "a") "/a.es" plainBridge = some "a" := by
  refine loadedText?_paired (steady_start rfl rfl) (by cbv) (fileOf_paired "a") ?_
  change (sourceOnDisk _ _).toOption = _
  rw [sourceOnDisk_paired]
  rfl

theorem concerns_loadPaired : loadPaired.Concerns 0 ⟨"/a.es"⟩ :=
  ⟨rfl, by rw [loadPaired, fileOf_paired, normalise_paired]⟩

theorem dealings?_loadPaired :
    Event.dealings? 0 ⟨"/a.es"⟩ [loadPaired] plainBridge none = some ⟨"a", "a"⟩ := by
  change loadPaired.deal 0 ⟨"/a.es"⟩ plainBridge none = _
  rw [Event.deal, if_pos concerns_loadPaired, loadPaired]
  dsimp only
  rw [loadedText?_loadPaired]

/-! ## The answer -/

/-- Nothing but the markup differs. -/
def OnlyMarkupDiffers (before after : Snapshot) : Prop :=
  before.markup ≠ after.markup ∧ before.script = after.script ∧ before.style = after.style

theorem renderOnly_between (before after : Snapshot) :
    (SectionChange.between (some before) after).renderOnly = true ↔
      OnlyMarkupDiffers before after := by
  simp [SectionChange.between, SectionChange.renderOnly, OnlyMarkupDiffers, and_assoc]

/--
After every session in which the pipeline loaded the file: an update repeats the
text dealt with last exactly when it is answered as unchanged; another text is
refused exactly when no answer can be given by its analysis; else the answer
lists, in the order of the host, the modules that depend on a section in which
the text differs from the baseline, and says whether nothing but markup differs.
-/
theorem update_of_dealings
    {start : Bridge} {events : List Event} {dealings : Dealings}
    (setting : Setting) (requester : Nat) (suffix? : Option String) (file : Path)
    (text : String)
    (undisturbed :
      Undisturbed setting.analyzer (setting.normalise (setting.normalise file)) start
        (events ++ [⟨setting, .update requester suffix? file text⟩]))
    (dealt :
      Event.dealings? requester (setting.normalise (setting.normalise file)) events start
        none = some dealings) :
    let key := setting.normalise (setting.normalise file)
    let answer :=
      resultOf (update setting requester suffix? file text) (Event.runAll events start)
    (answer = .unchanged ↔ text = dealings.last) ∧
      ((∃ diagnostics, answer = .failed diagnostics) ↔
        text ≠ dealings.last ∧ ¬setting.analyzer.Accepts key text) ∧
      (text ≠ dealings.last → setting.analyzer.Accepts key text →
        ∃ acted analysis renderOnly,
          setting.analyzer.analyse key dealings.baseline = .ok acted ∧
            setting.analyzer.analyse key text = .ok analysis ∧
            answer =
              .updated
                (invalidated setting suffix? (setting.normalise file)
                  (.between (some (acted.sections dealings.baseline))
                    (analysis.sections text)))
                renderOnly ∧
            (renderOnly = true ↔
              OnlyMarkupDiffers (acted.sections dealings.baseline)
                (analysis.sections text))) := by
  intro key answer
  rcases answer_of_undisturbed undisturbed dealt with
    ⟨sameText, acted, after?, found, answered⟩
  cases answered with
  | unchanged same answered remembered =>
      have repeated : text = dealings.last := (sameText same).symm
      refine ⟨iff_of_true answered repeated, iff_of_false ?_ ?_, ?_⟩
      · rintro ⟨diagnostics, failed⟩
        cases (answered.symm.trans failed)
      · intro other
        exact other.1 repeated
      · intro other
        exact absurd repeated other
  | server modules other server answered remembered => cases server
  | «local» other isLocal answered =>
      have different : text ≠ dealings.last := by
        rintro rfl
        exact other rfl
      cases answered with
      | failed diagnostics unsound answered remembered =>
          refine ⟨iff_of_false ?_ different, iff_of_true ⟨diagnostics, answered⟩ ?_, ?_⟩
          · intro unchanged
            cases (answered.symm.trans unchanged)
          · exact ⟨different, unsound⟩
          · intro _ accepts
            exact absurd accepts unsound
      | updated analysis accepted sound answered remembered =>
          refine ⟨iff_of_false ?_ different, iff_of_false ?_ ?_, ?_⟩
          · intro unchanged
            cases (answered.symm.trans unchanged)
          · rintro ⟨diagnostics, failed⟩
            cases (answered.symm.trans failed)
          · intro refused
            exact refused.2 ⟨analysis, accepted, sound⟩
          · intro _ _
            exact ⟨acted, analysis, _, found, accepted, answered, renderOnly_between _ _⟩

theorem update_of_dealings_edit :
    Event.dealings? 0 ⟨"/a.es"⟩ [loadPaired] plainBridge none = some ⟨"a", "a"⟩ ∧
      ∃ renderOnly,
        resultOf (update (pairedSetting "b") 0 none ⟨"/a.es"⟩ "b")
            (Event.runAll [loadPaired] plainBridge) =
          .updated [⟨"/a.es", "/a.es"⟩] renderOnly := by
  let asked : Event := ⟨pairedSetting "b", .update 0 none ⟨"/a.es"⟩ "b"⟩
  have normal := normalise_paired "b"
  have undisturbed :
      Undisturbed plainAnalyzer ⟨"/a.es"⟩ plainBridge ([loadPaired] ++ [asked]) := by
    refine undisturbed_paired ?_ ?_
    · simp [loadPaired, asked]
    · simp [loadPaired, asked, Operation.text?]
  refine ⟨dealings?_loadPaired, ?_⟩
  rcases
    update_of_dealings (pairedSetting "b") 0 none ⟨"/a.es"⟩ "b"
      (by rw [normal, normal]; exact undisturbed)
      (by rw [normal, normal]; exact dealings?_loadPaired)
    with ⟨-, -, updated⟩
  rcases updated (by decide) ⟨_, rfl, rfl, nofun⟩ with
    ⟨acted, analysis, renderOnly, actedIs, analysisIs, answered, -⟩
  rcases Except.ok.inj actedIs with rfl
  rcases Except.ok.inj analysisIs with rfl
  rw [normal] at answered
  refine ⟨renderOnly, answered.trans (congrArg (HotUpdate.updated · renderOnly) ?_)⟩
  cbv

end Bridge

end ModuleBridge
