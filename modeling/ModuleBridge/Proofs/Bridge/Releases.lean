import ModuleBridge.Proofs.Bridge.Calls
import ModuleBridge.Proofs.Bridge.Settling

/-!
# Records that are made and released

A record is made by whatever first needs one, also by work that fails afterwards, and what
the analyzer holds for it is released when the records are forgotten.  Until then no other
record is made for its file.  So over a run that ends with the records being forgotten, every
file goes through rounds of a record being made and that record being released.
-/

namespace ModuleBridge

/-! ## Registries that grow -/

namespace Registry

/-- The keys of the records. -/
def keys (registry : Registry) : List Path :=
  registry.records.map Prod.fst

theorem mem_keys_iff {registry : Registry} {key : Path} :
    key ∈ registry.keys ↔ (registry.get? key).isSome := by
  rw [← not_iff_not, Bool.not_eq_true, Option.isSome_eq_false_iff, Option.isNone_iff_eq_none,
    get?, List.lookup_eq_none_iff, keys, List.mem_map, not_exists]
  constructor
  · intro absent entry member
    have apart : ¬(entry.1 = key) := fun same => absent entry ⟨member, same⟩
    simpa using Ne.symm apart
  · rintro absent entry ⟨member, rfl⟩
    simpa using absent entry member

/-- Records are made, each under a key of its own that had none, and none is forgotten. -/
def Grows (before after : Registry) : Prop :=
  ∃ made, after.keys = before.keys ++ made ∧ made.Nodup ∧ ∀ key ∈ made, key ∉ before.keys

theorem grows_of_keys {before after : Registry} (same : after.keys = before.keys) :
    before.Grows after :=
  ⟨[], by rw [same, List.append_nil], List.nodup_nil, nofun⟩

theorem Grows.trans
    {before middle after : Registry} (first : before.Grows middle) (second : middle.Grows after) :
    before.Grows after := by
  rcases first with ⟨made, begun, once, new⟩
  rcases second with ⟨more, ended, onceMore, newer⟩
  refine ⟨made ++ more, ?_, ?_, ?_⟩
  · rw [ended, begun, List.append_assoc]
  · refine List.Nodup.append once onceMore ?_
    intro key earlier later
    refine newer key later ?_
    rw [begun]
    exact List.mem_append_right _ earlier
  · intro key member
    rcases List.mem_append.1 member with earlier | later
    · exact new key earlier
    · intro known
      refine newer key later ?_
      rw [begun]
      exact List.mem_append_left _ known

theorem grows_create (registry : Registry) (key : Path) :
    registry.Grows (registry.create key) := by
  unfold create
  split
  · exact grows_of_keys rfl
  · rename_i unknown
    refine ⟨[key], ?_, List.nodup_singleton key, ?_⟩
    · simp [keys]
    · intro other member
      rw [List.mem_singleton.1 member, mem_keys_iff]
      exact unknown

/-- A record that is put stands under a key that was there. -/
theorem keys_put (registry : Registry) (key : Path) (record : Record) :
    (registry.put key record).keys = registry.keys := by
  rw [keys, put, Entries.set, List.map_map, keys]
  refine List.map_congr_left ?_
  intro entry _
  by_cases same : entry.1 = key
  · simp [same]
  · simp [same]

theorem Touched.grows
    {key : Path} {before after : Registry} (touched : before.Touched key after) :
    before.Grows after := by
  cases touched with
  | created => exact grows_create before key
  | put record => exact grows_of_keys (keys_put before key record)
  | indexed after same => exact grows_of_keys (by rw [keys, same, keys])

theorem grows_takeAll (setting : Setting) (feeds : List Feed) (registry : Registry) :
    registry.Grows (feeds.foldl (Registry.take setting) registry) := by
  induction feeds generalizing registry with
  | nil => exact grows_of_keys rfl
  | cons feed rest inductionHypothesis =>
      have taken : registry.Grows (registry.take setting feed) :=
        (grows_create registry (setting.normalise feed.path)).trans
          (grows_of_keys (keys_put _ _ _))
      exact taken.trans (inductionHypothesis _)

end Registry

/-- The file that a call releases, if it releases one. -/
def Call.released? : Call → Option Path
  | .release path => some path
  | _ => none

namespace Bridge

variable {setting : Setting} {before after bridge : Bridge} {path : Path}

/-! ## Work that makes records -/

/-- Records are made, none is forgotten, and nothing is released. -/
def Gathers (before after : Bridge) : Prop :=
  before.registry.Grows after.registry ∧ Makes (fun call => call.released? = none) before after

instance : IsPreorder Bridge Gathers where
  refl bridge := ⟨Registry.grows_of_keys rfl, refl_of (Makes _) bridge⟩
  trans _ _ _ first second := ⟨first.1.trans second.1, trans_of (Makes _) first.2 second.2⟩

theorem gathers_of_grows
    {registry : Registry} (grows : bridge.registry.Grows registry) (console : Console)
    (schedule : List Interruption) :
    Gathers bridge
      { bridge with registry := registry, console := console, schedule := schedule } :=
  ⟨grows, makes_of_journal rfl⟩

theorem gathers_note {call : Call} (silent : call.released? = none) :
    Keeps Gathers (note call) :=
  fun bridge => ⟨Registry.grows_of_keys rfl, makes_note silent bridge⟩

theorem gathers_bears (setting : Setting) (key : Path) : Bears setting key Gathers where
  prints _ bridge := gathers_of_grows (Registry.grows_of_keys rfl) _ bridge.schedule
  waits moment bridge := by
    rcases endOf_wait setting moment bridge with ⟨console, waited⟩
    rw [waited]
    exact gathers_of_grows (Registry.grows_takeAll setting _ _) console _
  touches bridge _ touched := gathers_of_grows touched.grows bridge.console bridge.schedule
  analyses := gathers_note rfl

theorem gathers_receive (feed : Feed) : Keeps Gathers (receive setting feed) := by
  intro bridge
  rcases endOf_receive setting feed bridge with ⟨console, received⟩
  rw [received]
  exact gathers_of_grows (Registry.grows_takeAll setting [feed] bridge.registry) console _

/-! ## Records that are forgotten -/

/-- Every record is released, in the order in which they were made, and forgotten. -/
theorem endOf_dispose (bridge : Bridge) :
    endOf dispose bridge =
      { bridge with
        journal := bridge.journal ++ bridge.registry.keys.map .release
        registry := bridge.registry.clear } := by
  have notes : ∀ (keys : List Path) (bridge : Bridge),
      endOf (keys.forM fun key => note (.release key)) bridge =
        { bridge with journal := bridge.journal ++ keys.map .release } := by
    intro keys
    induction keys with
    | nil =>
        intro bridge
        rw [List.map_nil, List.append_nil]
        rfl
    | cons key rest inductionHypothesis =>
        intro bridge
        change endOf (rest.forM fun key => note (.release key)) (endOf (note _) bridge) = _
        rw [inductionHypothesis, List.map_cons, List.append_cons]
        rfl
  rw [dispose, endOf_bind, endOf_bind, resultOf_get, endOf_get, notes]
  rfl

/-! ## The turns of one file -/

/-- What happens to the records of a file. -/
inductive RecordTurn where
  | made
  | released
  deriving DecidableEq, Repr

/-- How many records of a file are there after a step that were not there before. -/
def madeFor (path : Path) (before after : Bridge) : Nat :=
  if path ∈ before.registry.keys then 0 else after.registry.keys.count path

/-- How often a file is released in a step. -/
def releasedFor (path : Path) (before after : Bridge) : Nat :=
  ((after.journal.drop before.journal.length).filterMap Call.released?).count path

/-- The turns of a file in a step.  No step both releases and makes records. -/
def turnsOf (path : Path) (before after : Bridge) : List RecordTurn :=
  List.replicate (releasedFor path before after) .released ++
    List.replicate (madeFor path before after) .made

theorem releasedFor_of_gathers (gathers : Gathers before after) :
    releasedFor path before after = 0 := by
  rcases gathers.2 with ⟨calls, journal, silent⟩
  rw [releasedFor, journal, List.drop_left, List.filterMap_eq_nil_iff.2 silent]
  rfl

theorem madeFor_of_gathers (gathers : Gathers before after) :
    madeFor path before after =
      if path ∉ before.registry.keys ∧ path ∈ after.registry.keys then 1 else 0 := by
  rcases gathers.1 with ⟨made, keys, once, new⟩
  by_cases known : path ∈ before.registry.keys
  · simp [madeFor, known]
  · rw [madeFor, if_neg known, keys, List.count_append, List.count_eq_zero.2 known, Nat.zero_add]
    by_cases isMade : path ∈ made
    · simp [known, isMade, List.count_eq_one_of_mem once isMade]
    · simp [known, isMade, List.count_eq_zero.2 isMade]

/-- Work that makes records makes at most one for a file, where there was none. -/
theorem turnsOf_of_gathers (gathers : Gathers before after) :
    turnsOf path before after =
      if path ∉ before.registry.keys ∧ path ∈ after.registry.keys then [.made] else [] := by
  rw [turnsOf, releasedFor_of_gathers gathers, madeFor_of_gathers gathers]
  split <;> rfl

theorem Gathers.keys_subset (gathers : Gathers before after) :
    before.registry.keys ⊆ after.registry.keys := by
  rcases gathers.1 with ⟨made, keys, -, -⟩
  rw [keys]
  exact List.subset_append_left _ _

theorem Gathers.nodup
    (gathers : Gathers before after) (once : before.registry.keys.Nodup) :
    after.registry.keys.Nodup := by
  rcases gathers.1 with ⟨made, keys, onceMade, new⟩
  rw [keys]
  refine List.Nodup.append once onceMade ?_
  exact fun key known isMade => new key isMade known

/-- A file is released once when the records are forgotten, if it has one. -/
theorem turnsOf_dispose (once : bridge.registry.keys.Nodup) :
    turnsOf path bridge (endOf dispose bridge) =
      if path ∈ bridge.registry.keys then [.released] else [] := by
  have released :
      ∀ keys : List Path, (keys.map Call.release).filterMap Call.released? = keys := by
    intro keys
    rw [List.filterMap_map]
    exact List.filterMap_some
  have nothingMade : madeFor path bridge (endOf dispose bridge) = 0 := by
    rw [madeFor, endOf_dispose]
    split <;> rfl
  rw [turnsOf, nothingMade, releasedFor, endOf_dispose, List.drop_left, released]
  by_cases known : path ∈ bridge.registry.keys
  · rw [if_pos known, List.count_eq_one_of_mem once known]
    rfl
  · rw [if_neg known, List.count_eq_zero.2 known]
    rfl

end Bridge

/-! ## Runs -/

/-- Something that the registry is asked for. -/
inductive Chore where
  | opens (path : Path)
  | ready (path : Path)
  | invalidate (path : Path) (text : String)
  | observe (path : Path) (text : String) (observer : Observer)
  | dispose

namespace Chore

open Bridge

variable {setting : Setting} {path : Path} {bridge : Bridge}

/-- The bridge after a chore. -/
def run (setting : Setting) (bridge : Bridge) : Chore → Bridge
  | .opens path => endOf (openRecord setting path) bridge
  | .ready path => endOf (Bridge.ready setting path).run bridge
  | .invalidate path text => endOf (Bridge.invalidate setting path text) bridge
  | .observe path text observer => endOf (Bridge.observe setting path text observer) bridge
  | .dispose => endOf Bridge.dispose bridge

/-- The bridge after chores one after another. -/
def runAll (setting : Setting) (chores : List Chore) (bridge : Bridge) : Bridge :=
  chores.foldl (run setting) bridge

/-- The turns of a file while chores are done one after another. -/
def turns (setting : Setting) (path : Path) : List Chore → Bridge → List RecordTurn
  | [], _ => []
  | chore :: rest, bridge =>
    turnsOf path bridge (chore.run setting bridge) ++
      turns setting path rest (chore.run setting bridge)

theorem gathers_run {chore : Chore} (undisposed : chore ≠ .dispose) :
    Gathers bridge (chore.run setting bridge) := by
  cases chore with
  | opens path => exact (gathers_bears setting _).openRecord rfl bridge
  | ready path => exact (gathers_bears setting _).ready rfl bridge
  | invalidate path text => exact gathers_receive ⟨path, text, none⟩ bridge
  | observe path text observer => exact gathers_receive ⟨path, text, some observer⟩ bridge
  | dispose => exact absurd rfl undisposed

theorem journal_run (setting : Setting) (bridge : Bridge) (chore : Chore) :
    bridge.journal <+: (chore.run setting bridge).journal := by
  by_cases disposes : chore = .dispose
  · subst disposes
    rw [run, endOf_dispose]
    exact List.prefix_append _ _
  · rcases (gathers_run disposes).2 with ⟨calls, journal, -⟩
    rw [journal]
    exact List.prefix_append _ _

theorem journal_runAll (setting : Setting) (chores : List Chore) (bridge : Bridge) :
    bridge.journal <+: (runAll setting chores bridge).journal := by
  induction chores generalizing bridge with
  | nil => exact List.prefix_rfl
  | cons chore rest inductionHypothesis =>
      exact (journal_run setting bridge chore).trans (inductionHypothesis _)

/-- What one step after another releases is what the whole run releases. -/
theorem count_released_turns (setting : Setting) (path : Path) (chores : List Chore)
    (bridge : Bridge) :
    (turns setting path chores bridge).count .released =
      releasedFor path bridge (runAll setting chores bridge) := by
  induction chores generalizing bridge with
  | nil =>
      rw [runAll, List.foldl_nil, releasedFor, List.drop_length]
      rfl
  | cons chore rest inductionHypothesis =>
      have inStep :
          (turnsOf path bridge (chore.run setting bridge)).count .released =
            releasedFor path bridge (chore.run setting bridge) := by
        simp [turnsOf, List.count_replicate]
      rw [turns, List.count_append, inStep, inductionHypothesis]
      rcases journal_run setting bridge chore with ⟨calls, begun⟩
      rcases journal_runAll setting rest (chore.run setting bridge) with ⟨more, ended⟩
      change _ = releasedFor path bridge (runAll setting rest (chore.run setting bridge))
      simp only [releasedFor, ← ended, ← begun, List.append_assoc, List.drop_left,
        List.filterMap_append, List.count_append]
      rw [← List.append_assoc, List.drop_left]

/-- A run in which the records are forgotten at last: first what is there already is released. -/
theorem turns_of_nodup (setting : Setting) (path : Path) (chores : List Chore)
    (once : bridge.registry.keys.Nodup) :
    ∃ rounds,
      turns setting path (chores ++ [.dispose]) bridge =
        (if path ∈ bridge.registry.keys then [.released] else []) ++
          (List.replicate rounds [RecordTurn.made, .released]).flatten := by
  induction chores generalizing bridge with
  | nil =>
      refine ⟨0, ?_⟩
      rw [List.nil_append, turns, turns, run, turnsOf_dispose once]
      rfl
  | cons chore rest inductionHypothesis =>
      by_cases disposes : chore = .dispose
      · subst disposes
        have nothing : (run setting bridge .dispose).registry.keys = [] := by
          rw [run, endOf_dispose]
          rfl
        have onceThen : (run setting bridge .dispose).registry.keys.Nodup := by
          rw [nothing]
          exact List.nodup_nil
        rcases inductionHypothesis onceThen with ⟨rounds, later⟩
        refine ⟨rounds, ?_⟩
        rw [nothing, if_neg List.not_mem_nil, List.nil_append] at later
        rw [List.cons_append, turns, later, run, turnsOf_dispose once]
      · have gathers : Gathers bridge (chore.run setting bridge) := gathers_run disposes
        rcases inductionHypothesis (gathers.nodup once) with ⟨rounds, later⟩
        rw [List.cons_append, turns, later, turnsOf_of_gathers gathers]
        by_cases known : path ∈ bridge.registry.keys
        · refine ⟨rounds, ?_⟩
          rw [if_neg fun made => made.1 known, if_pos known, if_pos (gathers.keys_subset known)]
          rfl
        · by_cases made : path ∈ (chore.run setting bridge).registry.keys
          · refine ⟨rounds + 1, ?_⟩
            rw [if_pos ⟨known, made⟩, if_neg known, if_pos made]
            rfl
          · refine ⟨rounds, ?_⟩
            rw [if_neg fun isMade => made isMade.2, if_neg known, if_neg made]
            rfl

/--
Chores are done from a bridge without records until the records are forgotten at last.  Then
every file goes through rounds of a record being made and released; so each record is released
after it was made and before the next one of its file is made, and the analyzer is told to
release a file as often as records were made for it.  Whenever the records are forgotten,
neither records nor imports are left.
-/
theorem released_once (setting : Setting) (chores : List Chore)
    (fresh : bridge.registry = .empty) (path : Path) :
    let story := chores ++ [.dispose]
    (∃ rounds,
      turns setting path story bridge =
        (List.replicate rounds [RecordTurn.made, .released]).flatten) ∧
      releasedFor path bridge (runAll setting story bridge) =
        (turns setting path story bridge).count .made ∧
      ∀ earlier later, story = earlier ++ .dispose :: later →
        let forgotten := runAll setting (earlier ++ [.dispose]) bridge
        forgotten.registry.records = [] ∧ forgotten.registry.graph = .empty := by
  intro story
  have nothing : bridge.registry.keys = [] := by
    rw [fresh]
    rfl
  have once : bridge.registry.keys.Nodup := by
    rw [nothing]
    exact List.nodup_nil
  rcases turns_of_nodup setting path chores once with ⟨rounds, alternates⟩
  rw [nothing, if_neg List.not_mem_nil, List.nil_append] at alternates
  refine ⟨⟨rounds, alternates⟩, ?_, ?_⟩
  · rw [← count_released_turns, alternates]
    simp [List.count_flatten]
  · intro earlier later _
    rw [runAll, List.foldl_append, List.foldl_cons, List.foldl_nil, run, endOf_dispose]
    exact ⟨rfl, rfl⟩

/-- A file that cannot be made ready, and is opened again after the records were forgotten. -/
def twoRounds : List Chore :=
  [.ready ⟨"/a.es"⟩, .ready ⟨"/a.es"⟩, .dispose, .dispose, .opens ⟨"/a.es"⟩, .opens ⟨"/b.es"⟩]

theorem released_once_twoRounds :
    let setting := plainSetting plainAnalyzer
    let story := twoRounds ++ [.dispose]
    plainBridge.registry = .empty ∧
      turns setting ⟨"/a.es"⟩ story plainBridge = [.made, .released, .made, .released] ∧
      releasedFor ⟨"/a.es"⟩ plainBridge (runAll setting story plainBridge) = 2 := by
  intro setting story
  have evaluated :
      turns setting ⟨"/a.es"⟩ story plainBridge = [.made, .released, .made, .released] := by
    cbv
  have fresh : plainBridge.registry = .empty := rfl
  rcases released_once setting twoRounds fresh ⟨"/a.es"⟩ with ⟨-, told, -⟩
  refine ⟨fresh, evaluated, ?_⟩
  rw [told, evaluated]
  rfl

end Chore

end ModuleBridge
