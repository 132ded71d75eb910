import ModuleBridge.Proofs.Bridge.Work
import ModuleBridge.Proofs.Registry

/-!
# Texts that come in while work waits

Where work waits, an interruption of the schedule may bring texts for any files.
Each becomes an action on the record of its file, and nothing else happens but
that lines are printed.
-/

namespace ModuleBridge

/-- The action by which a text comes in. -/
def Feed.action (feed : Feed) : Record.Action :=
  match feed.observer? with
  | none => .feed feed.text
  | some observer => .observe observer feed.text

/-- The registry with a text that came in. -/
def Registry.take (setting : Setting) (registry : Registry) (feed : Feed) : Registry :=
  let key := setting.normalise feed.path
  (registry.create key).put key ((registry.find key).act feed.action)

namespace Bridge

variable {setting : Setting}

/-- The feeds for a file, as actions on its record. -/
def actionsOn (setting : Setting) (key : Path) (feeds : List Feed) : List Record.Action :=
  (feeds.filter fun feed => setting.normalise feed.path = key).map Feed.action

/-- The texts that come in at a moment. -/
def arriving (moment : Moment) (schedule : List Interruption) : List Feed :=
  ((nextAt? moment schedule).map fun next => next.1.feeds).getD []

/-- The schedule after a moment. -/
def left (moment : Moment) (schedule : List Interruption) : List Interruption :=
  ((nextAt? moment schedule).map Prod.snd).getD schedule

/-! ## One text -/

theorem find_take (registry : Registry) (feed : Feed) (key : Path) :
    (registry.take setting feed).find key =
      if setting.normalise feed.path = key then (registry.find key).act feed.action
      else registry.find key := by
  by_cases here : setting.normalise feed.path = key
  · subst here
    rw [if_pos rfl]
    exact Registry.find_put_self (Registry.isSome_create_self registry _) _
  · rw [if_neg here, Registry.take, Registry.find_put_of_ne (Ne.symm here),
      Registry.find_create]

theorem isSome_take
    {registry : Registry} {key : Path} (known : (registry.get? key).isSome) (feed : Feed) :
    ((registry.take setting feed).get? key).isSome :=
  Registry.isSome_put (Registry.isSome_create known _) _ _

/-- A text that comes in is put into its record; at most a line is printed. -/
theorem endOf_receive (setting : Setting) (feed : Feed) (bridge : Bridge) :
    ∃ console,
      endOf (receive setting feed) bridge =
        { bridge with console := console, registry := bridge.registry.take setting feed } := by
  rcases feed with ⟨path, text, observer?⟩
  have found := Registry.find_create bridge.registry (setting.normalise path)
  cases observer? with
  | none =>
      simp only [receive, invalidate, endOf_discard, endOf_bind, endOf_openRecord,
        resultOf_openRecord, endOf_updateRecord, resultOf_updateRecord, found]
      split
      · exact ⟨_, rfl⟩
      · exact ⟨bridge.console, rfl⟩
  | some observer =>
      simp only [receive, observe, endOf_discard, endOf_bind, endOf_openRecord,
        resultOf_openRecord, endOf_updateRecord, resultOf_updateRecord, found]
      split
      · exact ⟨_, rfl⟩
      · exact ⟨bridge.console, rfl⟩

/-! ## All texts of a moment -/

theorem find_takeAll (feeds : List Feed) (registry : Registry) (key : Path) :
    (feeds.foldl (Registry.take setting) registry).find key =
      (actionsOn setting key feeds).foldl Record.act (registry.find key) := by
  induction feeds generalizing registry with
  | nil => rfl
  | cons feed rest inductionHypothesis =>
      rw [List.foldl_cons, inductionHypothesis, find_take]
      by_cases here : setting.normalise feed.path = key
      · simp [actionsOn, here]
      · simp [actionsOn, here]

theorem isSome_takeAll
    (feeds : List Feed) {registry : Registry} {key : Path}
    (known : (registry.get? key).isSome) :
    ((feeds.foldl (Registry.take setting) registry).get? key).isSome := by
  induction feeds generalizing registry with
  | nil => exact known
  | cons feed rest inductionHypothesis =>
      exact inductionHypothesis (isSome_take known feed)

theorem analyses_takeAll (feeds : List Feed) (registry : Registry) :
    (feeds.foldl (Registry.take setting) registry).analyses = registry.analyses := by
  induction feeds generalizing registry with
  | nil => rfl
  | cons feed rest inductionHypothesis =>
      rw [List.foldl_cons, inductionHypothesis]
      simp only [Registry.take, Registry.put, Registry.create]
      split <;> rfl

theorem endOf_receiveAll (setting : Setting) (feeds : List Feed) (bridge : Bridge) :
    ∃ console,
      endOf (feeds.forM (receive setting)) bridge =
        { bridge with
          console := console
          registry := feeds.foldl (Registry.take setting) bridge.registry } := by
  induction feeds generalizing bridge with
  | nil => exact ⟨bridge.console, rfl⟩
  | cons feed rest inductionHypothesis =>
      rcases endOf_receive setting feed bridge with ⟨first, received⟩
      rcases inductionHypothesis (endOf (receive setting feed) bridge) with ⟨last, others⟩
      refine ⟨last, ?_⟩
      change
        endOf (rest.forM (receive setting)) (endOf (receive setting feed) bridge) = _
      rw [others, received]
      rfl

/-- Where work waits, the texts of the moment come in, and the schedule gets shorter. -/
theorem endOf_wait (setting : Setting) (moment : Moment) (bridge : Bridge) :
    ∃ console,
      endOf (wait setting moment) bridge =
        { bridge with
          console := console
          schedule := left moment bridge.schedule
          registry :=
            (arriving moment bridge.schedule).foldl (Registry.take setting)
              bridge.registry } := by
  rw [wait, endOf_bind, resultOf_get, endOf_get, arriving, left]
  cases nextAt? moment bridge.schedule with
  | none => exact ⟨bridge.console, rfl⟩
  | some next =>
      rcases next with ⟨interruption, rest⟩
      obtain ⟨console, received⟩ :=
        endOf_receiveAll setting interruption.feeds
          { bridge with schedule := rest }
      exact ⟨console, received⟩

/-! ## The schedule -/

/-- An interruption that comes is taken out of the schedule, and the others stay. -/
theorem nextAt?_some
    {moment : Moment} {schedule rest : List Interruption} {interruption : Interruption}
    (found : nextAt? moment schedule = some (interruption, rest)) :
    schedule.length = rest.length + 1 ∧ interruption ∈ schedule ∧ rest ⊆ schedule := by
  induction schedule generalizing rest with
  | nil => cases found
  | cons first others inductionHypothesis =>
      rw [nextAt?] at found
      split at found
      · rcases Prod.mk.inj (Option.some.inj found) with ⟨rfl, rfl⟩
        exact ⟨rfl, List.mem_cons_self, List.subset_cons_self _ _⟩
      · rcases Option.map_eq_some_iff.1 found with ⟨⟨next, later⟩, foundLater, same⟩
        rcases Prod.mk.inj same with ⟨rfl, rfl⟩
        rcases inductionHypothesis foundLater with ⟨length, present, kept⟩
        refine ⟨?_, List.mem_cons_of_mem first present, List.cons_subset_cons first kept⟩
        rw [List.length_cons, List.length_cons, length]

theorem left_subset (moment : Moment) (schedule : List Interruption) :
    left moment schedule ⊆ schedule := by
  rw [left]
  cases found : nextAt? moment schedule with
  | none => exact List.Subset.refl schedule
  | some next => exact (nextAt?_some found).2.2

theorem length_left_le (moment : Moment) (schedule : List Interruption) :
    (left moment schedule).length ≤ schedule.length := by
  rw [left]
  cases found : nextAt? moment schedule with
  | none => exact Nat.le_refl _
  | some next =>
      have length := (nextAt?_some found).1
      exact Nat.le_of_lt (by simp only [Option.map_some, Option.getD_some]; omega)

theorem length_left_lt
    {moment : Moment} {schedule : List Interruption}
    (arrived : arriving moment schedule ≠ []) :
    (left moment schedule).length < schedule.length := by
  rw [arriving] at arrived
  rw [left]
  cases found : nextAt? moment schedule with
  | none =>
      rw [found] at arrived
      exact absurd rfl arrived
  | some next =>
      have length := (nextAt?_some found).1
      simp only [Option.map_some, Option.getD_some]
      omega

theorem mem_arriving
    {moment : Moment} {schedule : List Interruption} {feed : Feed}
    (arrived : feed ∈ arriving moment schedule) :
    ∃ interruption ∈ schedule, feed ∈ interruption.feeds := by
  rw [arriving] at arrived
  cases found : nextAt? moment schedule with
  | none =>
      rw [found] at arrived
      cases arrived
  | some next =>
      rw [found] at arrived
      exact ⟨next.1, (nextAt?_some found).2.1, arrived⟩

end Bridge

end ModuleBridge
