import ModuleBridge.Bridge
import Mathlib.Order.Defs.Unbundled

/-!
# Reasoning about work

Work from a bridge returns a result and leaves a bridge.  The equations here
take both apart along the binds of a program; work that may fail goes on only
after a success.

A relation between bridges that is reflexive and transitive is kept by a program
when each of its parts keeps it, whatever the parts return.
-/

namespace ModuleBridge.Bridge

variable {α β : Type}

/-! ## Results and ends -/

-- The equations for results are proved by `(rfl)`: as definitional ones they would
-- leave the instance behind a condition on a result as it was.

/-- What work from a bridge returns. -/
def resultOf (work : Work α) (bridge : Bridge) : α :=
  (work.run bridge).1

/-- The bridge that work leaves. -/
def endOf (work : Work α) (bridge : Bridge) : Bridge :=
  (work.run bridge).2

theorem run_bind (work : Work α) (next : α → Work β) (bridge : Bridge) :
    (work >>= next).run bridge =
      (next (resultOf work bridge)).run (endOf work bridge) := rfl

theorem resultOf_of_run
    {work other : Work α} {before after : Bridge}
    (same : work.run before = other.run after) :
    resultOf work before = resultOf other after :=
  congrArg Prod.fst same

theorem endOf_of_run
    {work other : Work α} {before after : Bridge}
    (same : work.run before = other.run after) :
    endOf work before = endOf other after :=
  congrArg Prod.snd same

@[simp]
theorem resultOf_pure (value : α) (bridge : Bridge) :
    resultOf (pure value) bridge = value := (rfl)

@[simp]
theorem endOf_pure (value : α) (bridge : Bridge) :
    endOf (pure value) bridge = bridge := rfl

@[simp]
theorem resultOf_bind (work : Work α) (next : α → Work β) (bridge : Bridge) :
    resultOf (work >>= next) bridge =
      resultOf (next (resultOf work bridge)) (endOf work bridge) := (rfl)

@[simp]
theorem endOf_bind (work : Work α) (next : α → Work β) (bridge : Bridge) :
    endOf (work >>= next) bridge =
      endOf (next (resultOf work bridge)) (endOf work bridge) := rfl

@[simp]
theorem endOf_discard (work : Work α) (bridge : Bridge) :
    endOf (discard work) bridge = endOf work bridge := rfl

@[simp]
theorem resultOf_get (bridge : Bridge) :
    resultOf get bridge = bridge := (rfl)

@[simp]
theorem endOf_get (bridge : Bridge) :
    endOf get bridge = bridge := rfl

@[simp]
theorem endOf_ite
    (condition : Prop) [Decidable condition] (work other : Work α) (bridge : Bridge) :
    endOf (if condition then work else other) bridge =
      if condition then endOf work bridge else endOf other bridge := by
  split <;> rfl

@[simp]
theorem resultOf_ite
    (condition : Prop) [Decidable condition] (work other : Work α) (bridge : Bridge) :
    resultOf (if condition then work else other) bridge =
      if condition then resultOf work bridge else resultOf other bridge := by
  split <;> rfl

/-! ## Work that may fail -/

@[simp]
theorem run_lift_bind (work : Work α) (next : α → Attempt β) :
    (liftM work >>= next : Attempt β).run = work >>= fun value => (next value).run := rfl

@[simp]
theorem run_get_bind (next : Bridge → Attempt β) :
    (get >>= next : Attempt β).run = get >>= fun bridge => (next bridge).run := rfl

/-- An attempt that fails ends the program. -/
theorem attempt_of_error
    {attempt : Attempt α} {bridge : Bridge} {fault : Fault}
    (failed : resultOf attempt.run bridge = .error fault)
    (next : α → Attempt β) :
    resultOf (attempt >>= next).run bridge = .error fault ∧
      endOf (attempt >>= next).run bridge = endOf attempt.run bridge := by
  rw [ExceptT.run_bind, resultOf_bind, endOf_bind, failed]
  exact ⟨rfl, rfl⟩

/-- After a success the program goes on with its value. -/
theorem attempt_of_ok
    {attempt : Attempt α} {bridge : Bridge} {value : α}
    (succeeded : resultOf attempt.run bridge = .ok value)
    (next : α → Attempt β) :
    resultOf (attempt >>= next).run bridge =
        resultOf (next value).run (endOf attempt.run bridge) ∧
      endOf (attempt >>= next).run bridge =
        endOf (next value).run (endOf attempt.run bridge) := by
  rw [ExceptT.run_bind, resultOf_bind, endOf_bind, succeeded]
  exact ⟨rfl, rfl⟩

/-! ## Relations that are kept -/

/-- Work leaves a bridge that is related to the one it started from. -/
def Keeps (rel : Bridge → Bridge → Prop) (work : Work α) : Prop :=
  ∀ bridge, rel bridge (endOf work bridge)

theorem keeps_map
    {rel : Bridge → Bridge → Prop} {work : Work α}
    (kept : Keeps rel work) (change : α → β) :
    Keeps rel (change <$> work) :=
  kept

theorem keeps_lift
    {rel : Bridge → Bridge → Prop} {work : Work α}
    (kept : Keeps rel work) :
    Keeps rel (liftM work : Attempt α).run :=
  kept

theorem keeps_ite
    {rel : Bridge → Bridge → Prop} {condition : Prop} [Decidable condition]
    {work other : Work α}
    (first : Keeps rel work) (second : Keeps rel other) :
    Keeps rel (if condition then work else other) := by
  split
  · exact first
  · exact second

section

variable {rel : Bridge → Bridge → Prop} [IsPreorder Bridge rel]

theorem keeps_pure (value : α) : Keeps rel (pure value : Work α) :=
  fun bridge => refl_of rel bridge

theorem keeps_get : Keeps rel get :=
  fun bridge => refl_of rel bridge

theorem keeps_bind
    {work : Work α} {next : α → Work β}
    (first : Keeps rel work) (second : ∀ value, Keeps rel (next value)) :
    Keeps rel (work >>= next) :=
  fun bridge => trans_of rel (first bridge) (second _ _)

/-- Work that is done or not, before a value is returned. -/
theorem keeps_when
    {condition : Prop} [Decidable condition] {work : Work Unit}
    (kept : Keeps rel work) (value : α) :
    Keeps rel (if condition then do work; pure value else pure value) :=
  keeps_ite (keeps_bind kept fun _ => keeps_pure value) (keeps_pure value)

theorem keeps_attempt_pure (value : α) : Keeps rel (pure value : Attempt α).run :=
  fun bridge => refl_of rel bridge

theorem keeps_throw (fault : Fault) : Keeps rel (throw fault : Attempt α).run :=
  fun bridge => refl_of rel bridge

/-- From one bridge: a program is kept when its first part is and the rest from there on. -/
theorem attempt_bind_of
    {attempt : Attempt α} {next : α → Attempt β} {bridge : Bridge}
    (first : rel bridge (endOf attempt.run bridge))
    (second : ∀ value, resultOf attempt.run bridge = .ok value →
      rel (endOf attempt.run bridge) (endOf (next value).run (endOf attempt.run bridge))) :
    rel bridge (endOf (attempt >>= next).run bridge) := by
  cases outcome : resultOf attempt.run bridge with
  | error fault =>
      rw [(attempt_of_error outcome next).2]
      exact first
  | ok value =>
      rw [(attempt_of_ok outcome next).2]
      exact trans_of rel first (second value outcome)

theorem keeps_attempt_bind
    {attempt : Attempt α} {next : α → Attempt β}
    (first : Keeps rel attempt.run) (second : ∀ value, Keeps rel (next value).run) :
    Keeps rel (attempt >>= next).run :=
  fun bridge => attempt_bind_of (first bridge) fun value _ => second value _

theorem keeps_forM
    {items : List α} {body : α → Work Unit}
    (each : ∀ item, Keeps rel (body item)) :
    Keeps rel (items.forM body) := by
  induction items with
  | nil => exact keeps_pure ()
  | cons item rest inductionHypothesis =>
      exact keeps_bind (each item) fun _ => inductionHypothesis

theorem keeps_foldlM
    {items : List α} {body : β → α → Work β}
    (each : ∀ state item, Keeps rel (body state item)) (state : β) :
    Keeps rel (items.foldlM body state) := by
  induction items generalizing state with
  | nil => exact keeps_pure state
  | cons item rest inductionHypothesis =>
      rw [List.foldlM_cons]
      exact keeps_bind (each state item) fun next => inductionHypothesis next

theorem keeps_attempt_forM
    {items : List α} {body : α → Attempt Unit}
    (each : ∀ item, Keeps rel (body item).run) :
    Keeps rel (items.forM body).run := by
  induction items with
  | nil => exact keeps_attempt_pure ()
  | cons item rest inductionHypothesis =>
      exact keeps_attempt_bind (each item) fun _ => inductionHypothesis

theorem keeps_filterM_of_mem
    {items : List α} {test : α → Work Bool}
    (each : ∀ item ∈ items, Keeps rel (test item)) :
    Keeps rel (items.filterM test) := by
  have gathered : ∀ kept, Keeps rel (items.filterAuxM test kept) := by
    induction items with
    | nil => exact fun kept => keeps_pure kept
    | cons item rest inductionHypothesis =>
        have later := fun other member => each other (List.mem_cons_of_mem item member)
        intro kept
        apply keeps_bind (each item List.mem_cons_self)
        intro passes
        exact inductionHypothesis later _
  exact keeps_bind (gathered []) fun _ => keeps_pure _

theorem keeps_filterM
    {items : List α} {test : α → Work Bool}
    (each : ∀ item, Keeps rel (test item)) :
    Keeps rel (items.filterM test) :=
  keeps_filterM_of_mem fun item _ => each item

theorem keeps_mapM_of_mem
    {items : List α} {body : α → Work β}
    (each : ∀ item ∈ items, Keeps rel (body item)) :
    Keeps rel (items.mapM body) := by
  induction items with
  | nil => exact keeps_pure []
  | cons item rest inductionHypothesis =>
      have later := fun other member => each other (List.mem_cons_of_mem item member)
      rw [List.mapM_cons]
      refine keeps_bind (each item List.mem_cons_self) ?_
      intro value
      exact keeps_bind (inductionHypothesis later) fun _ => keeps_pure _

end

/-! ## Records -/

@[simp]
theorem resultOf_recordAt (key : Path) (bridge : Bridge) :
    resultOf (recordAt key) bridge = bridge.registry.find key := (rfl)

@[simp]
theorem endOf_recordAt (key : Path) (bridge : Bridge) :
    endOf (recordAt key) bridge = bridge := rfl

@[simp]
theorem resultOf_record? (setting : Setting) (path : Path) (bridge : Bridge) :
    resultOf (record? setting path) bridge =
      bridge.registry.get? (setting.normalise path) := (rfl)

@[simp]
theorem endOf_record? (setting : Setting) (path : Path) (bridge : Bridge) :
    endOf (record? setting path) bridge = bridge := rfl

@[simp]
theorem endOf_changeRecord (key : Path) (change : Record → Record) (bridge : Bridge) :
    endOf (changeRecord key change) bridge =
      { bridge with
        registry := bridge.registry.put key (change (bridge.registry.find key)) } := rfl

@[simp]
theorem resultOf_updateRecord
    (key : Path) (change : Record → Record × α) (bridge : Bridge) :
    resultOf (updateRecord key change) bridge =
      (change (bridge.registry.find key)).2 := (rfl)

@[simp]
theorem endOf_updateRecord
    (key : Path) (change : Record → Record × α) (bridge : Bridge) :
    endOf (updateRecord key change) bridge =
      { bridge with
        registry := bridge.registry.put key (change (bridge.registry.find key)).1 } := rfl

@[simp]
theorem resultOf_openRecord (setting : Setting) (path : Path) (bridge : Bridge) :
    resultOf (openRecord setting path) bridge = setting.normalise path := (rfl)

@[simp]
theorem endOf_openRecord (setting : Setting) (path : Path) (bridge : Bridge) :
    endOf (openRecord setting path) bridge =
      { bridge with registry := bridge.registry.create (setting.normalise path) } := rfl

section

variable {rel : Bridge → Bridge → Prop} [IsPreorder Bridge rel]

theorem keeps_recordAt (key : Path) : Keeps rel (recordAt key) :=
  fun bridge => refl_of rel bridge

theorem keeps_record? (setting : Setting) (path : Path) : Keeps rel (record? setting path) :=
  fun bridge => refl_of rel bridge

end

/-! ## Work apart from the records -/

/-- Neither the records nor the pipelines nor the schedule differ. -/
structure Apart (before after : Bridge) : Prop where
  plugins : after.plugins = before.plugins
  schedule : after.schedule = before.schedule
  registry : after.registry = before.registry

instance : IsPreorder Bridge Apart where
  refl _ := ⟨rfl, rfl, rfl⟩
  trans _ _ _ first second :=
    ⟨second.plugins.trans first.plugins, second.schedule.trans first.schedule,
      second.registry.trans first.registry⟩

theorem apart_print (show? : Console → Console) : Keeps Apart (print show?) :=
  fun _ => ⟨rfl, rfl, rfl⟩

theorem apart_log (part message : String) : Keeps Apart (log part message) :=
  apart_print _

theorem apart_debug (part message : String) : Keeps Apart (debug part message) :=
  apart_print _

theorem apart_note (call : Call) : Keeps Apart (note call) :=
  fun _ => ⟨rfl, rfl, rfl⟩

theorem apart_watchFile (path : Path) : Keeps Apart (watchFile path) := by
  intro bridge
  let watches := (bridge.watches.addFile path).1
  have added : bridge.Apart { bridge with watches := watches } := ⟨rfl, rfl, rfl⟩
  exact trans_of Apart added (keeps_when (apart_note _) _ _)

theorem apart_watchFolder (path : Path) : Keeps Apart (watchFolder path) := by
  intro bridge
  let watches := (bridge.watches.addFolder path).1
  have added : bridge.Apart { bridge with watches := watches } := ⟨rfl, rfl, rfl⟩
  exact trans_of Apart added (keeps_when (apart_note _) _ _)

theorem apart_watchBuilt (path : Path) : Keeps Apart (watchBuilt path) := by
  intro bridge
  simp only [watchBuilt, endOf_bind, endOf_get, resultOf_get]
  split
  · exact ⟨rfl, rfl, rfl⟩
  · rename_i watches watched
    have added :
        bridge.Apart { bridge with builtWatches? := some (watches.addFile path).1 } :=
      ⟨rfl, rfl, rfl⟩
    exact trans_of Apart added (keeps_when (apart_note _) _ _)

end ModuleBridge.Bridge
