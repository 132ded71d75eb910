import ModuleBridge.Record
import Mathlib.Logic.Relation

/-!
# Coherent records

Everything that happens to a record is one of seven actions.  The main lemma on
an action says all that it can do to the fields that depend on the text: keep
them, replace the text and clear what was derived, keep a new analysis, or keep
a new artifact.

A record is coherent when its digest is that of its text, its analysis was made
from that text, and its artifact was built from a view of that text at the
present revision.  Coherence survives every action whose result, when it is
still accepted, was made from the text that is there.
-/

namespace ModuleBridge.Record

/-! ## Actions -/

/-- What can happen to a record. -/
inductive Action where
  /-- A text comes in. -/
  | feed (text : String)
  /-- A text comes in on behalf of an observer. -/
  | observe (observer : Observer) (text : String)
  | markSeen (observer : Observer) (revision : Nat)
  | storeAnalysis (revision : Nat) (analysis : Analysis) (sections : Snapshot)
  | storeBuild (slot : Slot)
  | setWatch (watch : WatchState)
  | markWatched
  deriving DecidableEq, Repr

/-- The record after an action. -/
def act (record : Record) : Action → Record
  | .feed text => (record.feed text).1
  | .observe observer text => (record.observe observer text).1
  | .markSeen observer revision => record.markSeen observer revision
  | .storeAnalysis revision analysis sections =>
    (record.storeAnalysis revision analysis sections).1
  | .storeBuild slot => (record.storeBuild slot).1
  | .setWatch watch => record.setWatch watch
  | .markWatched => record.markWatched

/-- The text that comes in with an action. -/
def Action.text? : Action → Option String
  | .feed text | .observe _ text => some text
  | _ => none

/-- The observer whose memory an action may change. -/
def Action.observer? : Action → Option Observer
  | .observe observer _ | .markSeen observer _ => some observer
  | _ => none

/-! ## The core of a record -/

/-- The record without its watch state and without what observers remember. -/
def core (record : Record) : Record :=
  { record with watch := .unwatched, memories := [] }

@[simp]
theorem core_setWatch (record : Record) (watch : WatchState) :
    (record.setWatch watch).core = record.core := rfl

@[simp]
theorem core_markWatched (record : Record) :
    record.markWatched.core = record.core := by
  rw [markWatched]
  split <;> rfl

theorem markWatched_markWatched (record : Record) :
    record.markWatched.markWatched = record.markWatched := by
  by_cases unwatched : record.watch = .unwatched
  · simp [markWatched, unwatched, setWatch]
  · simp [markWatched, unwatched]

@[simp]
theorem core_markSeen
    (record : Record) (observer : Observer) (revision : Nat) :
    (record.markSeen observer revision).core = record.core := by
  rw [markSeen]
  split
  · split <;> rfl
  · rfl

@[simp]
theorem core_observe
    (record : Record) (observer : Observer) (text : String) :
    (record.observe observer text).1.core =
      (record.replace text (Digest.of text)).core := by
  rw [observe]
  cases record.memory? observer <;> rfl

/-- Records with one core agree in all that depends on the text. -/
theorem fields_of_core_eq
    {left right : Record} (same : left.core = right.core) :
    left.source? = right.source? ∧ left.digest? = right.digest? ∧
      left.revision = right.revision ∧ left.analysed? = right.analysed? ∧
      left.slot? = right.slot? := by
  simp only [core, mk.injEq] at same
  rcases same with ⟨-, source, digest, revision, analysed, slot, -⟩
  exact ⟨source, digest, revision, analysed, slot⟩

/-- The record as it is when a text with another digest has come in. -/
def renewed (record : Record) (text : String) : Record :=
  { record with
    source? := some text
    digest? := some (Digest.of text)
    revision := record.revision + 1
    analysed? := none
    slot? := none }

theorem replace_of_digest_ne
    {record : Record} {text : String}
    (other : record.digest? ≠ some (Digest.of text)) :
    record.replace text (Digest.of text) = record.renewed text := by
  simp [replace, other, renewed]

/-! ## What an action does -/

/--
All that an action can do to the core of a record: `Effect record action after`
lists the possible cores `after`, each with the condition under which it arises.
-/
inductive Effect (record : Record) : Action → Record → Prop where
  | kept {action : Action} :
      Effect record action record.core
  | renewed
      {action : Action} (text : String)
      (incoming : action.text? = some text)
      (other : record.digest? ≠ some (Digest.of text)) :
      Effect record action (record.renewed text).core
  | analysed
      (revision : Nat) (analysis : Analysis) (sections : Snapshot)
      (digest : Digest)
      (known : record.digest? = some digest)
      (current : record.revision = revision) :
      Effect record (.storeAnalysis revision analysis sections)
        { record with analysed? := some ⟨digest, analysis, sections⟩ }.core
  | built
      (slot : Slot)
      (current : record.revision = slot.revision)
      (analysed : record.analysed?.isSome) :
      Effect record (.storeBuild slot) { record with slot? := some slot }.core

/-- A text that comes in is the one there is, or renews the record. -/
theorem effect_of_text
    {record : Record} {action : Action} {text : String}
    (incoming : action.text? = some text)
    (core : (record.act action).core =
      (record.replace text (Digest.of text)).core) :
    Effect record action (record.act action).core := by
  rw [core]
  by_cases same : record.digest? = some (Digest.of text)
  · rw [replace_of_digest same]
    exact .kept
  · rw [replace_of_digest_ne same]
    exact .renewed text incoming same

theorem effect_act (record : Record) (action : Action) :
    Effect record action (record.act action).core := by
  cases action with
  | feed text =>
      exact effect_of_text rfl rfl
  | observe observer text =>
      exact effect_of_text rfl (core_observe record observer text)
  | markSeen observer revision =>
      rw [act, core_markSeen]
      exact .kept
  | storeAnalysis revision analysis sections =>
      simp only [act, storeAnalysis]
      split
      · rename_i digest known
        split
        · rename_i current
          exact .analysed revision analysis sections digest known current
        · exact .kept
      · exact .kept
  | storeBuild slot =>
      simp only [act, storeBuild]
      split
      · rename_i accepted
        exact .built slot accepted.1 accepted.2
      · exact .kept
  | setWatch watch =>
      exact .kept
  | markWatched =>
      rw [act, core_markWatched]
      exact .kept

/-! ## Revisions and texts -/

/-- The revision is never counted down, and a text keeps its revision. -/
theorem revision_act (record : Record) (action : Action) :
    record.revision ≤ (record.act action).revision ∧
      ((record.act action).revision = record.revision →
        (record.act action).source? = record.source?) := by
  have effect := effect_act record action
  change
    record.revision ≤ (record.act action).core.revision ∧
      ((record.act action).core.revision = record.revision →
        (record.act action).core.source? = record.source?)
  generalize (record.act action).core = after at effect ⊢
  cases effect with
  | kept => exact ⟨Nat.le_refl _, fun _ => rfl⟩
  | renewed text incoming other =>
      refine ⟨Nat.le_succ _, ?_⟩
      intro current
      exact absurd current (Nat.succ_ne_self _)
  | analysed => exact ⟨Nat.le_refl _, fun _ => rfl⟩
  | built => exact ⟨Nat.le_refl _, fun _ => rfl⟩

/-- Only an action with a text brings another text. -/
theorem source?_act_of_no_text
    {action : Action} (silent : action.text? = none) (record : Record) :
    (record.act action).source? = record.source? := by
  have effect := effect_act record action
  change (record.act action).core.source? = record.source?
  generalize (record.act action).core = after at effect ⊢
  cases effect with
  | kept => rfl
  | renewed text incoming other =>
      rw [silent] at incoming
      cases incoming
  | analysed => rfl
  | built => rfl

/-- Only an action with a text begins another revision. -/
theorem revision_act_of_no_text
    {action : Action} (silent : action.text? = none) (record : Record) :
    (record.act action).revision = record.revision := by
  have effect := effect_act record action
  change (record.act action).core.revision = record.revision
  generalize (record.act action).core = after at effect ⊢
  cases effect with
  | kept => rfl
  | renewed text incoming other =>
      rw [silent] at incoming
      cases incoming
  | analysed => rfl
  | built => rfl

/-! ## Texts that stand for a revision -/

/-- A text stands for a revision: it is no newer, and it is the text of that revision. -/
def Dated (record : Record) (text : String) (revision : Nat) : Prop :=
  revision ≤ record.revision ∧
    (record.revision = revision → record.source? = some text)

/-- What stands for a revision goes on standing for it. -/
theorem dated_act
    {record : Record} {text : String} {revision : Nat}
    (dated : Dated record text revision) (action : Action) :
    Dated (record.act action) text revision := by
  rcases dated with ⟨older, sourceOfRevision⟩
  rcases revision_act record action with ⟨later, sameSource⟩
  refine ⟨Nat.le_trans older later, ?_⟩
  intro current
  have unchanged : (record.act action).revision = record.revision := by
    omega
  rw [sameSource unchanged]
  exact sourceOfRevision (by omega)

/-- A text that is held is the one to be analysed, for the current revision. -/
theorem pending?_of_source?
    {record : Record} {text : String} (held : record.source? = some text) :
    record.pending? = some (text, record.revision) := by
  rw [pending?, held]
  rfl

theorem dated_of_pending
    {record : Record} {pending : String × Nat}
    (asked : record.pending? = some pending) :
    Dated record pending.1 pending.2 := by
  rcases Option.map_eq_some_iff.1 asked with ⟨text, source, rfl⟩
  exact ⟨Nat.le_refl _, fun _ => source⟩

theorem dated_of_view
    {record : Record} {view : View}
    (asked : record.view? = some view) :
    Dated record view.source view.revision := by
  simp only [view?, Option.bind_eq_bind, Option.bind_eq_some_iff] at asked
  rcases asked with ⟨analysed, -, source, held, built⟩
  rcases Option.some.inj built with rfl
  exact ⟨Nat.le_refl _, fun _ => held⟩

/-! ## Memories -/

/-- An action leaves the memory of every observer but its own alone. -/
theorem memory?_act_of_ne
    {action : Action} {observer : Observer}
    (foreign : action.observer? ≠ some observer) (record : Record) :
    (record.act action).memory? observer = record.memory? observer := by
  cases action with
  | feed text =>
      simp only [act, feed, replace]
      split <;> rfl
  | observe other text =>
      have different : observer ≠ other := by
        rintro rfl
        exact foreign rfl
      simp only [act, observe]
      rw [memory?_remember_of_ne different]
      simp only [replace]
      split <;> rfl
  | markSeen other revision =>
      have different : observer ≠ other := by
        rintro rfl
        exact foreign rfl
      simp only [act, markSeen]
      split
      · split
        · exact memory?_remember_of_ne different record _
        · rfl
      · rfl
  | storeAnalysis revision analysis sections =>
      simp only [act, storeAnalysis]
      split
      · split <;> rfl
      · rfl
  | storeBuild slot =>
      simp only [act, storeBuild]
      split <;> rfl
  | setWatch watch => rfl
  | markWatched =>
      simp only [act, markWatched]
      split <;> rfl

/-! ## Coherence -/

/--
Where results come from: `made text analysis sections` says that an analysis and
its sections were made from a text, `built view slot` that an artifact was built
from a view.
-/
structure Provenance where
  made : String → Analysis → Snapshot → Prop
  built : View → Slot → Prop

/-- All that is derived was derived from the text that is there. -/
structure Coherent (origin : Provenance) (record : Record) : Prop where
  digest : record.digest? = record.source?.map Digest.of
  analysed :
    ∀ analysed, record.analysed? = some analysed →
      ∃ text, record.source? = some text ∧
        analysed.digest = Digest.of text ∧
        origin.made text analysed.analysis analysed.sections
  built :
    ∀ slot, record.slot? = some slot →
      record.analysed?.isSome ∧ slot.revision = record.revision ∧
        ∃ view, record.source? = some view.source ∧
          view.revision = slot.revision ∧ origin.built view slot

/-- A result that is still accepted was made from the text that is there. -/
def Timely (origin : Provenance) (record : Record) : Action → Prop
  | .storeAnalysis revision analysis sections =>
    record.revision = revision →
      ∃ text, record.source? = some text ∧ origin.made text analysis sections
  | .storeBuild slot =>
    record.revision = slot.revision →
      ∃ view, record.source? = some view.source ∧
        view.revision = slot.revision ∧ origin.built view slot
  | _ => True

theorem coherent_core_iff {origin : Provenance} {record : Record} :
    record.core.Coherent origin ↔ record.Coherent origin :=
  ⟨fun coherent => ⟨coherent.digest, coherent.analysed, coherent.built⟩,
    fun coherent => ⟨coherent.digest, coherent.analysed, coherent.built⟩⟩

theorem coherent_fresh (origin : Provenance) (path : Path) :
    (fresh path).Coherent origin where
  digest := rfl
  analysed := nofun
  built := nofun

/-- A renewed record is coherent, since nothing is derived yet. -/
theorem coherent_renewed (origin : Provenance) (record : Record) (text : String) :
    (record.renewed text).Coherent origin where
  digest := rfl
  analysed := nofun
  built := nofun

namespace Coherent

variable {origin : Provenance} {record : Record}

/-- Coherence survives every timely action. -/
theorem act
    (coherent : record.Coherent origin)
    {action : Action} (timely : record.Timely origin action) :
    (record.act action).Coherent origin := by
  rw [← coherent_core_iff]
  have effect := effect_act record action
  generalize (record.act action).core = after at effect ⊢
  cases effect with
  | kept => exact coherent_core_iff.2 coherent
  | renewed text incoming other =>
      exact coherent_core_iff.2 (coherent_renewed origin record text)
  | analysed revision analysis sections digest known current =>
      rw [coherent_core_iff]
      rcases timely current with ⟨text, source, made⟩
      have digestOfText : digest = Digest.of text := by
        have fromText := coherent.digest
        rw [known, source] at fromText
        exact Option.some.inj fromText
      refine ⟨coherent.digest, ?_, ?_⟩
      · rintro _ ⟨⟩
        exact ⟨text, source, digestOfText, made⟩
      · intro slot stored
        exact ⟨rfl, (coherent.built slot stored).2⟩
  | built slot current analysed =>
      rw [coherent_core_iff]
      refine ⟨coherent.digest, coherent.analysed, ?_⟩
      rintro _ ⟨⟩
      exact ⟨analysed, current.symm, timely current⟩

/-- A coherent record is valid exactly when there is an analysis. -/
theorem isValid_iff (coherent : record.Coherent origin) :
    record.isValid = true ↔ record.analysed?.isSome := by
  cases stored : record.analysed? with
  | none => simp [isValid, stored]
  | some analysed =>
      rcases coherent.analysed analysed stored with ⟨text, source, digest, -⟩
      simp [isValid, stored, coherent.digest, source, digest]

theorem isValid_of_unknown
    (coherent : record.Coherent origin) (unknown : record.source? = none) :
    record.isValid = false := by
  have digest : record.digest? = none := by
    rw [coherent.digest, unknown]
    rfl
  rw [isValid]
  rw [digest]
  cases record.analysed? <;> rfl

/-- The text there is, coming in again, changes nothing that depends on it. -/
theorem core_act_of_same
    (coherent : record.Coherent origin)
    {action : Action} {text : String}
    (incoming : action.text? = some text)
    (held : record.source? = some text) :
    (record.act action).core = record.core := by
  have effect := effect_act record action
  generalize (record.act action).core = after at effect ⊢
  cases effect with
  | kept => rfl
  | renewed other incomingOther different =>
      have sameText : other = text := by
        rw [incoming] at incomingOther
        exact (Option.some.inj incomingOther).symm
      subst other
      rw [coherent.digest, held] at different
      exact absurd rfl different
  | analysed => cases incoming
  | built => cases incoming

theorem mono
    {wider : Provenance}
    (coherent : record.Coherent origin)
    (made : ∀ text analysis sections,
      origin.made text analysis sections → wider.made text analysis sections)
    (built : ∀ view slot, origin.built view slot → wider.built view slot) :
    record.Coherent wider where
  digest := coherent.digest
  analysed := by
    intro analysed stored
    rcases coherent.analysed analysed stored with ⟨text, source, digest, fromText⟩
    exact ⟨text, source, digest, made _ _ _ fromText⟩
  built := by
    intro slot stored
    rcases coherent.built slot stored with ⟨present, current, view, source, revision, fromView⟩
    exact ⟨present, current, view, source, revision, built _ _ fromView⟩

end Coherent

/-! ## Evolution -/

/-- One action after another, each permitted by a law where it happens. -/
def Evolves (law : Record → Action → Prop) : Record → Record → Prop :=
  Relation.ReflTransGen fun before after =>
    ∃ action, law before action ∧ after = before.act action

namespace Evolves

variable {law : Record → Action → Prop} {before after : Record}

theorem single {record : Record} {action : Action} (permitted : law record action) :
    Evolves law record (record.act action) :=
  Relation.ReflTransGen.single ⟨action, permitted, rfl⟩

/-- What every permitted action keeps, an evolution keeps. -/
theorem keeps
    {holds : Record → Prop}
    (step : ∀ record action, law record action → holds record → holds (record.act action))
    (evolves : Evolves law before after)
    (start : holds before) :
    holds after := by
  induction evolves with
  | refl => exact start
  | tail _ last inductionHypothesis =>
      rcases last with ⟨action, permitted, rfl⟩
      exact step _ action permitted inductionHypothesis

theorem mono
    {wider : Record → Action → Prop}
    (evolves : Evolves law before after)
    (permits : ∀ record action, law record action → wider record action) :
    Evolves wider before after := by
  refine Relation.ReflTransGen.mono ?_ _ _ evolves
  rintro earlier later ⟨action, permitted, rfl⟩
  exact ⟨action, permits earlier action permitted, rfl⟩

theorem coherent
    {origin : Provenance}
    (evolves : Evolves law before after)
    (timely : ∀ record action, law record action → record.Timely origin action)
    (start : before.Coherent origin) :
    after.Coherent origin :=
  evolves.keeps (fun record action permitted held =>
    held.act (timely record action permitted)) start

theorem dated
    {text : String} {revision : Nat}
    (evolves : Evolves law before after) (start : Dated before text revision) :
    Dated after text revision := by
  have step :
      ∀ record action, law record action →
        Dated record text revision → Dated (record.act action) text revision := by
    intro record action _ held
    exact dated_act held action
  exact evolves.keeps step start

/-- An observer on whose behalf nothing happens remembers what it did. -/
theorem memory?_eq
    {observer : Observer}
    (evolves : Evolves law before after)
    (foreign : ∀ record action, law record action → action.observer? ≠ some observer) :
    after.memory? observer = before.memory? observer := by
  have step :
      ∀ record action, law record action →
        record.memory? observer = before.memory? observer →
          (record.act action).memory? observer = before.memory? observer := by
    intro record action permitted same
    rw [memory?_act_of_ne (foreign record action permitted), same]
  exact evolves.keeps step rfl

end Evolves

end ModuleBridge.Record
