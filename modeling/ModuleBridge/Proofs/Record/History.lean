import ModuleBridge.Proofs.Record.Coherence

/-!
# Histories of a record

An analysis or a build starts from what the record hands out, a text with its
revision or a view, and comes back after any number of other actions.  A history
keeps all that was ever handed out, so that a result may come back at any later
moment, several times, and in any order.

In every history the record is coherent: a result that was overtaken by another
text is dropped, even when the first text has come back since, and a result that
is kept was made from the text that is there.
-/

namespace ModuleBridge.Record

/-- A record with the texts and views that it has handed out. -/
structure History where
  record : Record
  /-- Texts to be analysed, each with its revision. -/
  texts : List (String × Nat)
  views : List View
  deriving DecidableEq

namespace History

/-- A new record, which has handed nothing out. -/
def start (path : Path) : History :=
  ⟨.fresh path, [], []⟩

/-- A result comes from something that was handed out; anything else may always happen. -/
def Offers (origin : Provenance) (history : History) : Action → Prop
  | .storeAnalysis revision analysis sections =>
    ∃ text, (text, revision) ∈ history.texts ∧ origin.made text analysis sections
  | .storeBuild slot =>
    ∃ view ∈ history.views, view.revision = slot.revision ∧ origin.built view slot
  | _ => True

/-- What can happen next. -/
inductive Step (origin : Provenance) (history : History) : History → Prop where
  | act (action : Action) (offered : history.Offers origin action) :
      Step origin history { history with record := history.record.act action }
  | handText (pending : String × Nat) (asked : history.record.pending? = some pending) :
      Step origin history { history with texts := pending :: history.texts }
  | handView (view : View) (asked : history.record.view? = some view) :
      Step origin history { history with views := view :: history.views }

/-- Reached from a new record by steps in any order. -/
def Reached (origin : Provenance) (path : Path) : History → Prop :=
  Relation.ReflTransGen (Step origin) (start path)

/-! ## The invariant -/

/-- The provenance of artifacts, from the views that were handed out. -/
def viewed (origin : Provenance) (history : History) : Provenance where
  made := origin.made
  built view slot := view ∈ history.views ∧ origin.built view slot

/-- The record is coherent, and all that was handed out stands for its revision. -/
structure Sound (origin : Provenance) (history : History) : Prop where
  coherent : history.record.Coherent (history.viewed origin)
  texts : ∀ pending ∈ history.texts, Dated history.record pending.1 pending.2
  views : ∀ view ∈ history.views, Dated history.record view.source view.revision

namespace Sound

variable {origin : Provenance} {history : History}

/-- What comes from something that was handed out is timely. -/
theorem timely
    (sound : history.Sound origin)
    {action : Action} (offered : history.Offers origin action) :
    history.record.Timely (history.viewed origin) action := by
  cases action with
  | storeAnalysis revision analysis sections =>
      intro current
      rcases offered with ⟨text, handed, made⟩
      exact ⟨text, (sound.texts _ handed).2 current, made⟩
  | storeBuild slot =>
      intro current
      rcases offered with ⟨view, handed, revision, built⟩
      refine ⟨view, ?_, revision, handed, built⟩
      exact (sound.views view handed).2 (current.trans revision.symm)
  | feed | observe | markSeen | setWatch | markWatched => trivial

theorem step
    {next : History}
    (sound : history.Sound origin) (step : Step origin history next) :
    next.Sound origin := by
  cases step with
  | act action offered =>
      refine ⟨sound.coherent.act (sound.timely offered), ?_, ?_⟩
      · intro pending handed
        exact dated_act (sound.texts pending handed) action
      · intro view handed
        exact dated_act (sound.views view handed) action
  | handText pending asked =>
      refine ⟨sound.coherent, ?_, sound.views⟩
      intro other handed
      rcases List.mem_cons.1 handed with rfl | earlier
      · exact dated_of_pending asked
      · exact sound.texts other earlier
  | handView view asked =>
      refine ⟨?_, sound.texts, ?_⟩
      · refine sound.coherent.mono (fun _ _ _ made => made) ?_
        rintro other slot ⟨handed, built⟩
        exact ⟨List.mem_cons_of_mem view handed, built⟩
      · intro other handed
        rcases List.mem_cons.1 handed with rfl | earlier
        · exact dated_of_view asked
        · exact sound.views other earlier

end Sound

/-- The invariant holds in every history. -/
theorem sound_of_reached
    {origin : Provenance} {path : Path} {history : History}
    (reached : Reached origin path history) :
    history.Sound origin := by
  induction reached with
  | refl => exact ⟨coherent_fresh _ path, nofun, nofun⟩
  | tail _ last inductionHypothesis => exact inductionHypothesis.step last

/--
Whatever happened to a record: its digest is that of its text, its analysis was
made from its text, its artifact was built at its revision from a view of its
text, it is valid exactly when it has an analysis, and its own text coming in
again, from whomever, is told to be unchanged and alters nothing of this.
-/
theorem consistent_of_reached
    {origin : Provenance} {path : Path} {history : History}
    (reached : Reached origin path history) :
    history.record.digest? = history.record.source?.map Digest.of ∧
      (∀ analysed, history.record.analysed? = some analysed →
        ∃ text, history.record.source? = some text ∧
          origin.made text analysed.analysis analysed.sections) ∧
      (∀ slot, history.record.slot? = some slot →
        slot.revision = history.record.revision ∧
          history.record.analysed?.isSome ∧
          ∃ view ∈ history.views,
            history.record.source? = some view.source ∧
              view.revision = slot.revision ∧ origin.built view slot) ∧
      (history.record.isValid = true ↔ history.record.analysed?.isSome) ∧
      ∀ action text,
        action.text? = some text →
        history.record.source? = some text →
          (history.record.feed text).2 = .unchanged ∧
            (history.record.act action).source? = history.record.source? ∧
            (history.record.act action).revision = history.record.revision ∧
            (history.record.act action).analysed? = history.record.analysed? ∧
            (history.record.act action).slot? = history.record.slot? := by
  have sound := sound_of_reached reached
  have coherent := sound.coherent
  refine ⟨coherent.digest, ?_, ?_, coherent.isValid_iff, ?_⟩
  · intro analysed stored
    rcases coherent.analysed analysed stored with ⟨text, source, -, made⟩
    exact ⟨text, source, made⟩
  · intro slot stored
    rcases coherent.built slot stored with
      ⟨analysed, current, view, source, revision, handed, built⟩
    exact ⟨current, analysed, view, handed, source, revision, built⟩
  · intro action text incoming held
    rcases fields_of_core_eq (coherent.core_act_of_same incoming held) with
      ⟨source, -, revision, analysed, slot⟩
    refine ⟨?_, source, revision, analysed, slot⟩
    simp [feed, judge, coherent.digest, held]

/-- Analyses that name their text as the only import, and artifacts with the source as code. -/
def echo : Provenance where
  made text analysis _ := analysis.dependencies = [⟨text⟩]
  built view slot := slot.artifact.code = view.source

/--
A text is handed out, another one comes in, and the first one returns before the
analysis made from it: that analysis is dropped.  The artifact that is stored in
the end was built from a view of the text that is there.
-/
theorem consistent_after_return :
    ∃ history slot,
      Reached echo ⟨"/a.es"⟩ history ∧
        history.record.revision = 3 ∧
        history.record.slot? = some slot ∧
        slot.revision = history.record.revision ∧
        history.record.analysed?.isSome ∧
        ∃ view ∈ history.views,
          history.record.source? = some view.source ∧
            view.revision = slot.revision ∧ echo.built view slot := by
  let named : Analysis := ⟨true, [], [], [⟨"a"⟩], false⟩
  let slot : Slot := ⟨0, 3, none, .ofCode "a"⟩
  let view : View := ⟨⟨"/a.es"⟩, 3, "a", named, named.sections "a"⟩
  have fed : Reached echo ⟨"/a.es"⟩ _ :=
    Relation.ReflTransGen.refl.tail (.act (.feed "a") trivial)
  have handed := fed.tail (.handText ("a", 1) (by decide +kernel))
  have overtaken := handed.tail (.act (.feed "b") trivial)
  have returned := overtaken.tail (.act (.feed "a") trivial)
  have late :=
    returned.tail
      (.act (.storeAnalysis 1 named (named.sections "a"))
        ⟨"a", by decide +kernel, rfl⟩)
  have handedAgain := late.tail (.handText ("a", 3) (by decide +kernel))
  have analysed :=
    handedAgain.tail
      (.act (.storeAnalysis 3 named (named.sections "a"))
        ⟨"a", by decide +kernel, rfl⟩)
  have viewed := analysed.tail (.handView view (by decide +kernel))
  have built :=
    viewed.tail
      (.act (.storeBuild slot) ⟨view, by decide +kernel, rfl, rfl⟩)
  exact
    ⟨_, slot, built, by decide +kernel, by decide +kernel,
      (consistent_of_reached built).2.2.1 slot (by decide +kernel)⟩

end History

end ModuleBridge.Record
