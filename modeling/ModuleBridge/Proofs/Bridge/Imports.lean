import ModuleBridge.Proofs.Bridge.Calls
import ModuleBridge.Proofs.Bridge.Quiet

/-!
# The imports of a file

In a session that nobody interrupts, what a file imports follows from the text
that it has or that is on disk, and asking for it changes no file's imports.
-/

namespace ModuleBridge.Bridge

variable {setting : Setting} {asked : Path → Record.Action → Prop}

/-! ## Texts that stay -/

/-- The text of a record, or else the one on disk. -/
def textIn? (setting : Setting) (key : Path) (record : Record) : Option String :=
  record.source?.or (sourceOnDisk setting.disk key).toOption

theorem textOf?_eq (key : Path) (bridge : Bridge) :
    textOf? setting key bridge = textIn? setting key (bridge.registry.find key) := by
  rw [textOf?, textIn?]
  cases (bridge.registry.find key).source? <;> rfl

/-- A routine that brings no text but from disk does not change what a file is made ready from. -/
theorem Routine.textIn?_act
    {key : Path} {record : Record} {action : Record.Action}
    (silent : Silent asked) (digested : record.Digested)
    (routine : Routine setting nobody asked key record action) :
    textIn? setting key (record.act action) = textIn? setting key record := by
  have quiet : action.text? = none →
      textIn? setting key (record.act action) = textIn? setting key record := by
    intro brings
    rw [textIn?, Record.source?_act_of_no_text brings, textIn?]
  cases routine with
  | asked _ ordered => exact quiet (silent key action ordered)
  | received feed permitted here => exact absurd permitted id
  | read text onDisk unknown =>
      rcases unknown with none | ⟨feed, permitted, here⟩
      · have brings : (Record.Action.feed text).text? = some text := rfl
        have now : (record.act (.feed text)).source? = some text := by
          refine Record.source?_act_of_text digested brings ?_
          intro held source
          rw [none] at source
          cases source
        rw [textIn?, now, textIn?, none, onDisk]
        rfl
      · exact absurd permitted id
  | analysed => exact quiet rfl
  | built => exact quiet rfl
  | watched => exact quiet rfl

theorem Progress.textOf?_eq
    {before after : Bridge}
    (progress : Progress nobody (Routine setting nobody asked) before after)
    (silent : Silent asked) (steady : Steady setting.analyzer before) (key : Path) :
    textOf? setting key after = textOf? setting key before := by
  have step :
      ∀ record action, Routine setting nobody asked key record action →
        record.Digested ∧ textIn? setting key record = textOf? setting key before →
        (record.act action).Digested ∧
          textIn? setting key (record.act action) = textOf? setting key before := by
    rintro record action routine ⟨digested, same⟩
    exact ⟨Record.digested_act digested action,
      (routine.textIn?_act silent digested).trans same⟩
  rw [Bridge.textOf?_eq]
  exact
    ((progress.registry.record key).keeps step
      ⟨(steady.coherent key).digest, (Bridge.textOf?_eq key before).symm⟩).2

/-! ## Imports -/

/-- The imports that an analysis finds in a file. -/
def importsAt (setting : Setting) (bridge : Bridge) (file : Path) : List Path :=
  match textOf? setting (setting.normalise file) bridge with
  | none => []
  | some text =>
    match setting.analyzer.analyse (setting.normalise file) text with
    | .ok analysis => analysis.dependencies
    | .error _ => []

theorem Holds.dependencies
    {analyzer : Analyzer} {key : Path} {record : Record} {text : String} {analysis : Analysis}
    (holds : Holds analyzer key record text analysis) :
    record.dependencies = analysis.dependencies := by
  rw [Record.dependencies, Record.analysis?, holds.2.2]
  rfl

/-- A file without a text is not made ready. -/
theorem ready_of_unreadable
    {path : Path} {bridge : Bridge}
    (steady : Steady setting.analyzer bridge)
    (unknown : textOf? setting (setting.normalise path) bridge = none) :
    ∃ fault, resultOf (ready setting path).run bridge = .error fault := by
  let key := setting.normalise path
  let opened := endOf (openRecord setting path) bridge
  have registered : (opened.registry.get? key).isSome := isSome_openRecord setting path bridge
  have coherent := coherent_openRecord path (steady.coherent key)
  cases begins .cached registered coherent (Nat.le_refl (bridge.schedule.length + 2)) with
  | unreadable fault _ onDisk ends => exact ⟨fault, (ready_of_refused ends).1⟩
  | known text passes readable held enough continues =>
      rw [textOf?_eq, textIn?, Option.or_eq_none_iff] at unknown
      rw [find_openRecord, unknown.1] at readable
      rcases readable with isKnown | ⟨text, onDisk⟩
      · cases isKnown
      · rw [onDisk] at unknown
        cases unknown.2

theorem resultOf_importsOf
    {path : Path} {bridge : Bridge} (steady : Steady setting.analyzer bridge) :
    resultOf (importsOf setting path) bridge = importsAt setting bridge path := by
  rw [importsOf, resultOf_bind, importsAt]
  cases text : textOf? setting (setting.normalise path) bridge with
  | none =>
      rcases ready_of_unreadable steady text with ⟨fault, failed⟩
      rw [failed]
      rfl
  | some held =>
      dsimp only
      cases readied_of_steady steady text with
      | ready analysis readiness succeeded holds =>
          rw [succeeded, holds.1]
          exact holds.dependencies
      | refused message found failed =>
          rw [failed, found]
          rfl

end ModuleBridge.Bridge
