import ModuleBridge.Proofs.Bridge.Slots
import ModuleBridge.Proofs.Bridge.Twins

/-!
# Empty code

Extraction refuses an artifact without code, no stub is empty, and an action without an
answer is served by a fixed export.  An answer to an action is served as it is, however: this
is the one way in which empty code is served.
-/

namespace ModuleBridge

theorem Stub.inert_ne_empty (file : Path) (requester : String) : inert file requester ≠ "" := by
  intro empty
  exact absurd (String.append_eq_empty_iff.1 empty).2 (by decide)

theorem Stub.aggregate_ne_empty (files : List Path) : aggregate files ≠ "" := by
  intro empty
  exact absurd (String.append_eq_empty_iff.1 empty).2 (by decide)

namespace Bridge

variable {setting : Setting} {plugin : Plugin} {resource : Resource}
  {path key : Path} {action id : String} {bridge : Bridge} {view : View} {served : Served}

/-! ## Artifacts -/

theorem yields_pick (artifact : Artifact) (resource : Resource) :
    Yields (fun extracted => extracted.code ≠ "") (pick setting artifact resource) := by
  intro bridge extracted succeeded empty
  have handedOut :
      (extract ⟨setting.config.style, setting.config.styleProduction, setting.preprocessor?⟩
        artifact resource).outcome = .ok extracted := by
    rw [pick] at succeeded
    dsimp only at succeeded
    split at succeeded
    · exact succeeded
    · exact succeeded
  have kept := code_isEmpty_of_extract handedOut
  rw [empty] at kept
  cases kept

theorem yields_serveTracked (resource : Resource) (key : Path) (built : Built) :
    Yields (fun served => served.code ≠ "") (serveTracked setting resource key built) := by
  have picks :
      Yields (fun served : Served => served.code ≠ "")
        (pick setting built.artifact resource >>= fun extracted =>
          pure ⟨extracted.code, extracted.map?, built.warnings.map Diagnostic.render⟩) :=
    yields_bind_of (yields_pick built.artifact resource) fun _ full => yields_pure full
  refine yields_bind ?_
  intro current
  split
  · exact yields_bind fun _ => picks
  · exact picks

/-- What is served of an artifact is not empty. -/
theorem yields_loadOwned (plugin : Plugin) (resource : Resource) (path key : Path) :
    Yields (fun served => served.code ≠ "") (loadOwned setting plugin resource path key) := by
  rw [loadOwned_eq]
  refine yields_bind ?_
  intro built
  rw [serveBuilt_eq]
  exact yields_bind fun _ => yields_serveTracked resource key built

/-! ## Actions -/

/-- What a pipeline answers to an action that it has a capability for. -/
def actionAnswer? (setting : Setting) (plugin : Plugin) (view : View) (resource : Resource)
    (action : String) : Option (Except String (Option String)) :=
  let pipeline := setting.pipeline plugin.id
  if action == expandAction && plugin.has .macros then some (pipeline.expand view)
  else if plugin.has .hooks then some (pipeline.hook view action resource.query)
  else none

theorem resultOf_perform (bridge : Bridge) :
    resultOf (perform setting plugin view resource action).run bridge =
      match actionAnswer? setting plugin view resource action with
      | some answer => .ok answer
      | none => .error (.capability plugin.name (neededFor action)) := by
  rw [perform, actionAnswer?]
  by_cases expands : (action == expandAction && plugin.has .macros) = true
  · rw [if_pos expands, if_pos expands]
    rfl
  · rw [if_neg expands, if_neg expands]
    by_cases hooks : plugin.has .hooks = true
    · rw [if_pos hooks, if_pos hooks]
      rfl
    · rw [if_neg hooks, if_neg hooks]
      rfl

/-- An action is served by its answer, or by a fixed export where that is nothing. -/
theorem resultOf_callHook (viewed : (bridge.registry.find key).view? = some view) :
    resultOf (callHook setting key plugin resource action).run bridge =
      match actionAnswer? setting plugin view resource action with
      | some (.ok code?) => .ok (.ofCode (code?.getD "export default null;"))
      | some (.error message) => .error (.hook action message)
      | none => .error (.capability plugin.name (neededFor action)) := by
  have run : (viewAt key).run.run bridge = (.ok view, bridge) := by
    rw [run_viewAt, viewed]
  have seen : resultOf (viewAt key).run bridge = .ok view := congrArg Prod.fst run
  have stays : endOf (viewAt key).run bridge = bridge := congrArg Prod.snd run
  have performed :
      resultOf (perform setting plugin view resource action).run bridge = _ :=
    resultOf_perform bridge
  rw [callHook, (attempt_of_ok seen _).1, stays]
  cases answer : actionAnswer? setting plugin view resource action with
  | none =>
      rw [answer] at performed
      exact (attempt_of_error performed _).1
  | some outcome =>
      rw [answer] at performed
      rw [(attempt_of_ok performed _).1]
      cases outcome with
      | error message => rfl
      | ok code? => rfl

/-- A file that cannot be viewed is not served by an answer. -/
theorem viewed_of_callHook
    (succeeded : resultOf (callHook setting key plugin resource action).run bridge = .ok served) :
    ∃ view, (bridge.registry.find key).view? = some view := by
  cases viewed : (bridge.registry.find key).view? with
  | some view => exact ⟨view, rfl⟩
  | none =>
      have unseen : resultOf (viewAt key).run bridge = .error (.noAnalysis key) := by
        rw [resultOf, run_viewAt, viewed]
      rw [callHook, (attempt_of_error unseen _).1] at succeeded
      cases succeeded

/-- The pipeline owns the file, and answers the action that is asked for by an empty text. -/
def AnsweredEmpty (setting : Setting) (plugin : Plugin) (resource : Resource) (path key : Path)
    (bridge : Bridge) : Prop :=
  bridge.plugins.sight plugin.id path = .owned ∧
    ∃ action view,
      actionOf? resource = some action ∧ (bridge.registry.find key).view? = some view ∧
        actionAnswer? setting plugin view resource action = some (.ok (some ""))

/-- The code of an action is empty exactly when the answer is. -/
theorem callHook_empty_iff
    (viewed : (bridge.registry.find key).view? = some view)
    (succeeded : resultOf (callHook setting key plugin resource action).run bridge = .ok served) :
    served.code = "" ↔
      actionAnswer? setting plugin view resource action = some (.ok (some "")) := by
  rw [resultOf_callHook viewed] at succeeded
  cases answer : actionAnswer? setting plugin view resource action with
  | none =>
      rw [answer] at succeeded
      cases succeeded
  | some outcome =>
      rw [answer] at succeeded
      cases outcome with
      | error message => cases succeeded
      | ok code? =>
          rcases Except.ok.inj succeeded with rfl
          cases code? with
          | none => exact iff_of_false (by decide) nofun
          | some code => simp [Served.ofCode]

/-! ## Whatever is served -/

/-- What is served for a file is empty exactly when an action of its owner is answered so. -/
theorem serve_empty_iff
    (succeeded : resultOf (serve setting plugin resource path key).run bridge = .ok served) :
    served.code = "" ↔ AnsweredEmpty setting plugin resource path key bridge := by
  rw [serve, run_get_bind, resultOf_bind, resultOf_get, endOf_get] at succeeded
  cases sight : bridge.plugins.sight plugin.id path with
  | excluded owner =>
      rw [sight] at succeeded
      rcases Except.ok.inj succeeded with rfl
      refine iff_of_false (Stub.inert_ne_empty _ _) ?_
      rintro ⟨owned, -⟩
      cases sight.symm.trans owned
  | aggregate owner =>
      rw [sight] at succeeded
      rcases Except.ok.inj succeeded with rfl
      refine iff_of_false (Stub.aggregate_ne_empty _) ?_
      rintro ⟨owned, -⟩
      cases sight.symm.trans owned
  | owned =>
      rw [sight] at succeeded
      cases asks : actionOf? resource with
      | none =>
          rw [asks] at succeeded
          refine iff_of_false (yields_loadOwned _ _ _ _ _ _ succeeded) ?_
          rintro ⟨-, action, -, asked, -⟩
          cases asks.symm.trans asked
      | some action =>
          rw [asks] at succeeded
          rcases viewed_of_callHook succeeded with ⟨view, viewed⟩
          rw [callHook_empty_iff viewed succeeded]
          constructor
          · exact fun answered => ⟨sight, action, view, asks, viewed, answered⟩
          · rintro ⟨-, other, another, asked, viewedToo, answered⟩
            rcases Option.some.inj (asks.symm.trans asked) with rfl
            rcases Option.some.inj (viewed.symm.trans viewedToo) with rfl
            exact answered

/--
From whatever bridge and in whatever surroundings, the code that a load serves is empty
exactly when the pipeline that asks owns the file and answers the action that the request
asks for by an empty text.  Neither builds nor preprocessors, nor stubs, get to that.
-/
theorem load_empty_iff
    (succeeded : resultOf (load setting plugin id).run bridge = .ok (some served)) :
    let path := Event.fileOf setting id
    served.code = "" ↔
      AnsweredEmpty setting plugin (Resource.parse setting.config.resolve id) path
        (setting.normalise path) (endOf (prepare setting plugin path).run bridge) := by
  intro path
  cases accepted : setting.filter.accepts id with
  | false =>
      rw [load, if_neg (by rw [accepted]; exact Bool.false_ne_true)] at succeeded
      cases succeeded
  | true =>
      rw [load_of_accepted accepted] at succeeded
      cases prepares : resultOf (prepare setting plugin path).run bridge with
      | error fault =>
          rw [(attempt_of_error prepares _).1] at succeeded
          cases succeeded
      | ok key =>
          rcases key_of_prepare prepares with rfl
          rw [(attempt_of_ok prepares _).1] at succeeded
          cases serves :
            resultOf
              (serve setting plugin (Resource.parse setting.config.resolve id) path
                (setting.normalise path)).run
              (endOf (prepare setting plugin path).run bridge) with
          | error fault =>
              rw [(attempt_of_error serves _).1] at succeeded
              cases succeeded
          | ok found =>
              rw [(attempt_of_ok serves _).1] at succeeded
              rcases Option.some.inj (Except.ok.inj succeeded) with rfl
              exact serve_empty_iff serves

/-- Where a transformation serves code, it is what a load serves. -/
theorem load_of_transform
    {code : String}
    (succeeded : resultOf (transform setting plugin code id).run bridge = .ok (some served)) :
    resultOf (load setting plugin id).run bridge = .ok (some served) := by
  rw [transform] at succeeded
  split at succeeded
  · exact succeeded
  · cases succeeded

/-- No action is answered by an empty text. -/
def AnswersTexts (pipeline : Pipeline) : Prop :=
  (∀ view, pipeline.expand view ≠ .ok (some "")) ∧
    ∀ view action query, pipeline.hook view action query ≠ .ok (some "")

theorem not_answeredEmpty
    (texts : AnswersTexts (setting.pipeline plugin.id)) :
    ¬AnsweredEmpty setting plugin resource path key bridge := by
  rintro ⟨-, action, view, -, -, answered⟩
  rw [actionAnswer?] at answered
  split at answered
  · exact texts.1 view (Option.some.inj answered)
  · split at answered
    · exact texts.2 view action _ (Option.some.inj answered)
    · cases answered

/-- Beside pipelines that answer actions by texts, no code that is served is empty. -/
theorem code_ne_empty_of_answersTexts
    {code : String} (texts : AnswersTexts (setting.pipeline plugin.id))
    (succeeded :
      resultOf (load setting plugin id).run bridge = .ok (some served) ∨
        resultOf (transform setting plugin code id).run bridge = .ok (some served)) :
    served.code ≠ "" := by
  have loaded : resultOf (load setting plugin id).run bridge = .ok (some served) :=
    succeeded.elim (fun loaded => loaded) load_of_transform
  exact fun empty => not_answeredEmpty texts ((load_empty_iff loaded).1 empty)

/-! ## A pipeline that answers by an empty text -/

/-- A pipeline that answers actions. -/
def hookedPlugin : Plugin := ⟨0, "client", true, .bundled, [.hooks], none, default⟩

/-- A bridge of this pipeline that has done nothing yet. -/
def hookedBridge : Bridge :=
  { plainBridge with plugins := ⟨[hookedPlugin], 0, Nat.zero_lt_one⟩ }

/-- Surroundings with one file on disk, where every action is answered by an empty text. -/
def hushedSetting : Setting :=
  { lonelySetting with
    pipeline := fun _ =>
      ⟨fun view _ => .built (.ofCode view.source) [], fun _ => .ok none, fun _ => .ok [],
        fun _ _ _ => .ok (some "")⟩ }

-- The letters of the texts that are taken apart on the way nest deeply.
set_option maxRecDepth 20000 in
/-- An empty answer is served as it is. -/
theorem load_of_emptyAnswer :
    resultOf (load hushedSetting hookedPlugin "/a.es?callhook&action=a").run hookedBridge =
      .ok (some (.ofCode "")) := by
  cbv

end Bridge

end ModuleBridge
