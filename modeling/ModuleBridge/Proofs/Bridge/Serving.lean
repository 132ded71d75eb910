import ModuleBridge.Proofs.Bridge.Builds

/-!
# Serving follows the routine

Serving a module makes files ready, builds them, and walks through the imports of
server files.  Beyond that it only watches files, asks collaborators and prints.
-/

namespace ModuleBridge.Bridge

variable {setting : Setting} {scheduled : Feed → Prop} {asked : Path → Record.Action → Prop}

/-! ## Dependencies -/

theorem apart_reachLocal (path : Path) : Keeps Apart (reachLocal path) := by
  apply keeps_bind (apart_watchFile path)
  intro isNew
  exact keeps_ite (apart_debug _ _) (keeps_pure _)

theorem routine_importsOf (path : Path) :
    Keeps (Follows scheduled (Routine setting scheduled asked)) (importsOf setting path) := by
  apply keeps_bind (routine_ready path)
  intro outcome
  cases outcome with
  | ok found => exact keeps_bind (keeps_recordAt found.1) fun _ => keeps_pure _
  | error fault =>
      apply keeps_bind (keeps_follows_of_apart (apart_log _ _))
      intro _
      exact keeps_pure _

theorem routine_visit (walk : Walk) (path : Path) (queue : List Path) :
    Keeps (Follows scheduled (Routine setting scheduled asked))
      (visit setting walk path queue) := by
  refine keeps_ite (keeps_pure _) ?_
  refine keeps_bind keeps_get ?_
  intro bridge
  refine keeps_ite ?_ ?_
  · exact keeps_bind (routine_importsOf _) fun _ => keeps_pure _
  · exact keeps_bind (keeps_follows_of_apart (apart_reachLocal _)) fun _ => keeps_pure _

/-- A walk that ends keeps what every visit keeps. -/
theorem kept_of_walkOut
    {rel : Bridge → Bridge → Prop} [IsPreorder Bridge rel]
    (visits : ∀ walk path queue, Keeps rel (visit setting walk path queue))
    {walk : Walk} {bridge : Bridge} {ended : List Path × Bridge}
    (out : walkOut setting walk bridge = some ended) :
    rel bridge ended.2 := by
  refine
    walkOut.partial_correctness setting (fun _ bridge ended => rel bridge ended.2) ?_
      walk bridge ended out
  intro further inductionHypothesis walk bridge ended out
  split at out
  · rcases Option.some.inj out with rfl
    exact refl_of rel bridge
  · exact trans_of rel (visits walk _ _ bridge) (inductionHypothesis _ _ _ out)

theorem keeps_walkOut
    {rel : Bridge → Bridge → Prop} [IsPreorder Bridge rel]
    (visits : ∀ walk path queue, Keeps rel (visit setting walk path queue))
    (walk : Walk) :
    Keeps rel
      (modifyGet fun bridge => (walkOut setting walk bridge).getD ([], bridge)) := by
  intro bridge
  change rel bridge ((walkOut setting walk bridge).getD ([], bridge)).2
  cases out : walkOut setting walk bridge with
  | none => exact refl_of rel bridge
  | some ended => exact kept_of_walkOut visits out

theorem routine_localDependencies (root : Path) :
    Keeps (Follows scheduled (Routine setting scheduled asked))
      (localDependencies setting root) := by
  apply keeps_bind (routine_importsOf _)
  intro imports
  exact keeps_walkOut routine_visit _

/-! ## What a pipeline is served -/

/-- A relation is kept by all that serving does behind the directories that were read. -/
structure Tends (rel : Bridge → Bridge → Prop) : Prop where
  prints : ∀ show? : Console → Console, Keeps rel (print show?)
  files : ∀ path, Keeps rel (watchFile path)
  styles : ∀ request, Keeps rel (note (.style request))

/-- A relation is kept by all that serving does apart from the records. -/
structure Attends (rel : Bridge → Bridge → Prop) : Prop extends Tends rel where
  folders : ∀ path, Keeps rel (watchFolder path)
  contexts :
    ∀ (bridge : Bridge) (contexts : Contexts), rel bridge { bridge with contexts := contexts }

theorem apart_attends : Attends Apart where
  prints := apart_print
  files := apart_watchFile
  folders := apart_watchFolder
  contexts _ _ := ⟨rfl, rfl, rfl⟩
  styles _ := apart_note _

/-- What becomes of a file that was built for a request. -/
def serveBuilt (setting : Setting) (resource : Resource) (path key : Path) (built : Built) :
    Attempt Served := do
  built.artifact.groups.forM fun group => trackGroup setting path group
  if resource.requestType?.isNone && (← get).plugins.isShared then
    watchServerImports setting key
  let extracted ← pick setting built.artifact resource
  return ⟨extracted.code, extracted.map?, built.warnings.map Diagnostic.render⟩

/-- What becomes of a file whose directories are tracked. -/
def serveTracked (setting : Setting) (resource : Resource) (key : Path) (built : Built) :
    Attempt Served := do
  if resource.requestType?.isNone && (← get).plugins.isShared then
    watchServerImports setting key
  let extracted ← pick setting built.artifact resource
  return ⟨extracted.code, extracted.map?, built.warnings.map Diagnostic.render⟩

theorem serveBuilt_eq (resource : Resource) (path key : Path) (built : Built) :
    serveBuilt setting resource path key built =
      (built.artifact.groups.forM fun group => liftM (trackGroup setting path group)) >>=
        fun _ => serveTracked setting resource key built := rfl

theorem loadOwned_eq (plugin : Plugin) (resource : Resource) (path key : Path) :
    loadOwned setting plugin resource path key =
      build setting path plugin (selectorOf? resource) resource.id >>=
        serveBuilt setting resource path key := rfl

section

variable {rel : Bridge → Bridge → Prop} [IsPreorder Bridge rel]

namespace Tends

variable (tends : Tends rel)

include tends

theorem watchServerImports (key : Path) : Keeps rel (watchServerImports setting key) := by
  refine keeps_bind (keeps_recordAt key) ?_
  intro record
  refine keeps_forM ?_
  intro dependency
  refine keeps_bind keeps_get ?_
  intro bridge
  refine keeps_ite ?_ (keeps_pure _)
  refine keeps_bind (tends.files _) ?_
  intro isNew
  exact keeps_ite (tends.prints _) (keeps_pure _)

theorem pick (artifact : Artifact) (resource : Resource) :
    Keeps rel (pick setting artifact resource).run := by
  rw [Bridge.pick]
  dsimp only
  split
  · rename_i request asked
    rw [run_lift_bind]
    refine keeps_bind (tends.styles request) ?_
    intro _ bridge
    exact refl_of rel bridge
  · exact fun bridge => refl_of rel bridge

theorem serveTracked (resource : Resource) (key : Path) (built : Built) :
    Keeps rel (serveTracked setting resource key built).run := by
  have picks :
      Keeps rel
        (Bridge.pick setting built.artifact resource >>= fun extracted =>
          pure (Served.mk extracted.code extracted.map?
            (built.warnings.map Diagnostic.render)) : Attempt Served).run :=
    keeps_attempt_bind (tends.pick _ _) fun _ => keeps_attempt_pure _
  rw [Bridge.serveTracked, run_get_bind]
  refine keeps_bind keeps_get ?_
  intro bridge
  dsimp only
  split
  · rw [run_lift_bind]
    exact keeps_bind (tends.watchServerImports key) fun _ => picks
  · exact picks

end Tends

namespace Attends

variable (attends : Attends rel)

include attends

theorem trackGroup (path : Path) (group : DependGroup) :
    Keeps rel (trackGroup setting path group) := by
  have files :
      Keeps rel
        (if (!group.disabled) = true then
          (group.files.filter setting.disk.isFile).forM fun file =>
            discard (watchFile (setting.normalise file))
          else pure ()) :=
    keeps_ite (keeps_forM fun file => keeps_map (attends.files _) _) (keeps_pure ())
  have folder : Keeps rel (discard (watchFolder (setting.normalise group.folder))) :=
    keeps_map (attends.folders _) _
  refine keeps_ite ?_ files
  intro bridge
  exact trans_of rel (attends.contexts bridge _)
    (keeps_ite (keeps_bind folder fun _ => files) files _)

theorem serveBuilt (resource : Resource) (path key : Path) (built : Built) :
    Keeps rel (serveBuilt setting resource path key built).run := by
  rw [serveBuilt_eq]
  exact keeps_attempt_bind
    (keeps_attempt_forM fun group => keeps_lift (attends.trackGroup path group))
    fun _ => attends.serveTracked resource key built

end Attends

theorem keeps_perform
    {plugin : Plugin} {view : View} {resource : Resource} {action : String}
    (expands : Keeps rel (note (.expand plugin.id view.path)))
    (hooks : Keeps rel (note (.hook plugin.id view.path action resource.query))) :
    Keeps rel (perform setting plugin view resource action).run := by
  unfold perform
  dsimp only
  split
  · rw [run_lift_bind]
    exact keeps_bind expands fun _ => keeps_attempt_pure _
  · split
    · rw [run_lift_bind]
      exact keeps_bind hooks fun _ => keeps_attempt_pure _
    · exact keeps_throw _

/-- What the answer of a pipeline to an action is served as. -/
theorem keeps_answered
    {attempt : Attempt (Except String (Option String))} {action : String}
    (kept : Keeps rel attempt.run) :
    Keeps rel
      (attempt >>= fun answer =>
        match answer with
        | .error message => throw (.hook action message)
        | .ok code? => pure (.ofCode (code?.getD "export default null;")) :
        Attempt Served).run := by
  refine keeps_attempt_bind kept ?_
  intro answer
  cases answer with
  | error message => exact keeps_throw _
  | ok code? => exact keeps_attempt_pure _

end

theorem apart_callHook
    (key : Path) (plugin : Plugin) (resource : Resource) (action : String) :
    Keeps Apart (callHook setting key plugin resource action).run := by
  refine keeps_attempt_bind (keeps_viewAt key) ?_
  intro view
  exact keeps_answered (keeps_perform (apart_note _) (apart_note _))

theorem routine_loadOwned (plugin : Plugin) (resource : Resource) (path key : Path) :
    Keeps (Follows scheduled (Routine setting scheduled asked))
      (loadOwned setting plugin resource path key).run := by
  rw [loadOwned_eq]
  exact keeps_attempt_bind (routine_build path plugin _ _)
    fun built => keeps_follows_of_apart (apart_attends.serveBuilt resource path key built)

/-- What is served for a file follows the routine. -/
theorem routine_serve (plugin : Plugin) (resource : Resource) (path key : Path) :
    Keeps (Follows scheduled (Routine setting scheduled asked))
      (serve setting plugin resource path key).run := by
  rw [serve]
  rw [run_get_bind]
  refine keeps_bind keeps_get ?_
  intro bridge
  split
  · rw [run_lift_bind]
    exact keeps_bind (keeps_follows_of_apart (apart_debug _ _)) fun _ => keeps_attempt_pure _
  · rw [run_lift_bind]
    exact keeps_bind (routine_localDependencies path) fun _ => keeps_attempt_pure _
  · split
    · exact keeps_follows_of_apart (apart_callHook _ _ _ _)
    · exact routine_loadOwned _ _ _ _

end ModuleBridge.Bridge
