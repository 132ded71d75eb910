import ModuleBridge.Proofs.Bridge.Importers

/-!
# Keys of modules

When imports carry a suffix, the host lists the modules of a file under the path with the
suffix.  A hot update of a local file looks its modules up by that key; one of a server
file looks up the modules of its importers by their own paths, and so it finds none of them
as soon as there is a suffix.
-/

namespace ModuleBridge.Bridge

variable {disk : Disk} {setting : Setting} {requester : Nat} {suffix? : Option String}
  {before : Bridge} {ledger : Ledger} {files : Path → Prop} {main : Path → HostModule}

/-! ## Where the host lists main modules -/

/-- The host lists the main modules of files under their keys, by these keys, and only there. -/
structure ListsMains (setting : Setting) (suffix? : Option String) (files : Path → Prop)
    (main : Path → HostModule) : Prop where
  listed : ∀ file, files file → main file ∈ setting.modulesOf (moduleKey suffix? file)
  named : ∀ file, files file → (main file).id = (moduleKey suffix? file).text
  only : ∀ file other,
    files file → main file ∈ setting.modulesOf other → other = moduleKey suffix? file

theorem ListsMains.mem_modulesNamed_iff
    (lists : ListsMains setting suffix? files main) {file other : Path} (among : files file) :
    main file ∈ modulesNamed setting other ↔ other = moduleKey suffix? file := by
  rw [modulesNamed, List.mem_filter, beq_iff_eq]
  constructor
  · rintro ⟨member, -⟩
    exact lists.only file other among member
  · rintro rfl
    exact ⟨lists.listed file among, lists.named file among⟩

/-- Among the modules of importers, a main module is found when its key is an importer. -/
theorem ListsMains.mem_answer_iff
    (lists : ListsMains setting suffix? files main) {file : Path} (among : files file)
    {importers : List Path} :
    main file ∈ importers.flatMap (modulesNamed setting) ↔
      moduleKey suffix? file ∈ importers := by
  rw [List.mem_flatMap]
  constructor
  · rintro ⟨importer, member, named⟩
    rwa [← (lists.mem_modulesNamed_iff among).1 named]
  · exact fun member => ⟨_, member, (lists.mem_modulesNamed_iff among).2 rfl⟩

theorem ListsMains.mem_invalidated_iff
    (lists : ListsMains setting suffix? files main) {file : Path} (among : files file)
    (change : SectionChange) :
    main file ∈ invalidated setting suffix? file change ↔
      change.invalidates (ModuleTag.ofUrl (main file).url) = true := by
  rw [invalidated, List.mem_filter]
  exact and_iff_right (lists.listed file among)

/-! ## The answer for a local file -/

/-- An answer that returns modules by the sections returns modules of the file's key. -/
def BySections (setting : Setting) (suffix? : Option String) (file : Path) (answer : HotUpdate) :
    Prop :=
  ∀ modules renderOnly, answer = .updated modules renderOnly →
    ∃ change : SectionChange,
      modules = invalidated setting suffix? file change ∧ renderOnly = change.renderOnly

theorem bySections_of_failed (diagnostics : List Diagnostic) {file : Path} :
    BySections setting suffix? file (.failed diagnostics) :=
  nofun

theorem bySections_updateAnalysed
    (setting : Setting) (requester : Nat) (suffix? : Option String) (key file : Path)
    (previous? : Option Snapshot) (bridge : Bridge) :
    BySections setting suffix? file
      (resultOf (updateAnalysed setting requester suffix? key file previous?) bridge) := by
  rw [updateAnalysed, resultOf_bind, resultOf_recordAt]
  cases (bridge.registry.find key).view? with
  | none => exact bySections_of_failed []
  | some view =>
      dsimp only
      split
      · exact bySections_of_failed _
      · rw [resultOf_bind, resultOf_updateSections]
        intro modules renderOnly answered
        cases answered
        exact ⟨_, rfl, rfl⟩

theorem bySections_updateLocalFile
    (setting : Setting) (requester : Nat) (suffix? : Option String) (key file : Path)
    (previous? : Option Snapshot) (bridge : Bridge) :
    BySections setting suffix? file
      (resultOf (updateLocalFile setting requester suffix? key file previous?) bridge) := by
  rw [updateLocalFile, resultOf_bind, resultOf_bind]
  split
  · exact bySections_of_failed _
  · exact bySections_updateAnalysed setting requester suffix? _ file previous? _

/-- An update of a local file looks up what it returns by the key of the file. -/
theorem bySections_update
    {path : Path} {text : String}
    (isLocal : before.plugins.isServerScoped (setting.normalise path) = false) :
    BySections setting suffix? (setting.normalise path)
      (resultOf (update setting requester suffix? path text) before) := by
  have run : (update setting requester suffix? path text).run before = _ := run_update before
  rw [resultOf_of_run run]
  rcases observation setting requester path text before with ⟨change, previous?⟩
  cases change with
  | unchanged =>
      rw [(answerTo_unchanged setting requester suffix? path previous? _).1]
      exact nofun
  | changed =>
      rw [resultOf, answerTo_changed, plugins_observed,
        if_neg (by rw [isLocal]; exact Bool.false_ne_true)]
      exact bySections_updateLocalFile setting requester suffix? _ _ previous? _

/-! ## Main modules in answers -/

/--
In every session over a disk where normal forms are stable, and whatever pipelines are
bound, an update of a local file finds the main module of the file under its key.  One of
a server file finds a main module when its key, and not its file, is an importer: without
a suffix these are all main modules of importers, with a suffix the file itself does not
count.
-/
theorem mains_found_by_updates
    (stable : Stable disk) (reached : Reached (OnDisk disk) before ledger)
    (placed : OnDisk disk setting) (lists : ListsMains setting suffix? files main)
    (requester : Nat) (path : Path) (text : String) :
    let answer := resultOf (update setting requester suffix? path text) before
    let file := setting.normalise path
    (before.plugins.isServerScoped file = false → files file →
      ∀ modules renderOnly, answer = .updated modules renderOnly →
        ∃ change : SectionChange, renderOnly = change.renderOnly ∧
          (main file ∈ modules ↔ change.invalidates (ModuleTag.ofUrl (main file).url) = true)) ∧
      (before.plugins.isServerScoped file = true → answer ≠ .unchanged →
        ∃ importers modules,
          AreImporters setting requester file ledger before importers ∧
            answer = .updated modules false ∧
            (∀ user, files user → (main user ∈ modules ↔ moduleKey suffix? user ∈ importers)) ∧
            (suffix? = none → ∀ user ∈ importers, files user → main user ∈ modules)) := by
  intro answer file
  refine ⟨?_, ?_⟩
  · intro isLocal among modules renderOnly answered
    rcases bySections_update isLocal modules renderOnly answered with ⟨change, rfl, rendered⟩
    exact ⟨change, rendered, lists.mem_invalidated_iff among change⟩
  · intro server changed
    rcases invalidates_of_reached stable reached placed server changed with
      ⟨importers, invalidates⟩
    refine ⟨importers, _, invalidates.importing, invalidates.answer,
      fun user among => lists.mem_answer_iff among, ?_⟩
    rintro rfl user member among
    exact (lists.mem_answer_iff among).2 member

/-- Without a suffix, the main module of the local file is returned for the server file. -/
theorem mains_found_by_updates_shop :
    ∃ modules,
      resultOf (update shopSetting 0 none ⟨"/s/a.es"⟩ "z") shopBridge = .updated modules false ∧
        ⟨"/c/b.es", "/c/b.es"⟩ ∈ modules := by
  have placed : OnDisk shopDisk shopSetting := rfl
  have lists :
      ListsMains shopSetting none (fun _ => True) (fun file => ⟨file.text, file.text⟩) := by
    refine ⟨fun file _ => List.mem_singleton.2 rfl, fun _ _ => rfl, ?_⟩
    rintro ⟨text⟩ ⟨other⟩ - member
    cases List.mem_singleton.1 member
    rfl
  rcases reached_shopBridge with ⟨ledger, reached⟩
  rcases (mains_found_by_updates stable_shopDisk reached placed lists 0 ⟨"/s/a.es"⟩ "z").2
      (server_shopBridge placed) (changed_shopBridge placed none) with
    ⟨importers, modules, importing, answer, -, found⟩
  exact ⟨modules, answer, found rfl _ (mem_importers_shop reached placed importing) trivial⟩

/-- In these surroundings the host lists main modules with a suffix only. -/
def suffixedSetting : Setting :=
  { shopSetting with
    modulesOf := fun file =>
      if ".vue".toList <:+ file.text.toList then [⟨file.text, file.text⟩] else [] }

/-- The main module of a file whose imports carry the suffix. -/
def suffixedMain (file : Path) : HostModule :=
  ⟨file.text ++ ".vue", file.text ++ ".vue"⟩

theorem moduleKey_suffixed (file : Path) : moduleKey (some ".vue") file = ⟨file.text ++ ".vue"⟩ :=
  rfl

theorem listsMains_suffixed :
    ListsMains suffixedSetting (some ".vue") (fun _ => True) suffixedMain := by
  refine ⟨?_, fun _ _ => rfl, ?_⟩
  · intro file _
    have suffixed : ".vue".toList <:+ (file.text ++ ".vue").toList := by
      rw [String.toList_append]
      exact List.suffix_append _ _
    rw [moduleKey_suffixed]
    dsimp only [suffixedSetting]
    rw [if_pos suffixed]
    exact List.mem_singleton.2 rfl
  · intro file other _ member
    dsimp only [suffixedSetting] at member
    split at member
    · rcases other with ⟨text⟩
      cases List.mem_singleton.1 member
      rfl
    · cases member

/--
The host lists main modules by their keys, and the local file imports the one of the
server; but its main module is not returned.
-/
theorem main_missed_behind_suffix :
    ListsMains suffixedSetting (some ".vue") (fun _ => True) suffixedMain ∧
      ∃ ledger importers modules,
        Reached (OnDisk shopDisk) shopBridge ledger ∧
          AreImporters suffixedSetting 0 (suffixedSetting.normalise ⟨"/s/a.es"⟩) ledger shopBridge
            importers ∧
          ⟨"/c/b.es"⟩ ∈ importers ∧
          resultOf (update suffixedSetting 0 (some ".vue") ⟨"/s/a.es"⟩ "z") shopBridge =
            .updated modules false ∧
          suffixedMain ⟨"/c/b.es"⟩ ∉ modules := by
  have placed : OnDisk shopDisk suffixedSetting := rfl
  rcases reached_shopBridge with ⟨ledger, reached⟩
  rcases invalidates_of_reached stable_shopDisk reached placed (server_shopBridge placed)
      (changed_shopBridge placed (some ".vue")) with ⟨importers, invalidates⟩
  refine ⟨listsMains_suffixed, ledger, importers, _, reached, invalidates.importing,
    mem_importers_shop reached placed invalidates.importing, invalidates.answer, ?_⟩
  rw [listsMains_suffixed.mem_answer_iff trivial]
  intro member
  rcases (invalidates.importing.exactly _).1 member with ⟨other, -, -, -, imported⟩
  rw [normalise_shop placed] at other imported
  have used :=
    (mem_usedBy_of_charted (charted_of_reached stable_shopDisk reached) placed
      (normalise_shop placed) other).2 imported
  rw [usedBy_shop placed, List.mem_singleton] at used
  exact absurd used (by decide)

end ModuleBridge.Bridge
