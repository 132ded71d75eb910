import ModuleBridge.Proofs.Bridge.Chronicle
import ModuleBridge.Proofs.Creations

/-!
# Keys of files that are created

A record stays under its key until the records are forgotten, and its key is the normal
form that its path had when the record was opened.  So a path whose file is created
afterwards is found under the same key exactly when it was cleaned to the place that it
led to; where a link stands on the way it may not be, and then two records stand for it.
-/

namespace ModuleBridge.Bridge

variable {setting later : Setting} {before after : Bridge} {path : Path}

/-- No record is forgotten. -/
def RecordsStay (before after : Bridge) : Prop :=
  ∀ key, (before.registry.get? key).isSome → (after.registry.get? key).isSome

instance : IsPreorder Bridge RecordsStay where
  refl _ _ known := known
  trans _ _ _ first second key known := second key (first key known)

theorem Influx.recordsStay (influx : Influx before after) : RecordsStay before after :=
  influx.registry.registered

theorem Apart.recordsStay (apart : before.Apart after) : RecordsStay before after := by
  intro key known
  rwa [apart.registry]

theorem recordsStay_put (key : Path) (record : Record) (bridge : Bridge) :
    RecordsStay bridge { bridge with registry := bridge.registry.put key record } :=
  fun _ known => Registry.isSome_put known key record

theorem recordsStay_of_trace
    {key : Path} {outcome : Except Fault Readiness}
    (trace : Trace setting key before outcome after) : RecordsStay before after := by
  cases trace with
  | refused fault influx => exact influx.recordsStay
  | cached influx valid => exact influx.recordsStay
  | analysed middle revision text analysis influx invalid found accepted =>
      exact trans_of RecordsStay influx.recordsStay (recordsStay_put key _ middle)

theorem recordsStay_of_building
    {key : Path} {plugin : Plugin} {selector? : Option String} {resource : String}
    {outcome : Except Fault Built}
    (building : Building setting key plugin selector? resource before outcome after) :
    RecordsStay before after := by
  have prints : ∀ {before after : Bridge}, Printed before after → RecordsStay before after :=
    fun printed => (influx_of_printed printed).recordsStay
  cases building with
  | refused fault printed => exact prints printed
  | reused view artifact warnings viewed stored printed => exact prints printed
  | failed view middle fault viewed printed refused =>
      refine trans_of RecordsStay (prints printed) ?_
      exact trans_of RecordsStay (influx_answered middle).recordsStay (prints refused)
  | built view middle artifact warnings further viewed printed delivered kept =>
      have asks : RecordsStay middle (answered setting key plugin view selector? middle) :=
        (influx_answered middle).recordsStay
      refine trans_of RecordsStay (trans_of RecordsStay (prints printed) asks) ?_
      exact trans_of RecordsStay (recordsStay_put key _ _) (prints kept)

theorem recordsStay_parts (setting : Setting) : Parts setting RecordsStay where
  prints show? bridge := (influx_print show? bridge).recordsStay
  notes call bridge := (influx_note call bridge).recordsStay
  opens path bridge := (influx_openRecord path bridge).recordsStay
  receives feed bridge := (influx_receive feed bridge).recordsStay
  reads path bridge := (influx_readSource path bridge).recordsStay
  loads _ bridge := (influx_loadSource bridge).recordsStay
  marks key _ _ bridge := recordsStay_put key _ bridge
  settles _ bound bridge := recordsStay_of_trace (trace_settle setting _ bound bridge)
  builds key plugin selector? resource bridge :=
    recordsStay_of_building (building setting key plugin selector? resource bridge).2
  watches path bridge := (apart_watchFile path bridge).recordsStay
  watchesBuilt path bridge := (apart_watchBuilt path bridge).recordsStay

/-- Whatever happens, no record is forgotten unless all are. -/
theorem recordsStay_run {each : Happening} (undisposed : each ≠ .dispose) (bridge : Bridge) :
    RecordsStay bridge (each.run bridge) := by
  let anywhere : Setting → Prop := fun _ => True
  have among : each.Among anywhere := by cases each <;> trivial
  refine Happening.keeps_run (fun setting _ => recordsStay_parts setting) among ?_ ?_ ?_
  · intro setting plugin id _ _
    refine (recordsStay_parts setting).load ?_
    exact fun built _ bridge => (apart_attends.serveBuilt _ _ _ built bridge).recordsStay
  · exact fun _ _ _ known => known
  · exact fun disposed => absurd disposed undisposed

theorem recordsStay_runAll
    {story : List Happening} (undisposed : ∀ each ∈ story, each ≠ .dispose) (bridge : Bridge) :
    RecordsStay bridge (Happening.runAll story bridge) := by
  induction story generalizing bridge with
  | nil => exact refl_of RecordsStay bridge
  | cons each rest inductionHypothesis =>
      have first := recordsStay_run (undisposed each List.mem_cons_self) bridge
      exact trans_of RecordsStay first
        (inductionHypothesis (fun other member => undisposed other (List.mem_cons_of_mem _ member))
          _)

/-- A path that is opened has a record under its key, whatever happens until all are forgotten. -/
theorem isSome_opened
    {story : List Happening} (undisposed : ∀ each ∈ story, each ≠ .dispose)
    (setting : Setting) (path : Path) (bridge : Bridge) :
    ((Happening.runAll story (endOf (openRecord setting path) bridge)).registry.get?
      (setting.normalise path)).isSome :=
  recordsStay_runAll undisposed _ _ (Registry.isSome_create_self bridge.registry _)

/--
An absolute path is opened, files are created, anything else happens but that the records are
forgotten, and the path is opened again.  Both records are there, and they are the same one
unless the path led to the place of a file that was created but is not cleaned to that place.
Then two records stand for the path; this takes a link on the way.
-/
theorem same_record_iff
    {places : List Place} (absolute : path.isAbsolute = true)
    (grown : setting.disk.Grown places later.disk)
    {story : List Happening} (undisposed : ∀ each ∈ story, each ≠ .dispose) (bridge : Bridge) :
    let opened := endOf (openRecord setting path) bridge
    let last := endOf (openRecord later path) (Happening.runAll story opened)
    (last.registry.get? (setting.normalise path)).isSome ∧
      (last.registry.get? (later.normalise path)).isSome ∧
      (setting.normalise path = later.normalise path ↔
        ∀ place ∈ places, setting.disk.reach path = .ok (.absent place) →
          path.clean = Disk.placePath place) ∧
      ((∀ next rest,
          setting.disk.advance [] (Disk.steps path.text) ≠ .ok (.detour next rest)) →
        setting.normalise path = later.normalise path) := by
  intro opened last
  have keys := grown.normalise_eq_iff absolute
  refine ⟨?_, Registry.isSome_create_self _ _, keys, ?_⟩
  · exact Registry.isSome_create (isSome_opened undisposed setting path bridge) _
  · intro straight
    refine keys.2 ?_
    intro place _ leads
    exact Disk.clean_of_straight absolute straight leads

/-! ## A directory and a link to it -/

/-- A directory, and a link to it. -/
def linkedDisk : Disk :=
  ⟨[(["client"], .directory), (["link"], .link "/client")], []⟩

/-- The disk with a file in the directory. -/
def filledDisk : Disk :=
  linkedDisk.put ["client", "App.es"] (.file (some "a"))

theorem grown_filledDisk : linkedDisk.Grown [["client", "App.es"]] filledDisk := by
  have nothing : linkedDisk.find? ["client", "App.es"] = none := by decide
  exact .created .start ["client", "App.es"] (some "a") nothing

/-- Surroundings with a disk. -/
def diskSetting (disk : Disk) : Setting :=
  { plainSetting plainAnalyzer with disk := disk }

/-- Through the directory itself, the file keeps its record. -/
theorem same_record_iff_straight :
    let path : Path := ⟨"/client/App.es"⟩
    let story := [Happening.ready (diskSetting linkedDisk) path]
    let opened := endOf (openRecord (diskSetting linkedDisk) path) plainBridge
    let last := endOf (openRecord (diskSetting filledDisk) path) (Happening.runAll story opened)
    path.isAbsolute = true ∧ (∀ each ∈ story, each ≠ .dispose) ∧
      (diskSetting linkedDisk).normalise path = (diskSetting filledDisk).normalise path ∧
      (last.registry.get? ((diskSetting filledDisk).normalise path)).isSome := by
  intro path story opened last
  have absolute : path.isAbsolute = true := by decide
  have undisposed : ∀ each ∈ story, each ≠ .dispose := by
    intro each member
    rcases List.mem_singleton.1 member with rfl
    exact nofun
  have grown : (diskSetting linkedDisk).disk.Grown [["client", "App.es"]]
      (diskSetting filledDisk).disk := grown_filledDisk
  rcases same_record_iff absolute grown undisposed plainBridge with ⟨-, known, -, straight⟩
  refine ⟨absolute, undisposed, straight ?_, known⟩
  intro next rest detour
  have direct :
      linkedDisk.advance [] (Disk.steps path.text) = .ok (.absent ["client", "App.es"]) := by cbv
  cases direct.symm.trans detour

/-- Through the link, the file that is created has two records. -/
theorem two_records_behind_link :
    let path : Path := ⟨"/link/App.es"⟩
    let opened := endOf (openRecord (diskSetting linkedDisk) path) plainBridge
    let last := endOf (openRecord (diskSetting filledDisk) path) opened
    linkedDisk.Grown [["client", "App.es"]] filledDisk ∧
      filledDisk.isFile path = true ∧
      last.registry.records.map Prod.fst = [⟨"/link/App.es"⟩, ⟨"/client/App.es"⟩] := by
  intro path opened last
  refine ⟨grown_filledDisk, ?_, ?_⟩
  · cbv
  · cbv

end ModuleBridge.Bridge
