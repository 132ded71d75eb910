import ModuleBridge.Bridge.Start
import ModuleBridge.Proofs.Bridge.Ownership
import ModuleBridge.Proofs.Configurations

/-!
# Bridges that start

The check of a configuration collects what is wrong with it; the start of a bridge stops at
the first thing that is wrong, while it uses up the implementations that the host supplies.
The two agree: a configuration that passes the check starts a bridge when every pipeline has
an implementation, and the pipelines of the bridge are the configured ones.
-/

namespace ModuleBridge

/--
Patterns that can each be read by themselves can also be read together, and in the way in
which a filter or a scope reads them.
-/
structure Config.ReadsAlike (config : Config) : Prop where
  included :
    (∀ pattern ∈ config.filter.included, (Pattern.read false pattern).isOk = true) →
      (Pattern.readAll true config.filter.included).isOk = true
  excluded :
    (∀ pattern ∈ config.filter.excluded, (Pattern.read false pattern).isOk = true) →
      (Pattern.readAll true config.filter.excluded).isOk = true
  scopes :
    ∀ entry ∈ config.pipelines,
      (∀ pattern ∈ entry.scope, (Pattern.read false pattern).isOk = true) →
        (Pattern.readAll false entry.scope).isOk = true

theorem exists_ok_of_isOk
    {ε α : Type} {outcome : Except ε α} (succeeded : outcome.isOk = true) :
    ∃ value, outcome = .ok value := by
  cases outcome with
  | error fault => cases succeeded
  | ok value => exact ⟨value, rfl⟩

/-! ## Binding -/

namespace Plugins

variable {plugins : Plugins} {entries : List PipelineEntry} {supplied : List String}

/-- Entries with names of their own are bound where each has an implementation. -/
theorem exists_bindAll
    (first : Nat) (distinct : (entries.map PipelineEntry.name).Nodup)
    (covered : ∀ entry ∈ entries, entry.name ∈ supplied)
    (readable : ∀ entry ∈ entries, (Pattern.readAll false entry.scope).isOk = true) :
    ∃ items unused, bindAll first supplied entries = .ok (items, unused) := by
  induction entries generalizing first supplied with
  | nil => exact ⟨[], supplied, rfl⟩
  | cons entry rest inductionHypothesis =>
      rw [List.map_cons, List.nodup_cons] at distinct
      have made : ∃ plugin, Plugin.ofEntry first entry = .ok plugin := by
        rcases exists_ok_of_isOk (readable entry List.mem_cons_self) with ⟨nodes, read⟩
        rw [Plugin.ofEntry, read]
        exact ⟨_, rfl⟩
      rcases made with ⟨plugin, made⟩
      -- The names are distinct, so the implementations of the others are left over.
      have left : ∀ other ∈ rest,
          other.name ∈ supplied.filter fun name => name != entry.name := by
        intro other member
        refine List.mem_filter.2 ⟨covered other (List.mem_cons_of_mem entry member), ?_⟩
        refine bne_iff_ne.2 ?_
        intro same
        exact distinct.1 (List.mem_map.2 ⟨other, member, same⟩)
      rcases inductionHypothesis (first + 1) distinct.2 left
        (fun other member => readable other (List.mem_cons_of_mem entry member)) with
        ⟨items, unused, others⟩
      have isSupplied : supplied.contains entry.name = true :=
        List.contains_iff_mem.2 (covered entry List.mem_cons_self)
      refine ⟨plugin :: items, unused, ?_⟩
      rw [bindAll, if_pos isSupplied, made]
      dsimp only
      rw [others]
      rfl

theorem exists_lastMain? {items : List Plugin} (single : items.countP Plugin.isMain = 1) :
    ∃ last, lastMain? items = some last := by
  cases found : lastMain? items with
  | some last => exact ⟨last, rfl⟩
  | none =>
      rw [lastMain?, List.find?_eq_none] at found
      have marked : 0 < items.countP Plugin.isMain := by omega
      rcases List.countP_pos_iff.1 marked with ⟨plugin, member, isMain⟩
      rcases List.get_of_mem member with ⟨index, rfl⟩
      exact absurd isMain (found index (List.mem_reverse.2 (List.mem_finRange index)))

theorem exists_bind
    (console : Console) (single : entries.countP PipelineEntry.main = 1)
    (distinct : (entries.map PipelineEntry.name).Nodup)
    (covered : ∀ entry ∈ entries, entry.name ∈ supplied)
    (readable : ∀ entry ∈ entries, (Pattern.readAll false entry.scope).isOk = true) :
    ∃ later plugins, Plugins.bind entries supplied console = (later, .ok plugins) := by
  rcases exists_bindAll 0 distinct covered readable with ⟨items, unused, all⟩
  rcases exists_lastMain? ((countP_isMain_of_bindAll all).trans single) with ⟨last, found⟩
  rw [Plugins.bind, all]
  dsimp only
  rw [found]
  exact ⟨_, _, rfl⟩

/-- The pipelines are the configured ones, each found by its name, with a single main one. -/
structure Configured (plugins : Plugins) (config : Config) : Prop where
  count : plugins.items.length = config.pipelines.length
  each :
    ∀ (index : Nat) (entry : PipelineEntry), config.pipelines[index]? = some entry →
      ∃ plugin, plugins.items[index]? = some plugin ∧ plugin.Mirrors index entry ∧
        plugins.byName? entry.name = some plugin
  main :
    ∃ entry, config.main? = some entry ∧ config.pipelines[plugins.mainId]? = some entry ∧
      plugins.main.Mirrors plugins.mainId entry
  onlyMain : ∀ plugin ∈ plugins.items, plugin.isMain = true ↔ plugin = plugins.main

/-- Where no name comes twice, a pipeline is found by the name of its entry. -/
theorem byName?_of_mirrors
    {unused : List String} (distinct : (entries.map PipelineEntry.name).Nodup)
    (binds : bindAll 0 supplied entries = .ok (plugins.items, unused))
    {index : Nat} {entry : PipelineEntry} {plugin : Plugin}
    (configured : entries[index]? = some entry) (stands : plugins.items[index]? = some plugin)
    (mirrors : plugin.Mirrors index entry) :
    plugins.byName? entry.name = some plugin := by
  have named : (plugin.name == entry.name) = true := beq_iff_eq.2 mirrors.name
  cases found : plugins.byName? entry.name with
  | none =>
      rw [byName?, List.find?_eq_none] at found
      exact absurd named (found plugin (List.mem_of_getElem? stands))
  | some other =>
      have member := List.mem_of_find?_eq_some found
      have same : other.name = entry.name := by
        rw [byName?] at found
        have passes := List.find?_some found
        exact beq_iff_eq.1 passes
      rcases List.mem_iff_getElem?.1 member with ⟨place, alsoStands⟩
      rcases exists_entry_of_bindAll binds alsoStands with ⟨namesake, alsoConfigured, alsoMirrors⟩
      have inside : index < (entries.map PipelineEntry.name).length := by
        rw [List.length_map]
        exact (List.getElem?_eq_some_iff.1 configured).1
      have samePlace : index = place := by
        refine (List.getElem?_inj inside distinct).1 ?_
        rw [List.getElem?_map, List.getElem?_map, configured, alsoConfigured, Option.map_some,
          Option.map_some, ← alsoMirrors.name, same]
      rw [← samePlace, stands] at alsoStands
      exact alsoStands.symm

/-- Pipelines that are bound to the entries of a sound configuration are the configured ones. -/
theorem configured_of_bind
    {config : Config} {console : Console} (sound : config.Sound)
    (binds : (Plugins.bind config.pipelines supplied console).2 = .ok plugins) :
    plugins.Configured config := by
  rcases bindAll_of_bind binds with ⟨unused, all⟩
  have placed : plugins.Placed := placed_of_bind sound.single binds
  rcases mirrors_of_bindAll all with ⟨count, mirrors⟩
  refine ⟨count, ?_, ?_, fun plugin => placed.isMain_iff⟩
  · intro index entry configured
    have inside : index < plugins.items.length := by
      rw [count]
      exact (List.getElem?_eq_some_iff.1 configured).1
    have stands := List.getElem?_eq_getElem inside
    have mirrored := mirrors configured stands
    rw [Nat.zero_add] at mirrored
    exact ⟨_, stands, mirrored, byName?_of_mirrors sound.distinct all configured stands mirrored⟩
  · have stands := getElem?_mainId plugins
    rcases exists_entry_of_bindAll all stands with ⟨entry, configured, mirrored⟩
    rw [Nat.zero_add] at mirrored
    have marked : entry.main = true := by
      rw [← mirrored.isMain]
      exact (placed.isMain_iff (main_mem plugins)).2 rfl
    refine ⟨entry, ?_, configured, mirrored⟩
    cases found : config.main? with
    | none =>
        rw [Config.main?, List.find?_eq_none] at found
        exact absurd marked (found entry (List.mem_of_getElem? configured))
    | some other =>
        rcases List.mem_iff_getElem?.1 (List.mem_of_find?_eq_some found) with ⟨place, alsoStands⟩
        have samePlace := eq_of_countP_eq_one sound.single configured alsoStands marked
          (List.find?_some found)
        rw [← samePlace, configured] at alsoStands
        exact alsoStands.symm

end Plugins

/-! ## Starting -/

namespace Bridge

/-- A filter whose patterns can be read is read. -/
theorem exists_ofSettings
    {settings : FilterSettings} (included : (Pattern.readAll true settings.included).isOk = true)
    (excluded : (Pattern.readAll true settings.excluded).isOk = true) :
    ∃ filter, Filter.ofSettings settings = .ok filter := by
  rcases exists_ok_of_isOk included with ⟨first, readFirst⟩
  rcases exists_ok_of_isOk excluded with ⟨second, readSecond⟩
  rw [Filter.ofSettings, readFirst, readSecond]
  exact ⟨_, rfl⟩

theorem startWith_of_bound
    {config : Config} {supplies : Supplies} {console later : Console} {filter : Filter}
    {plugins : Plugins} (watcherFault? : Option String)
    (passed : (config.validate console).2 = .ok ())
    (filters : Filter.ofSettings config.filter = .ok filter)
    (binds :
      Plugins.bind config.pipelines supplies.implementations (config.validate console).1 =
        (later, .ok plugins))
    (unwatched : config.hot.watch = false ∨ supplies.watchesBuilt = true) :
    let bridge := ofPlugins config supplies plugins later
    bridge.hasWatcher = false ∧
      startWith watcherFault? config supplies console = (bridge.console, .ok (filter, bridge)) := by
  intro bridge
  have idle : bridge.hasWatcher = false := by
    rcases unwatched with off | given
    · simp [bridge, ofPlugins, off]
    · simp [bridge, ofPlugins, given]
  have started : watcherFault?.filter (fun _ => bridge.hasWatcher) = none := by
    rw [idle]
    cases watcherFault? <;> rfl
  rcases printed : config.validate console with ⟨checked, outcome⟩
  rw [printed] at passed binds
  rcases passed with rfl
  refine ⟨idle, ?_⟩
  rw [startWith, printed, filters]
  dsimp only
  rw [binds]
  dsimp only
  rw [started]

/--
A configuration passes the check exactly when it is sound.  A bridge starts from it when every
pipeline has an implementation and the bridge need not watch by itself, and its pipelines are
the configured ones.
-/
theorem start_of_validated (config : Config) (console : Console) :
    ((config.validate console).2 = .ok () ↔ config.Sound) ∧
      ∀ (supplies : Supplies) (watcherFault? : Option String),
        (config.validate console).2 = .ok () → config.ReadsAlike →
          (∀ entry ∈ config.pipelines, entry.name ∈ supplies.implementations) →
            (config.hot.watch = false ∨ supplies.watchesBuilt = true) →
              ∃ later filter bridge,
                startWith watcherFault? config supplies console = (later, .ok (filter, bridge)) ∧
                  bridge.hasWatcher = false ∧ bridge.plugins.Configured config := by
  refine ⟨Config.validate_eq_ok_iff, ?_⟩
  intro supplies watcherFault? passed alike covered unwatched
  have sound : config.Sound := Config.validate_eq_ok_iff.1 passed
  rcases exists_ofSettings (alike.included sound.included) (alike.excluded sound.excluded) with
    ⟨filter, filters⟩
  rcases Plugins.exists_bind (config.validate console).1 sound.single sound.distinct covered
      (fun entry member => alike.scopes entry member (sound.scopes entry member)) with
    ⟨later, plugins, binds⟩
  rcases startWith_of_bound watcherFault? passed filters binds unwatched with ⟨idle, starts⟩
  refine ⟨_, filter, _, starts, idle, ?_⟩
  exact Plugins.configured_of_bind sound (congrArg Prod.snd binds)

/-- A main pipeline for everything, and one for the server files of a folder. -/
def pairedConfig : Config :=
  { Config.standard with
    filter := ⟨["^"], ["^$"]⟩
    hot := ⟨none, true⟩
    pipelines :=
      [⟨"client", true, [], .bundled, [], .standard⟩,
        ⟨"server", false, ["/s/"], .server, [.hooks], .standard⟩] }

theorem start_of_validated_paired :
    (pairedConfig.validate default).2 = .ok () ∧ pairedConfig.ReadsAlike ∧
      ∃ later filter bridge,
        startWith (some "no handles") pairedConfig ⟨["server", "client"], false, true⟩ default =
            (later, .ok (filter, bridge)) ∧
          bridge.plugins.main.name = "client" ∧
            (bridge.plugins.byName? "server").map Plugin.id = some 1 := by
  have scopes : ∀ entry ∈ pairedConfig.pipelines, ∀ pattern ∈ entry.scope, pattern = "/s/" := by
    decide
  have sound : pairedConfig.Sound := by
    refine ⟨?_, ?_, ?_, by decide, by decide, by decide, by decide, rfl, by decide, by decide⟩
    · intro pattern member
      rcases List.mem_singleton.1 member with rfl
      cbv
    · intro pattern member
      rcases List.mem_singleton.1 member with rfl
      cbv
    · intro entry member pattern among
      rw [scopes entry member pattern among]
      cbv
  have passed : (pairedConfig.validate default).2 = .ok () := Config.validate_eq_ok_iff.2 sound
  have alike : pairedConfig.ReadsAlike := by
    refine ⟨fun _ => by cbv, fun _ => by cbv, ?_⟩
    intro entry member _
    have listed : entry.scope = [] ∨ entry.scope = ["/s/"] := by
      revert entry
      decide
    rcases listed with none | folder
    · rw [none]
      cbv
    · rw [folder]
      cbv
  have covered : ∀ entry ∈ pairedConfig.pipelines, entry.name ∈ ["server", "client"] := by
    decide
  rcases (start_of_validated pairedConfig default).2 ⟨["server", "client"], false, true⟩
      (some "no handles") passed alike covered (.inr rfl) with
    ⟨later, filter, bridge, starts, -, configured⟩
  rcases configured.main with ⟨entry, main, -, mirrors⟩
  rcases configured.each 1 _ rfl with ⟨plugin, -, mirrored, found⟩
  refine ⟨passed, alike, later, filter, bridge, starts, ?_, ?_⟩
  · have named : some "client" = some entry.name := congrArg (Option.map PipelineEntry.name) main
    exact mirrors.name.trans (Option.some.inj named).symm
  · exact (congrArg (Option.map Plugin.id) found).trans (congrArg some mirrored.id)

end Bridge

end ModuleBridge
