import ModuleBridge.Plugins

/-!
# Bound pipelines

Every path is owned by one of the bound pipelines, and each of them stands at its
index.  So what a pipeline sees of a file that it does not own follows from the
owner's target and its own.
-/

namespace ModuleBridge

/-! ## Binding -/

/-- A pipeline is what an entry configures, bound at an index. -/
structure Plugin.Mirrors (plugin : Plugin) (index : Nat) (entry : PipelineEntry) : Prop where
  id : plugin.id = index
  name : plugin.name = entry.name
  isMain : plugin.isMain = entry.main
  target : plugin.target = entry.target
  capabilities : plugin.capabilities = entry.capabilities
  scope :
    plugin.scope? =
      if entry.scope.isEmpty then none else (Pattern.readAll false entry.scope).toOption
  options : plugin.options = entry.options

theorem Plugin.mirrors_of_ofEntry
    {plugin : Plugin} {index : Nat} {entry : PipelineEntry}
    (made : Plugin.ofEntry index entry = .ok plugin) : plugin.Mirrors index entry := by
  rw [Plugin.ofEntry] at made
  cases patterns : Pattern.readAll false entry.scope with
  | error refusal =>
      rw [patterns] at made
      cases made
  | ok read =>
      rw [patterns] at made
      cases made
      exact ⟨rfl, rfl, rfl, rfl, rfl, by rw [patterns]; rfl, rfl⟩

namespace Plugins

variable {plugins : Plugins} {plugin : Plugin} {path : Path}

/-- Every pipeline stands at its index. -/
def Bound (plugins : Plugins) : Prop :=
  ∀ plugin ∈ plugins.items, plugins.get? plugin.id = some plugin

/-- Each entry is bound, at consecutive indices. -/
theorem mirrors_of_bindAll
    {entries : List PipelineEntry} {first : Nat} {supplied unused : List String}
    {items : List Plugin}
    (binds : bindAll first supplied entries = .ok (items, unused)) :
    items.length = entries.length ∧
      ∀ {index : Nat} {entry : PipelineEntry} {plugin : Plugin}, entries[index]? = some entry →
        items[index]? = some plugin → plugin.Mirrors (first + index) entry := by
  induction entries generalizing first supplied items with
  | nil =>
      cases binds
      exact ⟨rfl, nofun⟩
  | cons entry rest inductionHypothesis =>
      rw [bindAll] at binds
      split at binds
      · cases made : Plugin.ofEntry first entry with
        | error refusal =>
            rw [made] at binds
            cases binds
        | ok head =>
            rw [made] at binds
            dsimp only at binds
            cases others :
                bindAll (first + 1) (supplied.filter fun name => name != entry.name) rest with
            | error fault =>
                rw [others] at binds
                cases binds
            | ok bound =>
                rw [others] at binds
                cases binds
                rcases inductionHypothesis others with ⟨lengths, mirrors⟩
                refine ⟨congrArg Nat.succ lengths, ?_⟩
                intro index found plugin configured stands
                cases index with
                | zero =>
                    rcases Option.some.inj configured with rfl
                    rcases Option.some.inj stands with rfl
                    exact Plugin.mirrors_of_ofEntry made
                | succ index =>
                    have later := mirrors configured stands
                    rwa [Nat.add_assoc, Nat.add_comm 1 index] at later
      · cases binds

/-- Every bound pipeline mirrors the entry at its index. -/
theorem exists_entry_of_bindAll
    {entries : List PipelineEntry} {first : Nat} {supplied unused : List String}
    {items : List Plugin}
    (binds : bindAll first supplied entries = .ok (items, unused))
    {index : Nat} (stands : items[index]? = some plugin) :
    ∃ entry, entries[index]? = some entry ∧ plugin.Mirrors (first + index) entry := by
  rcases mirrors_of_bindAll binds with ⟨lengths, mirrors⟩
  have inside : index < entries.length := by
    rw [← lengths]
    exact (List.getElem?_eq_some_iff.1 stands).1
  exact ⟨entries[index], List.getElem?_eq_getElem inside,
    mirrors (List.getElem?_eq_getElem inside) stands⟩

theorem bindAll_of_bind
    {entries : List PipelineEntry} {supplied : List String} {console : Console}
    (binds : (Plugins.bind entries supplied console).2 = .ok plugins) :
    ∃ unused, bindAll 0 supplied entries = .ok (plugins.items, unused) := by
  rw [Plugins.bind] at binds
  cases all : bindAll 0 supplied entries with
  | error fault =>
      rw [all] at binds
      cases binds
  | ok bound =>
      rw [all] at binds
      dsimp only at binds
      split at binds
      · cases binds
        exact ⟨bound.2, rfl⟩
      · cases binds

theorem id_of_bind
    {entries : List PipelineEntry} {supplied : List String} {console : Console}
    (binds : (Plugins.bind entries supplied console).2 = .ok plugins)
    {index : Nat} (stands : plugins.items[index]? = some plugin) :
    plugin.id = index := by
  rcases bindAll_of_bind binds with ⟨unused, all⟩
  rcases exists_entry_of_bindAll all stands with ⟨entry, -, mirrors⟩
  rw [mirrors.id, Nat.zero_add]

/-- Pipelines that are bound to a configuration stand at their indices. -/
theorem bound_of_bind
    {entries : List PipelineEntry} {supplied : List String} {console : Console}
    (binds : (Plugins.bind entries supplied console).2 = .ok plugins) :
    plugins.Bound := by
  intro plugin member
  rcases List.mem_iff_getElem?.1 member with ⟨index, stands⟩
  rw [get?, id_of_bind binds stands]
  exact stands

/-! ## Owners -/

theorem main_mem (plugins : Plugins) : plugins.main ∈ plugins.items :=
  List.get_mem _ _

/-- A path is owned by one of the pipelines. -/
theorem owner_mem (plugins : Plugins) (path : Path) : plugins.owner path ∈ plugins.items := by
  unfold owner
  split
  · rename_i plugin claims
    exact List.mem_of_find?_eq_some claims
  · split
    · exact main_mem plugins
    · cases catchAll : plugins.items.find? Plugin.isCatchAll with
      | none => exact main_mem plugins
      | some plugin => exact List.mem_of_find?_eq_some catchAll

/-- A lone pipeline is every one there is. -/
theorem eq_of_lone
    {other : Plugin} (lone : plugins.isShared = false)
    (member : plugin ∈ plugins.items) (otherMember : other ∈ plugins.items) :
    plugin = other := by
  have few : plugins.items.length ≤ 1 := by
    simpa [isShared] using lone
  rcases List.mem_iff_getElem.1 member with ⟨index, inside, rfl⟩
  rcases List.mem_iff_getElem.1 otherMember with ⟨place, alsoInside, rfl⟩
  obtain rfl : index = place := by omega
  rfl

/-- A pipeline that sees a file itself owns it. -/
theorem owner_of_sight
    (member : plugin ∈ plugins.items) (sees : plugins.sight plugin.id path = .owned) :
    (plugins.owner path).id = plugin.id := by
  rw [sight] at sees
  cases shared : plugins.isShared with
  | false => rw [eq_of_lone shared (owner_mem plugins path) member]
  | true =>
      rw [shared, if_neg (by decide)] at sees
      dsimp only at sees
      split at sees
      · assumption
      · split at sees <;> cases sees

/-- What a pipeline sees of a file that it does not own. -/
theorem sight_of_other
    (bound : plugins.Bound) (member : plugin ∈ plugins.items)
    (other : (plugins.owner path).id ≠ plugin.id) :
    plugins.sight plugin.id path =
      if (plugins.owner path).target = .server ∧ plugin.target = .bundled then
        .aggregate (plugins.owner path).id
      else .excluded (plugins.owner path).id := by
  have shared : plugins.isShared = true := by
    cases lone : plugins.isShared with
    | true => rfl
    | false => exact absurd (by rw [eq_of_lone lone (owner_mem plugins path) member]) other
  rw [sight, shared, if_neg (by decide), bound plugin member]
  exact if_neg other

end Plugins

end ModuleBridge
