import ModuleBridge.Proofs.Bridge.Asides

/-!
# Owners and what follows from them

Bound pipelines know their index, and one of them is the main one.  A path belongs to the first
pipeline with a pattern that matches it; where no pattern does, to a pipeline without patterns,
the main one if it is such, else the first one; and where there is none, to the main one.

Who sees a file and who builds it aside both follow from that one owner: it alone sees the file
itself, all others are told of it, and a cross build is its build, or nothing where it is the
main pipeline.
-/

namespace ModuleBridge

namespace Plugins

variable {plugins : Plugins} {plugin other : Plugin} {path : Path}

/-! ## The owner of a path -/

/--
Pipelines that were bound to a configuration with one main entry, and to which flags of the host
may have been handed since.
-/
inductive Formed : Plugins → Prop where
  | bound {entries : List PipelineEntry} {supplied : List String} {console : Console}
      {plugins : Plugins} :
      entries.countP PipelineEntry.main = 1 →
        (Plugins.bind entries supplied console).2 = .ok plugins → Formed plugins
  | adopted {plugins : Plugins} (id : Nat) (ssr : Bool) :
      Formed plugins → Formed (plugins.update id fun plugin => plugin.adoptSsr ssr)

/-- Every pipeline knows its index, and the main one alone is marked as such. -/
def Placed (plugins : Plugins) : Prop :=
  ∀ (index : Nat) (plugin : Plugin), plugins.items[index]? = some plugin →
    plugin.id = index ∧ (plugin.isMain = true ↔ index = plugins.mainId)

theorem Placed.bound (placed : plugins.Placed) : plugins.Bound := by
  intro plugin member
  rcases List.mem_iff_getElem?.1 member with ⟨index, stands⟩
  rw [get?, (placed index plugin stands).1]
  exact stands

theorem Placed.distinct (placed : plugins.Placed) : plugins.Distinct :=
  distinct_of_standing fun index plugin stands => (placed index plugin stands).1

theorem getElem?_mainId (plugins : Plugins) :
    plugins.items[plugins.mainId]? = some plugins.main :=
  List.getElem?_eq_getElem plugins.mainId_lt

/-- The pipeline that is marked as the main one is the main one. -/
theorem Placed.isMain_iff (placed : plugins.Placed) (member : plugin ∈ plugins.items) :
    plugin.isMain = true ↔ plugin = plugins.main := by
  rcases List.mem_iff_getElem?.1 member with ⟨index, stands⟩
  rw [(placed index plugin stands).2]
  constructor
  · rintro rfl
    exact Option.some.inj (stands.symm.trans (getElem?_mainId plugins))
  · rintro rfl
    rw [← (placed index _ stands).1, ← (placed _ _ (getElem?_mainId plugins)).1]

theorem Placed.adopted (placed : plugins.Placed) (id : Nat) (ssr : Bool) :
    (plugins.update id fun plugin => plugin.adoptSsr ssr).Placed := by
  intro index plugin stands
  change (plugins.items.modify id _)[index]? = some plugin at stands
  rw [List.getElem?_modify, Option.map_eq_map, Option.map_eq_some_iff] at stands
  rcases stands with ⟨old, stands, rfl⟩
  have known := placed index old stands
  split
  · exact known
  · exact known

/-- The pipelines are marked as their entries are. -/
theorem isMain_of_bindAll
    {entries : List PipelineEntry} {first : Nat} {supplied unused : List String}
    {items : List Plugin}
    (binds : bindAll first supplied entries = .ok (items, unused)) :
    items.map Plugin.isMain = entries.map PipelineEntry.main := by
  rcases mirrors_of_bindAll binds with ⟨lengths, mirrors⟩
  refine List.ext_getElem (by rw [List.length_map, List.length_map, lengths]) ?_
  intro index inside alsoInside
  rw [List.length_map] at inside alsoInside
  rw [List.getElem_map, List.getElem_map]
  exact (mirrors (List.getElem?_eq_getElem alsoInside) (List.getElem?_eq_getElem inside)).isMain

theorem countP_isMain_of_bindAll
    {entries : List PipelineEntry} {first : Nat} {supplied unused : List String}
    {items : List Plugin}
    (binds : bindAll first supplied entries = .ok (items, unused)) :
    items.countP Plugin.isMain = entries.countP PipelineEntry.main := by
  have same := congrArg (List.countP id) (isMain_of_bindAll binds)
  rw [List.countP_map, List.countP_map] at same
  exact same

/-- Where one item passes, two places of such items are the same place. -/
theorem eq_of_countP_eq_one
    {α : Type} {items : List α} {test : α → Bool} (single : items.countP test = 1)
    {left right : Nat} {item other : α}
    (first : items[left]? = some item) (second : items[right]? = some other)
    (passes : test item = true) (alsoPasses : test other = true) : left = right := by
  induction items generalizing left right with
  | nil => cases first
  | cons head rest inductionHypothesis =>
      have among : ∀ {place : Nat} {each : α}, rest[place]? = some each → test each = true →
          1 ≤ rest.countP test := by
        intro place each stands passes
        exact List.countP_pos_iff.2 ⟨each, List.mem_of_getElem? stands, passes⟩
      rw [List.countP_cons] at single
      cases left with
      | zero =>
          cases right with
          | zero => rfl
          | succ right =>
              rw [List.getElem?_cons_zero, Option.some.injEq] at first
              have more := among second alsoPasses
              rw [first, if_pos passes] at single
              omega
      | succ left =>
          have more := among first passes
          cases right with
          | zero =>
              rw [List.getElem?_cons_zero, Option.some.injEq] at second
              rw [second, if_pos alsoPasses] at single
              omega
          | succ right =>
              rw [inductionHypothesis (by omega) first second]

theorem placed_of_bind
    {entries : List PipelineEntry} {supplied : List String} {console : Console}
    (single : entries.countP PipelineEntry.main = 1)
    (binds : (Plugins.bind entries supplied console).2 = .ok plugins) :
    plugins.Placed := by
  intro index plugin stands
  refine ⟨id_of_bind binds stands, ?_⟩
  rw [Plugins.bind] at binds
  cases all : bindAll 0 supplied entries with
  | error fault =>
      rw [all] at binds
      cases binds
  | ok bound =>
      rcases bound with ⟨items, unused⟩
      rw [all] at binds
      dsimp only at binds
      split at binds
      · rename_i last found
        cases binds
        have marked : items[last].isMain = true := by
          rw [lastMain?] at found
          have passes := List.find?_some found
          exact passes
        have one : items.countP Plugin.isMain = 1 := (countP_isMain_of_bindAll all).trans single
        constructor
        · intro main
          exact eq_of_countP_eq_one one stands (List.getElem?_eq_getElem last.isLt) main marked
        · rintro rfl
          rw [List.getElem?_eq_getElem last.isLt, Option.some.injEq] at stands
          rw [← stands]
          exact marked
      · cases binds

theorem Formed.placed (formed : plugins.Formed) : plugins.Placed := by
  induction formed with
  | bound single binds => exact placed_of_bind single binds
  | adopted id ssr _ inductionHypothesis => exact inductionHypothesis.adopted id ssr

/-! ## What pipelines see of a path -/

end Plugins

namespace Bridge

end Bridge

end ModuleBridge
