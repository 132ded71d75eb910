import ModuleBridge.Proofs.Record.Coherence
import ModuleBridge.Registry

/-!
# Evolution of a registry

A registry evolves when every record evolves and no record is lost.  The law
says, for each key, what may happen to the record under it.
-/

namespace ModuleBridge.Registry

/-! ## Records that are found -/

@[simp]
theorem find_create (registry : Registry) (key other : Path) :
    (registry.create key).find other = registry.find other := by
  unfold find
  by_cases same : other = key
  · subst same
    rw [get?_create_self]
    rfl
  · rw [get?_create_of_ne same]

theorem create_of_isSome
    {registry : Registry} {key : Path} (known : (registry.get? key).isSome) :
    registry.create key = registry :=
  if_pos known

theorem isSome_create_self (registry : Registry) (key : Path) :
    ((registry.create key).get? key).isSome := by
  rw [get?_create_self]
  rfl

theorem isSome_create
    {registry : Registry} {other : Path} (known : (registry.get? other).isSome) (key : Path) :
    ((registry.create key).get? other).isSome := by
  by_cases same : other = key
  · subst same
    exact isSome_create_self registry other
  · rwa [get?_create_of_ne same]

theorem isSome_put
    {registry : Registry} {other : Path} (known : (registry.get? other).isSome)
    (key : Path) (record : Record) :
    ((registry.put key record).get? other).isSome := by
  by_cases same : other = key
  · subst same
    rw [get?_put_self, Option.isSome_map]
    exact known
  · rwa [get?_put_of_ne same]

theorem find_put_self
    {registry : Registry} {key : Path} (known : (registry.get? key).isSome)
    (record : Record) :
    (registry.put key record).find key = record := by
  rcases Option.isSome_iff_exists.1 known with ⟨old, stored⟩
  simp [find, get?_put_self, stored]

/-- Where there was no record, none is put. -/
theorem find_put_unknown
    {registry : Registry} {key : Path} (unknown : ¬(registry.get? key).isSome)
    (record : Record) :
    (registry.put key record).find key = registry.find key := by
  rw [Option.not_isSome_iff_eq_none] at unknown
  simp [find, get?_put_self, unknown]

theorem find_put_of_ne
    {key other : Path} (different : other ≠ key)
    (registry : Registry) (record : Record) :
    (registry.put key record).find other = registry.find other := by
  simp [find, get?_put_of_ne different]

theorem put_put (registry : Registry) (key : Path) (first second : Record) :
    (registry.put key first).put key second = registry.put key second := by
  simp only [put, Entries.set, mk.injEq, List.map_map, and_true]
  apply List.map_congr_left
  intro entry _
  by_cases same : entry.1 = key <;> simp [same]

@[simp]
theorem find_empty (key : Path) : empty.find key = .fresh key := rfl

/-- A record that is there is the one that is found. -/
theorem find_of_get?
    {registry : Registry} {key : Path} {record : Record}
    (known : registry.get? key = some record) :
    registry.find key = record := by
  rw [find, known]
  rfl

/-- A record that is no fresh one is there. -/
theorem get?_of_ne_fresh
    {registry : Registry} {key : Path} (other : registry.find key ≠ .fresh key) :
    registry.get? key = some (registry.find key) := by
  cases known : registry.get? key with
  | some record => rw [find_of_get? known]
  | none =>
      refine absurd ?_ other
      rw [find, known]
      rfl

/-- A text is only held by a record that is there. -/
theorem get?_of_held
    {registry : Registry} {key : Path} {text : String}
    (held : (registry.find key).source? = some text) :
    registry.get? key = some (registry.find key) := by
  refine get?_of_ne_fresh ?_
  intro fresh
  rw [fresh] at held
  cases held

/-! ## Evolution -/

/-- Every record evolves by its law, and none is lost. -/
structure Evolves
    (law : Path → Record → Record.Action → Prop)
    (before after : Registry) : Prop where
  registered : ∀ key, (before.get? key).isSome → (after.get? key).isSome
  record : ∀ key, (before.find key).Evolves (law key) (after.find key)

namespace Evolves

variable {law : Path → Record → Record.Action → Prop} {before after : Registry}

theorem refl (registry : Registry) : registry.Evolves law registry where
  registered _ known := known
  record _ := Relation.ReflTransGen.refl

theorem trans
    {middle : Registry}
    (first : before.Evolves law middle) (second : middle.Evolves law after) :
    before.Evolves law after where
  registered key known := second.registered key (first.registered key known)
  record key := Relation.ReflTransGen.trans (first.record key) (second.record key)

theorem mono
    {wider : Path → Record → Record.Action → Prop}
    (evolves : before.Evolves law after)
    (permits : ∀ key record action, law key record action → wider key record action) :
    before.Evolves wider after where
  registered := evolves.registered
  record key := (evolves.record key).mono (permits key)

/-- What is found counts, not how the entries stand. -/
theorem of_records
    (same : after.records = before.records) :
    before.Evolves law after := by
  have sameLookup : ∀ key, after.get? key = before.get? key := by
    intro key
    rw [get?, same, get?]
  constructor
  · intro key known
    rwa [sameLookup]
  · intro key
    have sameRecord : after.find key = before.find key :=
      congrArg (Option.getD · (Record.fresh key)) (sameLookup key)
    rw [sameRecord]
    exact Relation.ReflTransGen.refl

theorem create (registry : Registry) (key : Path) :
    registry.Evolves law (registry.create key) where
  registered _ known := isSome_create known key
  record other := by
    rw [find_create]
    exact Relation.ReflTransGen.refl

/-- A record is put that its predecessor may have evolved to. -/
theorem put
    {registry : Registry} {key : Path} {record : Record}
    (evolves : (registry.find key).Evolves (law key) record) :
    registry.Evolves law (registry.put key record) where
  registered _ known := isSome_put known key record
  record other := by
    by_cases same : other = key
    · subst same
      by_cases known : (registry.get? other).isSome
      · rwa [find_put_self known]
      · rw [find_put_unknown known]
        exact Relation.ReflTransGen.refl
    · rw [find_put_of_ne same]
      exact Relation.ReflTransGen.refl

end Evolves

end ModuleBridge.Registry
