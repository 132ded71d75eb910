import ModuleBridge.Proofs.Disk

/-!
# Files that are created

When files are created where nothing stood, a path that led to the place of one of them
leads to the file from now on, and every other path leads where it led before.  So the
normal form of a path changes at most once: from the cleaned path to the place of the file.
The two agree where no link was met on the way.
-/

namespace ModuleBridge.Disk

variable {disk later : Disk} {place created : Place} {places : List Place} {path : Path}
  {text? : Option String}

/-! ## Where paths lead -/

/-- Where a path leads once files stand at some places. -/
def Reached.filled (places : List Place) : Reached → Reached
  | .absent place => if place ∈ places then .present place else .absent place
  | reached => reached

theorem Reached.filled_append (places others : List Place) (reached : Reached) :
    (reached.filled places).filled others = reached.filled (places ++ others) := by
  cases reached with
  | present place => rfl
  | detour place rest => rfl
  | absent place =>
      by_cases first : place ∈ places
      · simp [filled, first]
      · simp [filled, first]

/-- A file that is created is no directory, and neither was what stood there before. -/
theorem find?_put_eq_directory_iff (nothing : disk.find? created = none) (place : Place) :
    (disk.put created (.file text?)).find? place = some .directory ↔
      disk.find? place = some .directory := by
  by_cases here : place = created
  · subst here
    have below : place ≠ [] := by
      rintro rfl
      cases nothing
    rw [find?_put_self below, nothing]
    exact ⟨nofun, nofun⟩
  · rw [find?_put_of_ne here]

theorem advance_put
    (nothing : disk.find? created = none) (place : Place) (path : List String) :
    ((disk.put created (.file text?)).advance place path).toOption =
      (disk.advance place path).toOption.map (Reached.filled [created]) := by
  induction path generalizing place with
  | nil => rfl
  | cons step rest inductionHypothesis =>
      rw [advance, advance]
      by_cases inside : disk.find? place = some .directory
      · rw [if_neg (not_not.2 inside),
          if_neg (not_not.2 ((find?_put_eq_directory_iff nothing place).2 inside))]
        split
        · exact inductionHypothesis place
        · split
          · exact inductionHypothesis place.dropLast
          · split
            · rfl
            · by_cases here : place ++ [step] = created
              · subst here
                have stands :
                    (disk.put (place ++ [step]) (.file text?)).find? (place ++ [step]) =
                      some (.file text?) :=
                  find?_put_self (List.append_ne_nil_of_right_ne_nil _ (List.cons_ne_nil _ _)) _ _
                rw [stands, nothing]
                cases rest with
                | nil => simp [advance, Reached.filled, Except.toOption]
                | cons next others => simp [advance, stands, Except.toOption]
              · rw [find?_put_of_ne here]
                split
                · split
                  · simp [Reached.filled, here, Except.toOption]
                  · rfl
                · rfl
                · exact inductionHypothesis (place ++ [step])
      · rw [if_pos inside,
          if_pos (mt (find?_put_eq_directory_iff nothing place).1 inside)]
        rfl

/-- What a link leads to is filled as what is reached without one is. -/
theorem filled_detour
    {before after : Except Failure Reached}
    {onBefore onAfter : Place → List String → Except Failure Reached}
    (advances : after.toOption = before.toOption.map (Reached.filled places))
    (onward : ∀ place path,
      (onAfter place path).toOption = (onBefore place path).toOption.map (Reached.filled places)) :
    (match after with
      | .ok (.detour place path) => onAfter place path
      | outcome => outcome).toOption =
      (match before with
        | .ok (.detour place path) => onBefore place path
        | outcome => outcome).toOption.map (Reached.filled places) := by
  cases before with
  | error failure =>
      cases after with
      | error other => rfl
      | ok reached => cases advances
  | ok reached =>
      cases after with
      | error other => cases advances
      | ok led =>
          rcases Option.some.inj advances with rfl
          cases reached with
          | present place => rfl
          | detour place path => exact onward place path
          | absent place =>
              by_cases here : place ∈ places
              · simp [Reached.filled, here, Except.toOption]
              · simp [Reached.filled, here, Except.toOption]

theorem follow_put
    (nothing : disk.find? created = none) (links : Nat) (place : Place) (path : List String) :
    ((disk.put created (.file text?)).follow links place path).toOption =
      (disk.follow links place path).toOption.map (Reached.filled [created]) := by
  induction links generalizing place path with
  | zero =>
      rw [follow, follow]
      exact filled_detour (advance_put nothing place path) fun _ _ => rfl
  | succ links inductionHypothesis =>
      rw [follow, follow]
      exact filled_detour (advance_put nothing place path) inductionHypothesis

theorem reach_put (nothing : disk.find? created = none) (path : Path) :
    ((disk.put created (.file text?)).reach path).toOption =
      (disk.reach path).toOption.map (Reached.filled [created]) := by
  unfold reach
  split
  · rfl
  · split
    · rfl
    · exact follow_put nothing linkLimit _ _

/-! ## Creating files one after another -/

/-- Files were created on a disk, each at a place where nothing stood. -/
inductive Grown (disk : Disk) : List Place → Disk → Prop where
  | start : Grown disk [] disk
  | created {places : List Place} {later : Disk} (grown : Grown disk places later)
      (place : Place) (text? : Option String) (nothing : later.find? place = none) :
      Grown disk (places ++ [place]) (later.put place (.file text?))

theorem Grown.reach (grown : disk.Grown places later) (path : Path) :
    (later.reach path).toOption = (disk.reach path).toOption.map (Reached.filled places) := by
  induction grown with
  | start =>
      cases disk.reach path with
      | error failure => rfl
      | ok reached => cases reached <;> rfl
  | created grown place text? nothing inductionHypothesis =>
      rw [reach_put nothing, inductionHypothesis, Option.map_map]
      congr 1
      funext reached
      exact reached.filled_append _ _

theorem Grown.working (grown : disk.Grown places later) : later.working = disk.working := by
  induction grown with
  | start => rfl
  | created grown place text? nothing inductionHypothesis => exact inductionHypothesis

/-! ## Normal forms -/

/-- The real path of what is reached, where something stands. -/
def Reached.real? : Reached → Option Path
  | .present place => some (placePath place)
  | _ => none

theorem canonical?_eq (disk : Disk) (path : Path) :
    disk.canonical? path = (disk.reach path).toOption.bind Reached.real? := by
  rw [canonical?, locate]
  cases disk.reach path with
  | error failure => rfl
  | ok reached => cases reached <;> rfl

/-- The normal form of a path to a file that is created is the place of the file. -/
theorem Grown.normalise_of_created
    (grown : disk.Grown places later) (created : place ∈ places)
    (leads : disk.reach path = .ok (.absent place)) :
    later.normalise path = placePath place := by
  rw [normalise, canonical?_eq, grown.reach, leads]
  simp [Except.toOption, Reached.filled, created, Reached.real?]

/-- Other paths keep their normal form. -/
theorem Grown.normalise_of_other
    (grown : disk.Grown places later)
    (other : ∀ place ∈ places, disk.reach path ≠ .ok (.absent place)) :
    later.normalise path = disk.normalise path := by
  have same : later.canonical? path = disk.canonical? path := by
    rw [canonical?_eq, canonical?_eq, grown.reach]
    cases leads : disk.reach path with
    | error failure => rfl
    | ok reached =>
        cases reached with
        | present place => rfl
        | detour place rest => rfl
        | absent place =>
            have apart : place ∉ places := fun member => other place member leads
            simp [Except.toOption, Reached.filled, apart]
  rw [normalise, normalise, same, workingPath, workingPath, grown.working]

/-- Where nothing stands, the normal form of an absolute path is the cleaned path. -/
theorem normalise_of_absent
    (absolute : path.isAbsolute = true) (leads : disk.reach path = .ok (.absent place)) :
    disk.normalise path = path.clean := by
  rw [normalise, canonical?_eq, leads]
  simp [Except.toOption, Reached.real?, Path.join, absolute]

/-- The normal form stays unless the path is not cleaned to the place that is filled. -/
theorem Grown.normalise_eq_iff
    (grown : disk.Grown places later) (absolute : path.isAbsolute = true) :
    disk.normalise path = later.normalise path ↔
      ∀ place ∈ places, disk.reach path = .ok (.absent place) → path.clean = placePath place := by
  constructor
  · intro same place created leads
    rw [← normalise_of_absent absolute leads, same]
    exact grown.normalise_of_created created leads
  · intro cleaned
    by_cases other : ∀ place ∈ places, disk.reach path ≠ .ok (.absent place)
    · exact (grown.normalise_of_other other).symm
    · push Not at other
      rcases other with ⟨place, created, leads⟩
      rw [normalise_of_absent absolute leads, grown.normalise_of_created created leads]
      exact cleaned place created leads

/-- Where no link is met on the way, a path is cleaned to the place that it leads to. -/
theorem clean_of_straight
    (absolute : path.isAbsolute = true)
    (straight : ∀ next rest, disk.advance [] (steps path.text) ≠ .ok (.detour next rest))
    (leads : disk.reach path = .ok (.absent place)) :
    path.clean = placePath place := by
  have followed := follow_of_reach leads
  rw [if_pos absolute, linkLimit, follow] at followed
  rw [clean_eq_placePath absolute]
  cases advanced : disk.advance [] (steps path.text) with
  | error failure =>
      rw [advanced] at followed
      cases followed
  | ok reached =>
      rw [advanced] at followed
      rcases advance_of_no_link advanced with rfl | rfl | ⟨⟨next, rest, rfl⟩, -⟩
      · cases followed
      · cases followed
        rfl
      · exact absurd advanced (straight next rest)

end ModuleBridge.Disk
