import ModuleBridge.Pattern.CharSet

/-!
# What character sets hold

Bringing ranges into order and joining those that touch changes no member, so
a union holds the members of both sides.  Where case is ignored a set grows by
every code point that folds together with a member, and by no other: two code
points are alike but for case when some code point is what both of them fold to.
-/

namespace ModuleBridge.Pattern

/-- The code point is what another one folds to, or that one itself. -/
def FoldsTo (pairs : List (Nat × Nat)) (point target : Nat) : Prop :=
  point = target ∨ (point, target) ∈ pairs

/-- Both code points fold to one. -/
def Alike (pairs : List (Nat × Nat)) (left right : Nat) : Prop :=
  ∃ target, FoldsTo pairs left target ∧ FoldsTo pairs right target

section Alike

variable {pairs : List (Nat × Nat)} {left right point : Nat}

theorem alike_refl (pairs : List (Nat × Nat)) (point : Nat) : Alike pairs point point :=
  ⟨point, .inl rfl, .inl rfl⟩

theorem Alike.symm (alike : Alike pairs left right) : Alike pairs right left := by
  rcases alike with ⟨target, leftFolds, rightFolds⟩
  exact ⟨target, rightFolds, leftFolds⟩

/-- A code point that no pair mentions is alike to itself only. -/
theorem eq_of_alike
    (unpaired : ∀ pair ∈ pairs, pair.1 ≠ point ∧ pair.2 ≠ point)
    (alike : Alike pairs left point) :
    left = point := by
  rcases alike with ⟨target, leftFolds, pointFolds⟩
  rcases pointFolds with rfl | paired
  · rcases leftFolds with same | paired
    · exact same
    · exact absurd rfl (unpaired _ paired).2
  · exact absurd rfl (unpaired _ paired).1

end Alike

namespace CharSet

variable {set left right : CharSet} {ranges : List (Nat × Nat)} {point : Nat}

theorem contains_iff :
    set.contains point = true ↔ ∃ range ∈ set.ranges, range.1 ≤ point ∧ point ≤ range.2 := by
  simp [contains]

theorem contains_cons (range : Nat × Nat) (rest : List (Nat × Nat)) :
    (CharSet.mk (range :: rest)).contains point = true ↔
      (range.1 ≤ point ∧ point ≤ range.2) ∨ (CharSet.mk rest).contains point = true := by
  simp [contains]

@[simp]
theorem contains_single {member : Nat} :
    (single member).contains point = true ↔ point = member := by
  simp only [contains_iff, single, List.mem_singleton, exists_eq_left]
  omega

/-- Joining keeps the start of the first range. -/
theorem fst_of_join
    {range next : Nat × Nat} {rest others : List (Nat × Nat)}
    (joined : join (range :: rest) = next :: others) :
    next.1 = range.1 := by
  unfold join at joined
  split at joined
  · cases joined
    rfl
  · split at joined <;> cases joined <;> rfl

/-- Joining ranges in order changes no member. -/
theorem contains_join (ordered : ranges.Pairwise fun left right => left.1 ≤ right.1) :
    (CharSet.mk (join ranges)).contains point = true ↔
      (CharSet.mk ranges).contains point = true := by
  induction ranges with
  | nil => rfl
  | cons range rest induction =>
    rcases List.pairwise_cons.1 ordered with ⟨first, others⟩
    have members := induction others
    rw [contains_cons, ← members]
    cases joined : join rest with
    | nil => simp only [join, joined, contains_cons]
    | cons next further =>
      have behind : range.1 ≤ next.1 := by
        cases rest with
        | nil => cases joined
        | cons second rest =>
          rw [fst_of_join joined]
          exact first second List.mem_cons_self
      simp only [join, joined]
      split
      next touching =>
        simp only [contains_cons, ← or_assoc]
        exact or_congr_left (by omega)
      next => simp only [contains_cons]

/-- Bringing ranges into order changes no member. -/
@[simp]
theorem contains_ofRanges :
    (ofRanges ranges).contains point = true ↔ (CharSet.mk ranges).contains point = true := by
  unfold ofRanges
  rw [contains_join]
  · simp only [contains_iff, List.mem_mergeSort, List.mem_filter, decide_eq_true_eq]
    constructor
    · rintro ⟨range, ⟨member, -⟩, within⟩
      exact ⟨range, member, within⟩
    · rintro ⟨range, member, within⟩
      exact ⟨range, ⟨member, Nat.le_trans within.1 within.2⟩, within⟩
  · refine (List.pairwise_mergeSort ?_ ?_ _).imp of_decide_eq_true
    · intro first second third before behind
      simp only [decide_eq_true_eq] at *
      omega
    · intro first second
      simp only [Bool.or_eq_true, decide_eq_true_eq]
      omega

@[simp]
theorem contains_union :
    (left.union right).contains point = true ↔
      left.contains point = true ∨ right.contains point = true := by
  rw [union, contains_ofRanges]
  simp only [contains_iff, List.mem_append, or_and_right, exists_or]

/-- The set of the code points that pairs lead to, where a condition holds of the pair. -/
theorem contains_filterMap
    {pairs : List (Nat × Nat)} {holds : Nat × Nat → Bool} {lead : Nat × Nat → Nat} :
    (ofRanges (pairs.filterMap fun pair =>
        if holds pair then some (lead pair, lead pair) else none)).contains point = true ↔
      ∃ pair ∈ pairs, holds pair = true ∧ lead pair = point := by
  rw [contains_ofRanges, contains_iff]
  simp only [List.mem_filterMap]
  constructor
  · rintro ⟨range, ⟨pair, member, reads⟩, within⟩
    split at reads
    next holding =>
      cases reads
      exact ⟨pair, member, holding, Nat.le_antisymm within.1 within.2⟩
    next => cases reads
  · rintro ⟨pair, member, holding, rfl⟩
    exact ⟨_, ⟨pair, member, if_pos holding⟩, Nat.le_refl _, Nat.le_refl _⟩

/-- Where case is ignored, exactly the code points that are alike to a member belong to a set. -/
theorem contains_foldBy {pairs : List (Nat × Nat)} :
    (set.foldBy pairs).contains point = true ↔
      ∃ member, set.contains member = true ∧ Alike pairs point member := by
  unfold foldBy
  rw [contains_union, contains_filterMap]
  simp only [contains_union, contains_filterMap]
  constructor
  · rintro ((held | ⟨pair, paired, held, rfl⟩) | ⟨pair, paired, reached, rfl⟩)
    · exact ⟨point, held, alike_refl pairs point⟩
    · exact ⟨pair.1, held, pair.2, .inl rfl, .inr paired⟩
    · rcases reached with held | ⟨other, otherPaired, held, same⟩
      · exact ⟨pair.2, held, pair.2, .inr paired, .inl rfl⟩
      · exact ⟨other.1, held, pair.2, .inr paired, .inr (same ▸ otherPaired)⟩
  · rintro ⟨member, held, target, pointFolds, memberFolds⟩
    -- What the member folds to has been reached before the last step adds what folds to it.
    have reached : set.contains target = true ∨
        ∃ pair ∈ pairs, set.contains pair.1 = true ∧ pair.2 = target := by
      rcases memberFolds with rfl | paired
      · exact .inl held
      · exact .inr ⟨_, paired, held, rfl⟩
    rcases pointFolds with rfl | paired
    · exact .inl reached
    · exact .inr ⟨_, paired, reached, rfl⟩

theorem length_join_le (ranges : List (Nat × Nat)) : (join ranges).length ≤ ranges.length := by
  induction ranges with
  | nil => exact Nat.le_refl 0
  | cons range rest induction =>
    unfold join
    split
    · simp
    next next others joined =>
      rw [joined] at induction
      simp only [List.length_cons] at induction
      split <;> simp only [List.length_cons] <;> omega

theorem length_ofRanges_le (ranges : List (Nat × Nat)) :
    (ofRanges ranges).ranges.length ≤ ranges.length := by
  refine Nat.le_trans (length_join_le _) ?_
  rw [List.length_mergeSort]
  exact List.length_filter_le _ _

theorem length_union_le (left right : CharSet) :
    (left.union right).ranges.length ≤ left.ranges.length + right.ranges.length := by
  have joined := length_ofRanges_le (left.ranges ++ right.ranges)
  rwa [List.length_append] at joined

/-- Every pair adds a range for what it leads to and one for where it comes from, at most. -/
theorem length_foldBy_le (pairs : List (Nat × Nat)) (set : CharSet) :
    (set.foldBy pairs).ranges.length ≤ set.ranges.length + 2 * pairs.length := by
  have added : ∀ lead : Nat × Nat → Option (Nat × Nat),
      (ofRanges (pairs.filterMap lead)).ranges.length ≤ pairs.length := fun lead =>
    Nat.le_trans (length_ofRanges_le _) (List.length_filterMap_le lead pairs)
  unfold foldBy
  refine Nat.le_trans (length_union_le _ _) ?_
  refine Nat.le_trans (Nat.add_le_add (length_union_le _ _) (added _)) ?_
  have targets := added fun pair =>
    if set.contains pair.1 then some (pair.2, pair.2) else none
  omega

end CharSet

end ModuleBridge.Pattern
