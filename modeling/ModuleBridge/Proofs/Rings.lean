import Mathlib
import ModuleBridge.Path

/-!
# Rings around a file

The files that lead on from a start lie in rings: a ring holds those at one
distance, in the order in which the files of the ring before lead to them, each
where it is led to first.  Where only finitely many files lead on, the rings end,
and then everything that can be reached has been found.
-/

namespace ModuleBridge

/-! ## First occurrences -/

/-- The files of a list that were not seen before, each where it stands first. -/
def firsts (seen files : List Path) : List Path :=
  (files.filter fun file => !seen.contains file).eraseDups

section

variable {seen files : List Path} {file : Path}

theorem mem_firsts : file ∈ firsts seen files ↔ file ∈ files ∧ file ∉ seen := by
  simp [firsts]

@[simp]
theorem firsts_nil (seen : List Path) : firsts seen [] = [] := rfl

theorem firsts_cons_of_mem (member : file ∈ seen) (files : List Path) :
    firsts seen (file :: files) = firsts seen files := by
  simp [firsts, member]

theorem firsts_cons_of_not_mem (unseen : file ∉ seen) (files : List Path) :
    firsts seen (file :: files) = file :: firsts (file :: seen) files := by
  have same : ∀ other,
      ((!other == file) && !seen.contains other) = !(file :: seen).contains other := by
    intro other
    rw [List.contains_cons, Bool.not_or]
  rw [firsts, List.filter_cons_of_pos (by simpa using unseen), List.eraseDups_cons,
    List.filter_filter, firsts]
  simp only [same]

/-- Only which files were seen counts. -/
theorem firsts_congr
    {other : List Path} (same : ∀ file, file ∈ seen ↔ file ∈ other) (files : List Path) :
    firsts seen files = firsts other files := by
  simp [firsts, same]

theorem nodup_firsts (seen files : List Path) : (firsts seen files).Nodup := by
  induction files generalizing seen with
  | nil => exact List.nodup_nil
  | cons file rest inductionHypothesis =>
      by_cases member : file ∈ seen
      · rw [firsts_cons_of_mem member]
        exact inductionHypothesis seen
      · rw [firsts_cons_of_not_mem member]
        refine List.nodup_cons.2 ⟨?_, inductionHypothesis _⟩
        intro again
        exact (mem_firsts.1 again).2 List.mem_cons_self

end

/-! ## Fronts -/

/-- How far a search has come from a start. -/
structure Front where
  /-- The files found so far, the start apart. -/
  found : List Path
  /-- The files at the greatest distance reached. -/
  ring : List Path

namespace Front

/-- Nothing is found yet. -/
def start (root : Path) : Front := ⟨[], [root]⟩

/-- The front one ring further. -/
def next (children : Path → List Path) (root : Path) (front : Front) : Front :=
  let ring := firsts (root :: front.found) (front.ring.flatMap children)
  ⟨front.found ++ ring, ring⟩

/-- The front after a number of rings. -/
def after (children : Path → List Path) (root : Path) : Nat → Front
  | 0 => start root
  | rings + 1 => (after children root rings).next children root

end Front

/-- A file is reached from a start over a number of files. -/
inductive Leads (children : Path → List Path) (root : Path) : Nat → Path → Prop where
  | start : Leads children root 0 root
  | step {distance : Nat} {importer file : Path}
      (before : Leads children root distance importer)
      (child : file ∈ children importer) :
      Leads children root (distance + 1) file

/-- A front holds what is reached over a distance, and in its ring what is reached no sooner. -/
structure Front.Exact
    (children : Path → List Path) (root : Path) (rings : Nat) (front : Front) : Prop where
  found :
    ∀ file, file ∈ root :: front.found ↔
      ∃ distance ≤ rings, Leads children root distance file
  ring :
    ∀ file, file ∈ front.ring ↔
      Leads children root rings file ∧
        ∀ distance < rings, ¬Leads children root distance file
  nodup : (root :: front.found).Nodup

section

variable {children : Path → List Path} {root : Path} {rings : Nat} {front : Front}

theorem Leads.of_zero {file : Path} (leads : Leads children root 0 file) : file = root := by
  cases leads
  rfl

theorem Leads.importer {file : Path} (leads : Leads children root (rings + 1) file) :
    ∃ importer, Leads children root rings importer ∧ file ∈ children importer := by
  cases leads with
  | step before child => exact ⟨_, before, child⟩

namespace Front

theorem exact_start (children : Path → List Path) (root : Path) :
    Exact children root 0 (start root) where
  found file := by
    constructor
    · intro member
      obtain rfl : file = root := List.mem_singleton.1 member
      exact ⟨0, Nat.le_refl 0, .start⟩
    · rintro ⟨distance, near, leads⟩
      obtain rfl : distance = 0 := Nat.le_zero.1 near
      exact List.mem_singleton.2 leads.of_zero
  ring file := by
    constructor
    · intro member
      obtain rfl : file = root := List.mem_singleton.1 member
      exact ⟨.start, fun distance nearer => absurd nearer (Nat.not_lt_zero _)⟩
    · rintro ⟨leads, -⟩
      exact List.mem_singleton.2 leads.of_zero
  nodup := List.nodup_singleton root

theorem Exact.mem_ring_next
    (exact : Exact children root rings front) (file : Path) :
    file ∈ (front.next children root).ring ↔
      Leads children root (rings + 1) file ∧
        ∀ distance < rings + 1, ¬Leads children root distance file := by
  have unseen :
      file ∉ root :: front.found ↔
        ∀ distance < rings + 1, ¬Leads children root distance file := by
    rw [exact.found]
    simp
  rw [next, mem_firsts, unseen, List.mem_flatMap]
  constructor
  · rintro ⟨⟨importer, inRing, child⟩, far⟩
    exact ⟨.step ((exact.ring importer).1 inRing).1 child, far⟩
  · rintro ⟨leads, far⟩
    rcases leads.importer with ⟨importer, before, child⟩
    refine ⟨⟨importer, (exact.ring importer).2 ⟨before, ?_⟩, child⟩, far⟩
    -- A shorter way to the importer would be a shorter way to the file.
    intro distance nearer sooner
    exact far (distance + 1) (Nat.succ_lt_succ nearer) (.step sooner child)

theorem Exact.next (exact : Exact children root rings front) :
    Exact children root (rings + 1) (front.next children root) where
  found file := by
    change file ∈ (root :: front.found) ++ (front.next children root).ring ↔ _
    rw [List.mem_append, exact.found, exact.mem_ring_next]
    constructor
    · rintro (⟨distance, near, leads⟩ | ⟨leads, -⟩)
      · exact ⟨distance, Nat.le_succ_of_le near, leads⟩
      · exact ⟨rings + 1, Nat.le_refl _, leads⟩
    · rintro ⟨distance, near, leads⟩
      by_cases sooner : ∃ distance ≤ rings, Leads children root distance file
      · exact .inl sooner
      · have far : ∀ distance < rings + 1, ¬Leads children root distance file :=
          fun distance nearer leads =>
            sooner ⟨distance, Nat.le_of_lt_succ nearer, leads⟩
        obtain rfl : distance = rings + 1 := by
          by_contra other
          exact far distance (Nat.lt_of_le_of_ne near other) leads
        exact .inr ⟨leads, far⟩
  ring := exact.mem_ring_next
  nodup := by
    change ((root :: front.found) ++ (front.next children root).ring).Nodup
    refine List.nodup_append.2 ⟨exact.nodup, nodup_firsts _ _, ?_⟩
    rintro file seen _ fresh rfl
    exact (mem_firsts.1 fresh).2 seen

theorem exact_after (children : Path → List Path) (root : Path) (rings : Nat) :
    Exact children root rings (after children root rings) := by
  induction rings with
  | zero => exact exact_start children root
  | succ rings inductionHypothesis => exact inductionHypothesis.next

/-- Where the last ring leads nowhere, everything that can be reached has been found. -/
theorem Exact.mem_of_ended
    (exact : Exact children root rings front)
    (ended : front.ring.flatMap children = []) (file : Path) :
    file ∈ root :: front.found ↔ ∃ distance, Leads children root distance file := by
  constructor
  · intro member
    rcases (exact.found file).1 member with ⟨distance, -, leads⟩
    exact ⟨distance, leads⟩
  · rintro ⟨distance, leads⟩
    induction leads with
    | start => exact List.mem_cons_self
    | @step distance importer file before child found =>
        rcases (exact.found importer).1 found with ⟨nearest, near, leads⟩
        by_cases inRing : importer ∈ front.ring
        · have nothing := List.flatMap_eq_nil_iff.1 ended importer inRing
          rw [nothing] at child
          cases child
        · have sooner : ∃ distance < rings, Leads children root distance importer := by
            by_contra none
            apply inRing
            refine (exact.ring importer).2 ⟨?_, fun distance nearer leads =>
              none ⟨distance, nearer, leads⟩⟩
            rcases Nat.lt_or_eq_of_le near with nearer | rfl
            · exact absurd ⟨nearest, nearer, leads⟩ none
            · exact leads
          rcases sooner with ⟨distance, nearer, leads⟩
          exact (exact.found file).2 ⟨distance + 1, nearer, .step leads child⟩

/-- Where finitely many files lead on, some ring leads nowhere. -/
theorem exists_ended
    (finite :
      {file | children file ≠ [] ∧ ∃ distance, Leads children root distance file}.Finite) :
    ∃ rings, (after children root rings).ring.flatMap children = [] := by
  by_contra endless
  have leadsOn :
      ∀ rings, ∃ file ∈ (after children root rings).ring, children file ≠ [] := by
    intro rings
    by_contra none
    apply endless
    refine ⟨rings, List.flatMap_eq_nil_iff.2 ?_⟩
    intro file inRing
    by_contra some
    exact none ⟨file, inRing, some⟩
  choose file inRing childful using leadsOn
  have distances :
      ∀ rings, Leads children root rings (file rings) ∧
        ∀ distance < rings, ¬Leads children root distance (file rings) :=
    fun rings => ((exact_after children root rings).ring _).1 (inRing rings)
  -- A file lies in one ring only, so that there is another one in every ring.
  have different : Function.Injective file := by
    intro first second same
    rcases Nat.lt_trichotomy first second with nearer | equal | nearer
    · have leads := (distances first).1
      rw [same] at leads
      exact absurd leads ((distances second).2 first nearer)
    · exact equal
    · have leads := (distances second).1
      rw [← same] at leads
      exact absurd leads ((distances first).2 second nearer)
  have leadOn :
      ∀ rings,
        file rings ∈
          {file | children file ≠ [] ∧ ∃ distance, Leads children root distance file} :=
    fun rings => ⟨childful rings, rings, (distances rings).1⟩
  exact Set.infinite_of_injective_forall_mem different leadOn finite

end Front

end

end ModuleBridge
