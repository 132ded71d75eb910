import ModuleBridge.Pattern.Node
import Mathlib.Data.Finset.Card
import Mathlib.Data.Finset.Range

/-!
# What patterns match

A pattern spans a stretch of a text by the usual reading of its tree: a sequence
spans two stretches one behind the other, a choice spans what either branch
spans, and a repetition spans as many stretches in a row as its bounds allow.
The search over positions finds exactly the stretches that are spanned.

A repetition is searched in rounds, and no more rounds are taken than the text
has positions.  No stretch is lost by this: a round that finds something takes
a position away from those that are still to be found.
-/

namespace ModuleBridge.Pattern

/-- A number of stretches in a row. -/
def Chain (stretch : Nat → Nat → Prop) : Nat → Nat → Nat → Prop
  | 0, first, last => first = last
  | count + 1, first, last => ∃ middle, stretch first middle ∧ Chain stretch count middle last

section Search

variable
    {stretch : Nat → Nat → Prop}
    {step : List Nat → List Nat}
    {first last : Nat}

theorem chain_add (some more : Nat) :
    Chain stretch (some + more) first last ↔
      ∃ middle, Chain stretch some first middle ∧ Chain stretch more middle last := by
  induction some generalizing first with
  | zero => simp [Chain]
  | succ some induction =>
    rw [Nat.succ_add]
    simp only [Chain, induction]
    constructor
    · rintro ⟨next, leads, middle, before, behind⟩
      exact ⟨middle, ⟨next, leads, before⟩, behind⟩
    · rintro ⟨middle, ⟨next, leads, before⟩, behind⟩
      exact ⟨next, leads, middle, before, behind⟩

/-- The step leads from a set of positions to the ends of the stretches that begin at them. -/
def Follows (step : List Nat → List Nat) (stretch : Nat → Nat → Prop) : Prop :=
  ∀ starts last, last ∈ step starts ↔ ∃ first ∈ starts, stretch first last

theorem mem_iterate (follows : Follows step stretch) (count : Nat) (starts : List Nat) :
    last ∈ iterate step count starts ↔ ∃ first ∈ starts, Chain stretch count first last := by
  induction count generalizing starts with
  | zero => simp [iterate, Chain]
  | succ count induction =>
    unfold iterate
    split
    next none =>
      rw [List.isEmpty_iff.1 none]
      simp
    next =>
      rw [induction]
      simp only [follows starts, Chain]
      constructor
      · rintro ⟨middle, ⟨first, member, leads⟩, behind⟩
        exact ⟨first, member, middle, leads, behind⟩
      · rintro ⟨first, member, middle, leads, behind⟩
        exact ⟨middle, ⟨first, member, leads⟩, behind⟩

/-- The stretches from known positions lead to known ones or begin at one of the latest. -/
structure Frontier (stretch : Nat → Nat → Prop) (known latest : List Nat) : Prop where
  known_of_latest : ∀ position ∈ latest, position ∈ known
  leads : ∀ first ∈ known, ∀ last, stretch first last →
    last ∈ known ∨ ∃ position ∈ latest, stretch position last

variable {known latest : List Nat}

theorem Frontier.refl (stretch : Nat → Nat → Prop) (known : List Nat) :
    Frontier stretch known known where
  known_of_latest _ member := member
  leads first member _ leads := .inr ⟨first, member, leads⟩

/-- The positions that a round of the search adds. -/
def fresh (step : List Nat → List Nat) (known latest : List Nat) : List Nat :=
  (step latest).filter fun position => !known.contains position

theorem mem_fresh (follows : Follows step stretch) :
    last ∈ fresh step known latest ↔ (∃ first ∈ latest, stretch first last) ∧ last ∉ known := by
  simp [fresh, follows latest]

theorem spread_succ (bound : Nat) :
    spread step (bound + 1) known latest =
      if (fresh step known latest).isEmpty then known
      else spread step bound (known ++ fresh step known latest) (fresh step known latest) := rfl

/-- A round of the search keeps the frontier. -/
theorem Frontier.round (follows : Follows step stretch) (frontier : Frontier stretch known latest) :
    Frontier stretch (known ++ fresh step known latest) (fresh step known latest) where
  known_of_latest _ member := List.mem_append_right _ member
  leads first member last leads := by
    rcases List.mem_append.1 member with old | new
    · by_cases found : last ∈ known
      · exact .inl (List.mem_append_left _ found)
      · rcases frontier.leads first old last leads with old | begins
        · exact absurd old found
        · exact .inl (List.mem_append_right _ ((mem_fresh follows).2 ⟨begins, found⟩))
    · exact .inr ⟨first, new, leads⟩

/-- Without fresh positions the known ones lead nowhere else. -/
theorem Frontier.closed
    (follows : Follows step stretch)
    (frontier : Frontier stretch known latest)
    (none : (fresh step known latest).isEmpty = true)
    (member : first ∈ known)
    (leads : stretch first last) :
    last ∈ known := by
  rcases frontier.leads first member last leads with old | begins
  · exact old
  · by_contra found
    have added := (mem_fresh follows).2 ⟨begins, found⟩
    rw [List.isEmpty_iff.1 none] at added
    exact List.not_mem_nil added

theorem mem_of_chain
    (closed : ∀ first ∈ known, ∀ last, stretch first last → last ∈ known)
    {count : Nat}
    (member : first ∈ known)
    (chain : Chain stretch count first last) :
    last ∈ known := by
  induction count generalizing first with
  | zero =>
    cases chain
    exact member
  | succ count induction =>
    rcases chain with ⟨middle, leads, behind⟩
    exact induction (closed first member middle leads) behind

/-- The search finds what as many stretches as there are rounds, or fewer, lead to. -/
theorem mem_spread
    (follows : Follows step stretch)
    (bound : Nat)
    (frontier : Frontier stretch known latest) :
    last ∈ spread step bound known latest ↔
      ∃ count ≤ bound, ∃ first ∈ known, Chain stretch count first last := by
  induction bound generalizing known latest with
  | zero => simp [spread, Chain]
  | succ bound induction =>
    rw [spread_succ]
    split
    next none =>
      constructor
      · intro member
        exact ⟨0, Nat.zero_le _, last, member, rfl⟩
      · rintro ⟨count, -, first, member, chain⟩
        exact mem_of_chain (fun _ known _ => frontier.closed follows none known) member chain
    next =>
      rw [induction (frontier.round follows)]
      constructor
      · rintro ⟨count, within, first, member, chain⟩
        rcases List.mem_append.1 member with old | new
        · exact ⟨count, Nat.le_succ_of_le within, first, old, chain⟩
        · rcases (mem_fresh follows).1 new with ⟨⟨start, begins, leads⟩, -⟩
          exact ⟨count + 1, Nat.succ_le_succ within, start,
            frontier.known_of_latest start begins, first, leads, chain⟩
      · rintro ⟨count, within, first, member, chain⟩
        cases count with
        | zero => exact ⟨0, Nat.zero_le _, first, List.mem_append_left _ member, chain⟩
        | succ count =>
          rcases chain with ⟨middle, leads, behind⟩
          refine ⟨count, Nat.le_of_succ_le_succ within, middle, ?_, behind⟩
          by_cases found : middle ∈ known
          · exact List.mem_append_left _ found
          · rcases frontier.leads first member middle leads with old | begins
            · exact absurd old found
            · exact List.mem_append_right _ ((mem_fresh follows).2 ⟨begins, found⟩)

/-- The positions up to `size` that are still to be found. -/
def unknown (size : Nat) (known : List Nat) : Finset Nat :=
  Finset.range (size + 1) \ known.toFinset

theorem mem_unknown {size position : Nat} :
    position ∈ unknown size known ↔ position ≤ size ∧ position ∉ known := by
  simp only [unknown, Finset.mem_sdiff, Finset.mem_range, Nat.lt_succ_iff, List.mem_toFinset]

/-- A position that is found is taken away. -/
theorem unknown_ssubset
    {size position : Nat} {more : List Nat}
    (within : position ≤ size)
    (unseen : position ∉ known)
    (found : position ∈ more) :
    unknown size (known ++ more) ⊂ unknown size known := by
  refine (Finset.ssubset_iff_of_subset ?_).2 ⟨position, mem_unknown.2 ⟨within, unseen⟩, ?_⟩
  · intro other missing
    rcases mem_unknown.1 missing with ⟨inside, nowhere⟩
    exact mem_unknown.2 ⟨inside, fun old => nowhere (List.mem_append_left _ old)⟩
  · intro missing
    exact (mem_unknown.1 missing).2 (List.mem_append_right _ found)

/-- A search with a round for every position still to be found finds all that can be found. -/
theorem spread_closed
    {size : Nat}
    (follows : Follows step stretch)
    (inside : ∀ first last, stretch first last → last = first ∨ last ≤ size)
    (bound : Nat)
    (frontier : Frontier stretch known latest)
    (enough : (unknown size known).card ≤ bound) :
    ∀ first ∈ spread step bound known latest, ∀ last, stretch first last →
      last ∈ spread step bound known latest := by
  induction bound generalizing known latest with
  | zero =>
    intro first member last leads
    rcases inside first last leads with rfl | within
    · exact member
    · by_contra found
      have missing : last ∈ unknown size known := mem_unknown.2 ⟨within, found⟩
      exact absurd (Finset.card_pos.2 ⟨last, missing⟩) (by omega)
  | succ bound induction =>
    rw [spread_succ]
    split
    next none =>
      intro first member last leads
      exact frontier.closed follows none member leads
    next some =>
      refine induction (frontier.round follows) ?_
      rcases List.exists_mem_of_ne_nil _ (mt List.isEmpty_iff.2 some) with ⟨found, new⟩
      rcases (mem_fresh follows).1 new with ⟨⟨start, begins, leads⟩, unseen⟩
      have within : found ≤ size := by
        rcases inside start found leads with rfl | within
        · exact absurd (frontier.known_of_latest found begins) unseen
        · exact within
      have fewer := Finset.card_lt_card (unknown_ssubset within unseen new)
      omega

/-- A search with a round for every position of the text finds what any number leads to. -/
theorem mem_spread_all
    {size : Nat}
    (follows : Follows step stretch)
    (inside : ∀ first last, stretch first last → last = first ∨ last ≤ size)
    (known : List Nat) :
    last ∈ spread step (size + 1) known known ↔
      ∃ count, ∃ first ∈ known, Chain stretch count first last := by
  have frontier := Frontier.refl stretch known
  have enough : (unknown size known).card ≤ size + 1 :=
    (Finset.card_le_card Finset.sdiff_subset).trans (Finset.card_range _).le
  have closed := spread_closed follows inside (size + 1) frontier enough
  constructor
  · intro found
    rcases (mem_spread follows _ frontier).1 found with ⟨count, -, reached⟩
    exact ⟨count, reached⟩
  · rintro ⟨count, first, member, chain⟩
    refine mem_of_chain closed ?_ chain
    exact (mem_spread follows _ frontier).2 ⟨0, Nat.zero_le _, first, member, rfl⟩

/-- The rounds that a repetition is searched in: its bound, up to the number of positions. -/
def rounds (size least : Nat) : Option Nat → Nat
  | some most => min (most - least) (size + 1)
  | none => size + 1

/-- Rounds beyond the number of positions would find nothing more. -/
theorem mem_spread_rounds
    {size : Nat}
    (follows : Follows step stretch)
    (inside : ∀ first last, stretch first last → last = first ∨ last ≤ size)
    (least : Nat) (most? : Option Nat)
    (known : List Nat) :
    last ∈ spread step (rounds size least most?) known known ↔
      ∃ count, (∀ most ∈ most?, count ≤ most - least) ∧
        ∃ first ∈ known, Chain stretch count first last := by
  have frontier := Frontier.refl stretch known
  have all : last ∈ spread step (size + 1) known known ↔ _ := mem_spread_all follows inside known
  cases most? with
  | none => simpa [rounds] using all
  | some most =>
    simp only [rounds, Option.mem_def, Option.some.injEq, forall_eq']
    rcases Nat.le_total (most - least) (size + 1) with few | many
    · rw [Nat.min_eq_left few, mem_spread follows _ frontier]
    · rw [Nat.min_eq_right many]
      constructor
      · intro found
        rcases (mem_spread follows _ frontier).1 found with ⟨count, within, reached⟩
        exact ⟨count, within.trans many, reached⟩
      · rintro ⟨count, -, reached⟩
        exact all.2 ⟨count, reached⟩

theorem Chain.inside
    {size count : Nat}
    (inside : ∀ first last, stretch first last → last = first ∨ last ≤ size)
    (chain : Chain stretch count first last) :
    last = first ∨ last ≤ size := by
  induction count generalizing first with
  | zero => exact .inl chain.symm
  | succ count induction =>
    rcases chain with ⟨middle, leads, behind⟩
    rcases induction behind with rfl | within
    · exact inside first last leads
    · exact .inr within

end Search

namespace Node

/-- The pattern spans the text between two positions. -/
def Spans (text : Array Char) : Node → Nat → Nat → Prop
  | .empty, first, last => first = last
  | .letter set, first, last =>
    last = first + 1 ∧ ∃ found, text[first]? = some found ∧ set.contains found.toNat = true
  | .look condition, first, last => first = last ∧ condition.holds text first = true
  | .follow before behind, first, last =>
    ∃ middle, before.Spans text first middle ∧ behind.Spans text middle last
  | .either left right, first, last => left.Spans text first last ∨ right.Spans text first last
  | .repeated least most? body, first, last =>
    ∃ count, least ≤ count ∧ (∀ most ∈ most?, count ≤ max least most) ∧
      Chain (body.Spans text) count first last

variable {text : Array Char} {node : Node} {first last : Nat}

/-- What is spanned ends where it begins, or within the text. -/
theorem Spans.inside (spans : node.Spans text first last) : last = first ∨ last ≤ text.size := by
  induction node generalizing first last with
  | empty => exact .inl spans.symm
  | letter set =>
    rcases spans with ⟨rfl, found, reads, -⟩
    have within := (Array.getElem?_eq_some_iff.1 reads).1
    exact .inr within
  | look condition => exact .inl spans.1.symm
  | follow before behind beforeInside behindInside =>
    rcases spans with ⟨middle, leads, trails⟩
    rcases behindInside trails with rfl | within
    · exact beforeInside leads
    · exact .inr within
  | either left right leftInside rightInside => exact spans.elim leftInside rightInside
  | repeated least most? body induction =>
    rcases spans with ⟨count, -, -, chain⟩
    exact chain.inside fun _ _ => induction

theorem mem_include? {known added : List Nat} :
    last ∈ include? known added ↔ last ∈ known ∨ last ∈ added := by
  simp only [include?, List.mem_append, List.mem_filter, Bool.not_eq_true', List.contains_eq_mem,
    decide_eq_false_iff_not]
  tauto

/-- A repetition is a run of at least as many stretches, prolonged by some more. -/
theorem spans_repeated {least : Nat} {most? : Option Nat} {body : Node} :
    (Node.repeated least most? body).Spans text first last ↔
      ∃ middle, Chain (body.Spans text) least first middle ∧
        ∃ more, (∀ most ∈ most?, more ≤ most - least) ∧
          Chain (body.Spans text) more middle last := by
  constructor
  · rintro ⟨count, enough, allowed, chain⟩
    rw [← Nat.add_sub_of_le enough, chain_add] at chain
    rcases chain with ⟨middle, begun, prolonged⟩
    refine ⟨middle, begun, count - least, fun most bounded => ?_, prolonged⟩
    have := allowed most bounded
    omega
  · rintro ⟨middle, begun, more, allowed, prolonged⟩
    refine ⟨least + more, Nat.le_add_right _ _, fun most bounded => ?_,
      (chain_add least more).2 ⟨middle, begun, prolonged⟩⟩
    have := allowed most bounded
    omega

/-- The search finds the ends of exactly the stretches that a pattern spans. -/
theorem follows_ends (text : Array Char) (node : Node) :
    Follows (node.ends text) (node.Spans text) := by
  induction node with
  | empty => simp [Follows, ends, Spans]
  | letter set =>
    intro starts last
    simp only [ends, Spans, List.mem_filterMap]
    constructor
    · rintro ⟨first, member, reads⟩
      split at reads
      next found known =>
        split at reads
        next holds =>
          cases reads
          exact ⟨first, member, rfl, found, known, holds⟩
        next => cases reads
      next => cases reads
    · rintro ⟨first, member, rfl, found, known, holds⟩
      refine ⟨first, member, ?_⟩
      simp only [known, holds, if_true]
  | look condition =>
    intro starts last
    simp only [ends, Spans, List.mem_filter]
    constructor
    · rintro ⟨member, holds⟩
      exact ⟨last, member, rfl, holds⟩
    · rintro ⟨first, member, rfl, holds⟩
      exact ⟨member, holds⟩
  | follow before behind beforeFollows behindFollows =>
    intro starts last
    simp only [ends, Spans, behindFollows _ last, beforeFollows starts]
    constructor
    · rintro ⟨middle, ⟨first, member, leads⟩, trails⟩
      exact ⟨first, member, middle, leads, trails⟩
    · rintro ⟨first, member, middle, leads, trails⟩
      exact ⟨middle, ⟨first, member, leads⟩, trails⟩
  | either left right leftFollows rightFollows =>
    intro starts last
    simp only [ends, Spans, mem_include?, leftFollows starts last, rightFollows starts last,
      and_or_left, exists_or]
  | repeated least most? body bodyFollows =>
    intro starts last
    have begun : ∀ middle, middle ∈ iterate (body.ends text) least starts ↔
        ∃ first ∈ starts, Chain (body.Spans text) least first middle := fun _ =>
      mem_iterate bodyFollows least starts
    have searched : (Node.repeated least most? body).ends text starts =
        spread (body.ends text) (rounds text.size least most?)
          (iterate (body.ends text) least starts) (iterate (body.ends text) least starts) := by
      cases most? <;> rfl
    rw [searched, mem_spread_rounds bodyFollows fun _ _ => Spans.inside]
    simp only [spans_repeated]
    constructor
    · rintro ⟨more, allowed, middle, found, prolonged⟩
      rcases (begun middle).1 found with ⟨first, member, chain⟩
      exact ⟨first, member, middle, chain, more, allowed, prolonged⟩
    · rintro ⟨first, member, middle, chain, more, allowed, prolonged⟩
      exact ⟨more, allowed, middle, (begun middle).2 ⟨first, member, chain⟩, prolonged⟩

/-- A pattern matches a text exactly when it spans a stretch of it. -/
theorem isMatch_iff {node : Node} {text : String} :
    node.isMatch text = true ↔
      ∃ first ≤ text.toList.length, ∃ last, node.Spans text.toList.toArray first last := by
  have found := follows_ends text.toList.toArray node (List.range (text.toList.length + 1))
  simp only [List.mem_range, Nat.lt_succ_iff] at found
  simp only [isMatch, Bool.not_eq_true', List.isEmpty_eq_false_iff_exists_mem, List.size_toArray,
    found]
  exact exists_comm.trans (exists_congr fun first => exists_and_left)

end Node

end ModuleBridge.Pattern
