import ModuleBridge.Proofs.Sections

/-!
# Layout

Separate blocks decompose their source in one way: into gaps and blocks, all of which count.
Two sources whose decompositions agree piece by piece, but for line breaks and tabs, have
the same snapshot, wherever their blocks stand.
-/

namespace ModuleBridge.Snapshot

variable {source other rest : List Char} {blocks others : List Block} {cursor : Nat}
  {cutting : Cutting} {pieces : List Piece}

/-! ## Decompositions -/

/-- Blocks that are ranges of a source, hold something and do not overlap. -/
structure Separate (source : List Char) (blocks : List Block) : Prop where
  ranges : ∀ block ∈ blocks, block.IsRange source
  filled : ∀ block ∈ blocks, block.start < block.stop
  apart : blocks.Pairwise fun left right => left.stop ≤ right.start ∨ right.stop ≤ left.start

/-- The gaps and blocks of a source, from the front to the end. -/
structure Decomposes (source : List Char) (blocks : List Block) (cutting : Cutting) : Prop where
  letters : cutting.letters = source
  placed : Placed 0 cutting.pieces
  perm : (cutting.pieces.map Piece.block).Perm blocks

theorem Placed.cuts (placed : Placed cursor pieces) (rest : List Char) :
    Cuts cursor (Cutting.letters ⟨pieces, rest⟩)
      ((pieces.map Piece.block).map fun block => (block, true)) ⟨pieces, rest⟩ := by
  induction pieces generalizing cursor with
  | nil => exact .done cursor rest
  | cons piece pieces inductionHypothesis =>
      rcases placed with ⟨begins, ends, placed⟩
      refine .counted (cutBlock?_eq_some_iff.2 ⟨?_, begins, ends⟩) (inductionHypothesis placed)
      simp [Cutting.letters, Piece.letters]

theorem Placed.le_start (placed : Placed cursor pieces) :
    ∀ piece ∈ pieces, cursor ≤ piece.block.start := by
  induction pieces generalizing cursor with
  | nil => exact nofun
  | cons piece pieces inductionHypothesis =>
      rcases placed with ⟨begins, ends, placed⟩
      rintro other (_ | ⟨_, member⟩)
      · omega
      · have later := inductionHypothesis placed other member
        omega

/-- Pieces that hold something start one behind the other. -/
theorem Placed.increasing
    (placed : Placed cursor pieces)
    (filled : ∀ piece ∈ pieces, piece.block.start < piece.block.stop) :
    (pieces.map Piece.block).Pairwise fun left right => left.start < right.start := by
  induction pieces generalizing cursor with
  | nil => exact .nil
  | cons piece pieces inductionHypothesis =>
      rcases placed with ⟨begins, ends, placed⟩
      rw [List.map_cons, List.pairwise_cons, List.forall_mem_map]
      refine ⟨?_, inductionHypothesis placed fun other member =>
        filled other (List.mem_cons_of_mem _ member)⟩
      intro other member
      have holds := filled piece List.mem_cons_self
      have later := placed.le_start other member
      omega

/-- Blocks that hold something are decomposed in the order of their starts. -/
theorem Decomposes.ordered_eq
    (decomposes : Decomposes source blocks cutting)
    (filled : ∀ block ∈ blocks, block.start < block.stop) :
    ordered blocks = cutting.pieces.map Piece.block := by
  have increasing :
      (cutting.pieces.map Piece.block).Pairwise fun left right => left.start < right.start := by
    apply decomposes.placed.increasing
    intro piece member
    exact filled _ (decomposes.perm.mem_iff.1 (List.mem_map_of_mem member))
  have order := inStartOrder_ordered blocks
  have perm : (ordered blocks).Perm (cutting.pieces.map Piece.block) :=
    order.perm.trans decomposes.perm.symm
  have distinct : (ordered blocks).Pairwise fun left right => left.start ≠ right.start :=
    (increasing.imp Nat.ne_of_lt).perm perm.symm Ne.symm
  have sorted : (ordered blocks).Pairwise fun left right => left.start < right.start :=
    (order.sorted.and distinct).imp fun both => Nat.lt_of_le_of_ne both.1 both.2
  refine perm.eq_of_pairwise ?_ sorted increasing
  intro left right _ _ before behind
  exact absurd before (Nat.lt_asymm behind)

theorem Decomposes.cuts
    (decomposes : Decomposes source blocks cutting)
    (filled : ∀ block ∈ blocks, block.start < block.stop) :
    Cuts 0 source ((ordered blocks).map fun block => (block, true)) cutting := by
  have cuts := decomposes.placed.cuts cutting.rest
  rwa [decomposes.letters, ← decomposes.ordered_eq filled] at cuts

/-- What is extracted is what stands in the pieces. -/
theorem Decomposes.extract_eq
    {source : String} (decomposes : Decomposes source.toList blocks cutting)
    (filled : ∀ block ∈ blocks, block.start < block.stop) :
    extract source blocks = cutting.parts.snapshot := by
  refine extract_of_cuts (decomposes.cuts filled) ?_
  simp [Function.comp_def]

theorem Cuts.unique
    {judged : List (Block × Bool)} {further : Cutting}
    (cuts : Cuts cursor rest judged cutting) (other : Cuts cursor rest judged further) :
    cutting = further := by
  induction cuts generalizing further with
  | done cursor rest =>
      cases other
      rfl
  | counted found _ inductionHypothesis =>
      cases other with
      | counted foundOther furtherOther =>
          rw [found] at foundOther
          cases foundOther
          rw [inductionHypothesis furtherOther]
  | passed refused _ inductionHypothesis =>
      cases other with
      | passed _ furtherOther => exact inductionHypothesis furtherOther

/-- Where blocks are separate, all of them count. -/
theorem Separate.counted
    {judged : List (Block × Bool)} (separate : Separate source blocks)
    (cuts : Cuts 0 source judged cutting) (order : InStartOrder blocks (judged.map Prod.fst)) :
    ∀ judgement ∈ judged, judgement.2 = true := by
  rintro ⟨block, counted⟩ member
  rcases List.append_of_mem member with ⟨before, after, split⟩
  have range : block.IsRange source :=
    separate.ranges block (order.perm.mem_iff.1 (List.mem_map_of_mem member))
  have front : String.utf8Len [] = 0 := rfl
  refine (cuts.counted_iff front split).2 ⟨range, Nat.zero_le _, ?_⟩
  intro earlier among _
  have apart := separate.apart.perm order.perm.symm Or.symm
  have sorted := order.sorted
  rw [split, List.map_append, List.map_cons, List.pairwise_append] at apart sorted
  have first := List.mem_map_of_mem (f := Prod.fst) among
  have starts := sorted.2.2 _ first _ List.mem_cons_self
  have filled : block.start < block.stop :=
    separate.filled block (order.perm.mem_iff.1 (List.mem_map_of_mem member))
  rcases apart.2.2 _ first _ List.mem_cons_self with behind | ahead
  · exact behind
  · dsimp only at starts ahead
    omega

/-- Separate blocks decompose their source in exactly one way. -/
theorem Separate.existsUnique_decomposes (separate : Separate source blocks) :
    ∃! cutting, Decomposes source blocks cutting := by
  rcases exists_cuts 0 source (ordered blocks) with ⟨judged, cutting, order, cuts⟩
  have inOrder := inStartOrder_ordered blocks
  rw [← order] at inOrder
  have all : judged.filter Prod.snd = judged :=
    List.filter_eq_self.2 (separate.counted cuts inOrder)
  have perm : (cutting.pieces.map Piece.block).Perm blocks := by
    rw [cuts.map_block, all]
    exact inOrder.perm
  have decomposes : Decomposes source blocks cutting := ⟨cuts.letters, cuts.placed, perm⟩
  refine ⟨cutting, decomposes, ?_⟩
  intro further other
  exact (other.cuts separate.filled).unique (decomposes.cuts separate.filled)

/-! ## Agreement -/

/-- Two pieces of one kind that differ in their layout at most. -/
structure Piece.Agrees (left right : Piece) : Prop where
  gap : stripLayout left.gap = stripLayout right.gap
  kind : left.block.kind = right.block.kind
  text : stripLayout left.text = stripLayout right.text

/-- Two cuttings that agree piece by piece. -/
structure Cutting.Agrees (left right : Cutting) : Prop where
  pieces : List.Forall₂ Piece.Agrees left.pieces right.pieces
  rest : stripLayout left.rest = stripLayout right.rest

@[simp]
theorem stripLayout_append (first second : List Char) :
    stripLayout (first ++ second) = stripLayout first ++ stripLayout second :=
  List.filter_append ..

theorem stripLayout_flatMap
    {lefts rights : List Piece} (agree : List.Forall₂ Piece.Agrees lefts rights)
    {part : Piece → List Char}
    (same : ∀ left right : Piece, left.Agrees right →
      stripLayout (part left) = stripLayout (part right)) :
    stripLayout (lefts.flatMap part) = stripLayout (rights.flatMap part) := by
  induction agree with
  | nil => rfl
  | cons first _ inductionHypothesis =>
      simp only [List.flatMap_cons, stripLayout_append, inductionHypothesis, same _ _ first]

theorem Piece.Agrees.markup {left right : Piece} (agrees : left.Agrees right) :
    stripLayout left.markup = stripLayout right.markup := by
  unfold Piece.markup
  rw [agrees.kind]
  cases right.block.kind with
  | markup => exact agrees.text
  | style scoped? => rfl

theorem Piece.Agrees.style {left right : Piece} (agrees : left.Agrees right) :
    stripLayout left.style = stripLayout right.style := by
  unfold Piece.style
  rw [agrees.kind]
  cases right.block.kind with
  | markup => rfl
  | style scoped? => simp only [stripLayout_append, agrees.text]

theorem findSome?_scoped_of_agrees
    {lefts rights : List Piece} (agree : List.Forall₂ Piece.Agrees lefts rights) :
    lefts.findSome? Piece.scoped? = rights.findSome? Piece.scoped? := by
  induction agree with
  | nil => rfl
  | cons first _ inductionHypothesis =>
      rw [List.findSome?_cons, List.findSome?_cons, inductionHypothesis]
      simp only [Piece.scoped?, first.kind]

theorem Cutting.Agrees.snapshot_eq {left right : Cutting} (agrees : left.Agrees right) :
    left.parts.snapshot = right.parts.snapshot := by
  have script := stripLayout_flatMap agrees.pieces fun _ _ each => each.gap
  have markup := stripLayout_flatMap agrees.pieces fun _ _ each => each.markup
  have style := stripLayout_flatMap agrees.pieces fun _ _ each => each.style
  have mark := findSome?_scoped_of_agrees agrees.pieces
  simp only [Parts.snapshot, Cutting.parts, stripLayout_append, script, markup, style, mark,
    agrees.rest]

/-- Two sources whose gaps and blocks agree one by one, whatever their layout. -/
def Reformatted
    (source : List Char) (blocks : List Block) (other : List Char) (others : List Block) : Prop :=
  ∃ cutting further,
    Decomposes source blocks cutting ∧ Decomposes other others further ∧ cutting.Agrees further

/-- Layout does not show in a snapshot. -/
theorem extract_eq_of_reformatted
    {source other : String}
    (separate : Separate source.toList blocks) (separateOther : Separate other.toList others)
    (reformatted : Reformatted source.toList blocks other.toList others) :
    extract source blocks = extract other others := by
  rcases reformatted with ⟨cutting, further, decomposes, decomposesOther, agrees⟩
  rw [decomposes.extract_eq separate.filled, decomposesOther.extract_eq separateOther.filled,
    agrees.snapshot_eq]

end ModuleBridge.Snapshot
