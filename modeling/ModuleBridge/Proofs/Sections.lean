import Mathlib.Data.List.Basic
import Mathlib.Data.String.Basic
import ModuleBridge.Section

/-!
# How blocks cut a source

The blocks that count and the gaps between them give the source back: nothing of it is lost
and nothing is taken twice.  A block is passed over only when its span is no range of the
source, or begins inside a block that counts and comes before it.  Ranges are taken from
the whole source, and all of them are there.
-/

namespace ModuleBridge

open String (utf8Len)

/-- The bytes of a block are a range of whole characters of the source. -/
def Block.IsRange (source : List Char) (block : Block) : Prop :=
  ∃ before text after,
    source = before ++ text ++ after ∧
      utf8Len before = block.start ∧ block.start + utf8Len text = block.stop

namespace Snapshot

variable {source front rest text gap behind : List Char} {block : Block} {blocks : List Block}
  {cursor count start stop : Nat}

/-! ## Ranges of bytes -/

theorem splitAt?_eq_some_iff :
    splitAt? count text = some (gap, behind) ↔ text = gap ++ behind ∧ utf8Len gap = count := by
  fun_induction splitAt? count text generalizing gap behind with
  | case1 text =>
      rw [Option.some.injEq, Prod.mk.injEq, String.utf8Len_eq_zero]
      constructor
      · rintro ⟨rfl, rfl⟩
        exact ⟨rfl, rfl⟩
      · rintro ⟨same, rfl⟩
        exact ⟨rfl, same⟩
  | case2 count =>
      refine iff_of_false nofun ?_
      rintro ⟨same, size⟩
      rw [(List.append_eq_nil_iff.1 same.symm).1] at size
      cases size
  | case3 count letter text positive fits inductionHypothesis =>
      simp only [Option.map_eq_some_iff, Prod.mk.injEq, Prod.exists, inductionHypothesis]
      constructor
      · rintro ⟨others, _, ⟨rfl, size⟩, rfl, rfl⟩
        refine ⟨rfl, ?_⟩
        rw [String.utf8Len_cons]
        omega
      · rintro ⟨same, size⟩
        cases gap with
        | nil => exact absurd size.symm positive
        | cons first others =>
            rcases List.cons.inj same with ⟨rfl, rfl⟩
            rw [String.utf8Len_cons] at size
            exact ⟨others, behind, ⟨rfl, by omega⟩, rfl, rfl⟩
  | case4 count letter text positive broken =>
      refine iff_of_false nofun ?_
      rintro ⟨same, size⟩
      cases gap with
      | nil => exact absurd size.symm positive
      | cons first others =>
          rcases List.cons.inj same with ⟨rfl, rfl⟩
          rw [String.utf8Len_cons] at size
          omega

/-- The letters of a range of bytes; none where it is no range of whole characters. -/
def slice? (source : List Char) (start stop : Nat) : Option (List Char) :=
  if stop < start then
    none
  else
    (splitAt? start source).bind fun (_, rest) =>
      (splitAt? (stop - start) rest).map Prod.fst

theorem slice?_eq_some_iff :
    slice? source start stop = some text ↔
      ∃ before after, source = before ++ text ++ after ∧
        utf8Len before = start ∧ start + utf8Len text = stop := by
  unfold slice?
  split
  · rename_i reversed
    simp only [reduceCtorEq, false_iff, not_exists, not_and]
    intro _ _ _ _ size
    omega
  · rename_i forward
    simp only [Option.bind_eq_some_iff, Option.map_eq_some_iff, Prod.exists, splitAt?_eq_some_iff]
    constructor
    · rintro ⟨before, rest, ⟨rfl, begins⟩, _, after, ⟨rfl, size⟩, rfl⟩
      exact ⟨before, after, (List.append_assoc _ _ _).symm, begins, by omega⟩
    · rintro ⟨before, after, rfl, begins, size⟩
      exact ⟨before, text ++ after, ⟨List.append_assoc _ _ _, begins⟩, text, after,
        ⟨rfl, by omega⟩, rfl⟩

/-- A front that is no shorter than another one has it as its own front. -/
theorem exists_gap
    {before after : List Char}
    (same : front ++ rest = before ++ after) (longer : utf8Len front ≤ utf8Len before) :
    ∃ gap, before = front ++ gap ∧ rest = gap ++ after := by
  rcases List.append_eq_append_iff.1 same with ⟨gap, first, second⟩ | ⟨extra, rfl, rfl⟩
  · exact ⟨gap, first, second⟩
  · rw [String.utf8Len_append] at longer
    have nothing : extra = [] := String.utf8Len_eq_zero.1 (by omega)
    subst nothing
    exact ⟨[], by simp, rfl⟩

theorem cutBlock?_eq_some_iff :
    cutBlock? cursor rest block = some (gap, text, behind) ↔
      rest = gap ++ text ++ behind ∧
        cursor + utf8Len gap = block.start ∧ block.start + utf8Len text = block.stop := by
  unfold cutBlock?
  split
  · rename_i outside
    simp only [Option.bind_eq_bind, Option.bind_none, reduceCtorEq, false_iff]
    rintro ⟨-, begins, ends⟩
    omega
  · rename_i inside
    simp only [Option.bind_eq_bind, Option.bind_eq_some_iff, Prod.exists, splitAt?_eq_some_iff,
      Option.some.injEq, Prod.mk.injEq]
    constructor
    · rintro ⟨gap, after, ⟨rfl, begins⟩, text, behind, ⟨rfl, ends⟩, rfl, rfl, rfl⟩
      exact ⟨(List.append_assoc _ _ _).symm, by omega, by omega⟩
    · rintro ⟨rfl, begins, ends⟩
      exact ⟨gap, text ++ behind, ⟨List.append_assoc _ _ _, by omega⟩, text, behind,
        ⟨rfl, by omega⟩, rfl, rfl, rfl⟩

theorem isRange_iff_isSome_slice :
    block.IsRange source ↔ (slice? source block.start block.stop).isSome := by
  simp only [Option.isSome_iff_exists, slice?_eq_some_iff]
  constructor
  · rintro ⟨before, text, after, found⟩
    exact ⟨text, before, after, found⟩
  · rintro ⟨text, before, after, found⟩
    exact ⟨before, text, after, found⟩

theorem slices_of_cut
    (found : cutBlock? cursor rest block = some (gap, text, behind))
    (known : utf8Len front = cursor) :
    slice? (front ++ rest) block.start block.stop = some text ∧
      slice? (front ++ rest) cursor block.start = some gap := by
  rcases cutBlock?_eq_some_iff.1 found with ⟨rfl, begins, ends⟩
  simp only [slice?_eq_some_iff]
  refine ⟨⟨front ++ gap, behind, by simp, ?_, ends⟩, front, text ++ behind, by simp, known, begins⟩
  rw [String.utf8Len_append, known, begins]

/-- A range that begins behind the front can be cut from what follows the front. -/
theorem isSome_cut
    (known : utf8Len front = cursor) (within : cursor ≤ block.start)
    (range : block.IsRange (front ++ rest)) :
    (cutBlock? cursor rest block).isSome := by
  rcases range with ⟨before, text, behind, same, begins, ends⟩
  rw [List.append_assoc] at same
  rcases exists_gap same (by omega) with ⟨gap, rfl, rfl⟩
  rw [String.utf8Len_append] at begins
  rw [cutBlock?_eq_some_iff.2 ⟨(List.append_assoc _ _ _).symm, by omega, ends⟩]
  rfl

theorem slice?_of_refused
    (refused : cutBlock? cursor rest block = none) (known : utf8Len front = cursor)
    (within : cursor ≤ block.start) :
    slice? (front ++ rest) block.start block.stop = none := by
  rw [← Option.not_isSome_iff_eq_none, ← isRange_iff_isSome_slice]
  intro range
  have found := isSome_cut known within range
  rw [refused] at found
  cases found

/-! ## Pieces -/

/-- A block that counts, with the script between it and the one that counted before it. -/
structure Piece where
  gap : List Char
  block : Block
  text : List Char

namespace Piece

/-- What the piece takes from the source. -/
def letters (piece : Piece) : List Char :=
  piece.gap ++ piece.text

/-- The markup of the block. -/
def markup (piece : Piece) : List Char :=
  match piece.block.kind with
  | .markup => piece.text
  | .style _ => []

/-- The style of the block, with the mark of its scoped attribute. -/
def style (piece : Piece) : List Char :=
  match piece.block.kind with
  | .markup => []
  | .style scoped? => piece.text ++ scopedMark scoped?

/-- The scoped attribute of the block. -/
def scoped? (piece : Piece) : Option Bool :=
  match piece.block.kind with
  | .markup => none
  | .style scoped? => scoped?

end Piece

/-- A source in pieces, and the script behind the last of them. -/
structure Cutting where
  pieces : List Piece
  rest : List Char

namespace Cutting

/-- The letters in their order. -/
def letters (cutting : Cutting) : List Char :=
  cutting.pieces.flatMap Piece.letters ++ cutting.rest

/-- The gaps, the markup, the styles and the first scoped attribute. -/
def parts (cutting : Cutting) : Parts :=
  ⟨cutting.pieces.flatMap Piece.gap ++ cutting.rest, cutting.pieces.flatMap Piece.markup,
    cutting.pieces.flatMap Piece.style, cutting.pieces.findSome? Piece.scoped?⟩

end Cutting

/-- The parts of a text and of the text behind it. -/
def Parts.append (parts further : Parts) : Parts :=
  ⟨parts.script ++ further.script, parts.markup ++ further.markup, parts.style ++ further.style,
    parts.scoped? <|> further.scoped?⟩

/-- The parts without line breaks and tabs. -/
def Parts.snapshot (parts : Parts) : Snapshot :=
  ⟨String.ofList (stripLayout parts.script), String.ofList (stripLayout parts.markup),
    String.ofList (stripLayout parts.style), parts.scoped?.getD false⟩

theorem Parts.add_append (parts : Parts) (piece : Piece) (cutting : Cutting) :
    (parts.add piece.gap piece.block.kind piece.text).append cutting.parts =
      parts.append (Cutting.parts ⟨piece :: cutting.pieces, cutting.rest⟩) := by
  cases kind : piece.block.kind with
  | markup =>
      simp [Parts.add, Parts.append, Cutting.parts, Piece.markup, Piece.style, Piece.scoped?, kind]
  | style scoped? =>
      cases scoped? <;>
        simp [Parts.add, Parts.append, Cutting.parts, Piece.markup, Piece.style, Piece.scoped?,
          kind]

/-- Every piece stands at the bytes that its block names, from byte `cursor` on. -/
def Placed : Nat → List Piece → Prop
  | _, [] => True
  | cursor, piece :: rest =>
    cursor + utf8Len piece.gap = piece.block.start ∧
      piece.block.start + utf8Len piece.text = piece.block.stop ∧ Placed piece.block.stop rest

/-! ## Blocks one after another -/

/--
Takes blocks in order by ranges of the whole source, the script up to a block among them.
There is no answer where one of these is no range.
-/
def takeRanges? (source : List Char) (cursor : Nat) (parts : Parts) :
    List Block → Option Parts
  | [] =>
    (slice? source cursor (utf8Len source)).map fun rest =>
      { parts with script := parts.script ++ rest }
  | block :: blocks =>
    if block.start < cursor then
      takeRanges? source cursor parts blocks
    else
      match slice? source block.start block.stop with
      | none => takeRanges? source cursor parts blocks
      | some text =>
        (slice? source cursor block.start).bind fun gap =>
          takeRanges? source block.stop (parts.add gap block.kind text) blocks

/-- How the blocks, each of them judged, cut the letters from byte `cursor` on. -/
inductive Cuts : Nat → List Char → List (Block × Bool) → Cutting → Prop
  | done (cursor : Nat) (rest : List Char) : Cuts cursor rest [] ⟨[], rest⟩
  | counted {cursor : Nat} {rest gap text behind : List Char} {block : Block}
      {judged : List (Block × Bool)} {cutting : Cutting}
      (found : cutBlock? cursor rest block = some (gap, text, behind))
      (further : Cuts block.stop behind judged cutting) :
      Cuts cursor rest ((block, true) :: judged)
        ⟨⟨gap, block, text⟩ :: cutting.pieces, cutting.rest⟩
  | passed {cursor : Nat} {rest : List Char} {block : Block}
      {judged : List (Block × Bool)} {cutting : Cutting}
      (refused : cutBlock? cursor rest block = none)
      (further : Cuts cursor rest judged cutting) :
      Cuts cursor rest ((block, false) :: judged) cutting

theorem exists_cuts (cursor : Nat) (rest : List Char) (blocks : List Block) :
    ∃ judged cutting, judged.map Prod.fst = blocks ∧ Cuts cursor rest judged cutting := by
  induction blocks generalizing cursor rest with
  | nil => exact ⟨[], _, rfl, .done cursor rest⟩
  | cons block blocks inductionHypothesis =>
      cases found : cutBlock? cursor rest block with
      | none =>
          rcases inductionHypothesis cursor rest with ⟨judged, cutting, rfl, further⟩
          exact ⟨_, _, rfl, .passed found further⟩
      | some taken =>
          rcases taken with ⟨gap, text, behind⟩
          rcases inductionHypothesis block.stop behind with ⟨judged, cutting, rfl, further⟩
          exact ⟨_, _, rfl, .counted found further⟩

namespace Cuts

variable {judged : List (Block × Bool)} {cutting : Cutting}

theorem takeBlocks (cuts : Cuts cursor rest judged cutting) (parts : Parts) :
    takeBlocks cursor rest parts (judged.map Prod.fst) = parts.append cutting.parts := by
  induction cuts generalizing parts with
  | done cursor rest => simp [Snapshot.takeBlocks, Parts.append, Cutting.parts]
  | counted found further inductionHypothesis =>
      rw [List.map_cons, Snapshot.takeBlocks, found]
      dsimp only
      rw [inductionHypothesis]
      exact parts.add_append ⟨_, _, _⟩ _
  | passed refused further inductionHypothesis =>
      rw [List.map_cons, Snapshot.takeBlocks, refused]
      exact inductionHypothesis parts

theorem letters (cuts : Cuts cursor rest judged cutting) : cutting.letters = rest := by
  induction cuts with
  | done cursor rest => rfl
  | counted found further inductionHypothesis =>
      rw [(cutBlock?_eq_some_iff.1 found).1, ← inductionHypothesis]
      simp [Cutting.letters, Piece.letters]
  | passed refused further inductionHypothesis => exact inductionHypothesis

theorem placed (cuts : Cuts cursor rest judged cutting) : Placed cursor cutting.pieces := by
  induction cuts with
  | done cursor rest => trivial
  | counted found further inductionHypothesis =>
      rcases cutBlock?_eq_some_iff.1 found with ⟨-, begins, ends⟩
      exact ⟨begins, ends, inductionHypothesis⟩
  | passed refused further inductionHypothesis => exact inductionHypothesis

theorem map_block (cuts : Cuts cursor rest judged cutting) :
    cutting.pieces.map Piece.block = (judged.filter Prod.snd).map Prod.fst := by
  induction cuts with
  | done cursor rest => rfl
  | counted found further inductionHypothesis =>
      rw [List.map_cons, inductionHypothesis]
      rfl
  | passed refused further inductionHypothesis => exact inductionHypothesis

/-- A block counts when it is a range that begins behind the counted blocks before it. -/
theorem counted_iff
    (cuts : Cuts cursor rest judged cutting) (known : utf8Len front = cursor)
    {before after : List (Block × Bool)} {counted : Bool}
    (split : judged = before ++ (block, counted) :: after) :
    counted = true ↔
      block.IsRange (front ++ rest) ∧ cursor ≤ block.start ∧
        ∀ earlier ∈ before, earlier.2 = true → earlier.1.stop ≤ block.start := by
  induction cuts generalizing front before with
  | done cursor rest => exact absurd split (by simp)
  | @counted cursor rest gap text behind first judged cutting found further inductionHypothesis =>
      rcases cutBlock?_eq_some_iff.1 found with ⟨rfl, begins, ends⟩
      cases before with
      | nil =>
          rcases List.cons.inj split with ⟨same, rfl⟩
          rcases same with ⟨rfl, rfl⟩
          have range : block.IsRange (front ++ (gap ++ text ++ behind)) := by
            rw [isRange_iff_isSome_slice, (slices_of_cut found known).1]
            rfl
          exact iff_of_true rfl ⟨range, by omega, nofun⟩
      | cons earlier before =>
          rcases List.cons.inj split with ⟨rfl, rfl⟩
          have passed : utf8Len (front ++ (gap ++ text)) = first.stop := by
            simp only [String.utf8Len_append]
            omega
          have rests := inductionHypothesis passed rfl
          rw [List.append_assoc] at rests
          rw [rests]
          constructor
          · rintro ⟨range, later, others⟩
            refine ⟨range, by omega, ?_⟩
            rintro earlier (_ | ⟨_, member⟩) counts
            · exact later
            · exact others earlier member counts
          · rintro ⟨range, -, others⟩
            refine ⟨range, others (first, true) List.mem_cons_self rfl, ?_⟩
            intro earlier member
            exact others earlier (List.mem_cons_of_mem _ member)
  | @passed cursor rest first judged cutting refused further inductionHypothesis =>
      cases before with
      | nil =>
          rcases List.cons.inj split with ⟨same, rfl⟩
          rcases same with ⟨rfl, rfl⟩
          refine iff_of_false Bool.false_ne_true ?_
          rintro ⟨range, within, -⟩
          have found := isSome_cut known within range
          rw [refused] at found
          cases found
      | cons earlier before =>
          rcases List.cons.inj split with ⟨rfl, rfl⟩
          rw [inductionHypothesis known rfl]
          simp

/-- All ranges that are taken from the whole source are there. -/
theorem takeRanges?
    (cuts : Cuts cursor rest judged cutting) (known : utf8Len front = cursor) (parts : Parts) :
    takeRanges? (front ++ rest) cursor parts (judged.map Prod.fst) =
      some (parts.append cutting.parts) := by
  induction cuts generalizing front parts with
  | done cursor rest =>
      have remains :
          slice? (front ++ rest) cursor (utf8Len (front ++ rest)) = some rest := by
        refine slice?_eq_some_iff.2 ⟨front, [], by simp, known, ?_⟩
        rw [String.utf8Len_append, known]
      rw [List.map_nil, Snapshot.takeRanges?, remains]
      simp [Parts.append, Cutting.parts]
  | @counted cursor rest gap text behind block judged cutting found further inductionHypothesis =>
      rcases slices_of_cut found known with ⟨taken, script⟩
      rcases cutBlock?_eq_some_iff.1 found with ⟨rfl, begins, ends⟩
      have passed : utf8Len (front ++ (gap ++ text)) = block.stop := by
        simp only [String.utf8Len_append]
        omega
      have rests := inductionHypothesis passed (parts.add gap block.kind text)
      have within : ¬block.start < cursor := by omega
      rw [List.append_assoc] at rests
      rw [List.map_cons, Snapshot.takeRanges?, if_neg within, taken, script]
      dsimp only [Option.bind_some]
      rw [rests]
      exact congrArg some (parts.add_append ⟨gap, block, text⟩ cutting)
  | @passed cursor rest block judged cutting refused further inductionHypothesis =>
      rw [List.map_cons, Snapshot.takeRanges?]
      split
      · exact inductionHypothesis known parts
      · rename_i within
        rw [slice?_of_refused refused known (Nat.le_of_not_lt within)]
        exact inductionHypothesis known parts

end Cuts

/-! ## The partition -/

/-- Blocks in the order of their starts; those that start together keep their order. -/
structure InStartOrder (blocks order : List Block) : Prop where
  perm : order.Perm blocks
  sorted : order.Pairwise fun left right => left.start ≤ right.start
  stable : ∀ start,
    order.filter (fun block => block.start = start) =
      blocks.filter fun block => block.start = start

theorem inStartOrder_ordered (blocks : List Block) : InStartOrder blocks (ordered blocks) := by
  have transitive : ∀ left middle right : Block,
      decide (left.start ≤ middle.start) = true → decide (middle.start ≤ right.start) = true →
        decide (left.start ≤ right.start) = true := by
    simp only [decide_eq_true_eq]
    intro _ _ _
    exact Nat.le_trans
  have total : ∀ left right : Block,
      (decide (left.start ≤ right.start) || decide (right.start ≤ left.start)) = true := by
    simp only [Bool.or_eq_true, decide_eq_true_eq]
    intro _ _
    exact Nat.le_total _ _
  have perm : (ordered blocks).Perm blocks := List.mergeSort_perm _ _
  refine ⟨perm, ?_, ?_⟩
  · exact (List.pairwise_mergeSort transitive total blocks).imp of_decide_eq_true
  · intro start
    let together := blocks.filter fun block => block.start = start
    have tied : together.Pairwise fun left right => decide (left.start ≤ right.start) = true := by
      refine List.pairwise_of_forall_mem_list ?_
      intro left member right other
      have first := (List.mem_filter.1 member).2
      have second := (List.mem_filter.1 other).2
      simp only [decide_eq_true_eq] at first second ⊢
      omega
    have kept : together.Sublist (ordered blocks) :=
      List.sublist_mergeSort transitive total tied List.filter_sublist
    have among := kept.filter fun block => decide (block.start = start)
    rw [List.filter_filter] at among
    simp only [Bool.and_self] at among
    exact (among.eq_of_length (perm.filter _).length_eq.symm).symm

theorem extract_of_cuts
    {source : String} {judged : List (Block × Bool)} {cutting : Cutting}
    (cuts : Cuts 0 source.toList judged cutting) (order : judged.map Prod.fst = ordered blocks) :
    extract source blocks = cutting.parts.snapshot := by
  have nothing : Parts.append ⟨[], [], [], none⟩ cutting.parts = cutting.parts := rfl
  rw [extract, ← order, cuts.takeBlocks, nothing]
  rfl

end Snapshot

end ModuleBridge
