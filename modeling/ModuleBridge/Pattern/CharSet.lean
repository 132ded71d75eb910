import ModuleBridge.Pattern.Table.Fold

/-!
# Character sets

A set of code points as ranges in increasing order.  Sets are built with
`ofRanges`, which brings ranges into order and joins those that touch.
-/

namespace ModuleBridge.Pattern

/-- A set of code points. -/
structure CharSet where
  ranges : List (Nat × Nat)
  deriving DecidableEq, Repr, Inhabited

namespace CharSet

/-- The code point belongs to the set. -/
def contains (set : CharSet) (point : Nat) : Bool :=
  set.ranges.any fun range => range.1 ≤ point && point ≤ range.2

/-- Joins ranges in increasing order of their start where they touch. -/
def join : List (Nat × Nat) → List (Nat × Nat)
  | [] => []
  | range :: rest =>
    match join rest with
    | [] => [range]
    | next :: others =>
      if next.1 ≤ range.2 + 1 then
        (range.1, max range.2 next.2) :: others
      else
        range :: next :: others

/-- The set of the code points in some ranges. -/
def ofRanges (ranges : List (Nat × Nat)) : CharSet :=
  ⟨join ((ranges.filter fun range => range.1 ≤ range.2).mergeSort fun left right =>
    left.1 ≤ right.1)⟩

/-- The set without members. -/
def empty : CharSet := ⟨[]⟩

/-- The set of one code point. -/
def single (point : Nat) : CharSet := ⟨[(point, point)]⟩

/-- The members of either set. -/
def union (left right : CharSet) : CharSet :=
  ofRanges (left.ranges ++ right.ranges)

/-- The ranges between the given ones, from `start` up to `top`. -/
def gaps (top : Nat) : Nat → List (Nat × Nat) → List (Nat × Nat)
  | start, [] => if start ≤ top then [(start, top)] else []
  | start, range :: rest =>
    if start < range.1 then
      (start, range.1 - 1) :: gaps top (range.2 + 1) rest
    else
      gaps top (range.2 + 1) rest

/-- The code points up to `top` that do not belong to the set. -/
def complement (top : Nat) (set : CharSet) : CharSet :=
  ⟨gaps top 0 set.ranges⟩

/-- The members of both sets, where no member is above `top`. -/
def intersect (top : Nat) (left right : CharSet) : CharSet :=
  ((left.complement top).union (right.complement top)).complement top

/-- The members of the left set that are not in the right one. -/
def subtract (top : Nat) (left right : CharSet) : CharSet :=
  left.intersect top (right.complement top)

/-- The members of exactly one of two sets. -/
def symmetricDifference (top : Nat) (left right : CharSet) : CharSet :=
  (left.union right).subtract top (left.intersect top right)

/-- No member is above the bound. -/
def isWithin (set : CharSet) (bound : Nat) : Bool :=
  set.ranges.all fun range => range.2 ≤ bound

/-- The set with every code point that folds, by some pairs, as a member does. -/
def foldBy (pairs : List (Nat × Nat)) (set : CharSet) : CharSet :=
  let targets := pairs.filterMap fun pair =>
    if set.contains pair.1 then some (pair.2, pair.2) else none
  let reached := set.union (ofRanges targets)
  reached.union (ofRanges (pairs.filterMap fun pair =>
    if reached.contains pair.2 then some (pair.1, pair.1) else none))

/-- The case pairs among ASCII letters. -/
def asciiPairs : List (Nat × Nat) :=
  (List.range 26).map fun index => (0x41 + index, 0x61 + index)

/-- The set with both cases of every member. -/
def fold (unicode : Bool) (set : CharSet) : CharSet :=
  set.foldBy (if unicode then foldPairs else asciiPairs)

end CharSet

end ModuleBridge.Pattern
