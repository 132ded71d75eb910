import ModuleBridge.Pattern.Class

/-!
# Patterns and what they match

A pattern is a tree.  What it matches is given by positions in a text: from a
set of positions, a tree leads to the positions where a match begun at one of
them can end.  A text matches when a match can begin anywhere.

A repetition without bound stops when it reaches no new position, which happens
after at most as many rounds as the text has positions.
-/

namespace ModuleBridge.Pattern

/-- The sides of a word. -/
inductive WordEdge where
  | boundary
  | inside
  | start
  | stop
  | startHalf
  | stopHalf
  deriving DecidableEq, Repr, Inhabited

/-- A condition on a position that consumes nothing. -/
inductive Look where
  | textStart
  | textStop
  | lineStart
  | lineStop
  /-- Line ends are a line feed, a carriage return, or both in this order. -/
  | anyLineStart
  | anyLineStop
  | word (unicode : Bool) (edge : WordEdge)
  deriving DecidableEq, Repr, Inhabited

/-- A pattern. -/
inductive Node where
  /-- Matches the empty text. -/
  | empty
  /-- Matches one character of a set. -/
  | letter (set : CharSet)
  /-- Matches the empty text where a condition holds. -/
  | look (condition : Look)
  | follow (first second : Node)
  | either (first second : Node)
  /-- At least `least` times and, where there is a bound, at most `most?` times. -/
  | repeated (least : Nat) (most? : Option Nat) (body : Node)
  deriving DecidableEq, Repr, Inhabited

/-- Whether a word stands before and after a position. -/
def WordEdge.holds (before after : Bool) : WordEdge → Bool
  | .boundary => before != after
  | .inside => before == after
  | .start => !before && after
  | .stop => before && !after
  | .startHalf => !before
  | .stopHalf => !after

/-- The character before a position. -/
def before? (text : Array Char) : Nat → Option Char
  | 0 => none
  | position + 1 => text[position]?

/-- The condition holds at a position. -/
def Look.holds (text : Array Char) (position : Nat) : Look → Bool
  | .textStart => position == 0
  | .textStop => position == text.size
  | .lineStart => position == 0 || before? text position == some '\n'
  | .lineStop => position == text.size || text[position]? == some '\n'
  | .anyLineStart =>
    position == 0 || before? text position == some '\n' ||
      (before? text position == some '\r' && text[position]? != some '\n')
  | .anyLineStop =>
    position == text.size || text[position]? == some '\r' ||
      (text[position]? == some '\n' && before? text position != some '\r')
  | .word unicode edge =>
    let isWord := fun (letter? : Option Char) =>
      letter?.any fun letter => (Class.word unicode).contains letter.toNat
    edge.holds (isWord (before? text position)) (isWord text[position]?)

/-- Adds positions to a set of positions. -/
def include? (known added : List Nat) : List Nat :=
  known ++ added.filter fun position => !known.contains position

/-- Takes a step a number of times. -/
def iterate (step : List Nat → List Nat) : Nat → List Nat → List Nat
  | 0, positions => positions
  | count + 1, positions =>
    if positions.isEmpty then [] else iterate step count (step positions)

/-- Takes a step any number of times up to a bound, as long as it leads to new positions. -/
def spread (step : List Nat → List Nat) : Nat → List Nat → List Nat → List Nat
  | 0, known, _ => known
  | bound + 1, known, latest =>
    let fresh := (step latest).filter fun position => !known.contains position
    if fresh.isEmpty then known else spread step bound (known ++ fresh) fresh

namespace Node

/-- The positions where a match begun at one of `starts` can end. -/
def ends (text : Array Char) : Node → List Nat → List Nat
  | .empty, starts => starts
  | .letter set, starts =>
    starts.filterMap fun position =>
      match text[position]? with
      | some found => if set.contains found.toNat then some (position + 1) else none
      | none => none
  | .look condition, starts => starts.filter fun position => condition.holds text position
  | .follow first second, starts => second.ends text (first.ends text starts)
  | .either first second, starts => include? (first.ends text starts) (second.ends text starts)
  | .repeated least most? body, starts =>
    let begun := iterate (fun positions => body.ends text positions) least starts
    let bound := match most? with
      | some most => min (most - least) (text.size + 1)
      | none => text.size + 1
    spread (fun positions => body.ends text positions) bound begun begun

/-- Some part of the text matches. -/
def isMatch (node : Node) (text : String) : Bool :=
  let letters := text.toList.toArray
  !(node.ends letters (List.range (letters.size + 1))).isEmpty

/-- About how many bytes the program of a character set takes. -/
def setCost (set : CharSet) : Nat :=
  let low := (set.ranges.filter fun range => range.2 < 0x80).length
  32 + 8 * (low - 1) + 90 * (set.ranges.length - low)

/-- About how many bytes the program of a pattern takes. -/
def cost : Node → Nat
  | .empty => 32
  | .letter set => setCost set
  | .look _ => 32
  | .follow first second => first.cost + second.cost
  | .either first second => first.cost + second.cost + 40
  | .repeated least most? body =>
    match most? with
    | none => (max least 1) * body.cost + 40
    | some most => least * body.cost + (most - least) * (body.cost + 40) + 32

end Node

end ModuleBridge.Pattern
