/-!
# Sections

A source text falls into a script and the markup and style blocks embedded in
it.  A snapshot keeps the text of each part without line breaks and tabs, so
that reformatting alone is no change.

Blocks are taken in the order in which they start.  A block counts when its
span is a range of whole characters and starts no earlier than the last counted
block ended; the script is what the counted blocks leave over.
-/

namespace ModuleBridge

/-- What is embedded in a block. -/
inductive BlockKind where
  | markup
  /-- A style, with the value of its scoped attribute where it has one. -/
  | style (scoped? : Option Bool)
  deriving DecidableEq, Repr, Inhabited

/-- An embedded block: the bytes from `start` up to `stop`. -/
structure Block where
  kind : BlockKind
  start : Nat
  stop : Nat
  deriving DecidableEq, Repr, Inhabited

/-- The texts of the parts of a source, for comparison. -/
structure Snapshot where
  script : String
  markup : String
  style : String
  /-- The first scoped attribute seen on a style, or no. -/
  scopedStyle : Bool
  deriving DecidableEq, Repr, Inhabited

namespace Snapshot

/-- Characters that only lay a text out. -/
def isLayout (letter : Char) : Bool :=
  letter == '\r' || letter == '\n' || letter == '\t'

/-- A text without line breaks and tabs. -/
def stripLayout (text : List Char) : List Char :=
  text.filter fun letter => !isLayout letter

/--
The characters before and after a byte position; there is none inside a
character or behind the end.
-/
def splitAt? : Nat → List Char → Option (List Char × List Char)
  | 0, text => some ([], text)
  | _ + 1, [] => none
  | count, letter :: rest =>
    if letter.utf8Size ≤ count then
      (splitAt? (count - letter.utf8Size) rest).map fun (before, after) => (letter :: before, after)
    else
      none

/-- What the blocks seen so far leave, and what they hold. -/
structure Parts where
  script : List Char
  markup : List Char
  style : List Char
  scoped? : Option Bool
  deriving DecidableEq, Repr, Inhabited

/-- The mark that stands behind a style with a scoped attribute. -/
def scopedMark : Option Bool → List Char
  | none => []
  | some true => "/*[scoped=true]*/".toList
  | some false => "/*[scoped=false]*/".toList

/-- The parts with a counted block and the script before it. -/
def Parts.add (parts : Parts) (gap : List Char) (kind : BlockKind) (text : List Char) : Parts :=
  match kind with
  | .markup => { parts with script := parts.script ++ gap, markup := parts.markup ++ text }
  | .style scoped? =>
    { parts with
      script := parts.script ++ gap
      style := parts.style ++ text ++ scopedMark scoped?
      scoped? := parts.scoped? <|> scoped? }

/-- The text before a block, in it and after it, when its span counts from `cursor` on. -/
def cutBlock? (cursor : Nat) (rest : List Char) (block : Block) :
    Option (List Char × List Char × List Char) := do
  if block.start < cursor ∨ block.stop < block.start then
    none
  let (gap, after) ← splitAt? (block.start - cursor) rest
  let (text, behind) ← splitAt? (block.stop - block.start) after
  some (gap, text, behind)

/-- Takes blocks in order from the text that starts at byte `cursor`. -/
def takeBlocks (cursor : Nat) (rest : List Char) (parts : Parts) : List Block → Parts
  | [] => { parts with script := parts.script ++ rest }
  | block :: blocks =>
    match cutBlock? cursor rest block with
    | some (gap, text, behind) => takeBlocks block.stop behind (parts.add gap block.kind text) blocks
    | none => takeBlocks cursor rest parts blocks

/-- Blocks in the order in which they start; those that start together keep their order. -/
def ordered (blocks : List Block) : List Block :=
  blocks.mergeSort fun left right => left.start ≤ right.start

/-- The snapshot of a source text with its embedded blocks. -/
def extract (source : String) (blocks : List Block) : Snapshot :=
  let parts := takeBlocks 0 source.toList ⟨[], [], [], none⟩ (ordered blocks)
  ⟨String.ofList (stripLayout parts.script), String.ofList (stripLayout parts.markup),
    String.ofList (stripLayout parts.style), parts.scoped?.getD false⟩

end Snapshot

end ModuleBridge
