import ModuleBridge.Text.Hex
import ModuleBridge.Text.Utf8

/-!
# Content digests

The BLAKE3 digest of a text, by which a file's text is told from another.

A message is cut into chunks of 1024 bytes and a chunk into blocks of 64.  The
blocks of a chunk are compressed one after another, each starting from the
chaining value of the one before.  Two neighbouring nodes are compressed to
their parent, level by level, and the last node left is compressed as the root.

A compression works on four rows of four words.  A round mixes the columns,
turns the rows so that the diagonals stand in the columns, mixes these, and
turns the rows back.
-/

namespace ModuleBridge

namespace Digest

/-- Four words. -/
structure Row where
  first : UInt32
  second : UInt32
  third : UInt32
  fourth : UInt32
  deriving DecidableEq, Repr, Inhabited

namespace Row

/-- Combines two rows word by word. -/
def combine (operation : UInt32 → UInt32 → UInt32) (left right : Row) : Row :=
  ⟨operation left.first right.first, operation left.second right.second,
    operation left.third right.third, operation left.fourth right.fourth⟩

/-- Adds two rows. -/
def add (left right : Row) : Row :=
  combine (· + ·) left right

/-- Combines two rows by exclusive or. -/
def xor (left right : Row) : Row :=
  combine (· ^^^ ·) left right

/-- Turns every word to the right by a number of bits below 32. -/
def turnBits (count : UInt32) (row : Row) : Row :=
  let turn := fun (word : UInt32) => (word >>> count) ||| (word <<< (32 - count))
  ⟨turn row.first, turn row.second, turn row.third, turn row.fourth⟩

/-- Turns the words of a row to the left by one place. -/
def turn (row : Row) : Row :=
  ⟨row.second, row.third, row.fourth, row.first⟩

/-- The words of a row in order. -/
def words (row : Row) : List UInt32 :=
  [row.first, row.second, row.third, row.fourth]

end Row

/-- Sixteen words of a message. -/
structure Block where
  front : Row
  frontOther : Row
  back : Row
  backOther : Row
  deriving DecidableEq, Repr, Inhabited

/--
The block of sixteen words.  A round uses the words of even places and those of
odd places apart, so they are kept apart: `front` and `frontOther` hold the
first eight words, `back` and `backOther` the last eight.
-/
def Block.ofWords : List UInt32 → Block
  | [w0, w1, w2, w3, w4, w5, w6, w7, w8, w9, w10, w11, w12, w13, w14, w15] =>
    ⟨⟨w0, w2, w4, w6⟩, ⟨w1, w3, w5, w7⟩, ⟨w8, w10, w12, w14⟩, ⟨w9, w11, w13, w15⟩⟩
  | _ => default

/-- The words of a block in the order in which the next round uses them. -/
def Block.permute (block : Block) : Block :=
  ⟨⟨block.front.second, block.frontOther.second, block.frontOther.fourth, block.front.third⟩,
    ⟨block.front.fourth, block.back.second, block.front.first, block.backOther.third⟩,
    ⟨block.frontOther.first, block.back.third, block.backOther.first, block.backOther.fourth⟩,
    ⟨block.backOther.second, block.frontOther.third, block.back.fourth, block.back.first⟩⟩

/-- The four rows that a compression works on. -/
structure Grid where
  top : Row
  upper : Row
  lower : Row
  bottom : Row
  deriving DecidableEq, Repr, Inhabited

namespace Grid

/-- Half of a mixing step: adds a message row and turns by two distances. -/
def halfMix (near far : UInt32) (message : Row) (grid : Grid) : Grid :=
  let top := (grid.top.add grid.upper).add message
  let bottom := (grid.bottom.xor top).turnBits near
  let lower := grid.lower.add bottom
  let upper := (grid.upper.xor lower).turnBits far
  ⟨top, upper, lower, bottom⟩

/-- Mixes every column with two message rows. -/
def mix (message other : Row) (grid : Grid) : Grid :=
  (grid.halfMix 16 12 message).halfMix 8 7 other

/-- Brings the diagonals into the columns. -/
def skew (grid : Grid) : Grid :=
  ⟨grid.top, grid.upper.turn, grid.lower.turn.turn, grid.bottom.turn.turn.turn⟩

/-- Brings the diagonals back. -/
def unskew (grid : Grid) : Grid :=
  ⟨grid.top, grid.upper.turn.turn.turn, grid.lower.turn.turn, grid.bottom.turn⟩

theorem unskew_skew (grid : Grid) : grid.skew.unskew = grid := rfl

/-- One round: columns, then diagonals. -/
def round (block : Block) (grid : Grid) : Grid :=
  ((grid.mix block.front block.frontOther).skew.mix block.back block.backOther).unskew

/-- A number of rounds, each on the permuted words of the one before. -/
def rounds : Nat → Block → Grid → Grid
  | 0, _, grid => grid
  | count + 1, block, grid => rounds count block.permute (grid.round block)

end Grid

/-- Eight words: a chaining value, or the digest itself. -/
structure Chain where
  front : Row
  back : Row
  deriving DecidableEq, Repr, Inhabited

/-- The chaining value that every chunk and every parent starts from. -/
def seed : Chain :=
  ⟨⟨0x6A09E667, 0xBB67AE85, 0x3C6EF372, 0xA54FF53A⟩,
    ⟨0x510E527F, 0x9B05688C, 0x1F83D9AB, 0x5BE0CD19⟩⟩

/-- Marks the first block of a chunk. -/
def chunkStart : UInt32 := 1

/-- Marks the last block of a chunk. -/
def chunkEnd : UInt32 := 2

/-- Marks the block of a parent. -/
def parent : UInt32 := 4

/-- Marks the last compression of all. -/
def root : UInt32 := 8

/-- A compression that has not been carried out yet. -/
structure Node where
  start : Chain
  block : Block
  counter : UInt32
  length : UInt32
  marks : UInt32
  deriving DecidableEq, Repr, Inhabited

/-- The chaining value of a node, with further marks. -/
def Node.compress (node : Node) (further : UInt32) : Chain :=
  let grid := Grid.rounds 7 node.block
    ⟨node.start.front, node.start.back, seed.front,
      ⟨node.counter, 0, node.length, node.marks ||| further⟩⟩
  ⟨grid.top.xor grid.lower, grid.upper.xor grid.bottom⟩

/-- Cuts a list into pieces of one size; `bound` pieces are taken at most. -/
def piecesOf (size : Nat) : Nat → List UInt8 → List (List UInt8)
  | 0, _ => []
  | bound + 1, bytes =>
    if bytes.isEmpty then [] else bytes.take size :: piecesOf size bound (bytes.drop size)

/-- The words that bytes stand for, lowest byte first. -/
def wordsOf : List UInt8 → List UInt32
  | a :: b :: c :: d :: rest =>
    (a.toUInt32 ||| (b.toUInt32 <<< 8) ||| (c.toUInt32 <<< 16) ||| (d.toUInt32 <<< 24)) ::
      wordsOf rest
  | _ => []

/-- A block of at most 64 bytes, filled up with zeros. -/
def blockOf (bytes : List UInt8) : Block :=
  Block.ofWords (wordsOf (bytes ++ List.replicate (64 - bytes.length) 0))

/-- The node of a chunk's last block, from its first block on. -/
def chunkNode (counter : UInt32) (marks : UInt32) (start : Chain) : List (List UInt8) → Node
  | [] => ⟨start, blockOf [], counter, 0, marks ||| chunkEnd⟩
  | [last] => ⟨start, blockOf last, counter, UInt32.ofNat last.length, marks ||| chunkEnd⟩
  | block :: rest =>
    chunkNode counter 0
      (Node.compress ⟨start, blockOf block, counter, UInt32.ofNat block.length, marks⟩ 0) rest

/-- The nodes of chunks, numbered from `counter` on. -/
def chunkNodes : UInt32 → List (List UInt8) → List Node
  | _, [] => []
  | counter, chunk :: rest =>
    chunkNode counter chunkStart seed (piecesOf 64 16 chunk) :: chunkNodes (counter + 1) rest

/-- The parent of two nodes. -/
def parentNode (left right : Node) : Node :=
  let near := left.compress 0
  let far := right.compress 0
  ⟨seed, Block.ofWords (near.front.words ++ near.back.words ++ far.front.words ++ far.back.words),
    0, 64, parent⟩

/-- One level of the tree above a list of nodes; an odd last node rises as it is. -/
def level : List Node → List Node
  | left :: right :: rest => parentNode left right :: level rest
  | rest => rest

/-- The node that is left when levels are built until there is only one. -/
def top : Nat → List Node → Node
  | _, [] => chunkNode 0 chunkStart seed []
  | _, [node] => node
  | 0, node :: _ => node
  | bound + 1, nodes => top bound (level nodes)

end Digest

/-- A content digest. -/
structure Digest where
  chain : Digest.Chain
  deriving DecidableEq, Repr, Inhabited

namespace Digest

/-- The digest of a byte sequence. -/
def ofBytes (bytes : List UInt8) : Digest :=
  let chunks := piecesOf 1024 (bytes.length / 1024 + 1) bytes
  ⟨(top chunks.length (chunkNodes 0 chunks)).compress root⟩

/-- The digest of a text. -/
def of (text : String) : Digest :=
  ofBytes (Text.bytes text)

/-- The bytes of a word, lowest byte first. -/
def wordBytes (word : UInt32) : List UInt8 :=
  [word.toUInt8, (word >>> 8).toUInt8, (word >>> 16).toUInt8, (word >>> 24).toUInt8]

/-- The digest in hexadecimal digits. -/
def hex (digest : Digest) : String :=
  let words := digest.chain.front.words ++ digest.chain.back.words
  String.ofList ((words.flatMap wordBytes).flatMap Text.hexByte)

/-- The first sixteen digits, enough to tell digests apart in a log. -/
def short (digest : Digest) : String :=
  String.ofList (digest.hex.toList.take 16)

end Digest

end ModuleBridge
