/-!
# Text as bytes

Text is written as UTF-8 and read back by a decoder that sees one byte at a
time.  A sequence that breaks off is one malformed piece, however many of its
bytes were seen, and the byte that broke it starts afresh.

`decodeLossy` puts U+FFFD for every malformed piece; `decode?` refuses them.
-/

namespace ModuleBridge.Text

/-- The bytes a text is written as. -/
def bytes (text : String) : List UInt8 :=
  text.toList.flatMap String.utf8EncodeChar

/-- What the decoder waits for. -/
inductive Pending where
  /-- The first byte of a character. -/
  | start
  /-- `needed` more bytes of a character, the next of them between `low` and `high`. -/
  | within (value needed low high : Nat)
  deriving DecidableEq, Repr

namespace Pending

/-- The first byte of a character; a byte that cannot start one is malformed. -/
def first (byte : Nat) : List (Option Char) × Pending :=
  if byte < 0x80 then ([some (Char.ofNat byte)], .start)
  else if byte < 0xC2 then ([none], .start)
  else if byte < 0xE0 then ([], .within (byte - 0xC0) 1 0x80 0xBF)
  else if byte = 0xE0 then ([], .within 0 2 0xA0 0xBF)
  else if byte = 0xED then ([], .within 0xD 2 0x80 0x9F)
  else if byte < 0xF0 then ([], .within (byte - 0xE0) 2 0x80 0xBF)
  else if byte = 0xF0 then ([], .within 0 3 0x90 0xBF)
  else if byte < 0xF4 then ([], .within (byte - 0xF0) 3 0x80 0xBF)
  else if byte = 0xF4 then ([], .within 4 3 0x80 0x8F)
  else ([none], .start)

/-- The characters a byte completes, and what is waited for then. -/
def next (pending : Pending) (byte : Nat) : List (Option Char) × Pending :=
  match pending with
  | .start => first byte
  | .within value needed low high =>
    if low ≤ byte ∧ byte ≤ high then
      let value := value * 64 + (byte - 0x80)
      if needed ≤ 1 then
        ([some (Char.ofNat value)], .start)
      else
        ([], .within value (needed - 1) 0x80 0xBF)
    else
      let (pieces, pending) := first byte
      (none :: pieces, pending)

end Pending

/-- The characters of a byte sequence, with nothing for each malformed piece. -/
def pieces : Pending → List UInt8 → List (Option Char)
  | .start, [] => []
  | .within _ _ _ _, [] => [none]
  | pending, byte :: rest =>
    let (complete, pending) := pending.next byte.toNat
    complete ++ pieces pending rest

/-- The text of a byte sequence, with U+FFFD for each malformed piece. -/
def decodeLossy (sequence : List UInt8) : String :=
  String.ofList ((pieces .start sequence).map fun piece => piece.getD '\uFFFD')

/-- The text of a well-formed byte sequence. -/
def decode? (sequence : List UInt8) : Option String :=
  ((pieces .start sequence).mapM id).map String.ofList

end ModuleBridge.Text
