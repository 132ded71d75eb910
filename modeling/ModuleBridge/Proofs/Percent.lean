import ModuleBridge.Text.Percent

/-!
# Texts without percent escapes

Writing a text as bytes loses nothing: the bytes are read back as the text.  Where no `%`
has two hexadecimal digits behind it, decoding percent escapes leaves the bytes alone, and
so it leaves the text as it is.
-/

namespace ModuleBridge.Text

/-! ## Characters and their bytes -/

namespace Pending

theorem next_within {value needed low high byte : Nat} (fits : low ≤ byte ∧ byte ≤ high) :
    (within value (needed + 2) low high).next byte =
      ([], .within (value * 64 + (byte - 0x80)) (needed + 1) 0x80 0xBF) := by
  have more : ¬needed + 2 ≤ 1 := by omega
  rw [next]
  dsimp only
  rw [if_pos fits, if_neg more]
  rfl

theorem next_last {value low high byte : Nat} (fits : low ≤ byte ∧ byte ≤ high) :
    (within value 1 low high).next byte =
      ([some (Char.ofNat (value * 64 + (byte - 0x80)))], .start) := by
  rw [next]
  dsimp only
  rw [if_pos fits, if_pos (Nat.le_refl 1)]

/-- The first byte of two. -/
theorem first_two {lead : Nat} (small : 2 ≤ lead) (large : lead < 32) :
    first (lead + 0xC0) = ([], .within lead 1 0x80 0xBF) := by
  rw [first, if_neg (by omega), if_neg (by omega), if_pos (by omega), Nat.add_sub_cancel]

/-- The first byte of three bounds the second one. -/
theorem first_three (lead second : Nat) (large : lead < 16) (bound : second < 64)
    (long : lead = 0 → 32 ≤ second) (scalar : lead = 13 → second < 32) :
    ∃ low high, first (lead + 0xE0) = ([], .within lead 2 low high) ∧
      low ≤ second + 0x80 ∧ second + 0x80 ≤ high := by
  rw [first, if_neg (by omega), if_neg (by omega), if_neg (by omega)]
  by_cases least : lead = 0
  · subst least
    exact ⟨0xA0, 0xBF, rfl, by have := long rfl; omega, by omega⟩
  · rw [if_neg (by omega)]
    by_cases surrogate : lead = 13
    · subst surrogate
      exact ⟨0x80, 0x9F, rfl, by omega, by have := scalar rfl; omega⟩
    · rw [if_neg (by omega), if_pos (by omega), Nat.add_sub_cancel]
      exact ⟨0x80, 0xBF, rfl, by omega, by omega⟩

/-- The first byte of four bounds the second one. -/
theorem first_four (lead second : Nat) (large : lead ≤ 4) (bound : second < 64)
    (long : lead = 0 → 16 ≤ second) (last : lead = 4 → second < 16) :
    ∃ low high, first (lead + 0xF0) = ([], .within lead 3 low high) ∧
      low ≤ second + 0x80 ∧ second + 0x80 ≤ high := by
  rw [first, if_neg (by omega), if_neg (by omega), if_neg (by omega), if_neg (by omega),
    if_neg (by omega), if_neg (by omega)]
  by_cases least : lead = 0
  · subst least
    exact ⟨0x90, 0xBF, rfl, by have := long rfl; omega, by omega⟩
  · rw [if_neg (by omega)]
    by_cases most : lead = 4
    · subst most
      exact ⟨0x80, 0x8F, rfl, by omega, by have := last rfl; omega⟩
    · rw [if_pos (by omega), Nat.add_sub_cancel]
      exact ⟨0x80, 0xBF, rfl, by omega, by omega⟩

end Pending

theorem pieces_cons (pending : Pending) (byte : UInt8) (rest : List UInt8) :
    pieces pending (byte :: rest) =
      (pending.next byte.toNat).1 ++ pieces (pending.next byte.toNat).2 rest := by
  cases pending <;> rfl

theorem toNat_byte {value : Nat} (small : value < 256) : (UInt8.ofNat value).toNat = value :=
  UInt8.toNat_ofNat_of_lt' small

/-- The bytes of a character are read as the character. -/
theorem pieces_utf8EncodeChar (letter : Char) (rest : List UInt8) :
    pieces .start (String.utf8EncodeChar letter ++ rest) = some letter :: pieces .start rest := by
  have named : Char.ofNat letter.val.toNat = letter := Char.ofNat_toNat letter
  have valid : letter.val.toNat < 0xD800 ∨
      0xDFFF < letter.val.toNat ∧ letter.val.toNat < 0x110000 := letter.valid
  rw [String.utf8EncodeChar]
  generalize letter.val.toNat = value at named valid
  have sixth : ∀ part, part % 64 + 0x80 < 256 := fun part => by omega
  have follows : ∀ part, 0x80 ≤ part % 64 + 0x80 ∧ part % 64 + 0x80 ≤ 0xBF :=
    fun part => by omega
  split
  · rename_i one
    rw [List.cons_append, pieces_cons, toNat_byte (by omega), Pending.next, Pending.first,
      if_pos (by omega), named]
    rfl
  · rename_i several
    split
    · rename_i two
      have whole : value / 64 % 32 * 64 + (value % 64 + 0x80 - 0x80) = value := by omega
      rw [List.cons_append, pieces_cons, toNat_byte (by omega), Pending.next,
        Pending.first_two (by omega) (by omega), List.nil_append, List.cons_append, pieces_cons,
        toNat_byte (sixth value), Pending.next_last (follows value), whole, named]
      rfl
    · rename_i more
      split
      · rename_i three
        have whole :
            (value / 4096 % 16 * 64 + (value / 64 % 64 + 0x80 - 0x80)) * 64 +
              (value % 64 + 0x80 - 0x80) = value := by omega
        rcases Pending.first_three (value / 4096 % 16) (value / 64 % 64)
          (by omega) (by omega) (by omega) (by omega) with ⟨low, high, first, fits⟩
        rw [List.cons_append, pieces_cons, toNat_byte (by omega), Pending.next, first,
          List.nil_append, List.cons_append, pieces_cons, toNat_byte (sixth _),
          Pending.next_within fits, List.nil_append, List.cons_append, pieces_cons,
          toNat_byte (sixth _), Pending.next_last (follows value), whole, named]
        rfl
      · rename_i four
        have whole :
            ((value / 262144 % 8 * 64 + (value / 4096 % 64 + 0x80 - 0x80)) * 64 +
              (value / 64 % 64 + 0x80 - 0x80)) * 64 + (value % 64 + 0x80 - 0x80) = value := by
          omega
        rcases Pending.first_four (value / 262144 % 8) (value / 4096 % 64)
          (by omega) (by omega) (by omega) (by omega) with ⟨low, high, first, fits⟩
        rw [List.cons_append, pieces_cons, toNat_byte (by omega), Pending.next, first,
          List.nil_append, List.cons_append, pieces_cons, toNat_byte (sixth _),
          Pending.next_within fits, List.nil_append, List.cons_append, pieces_cons,
          toNat_byte (sixth _), Pending.next_within (follows _), List.nil_append,
          List.cons_append, pieces_cons, toNat_byte (sixth _), Pending.next_last (follows value),
          whole, named]
        rfl

/-- What is written as bytes is read back. -/
theorem decodeLossy_bytes (text : String) : decodeLossy (bytes text) = text := by
  have reads : ∀ letters : List Char,
      pieces .start (letters.flatMap String.utf8EncodeChar) = letters.map some := by
    intro letters
    induction letters with
    | nil => rfl
    | cons letter rest inductionHypothesis =>
        rw [List.flatMap_cons, pieces_utf8EncodeChar, inductionHypothesis, List.map_cons]
  rw [decodeLossy, bytes, reads, List.map_map]
  have same : (fun piece : Option Char => piece.getD '\uFFFD') ∘ some = id := rfl
  rw [same, List.map_id, String.ofList_toList]

/-! ## Text without escapes -/

/-- No `%` has two hexadecimal digits behind it. -/
def Unescaped (letters : List Char) : Prop :=
  ∀ high low, ['%', high, low] <:+: letters →
    ¬((hexValue? high).isSome ∧ (hexValue? low).isSome)

theorem unescaped_of_not_mem {letters : List Char} (absent : '%' ∉ letters) :
    Unescaped letters :=
  fun _ _ within _ => absent (within.subset List.mem_cons_self)

theorem Unescaped.tail {letter : Char} {rest : List Char} (unescaped : Unescaped (letter :: rest)) :
    Unescaped rest :=
  fun high low within => unescaped high low (within.trans (List.suffix_cons letter rest).isInfix)

/-- A byte below 128 is the only one of its character. -/
theorem utf8EncodeChar_of_small
    {letter : Char} {byte : UInt8} (member : byte ∈ String.utf8EncodeChar letter)
    (small : byte.toNat < 0x80) :
    String.utf8EncodeChar letter = [byte] ∧ Char.ofNat byte.toNat = letter := by
  have named : Char.ofNat letter.val.toNat = letter := Char.ofNat_toNat letter
  have large : ∀ number, 0x80 ≤ number → number < 256 → byte ≠ UInt8.ofNat number := by
    rintro number much fits rfl
    rw [toNat_byte fits] at small
    omega
  rw [String.utf8EncodeChar] at member ⊢
  generalize letter.val.toNat = value at named member ⊢
  split at member
  · rename_i one
    rcases List.mem_singleton.1 member with rfl
    rw [if_pos one, toNat_byte (by omega)]
    exact ⟨rfl, named⟩
  · exfalso
    split at member
    · simp only [List.mem_cons, List.not_mem_nil, or_false] at member
      rcases member with same | same <;> exact large _ (by omega) (by omega) same
    · split at member
      · simp only [List.mem_cons, List.not_mem_nil, or_false] at member
        rcases member with same | same | same <;> exact large _ (by omega) (by omega) same
      · simp only [List.mem_cons, List.not_mem_nil, or_false] at member
        rcases member with same | same | same | same <;> exact large _ (by omega) (by omega) same

/-- A first byte below 128 stands for a character of its own. -/
theorem letter_of_small
    {letters : List Char} {byte : UInt8} {others : List UInt8}
    (written : letters.flatMap String.utf8EncodeChar = byte :: others)
    (small : byte.toNat < 0x80) :
    ∃ rest, letters = Char.ofNat byte.toNat :: rest ∧
      others = rest.flatMap String.utf8EncodeChar := by
  cases letters with
  | nil => cases written
  | cons letter rest =>
      rw [List.flatMap_cons] at written
      have first : byte ∈ String.utf8EncodeChar letter := by
        cases bytes : String.utf8EncodeChar letter with
        | nil => exact absurd bytes String.utf8EncodeChar_ne_nil
        | cons lead more =>
            rw [bytes, List.cons_append] at written
            cases written
            exact List.mem_cons_self
      rcases utf8EncodeChar_of_small first small with ⟨only, rfl⟩
      rw [only] at written
      cases written
      exact ⟨rest, rfl, rfl⟩

theorem small_of_hexValue {byte : UInt8} (digit : (hexValue? (Char.ofNat byte.toNat)).isSome) :
    byte.toNat < 0x80 := by
  have all : ∀ number : Fin 256,
      (hexValue? (Char.ofNat number.val)).isSome → number.val < 0x80 := by
    decide +kernel
  exact all ⟨byte.toNat, byte.toNat_lt⟩ digit

theorem digits_of_escapedByte
    {high low byte : UInt8} (escaped : escapedByte? high low = some byte) :
    (hexValue? (Char.ofNat high.toNat)).isSome ∧ (hexValue? (Char.ofNat low.toNat)).isSome := by
  simp only [escapedByte?, Option.bind_eq_bind, Option.bind_eq_some_iff] at escaped
  rcases escaped with ⟨upper, first, lower, second, -⟩
  rw [first, second]
  exact ⟨rfl, rfl⟩

/-- Bytes that are no `%` are passed over. -/
theorem percentDecodeBytes_append
    {front : List UInt8} (plain : ∀ byte ∈ front, byte ≠ 0x25) (rest : List UInt8) :
    percentDecodeBytes (front ++ rest) = front ++ percentDecodeBytes rest := by
  induction front with
  | nil => rfl
  | cons byte others inductionHypothesis =>
      have other := plain byte List.mem_cons_self
      have next := inductionHypothesis fun byte member => plain byte (List.mem_cons_of_mem _ member)
      rw [List.cons_append, List.cons_append, ← next, percentDecodeBytes.eq_2]
      rintro high low further rfl
      exact absurd rfl other

/-- Only `%` is written with the byte of `%`. -/
theorem utf8EncodeChar_plain {letter : Char} (other : letter ≠ '%') :
    ∀ byte ∈ String.utf8EncodeChar letter, byte ≠ 0x25 := by
  rintro _ member rfl
  exact other (utf8EncodeChar_of_small member (by decide)).2.symm

theorem percentDecodeBytes_of_unescaped {letters : List Char} (unescaped : Unescaped letters) :
    percentDecodeBytes (letters.flatMap String.utf8EncodeChar) =
      letters.flatMap String.utf8EncodeChar := by
  induction letters with
  | nil => rfl
  | cons letter rest inductionHypothesis =>
      have next := inductionHypothesis unescaped.tail
      rw [List.flatMap_cons]
      by_cases percent : letter = '%'
      · subst percent
        change percentDecodeBytes (0x25 :: rest.flatMap String.utf8EncodeChar) =
          0x25 :: rest.flatMap String.utf8EncodeChar
        generalize written : rest.flatMap String.utf8EncodeChar = behind at next
        match behind with
        | [] | [_] =>
            rw [percentDecodeBytes, next]
            intro _ _ _ _ same
            cases same
        | high :: low :: others =>
            cases escaped : escapedByte? high low with
            | none => rw [percentDecodeBytes, escaped, next]
            | some byte =>
                -- Two bytes that are digits are two characters of the text.
                rcases digits_of_escapedByte escaped with ⟨first, second⟩
                rcases letter_of_small written (small_of_hexValue first) with ⟨more, rfl, rest⟩
                rcases letter_of_small rest.symm (small_of_hexValue second) with ⟨last, rfl, -⟩
                exact absurd ⟨first, second⟩ (unescaped _ _ ⟨[], last, rfl⟩)
      · rw [percentDecodeBytes_append (utf8EncodeChar_plain percent), next]

/-- Text without escapes is decoded as it is. -/
theorem percentDecode_of_unescaped {text : String} (unescaped : Unescaped text.toList) :
    percentDecode text = text := by
  rw [percentDecode, bytes, percentDecodeBytes_of_unescaped unescaped]
  exact decodeLossy_bytes text

end ModuleBridge.Text
