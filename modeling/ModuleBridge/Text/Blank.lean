/-!
# White space

The characters of the Unicode property White_Space, and text without them at
its ends.
-/

namespace ModuleBridge.Text

/-- The ranges of code points with the property White_Space. -/
def blankRanges : List (Nat × Nat) :=
  [(0x9, 0xD), (0x20, 0x20), (0x85, 0x85), (0xA0, 0xA0), (0x1680, 0x1680), (0x2000, 0x200A),
    (0x2028, 0x2029), (0x202F, 0x202F), (0x205F, 0x205F), (0x3000, 0x3000)]

/-- The character is white space. -/
def isBlank (letter : Char) : Bool :=
  blankRanges.any fun range => range.1 ≤ letter.toNat && letter.toNat ≤ range.2

/-- Core's white space is white space here. -/
theorem isBlank_of_isWhitespace {letter : Char} (blank : letter.isWhitespace = true) :
    isBlank letter = true := by
  simp only [Char.isWhitespace, Bool.or_eq_true, decide_eq_true_eq] at blank
  rcases blank with ((rfl | rfl) | rfl) | rfl <;> decide

/-- The text without the characters of a class at its ends. -/
def trimBy (class? : Char → Bool) (text : List Char) : List Char :=
  ((text.dropWhile class?).reverse.dropWhile class?).reverse

/-- The text is empty but for white space. -/
def isBlankText (text : String) : Bool :=
  text.toList.all isBlank

end ModuleBridge.Text
