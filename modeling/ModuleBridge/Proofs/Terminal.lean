import ModuleBridge.Console
import ModuleBridge.Proofs.Path

/-!
# Terminals

What a text does to the screen of a terminal that is as high and as wide as it takes.  Characters
are shown where the cursor stands, a line feed goes to the start of the next row, and the control
sequences that a console writes move the cursor up, clear from it to the end of its row or of the
screen, and set how what follows is shown.

A line that is written behind all that is shown adds its rows to it (`Draws.line`), and moving up
before clearing takes rows away (`feed_erase`).
-/

namespace ModuleBridge

/-- How characters are shown. -/
structure Pen where
  bold : Bool
  dim : Bool
  colour? : Option Nat
  deriving DecidableEq, Repr

namespace Pen

/-- How characters are shown after a reset. -/
def standard : Pen := ⟨false, false, none⟩

/-- What the number of a text attribute sets. -/
def set (pen : Pen) (code : Nat) : Pen :=
  if code = 0 then standard
  else if code = 1 then { pen with bold := true }
  else if code = 2 then { pen with dim := true }
  else if code = 39 then { pen with colour? := none }
  else if (30 ≤ code ∧ code ≤ 37) ∨ (90 ≤ code ∧ code ≤ 97) then { pen with colour? := some code }
  else pen

end Pen

/-- A character as it is shown. -/
structure Cell where
  letter : Char
  pen : Pen
  deriving DecidableEq, Repr

/-- A row of a screen. -/
abbrev Row := List Cell

/-- The characters of a text as a pen shows them. -/
def Pen.ink (pen : Pen) (text : List Char) : List Cell :=
  text.map fun letter => ⟨letter, pen⟩

/-- The cell goes to the next row. -/
def Cell.breaks (cell : Cell) : Bool :=
  cell.letter == '\n'

theorem Cell.breaks_iff {letter : Char} {pen : Pen} :
    (Cell.mk letter pen).breaks = true ↔ letter = '\n' :=
  beq_iff_eq

/-- The character controls a terminal. -/
def isControl (letter : Char) : Bool :=
  letter.toNat < 0x20 || (0x7F ≤ letter.toNat && letter.toNat < 0xA0)

/-- A text without control characters other than line feeds. -/
def PlainText (text : List Char) : Prop :=
  ∀ letter ∈ text, isControl letter = true → letter = '\n'

instance (text : List Char) : Decidable (PlainText text) :=
  List.decidableBAll (fun letter => isControl letter = true → letter = '\n') text

theorem PlainText.append {front back : List Char}
    (plain : PlainText front) (plainToo : PlainText back) : PlainText (front ++ back) := by
  intro letter member
  rcases List.mem_append.1 member with inFront | inBack
  · exact plain letter inFront
  · exact plainToo letter inBack

theorem isControl_of_isDigit {letter : Char} (digit : letter.isDigit = true) :
    isControl letter = false := by
  have range := Char.isDigit_iff_toNat.1 digit
  have low : '0'.toNat = 48 := rfl
  have high : '9'.toNat = 57 := rfl
  simp only [isControl, Bool.or_eq_false_iff, Bool.and_eq_false_iff, decide_eq_false_iff_not]
  omega

/-- What a terminal makes of the next character. -/
inductive Terminal.Reading where
  | shown
  /-- An escape has come. -/
  | escaped
  /-- A control sequence has begun, perhaps with a number. -/
  | numbered (number? : Option Nat)
  deriving DecidableEq, Repr

/-- A terminal: its rows around the cursor, which stands on the row `current`. -/
structure Terminal where
  /-- The rows above the cursor, the nearest first. -/
  above : List Row
  current : Row
  below : List Row
  column : Nat
  pen : Pen
  reading : Terminal.Reading
  deriving DecidableEq, Repr

namespace Terminal

/-- A terminal that shows nothing. -/
def blank : Terminal := ⟨[], [], [], 0, .standard, .shown⟩

/-- The rows down to the lowest that the cursor has reached, the topmost first. -/
def screen (terminal : Terminal) : List Row :=
  terminal.above.reverse ++ terminal.current :: terminal.below

/-- Shows a character at the cursor. -/
def put (terminal : Terminal) (letter : Char) : Terminal :=
  let reached := terminal.current ++
    List.replicate (terminal.column - terminal.current.length) ⟨' ', .standard⟩
  { terminal with
    current := reached.take terminal.column ++
      ⟨letter, terminal.pen⟩ :: reached.drop (terminal.column + 1)
    column := terminal.column + 1 }

/-- Goes to the start of the next row. -/
def breakRow (terminal : Terminal) : Terminal :=
  { terminal with
    above := terminal.current :: terminal.above
    current := terminal.below.headD []
    below := terminal.below.tail
    column := 0 }

/-- Moves the cursor up, at most to the topmost row. -/
def moveUp : Nat → Terminal → Terminal
  | 0, terminal => terminal
  | rows + 1, terminal =>
    match terminal.above with
    | [] => terminal
    | nearest :: others =>
      moveUp rows { terminal with
        above := others, current := nearest, below := terminal.current :: terminal.below }

/-- Clears from the cursor to the end of its row. -/
def clearLine (terminal : Terminal) : Terminal :=
  { terminal with current := terminal.current.take terminal.column }

/-- Clears from the cursor to the end of the screen. -/
def clearBelow (terminal : Terminal) : Terminal :=
  { terminal.clearLine with below := [] }

/-- Does what a control sequence says by its last character. -/
def obey (terminal : Terminal) (number? : Option Nat) (last : Char) : Terminal :=
  let terminal := { terminal with reading := .shown }
  match last with
  | 'A' => moveUp (number?.getD 1) terminal
  | 'J' => if number?.getD 0 = 0 then terminal.clearBelow else terminal
  | 'K' => if number?.getD 0 = 0 then terminal.clearLine else terminal
  | 'm' => { terminal with pen := terminal.pen.set (number?.getD 0) }
  | _ => terminal

/-- Takes in a character.  Control characters without a meaning here are passed over. -/
def step (terminal : Terminal) (letter : Char) : Terminal :=
  match terminal.reading with
  | .shown =>
    if letter = '\x1b' then { terminal with reading := .escaped }
    else if letter = '\n' then terminal.breakRow
    else if isControl letter then terminal
    else terminal.put letter
  | .escaped =>
    { terminal with reading := if letter = '[' then .numbered none else .shown }
  | .numbered number? =>
    if letter.isDigit then
      { terminal with
        reading := .numbered (some (10 * number?.getD 0 + (letter.toNat - '0'.toNat))) }
    else
      terminal.obey number? letter

/-- Takes in a text. -/
def feed (terminal : Terminal) (text : List Char) : Terminal :=
  text.foldl step terminal

@[simp]
theorem feed_append (terminal : Terminal) (front back : List Char) :
    terminal.feed (front ++ back) = (terminal.feed front).feed back :=
  List.foldl_append

theorem feed_cons (terminal : Terminal) (letter : Char) (rest : List Char) :
    terminal.feed (letter :: rest) = (terminal.step letter).feed rest := rfl

/-! ## Control sequences -/

variable {terminal : Terminal} {above : List Row} {current : Row} {pen : Pen} {text : List Char}

theorem feed_digits {digits : List Char} (digit : ∀ letter ∈ digits, letter.isDigit = true)
    (some? : digits ≠ []) (number? : Option Nat) :
    { terminal with reading := .numbered number? }.feed digits =
      { terminal with
        reading := .numbered (some (Nat.ofDigitChars 10 digits (number?.getD 0))) } := by
  induction digits generalizing number? with
  | nil => exact absurd rfl some?
  | cons letter rest inductionHypothesis =>
      rw [feed_cons, step]
      dsimp only
      rw [if_pos (digit letter List.mem_cons_self), Nat.ofDigitChars_cons]
      cases rest with
      | nil => rfl
      | cons next others =>
          exact inductionHypothesis (fun each member => digit each (List.mem_cons_of_mem _ member))
            (List.cons_ne_nil _ _) _

theorem feed_opening (shown : terminal.reading = .shown) :
    terminal.feed "\x1b[".toList = { terminal with reading := .numbered none } := by
  have letters : "\x1b[".toList = ['\x1b', '['] := rfl
  have escapes : terminal.step '\x1b' = { terminal with reading := .escaped } := by
    rw [step, shown]
    rfl
  rw [letters, feed_cons, escapes]
  rfl

/-- A control sequence without a number is obeyed. -/
theorem feed_bare (shown : terminal.reading = .shown) {last : Char}
    (final : last.isDigit = false) :
    terminal.feed ("\x1b[".toList ++ [last]) = terminal.obey none last := by
  rw [feed_append, feed_opening shown, feed_cons, step]
  dsimp only
  rw [final]
  rfl

/-- A control sequence with a number is obeyed. -/
theorem feed_sequence (shown : terminal.reading = .shown) (number : Nat) {last : Char}
    (final : last.isDigit = false) :
    terminal.feed ("\x1b[".toList ++ (toString number).toList ++ [last]) =
      terminal.obey (some number) last := by
  have digit : ∀ letter ∈ Nat.toDigits 10 number, letter.isDigit = true :=
    fun letter member => Nat.isDigit_of_mem_toDigits (by decide) (by decide) member
  have value : Nat.ofDigitChars 10 (Nat.toDigits 10 number) 0 = number :=
    Nat.ofDigitChars_toDigits (by decide) (by decide)
  have written : (toString number).toList = Nat.toDigits 10 number := by
    rw [Nat.toString_eq_repr, Nat.toList_repr]
  rw [written, feed_append, feed_append, feed_opening shown,
    feed_digits digit Nat.toDigits_ne_nil, Option.getD_none, value, feed_cons, step]
  dsimp only
  rw [final]
  rfl

theorem feed_control (shown : terminal.reading = .shown) (code : Nat) :
    terminal.feed (Text.control code).toList = { terminal with pen := terminal.pen.set code } := by
  have letters : (Text.control code).toList =
      "\x1b[".toList ++ (toString code).toList ++ ['m'] := by
    rw [Text.control, String.toList_append, String.toList_append]
    rfl
  rw [letters, feed_sequence shown code (by decide)]
  cases terminal
  cases shown
  rfl

/-! ## Writing at the end -/

/-- The terminal whose cursor stands behind all that is shown. -/
def page (above : List Row) (current : Row) (pen : Pen) : Terminal :=
  ⟨above, current, [], current.length, pen, .shown⟩

/-- The rows above and the last row when cells are written behind it. -/
def write (above : List Row) (current : Row) : List Cell → List Row × Row
  | [] => (above, current)
  | cell :: rest =>
    if cell.breaks then write (current :: above) [] rest else write above (current ++ [cell]) rest

theorem write_append (above : List Row) (current : Row) (front back : List Cell) :
    write above current (front ++ back) =
      write (write above current front).1 (write above current front).2 back := by
  induction front generalizing above current with
  | nil => rfl
  | cons cell rest inductionHypothesis =>
      rw [List.cons_append, write, write]
      split
      · exact inductionHypothesis _ _
      · exact inductionHypothesis _ _

/-- What is written before a line feed makes rows, the first of which goes on with the last row. -/
theorem write_line (above : List Row) (current : Row) (cells : List Cell) {last : Cell}
    (breaks : last.breaks = true) :
    write above current (cells ++ [last]) =
      (((cells.splitOnP Cell.breaks).modifyHead (current ++ ·)).reverse ++ above, []) := by
  induction cells generalizing above current with
  | nil =>
      rw [List.nil_append, write, if_pos breaks, List.splitOnP_nil]
      simp [write]
  | cons cell rest inductionHypothesis =>
      rw [List.cons_append, write, List.splitOnP_cons_eq_if_modifyHead]
      split
      · have unchanged : (rest.splitOnP Cell.breaks).modifyHead ([] ++ ·) =
            rest.splitOnP Cell.breaks :=
          congrFun List.modifyHead_id _
        rw [inductionHypothesis, unchanged]
        simp
      · rw [inductionHypothesis, List.modifyHead_modifyHead]
        simp [Function.comp_def]

theorem put_page (letter : Char) :
    (page above current pen).put letter = page above (current ++ [⟨letter, pen⟩]) pen := by
  simp [page, put]

/-- A text without control characters is written as its cells. -/
theorem feed_plain (plain : PlainText text) :
    (page above current pen).feed text =
      page (write above current (pen.ink text)).1 (write above current (pen.ink text)).2 pen := by
  induction text generalizing above current with
  | nil => rfl
  | cons letter rest inductionHypothesis =>
      have plainRest : PlainText rest :=
        fun each member => plain each (List.mem_cons_of_mem _ member)
      rw [feed_cons, Pen.ink, List.map_cons, ← Pen.ink, write]
      by_cases breaks : letter = '\n'
      · have stepped : (page above current pen).step letter = page (current :: above) [] pen := by
          rw [breaks]
          rfl
        rw [stepped, inductionHypothesis plainRest, if_pos (Cell.breaks_iff.2 breaks)]
      · have free : isControl letter = false := by
          rw [← Bool.not_eq_true]
          exact fun control => breaks (plain letter List.mem_cons_self control)
        have shown : letter ≠ '\x1b' := by
          rintro rfl
          cases free
        have stepped : (page above current pen).step letter =
            page above (current ++ [⟨letter, pen⟩]) pen := by
          rw [step, page]
          dsimp only
          rw [if_neg shown, if_neg breaks, free, ← page]
          exact put_page letter
        rw [stepped, inductionHypothesis plainRest,
          if_neg (fun same => breaks (Cell.breaks_iff.1 same))]

/-! ## Drawing -/

/-- The terminal after cells were written below some rows. -/
def written (above : List Row) (cells : List Cell) (pen : Pen) : Terminal :=
  page (write above [] cells).1 (write above [] cells).2 pen

/-- A text shows some cells wherever it is written, and leaves the pen as after a reset. -/
def Draws (text : List Char) (cells : List Cell) : Prop :=
  ∀ above before,
    (written above before .standard).feed text = written above (before ++ cells) .standard

variable {cells : List Cell}

theorem Draws.append {front back : List Char} {first second : List Cell}
    (draws : Draws front first) (drawsToo : Draws back second) :
    Draws (front ++ back) (first ++ second) := by
  intro above before
  rw [feed_append, draws, drawsToo, List.append_assoc]

theorem feed_control_written (above : List Row) (before : List Cell) (pen : Pen) (code : Nat) :
    (written above before pen).feed (Text.control code).toList =
      written above before (pen.set code) :=
  feed_control rfl code

theorem feed_plain_written
    (plain : PlainText text) (above : List Row) (before : List Cell) (pen : Pen) :
    (written above before pen).feed text = written above (before ++ pen.ink text) pen := by
  rw [written, feed_plain plain, ← write_append]
  rfl

theorem draws_plain (plain : PlainText text) : Draws text (Pen.standard.ink text) :=
  fun above before => feed_plain_written plain above before .standard

/-- A text between control sequences that set a pen and take it back is shown by this pen. -/
theorem draws_between
    (plain : PlainText text) {on off : Nat} (set : Pen.standard.set on = pen)
    (reset : pen.set off = .standard) :
    Draws ((Text.control on).toList ++ text ++ (Text.control off).toList) (pen.ink text) := by
  intro above before
  rw [feed_append, feed_append, feed_control_written, set, feed_plain_written plain,
    feed_control_written, reset]

theorem draws_dim {text : String} (plain : PlainText text.toList) :
    Draws (Text.dim text).toList (Pen.ink ⟨false, true, none⟩ text.toList) := by
  rw [Text.dim, String.toList_append, String.toList_append]
  exact draws_between plain rfl rfl

theorem draws_paint {text : String} (plain : PlainText text.toList) (colour : Text.Colour) :
    Draws (Text.paint colour text).toList
      (Pen.ink ⟨false, false, some colour.code⟩ text.toList) := by
  rw [Text.paint, String.toList_append, String.toList_append]
  refine draws_between plain ?_ rfl
  cases colour <;> rfl

theorem draws_bold_paint {text : String} (plain : PlainText text.toList) (colour : Text.Colour) :
    Draws (Text.bold (Text.paint colour text)).toList
      (Pen.ink ⟨true, false, some colour.code⟩ text.toList) := by
  have coloured : (⟨true, false, none⟩ : Pen).set colour.code =
      ⟨true, false, some colour.code⟩ := by
    cases colour <;> rfl
  have bold : Pen.standard.set 1 = ⟨true, false, none⟩ := rfl
  have uncoloured : (⟨true, false, some colour.code⟩ : Pen).set 39 = ⟨true, false, none⟩ := rfl
  have reset : (⟨true, false, none⟩ : Pen).set 0 = .standard := rfl
  intro above before
  rw [Text.bold, Text.paint]
  simp only [String.toList_append, feed_append, feed_control_written]
  rw [bold, coloured, feed_plain_written plain, feed_control_written, uncoloured,
    feed_control_written, reset]

/-- The rows of cells. -/
def rowsOf (cells : List Cell) : List Row :=
  cells.splitOnP Cell.breaks

/-- A line adds the rows of its cells. -/
theorem Draws.line (draws : Draws text cells) (above : List Row) :
    (page above [] .standard).feed (text ++ ['\n']) =
      page ((rowsOf cells).reverse ++ above) [] .standard := by
  have start : page above [] .standard = written above [] .standard := rfl
  have plain : PlainText ['\n'] := by
    intro letter member _
    exact List.mem_singleton.1 member
  have unchanged : (rowsOf cells).modifyHead ([] ++ ·) = rowsOf cells :=
    congrFun List.modifyHead_id _
  rw [start, feed_append, draws, feed_plain_written plain, List.nil_append, written, Pen.ink,
    List.map_singleton, write_line _ _ _ (Cell.breaks_iff.2 rfl), ← rowsOf, unchanged]

/-! ## The rows of cells -/

theorem length_rowsOf (cells : List Cell) :
    (rowsOf cells).length = cells.countP Cell.breaks + 1 := by
  induction cells with
  | nil => rfl
  | cons cell rest inductionHypothesis =>
      rw [rowsOf, List.splitOnP_cons_eq_if_modifyHead, List.countP_cons]
      split
      · rw [List.length_cons, ← rowsOf, inductionHypothesis]
      · rw [List.length_modifyHead, ← rowsOf, inductionHypothesis, Nat.add_zero]

/-- The first row begins with the first cell, unless this breaks the row. -/
theorem head?_rowsOf_cons {cell : Cell} (kept : cell.breaks = false) (rest : List Cell) :
    ∃ others rows, rowsOf (cell :: rest) = (cell :: others) :: rows := by
  rw [rowsOf, List.splitOnP_cons_eq_if_modifyHead, if_neg (by rw [kept]; exact Bool.false_ne_true)]
  cases split : rest.splitOnP Cell.breaks with
  | nil => exact absurd split (List.splitOnP_ne_nil _ _)
  | cons first rows => exact ⟨first, rows, rfl⟩

theorem countP_ink (pen : Pen) (text : List Char) :
    (pen.ink text).countP Cell.breaks = text.count '\n' := by
  rw [Pen.ink, List.countP_map]
  rfl

/-! ## Taking rows away -/

theorem moveUp_eq (rows : Nat) (terminal : Terminal) :
    ∃ current below, moveUp rows terminal =
      { terminal with above := terminal.above.drop rows, current := current, below := below } := by
  induction rows generalizing terminal with
  | zero => exact ⟨terminal.current, terminal.below, rfl⟩
  | succ rows inductionHypothesis =>
      rw [moveUp]
      split
      · rename_i top
        exact ⟨terminal.current, terminal.below, by rw [top]; cases terminal; cases top; rfl⟩
      · rename_i nearest others rowsAbove
        rcases inductionHypothesis { terminal with
          above := others, current := nearest, below := terminal.current :: terminal.below }
          with ⟨current, below, moved⟩
        exact ⟨current, below, by rw [moved, rowsAbove, List.drop_succ_cons]⟩

/-- Moving up from the start of a row and clearing takes the rows in between away. -/
theorem feed_erase (rows : Nat) :
    ((page above [] pen).feed (Console.Command.moveUp rows).render.toList).feed
        Console.Command.clearBelow.render.toList =
      page (above.drop rows) [] pen := by
  have moves : (Console.Command.moveUp rows).render.toList =
      "\x1b[".toList ++ (toString rows).toList ++ ['A'] := by
    rw [Console.Command.render, String.toList_append, String.toList_append]
    rfl
  have clears : Console.Command.clearBelow.render.toList = "\x1b[".toList ++ ['J'] := rfl
  rw [moves, feed_sequence rfl rows (by decide)]
  rcases moveUp_eq rows (page above [] pen) with ⟨current, below, moved⟩
  have obeyed : (page above [] pen).obey (some rows) 'A' = moveUp rows (page above [] pen) := rfl
  rw [obeyed, moved, clears, feed_bare rfl (by decide)]
  rfl

theorem feed_clearLine (above : List Row) (pen : Pen) :
    (page above [] pen).feed Console.Command.clearLine.render.toList = page above [] pen := by
  have clears : Console.Command.clearLine.render.toList = "\x1b[".toList ++ ['K'] := rfl
  rw [clears, feed_bare rfl (by decide)]
  rfl

end Terminal

end ModuleBridge
