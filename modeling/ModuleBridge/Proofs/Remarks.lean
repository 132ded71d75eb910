import ModuleBridge.Proofs.Terminal

/-!
# What a console prints and a terminal shows

A console prints log lines and status messages.  On a screen each of them adds its rows, and a
status message first takes as many rows away as the status message before it had, counted from
where the cursor stands (`shown_say`).
-/

namespace ModuleBridge

namespace Console

/-! ## Remarks -/

/-- What a console is told to print. -/
inductive Message where
  | log (part text : String)
  | success (text : String)
  | unchanged (text : String)
  | failure (summary detail : String)
  | warning (text : String)
  deriving DecidableEq, Repr

/-- A message with the time of day at which it is printed. -/
structure Remark where
  time : Nat
  message : Message
  deriving DecidableEq, Repr

/-- The console after a remark. -/
def say (console : Console) (remark : Remark) : Console :=
  let console := { console with clock := remark.time }
  match remark.message with
  | .log part text => console.log part text
  | .success text => console.success text
  | .unchanged text => console.unchanged text
  | .failure summary detail => console.failure summary detail
  | .warning text => console.warning text

/-- What a terminal shows of all that a console has printed. -/
def shown (console : Console) : Terminal :=
  Terminal.blank.feed console.text.toList

/-- The colour of the name of a part. -/
def headingColour (part : String) : Text.Colour :=
  match String.ofList (part.toList.map Char.toLower) with
  | "hot" => .brightBlue
  | "watch" => .brightGreen
  | "error" => .brightRed
  | "warn" => .yellow
  | _ => .brightYellow

/-- A failure and its detail, where there is one, on further lines. -/
def detailed (summary detail : String) : String :=
  if detail.isEmpty then summary else summary ++ "\n" ++ detail

namespace Remark

/-- The remark belongs to the status block. -/
def isStatus (remark : Remark) : Bool :=
  match remark.message with
  | .log _ _ => false
  | _ => true

/-- The texts that a remark is made of. -/
def texts (remark : Remark) : List String :=
  match remark.message with
  | .log part text => [part, text]
  | .success text => [text]
  | .unchanged text => [text]
  | .failure summary detail => [summary, detail]
  | .warning text => [text]

/-- No text of the remark has control characters other than line feeds. -/
def Plain (remark : Remark) : Prop :=
  ∀ text ∈ remark.texts, PlainText text.toList

/-- The time in brackets, dimmed. -/
def stamp (time : Nat) : List Cell :=
  Pen.ink ⟨false, true, none⟩ ("[" ++ timeOfDay time ++ "]").toList ++ Pen.standard.ink [' ']

/-- A text behind a symbol in a colour. -/
def marked (colour : Text.Colour) (mark text : String) : List Cell :=
  Pen.ink ⟨false, false, some colour.code⟩ mark.toList ++ Pen.standard.ink (' ' :: text.toList)

/-- The remark as it is to be read. -/
def cells (remark : Remark) : List Cell :=
  match remark.message with
  | .log part text =>
    Pen.ink ⟨true, false, some (headingColour part).code⟩ ("[" ++ part ++ "]").toList ++
      Pen.standard.ink (' ' :: text.toList)
  | .success text => stamp remark.time ++ marked .green "✓" text
  | .unchanged text => stamp remark.time ++ Pen.ink ⟨false, true, none⟩ text.toList
  | .failure summary detail => stamp remark.time ++ marked .red "✗" (detailed summary detail)
  | .warning text => stamp remark.time ++ marked .yellow "⚠" text

/-- The rows of a remark. -/
def rows (remark : Remark) : List Row :=
  Terminal.rowsOf remark.cells

end Remark

/-! ## What one remark does to a screen -/

theorem text_put (console : Console) (commands : List Command) :
    (console.put commands).text = console.text ++ String.join (commands.map Command.render) := by
  rw [text, put, List.map_append, String.join_append]
  rfl

theorem shown_put (console : Console) (commands : List Command) :
    (console.put commands).shown =
      console.shown.feed (commands.flatMap fun command => command.render.toList) := by
  rw [shown, text_put, String.toList_append, Terminal.feed_append, String.toList_join,
    List.flatMap_map]
  rfl

theorem isDigit_of_mem_twoDigits {number : Nat} {letter : Char}
    (member : letter ∈ (twoDigits number).toList) : letter.isDigit = true := by
  rw [twoDigits, String.toList_append, List.mem_append] at member
  rcases member with lead | digit
  · split at lead
    · rw [List.mem_singleton.1 lead]
      rfl
    · cases lead
  · rw [Nat.toString_eq_repr, Nat.toList_repr] at digit
    exact Nat.isDigit_of_mem_toDigits (by decide) (by decide) digit

/-- The time of day is written with digits and colons. -/
theorem mem_timeOfDay {time : Nat} {letter : Char} (member : letter ∈ (timeOfDay time).toList) :
    letter.isDigit = true ∨ letter = ':' := by
  simp only [timeOfDay, String.toList_append, List.mem_append] at member
  rcases member with (((hours | colon) | minutes) | colon) | seconds
  · exact .inl (isDigit_of_mem_twoDigits hours)
  · exact .inr (List.mem_singleton.1 colon)
  · exact .inl (isDigit_of_mem_twoDigits minutes)
  · exact .inr (List.mem_singleton.1 colon)
  · exact .inl (isDigit_of_mem_twoDigits seconds)

theorem plainText_timeOfDay (time : Nat) : PlainText (timeOfDay time).toList := by
  intro letter member control
  rcases mem_timeOfDay member with digit | rfl
  · rw [isControl_of_isDigit digit] at control
    cases control
  · cases control

theorem plainText_bracketed {text : String} (plain : PlainText text.toList) :
    PlainText ("[" ++ text ++ "]").toList := by
  rw [String.toList_append, String.toList_append]
  exact (PlainText.append (by decide) plain).append (by decide)

theorem plainText_detailed {summary detail : String}
    (plain : PlainText summary.toList) (plainToo : PlainText detail.toList) :
    PlainText (detailed summary detail).toList := by
  rw [detailed]
  split
  · exact plain
  · rw [String.toList_append, String.toList_append]
    exact (plain.append (by decide)).append plainToo

open Terminal

variable {console : Console} {above : List Row} {remark : Remark}

theorem draws_stamp (time : Nat) :
    Draws ((Text.dim ("[" ++ timeOfDay time ++ "]")).toList ++ [' ']) (Remark.stamp time) :=
  (draws_dim (plainText_bracketed (plainText_timeOfDay time))).append (draws_plain (by decide))

theorem plainText_spaced {text : List Char} (plain : PlainText text) : PlainText (' ' :: text) :=
  have space : PlainText [' '] := by decide
  space.append plain

theorem draws_marked {mark text : String}
    (plain : PlainText mark.toList) (plainToo : PlainText text.toList) (colour : Text.Colour) :
    Draws ((if (Text.paint colour mark).isEmpty then "" else Text.paint colour mark ++ " ") ++
      text).toList (Remark.marked colour mark text) := by
  have visible : ¬(Text.paint colour mark).isEmpty = true := by
    rw [String.isEmpty_iff, ← String.toList_inj]
    simp [Text.paint, Text.control]
  have letters : (Text.paint colour mark ++ " " ++ text).toList =
      (Text.paint colour mark).toList ++ (' ' :: text.toList) := by
    simp
  rw [if_neg visible, letters]
  exact (draws_paint plain colour).append (draws_plain (plainText_spaced plainToo))

/-- A log line adds its rows. -/
theorem shown_log {part text : String} (time : Nat)
    (plain : PlainText part.toList) (plainToo : PlainText text.toList)
    (stands : console.shown = page above [] .standard) :
    (console.log part text).shown =
      page ((Remark.rows ⟨time, .log part text⟩).reverse ++ above) [] .standard := by
  have head : heading part = Text.bold (Text.paint (headingColour part) ("[" ++ part ++ "]")) := rfl
  have draws : Draws ((heading part).toList ++ (' ' :: text.toList))
      (Remark.cells ⟨time, .log part text⟩) := by
    rw [head]
    exact (draws_bold_paint (plainText_bracketed plain) _).append
      (draws_plain (plainText_spaced plainToo))
  have letters : (heading part ++ " " ++ text ++ "\n").toList =
      (heading part).toList ++ (' ' :: text.toList) ++ ['\n'] := by
    simp
  rw [log, shown_put, stands]
  simp only [List.flatMap_cons, List.flatMap_nil, List.append_nil, feed_append]
  rw [feed_clearLine, Command.render, letters, draws.line]
  rfl

/-- What a console of some height does before it writes its status block anew. -/
def erasure (height : Nat) : List Command :=
  if height = 0 then [] else [.moveUp (height % rowLimit), .clearBelow]

theorem feed_erasure (height : Nat) :
    (page above [] .standard).feed
        ((erasure height).flatMap fun command => command.render.toList) =
      page (above.drop (height % rowLimit)) [] .standard := by
  rw [erasure]
  split
  · rename_i nothing
    rw [nothing]
    rfl
  · simp only [List.flatMap_cons, List.flatMap_nil, List.append_nil, feed_append]
    exact feed_erase _

/-- A status message takes as many rows away as the one before it had, and adds its own. -/
theorem shown_status {sign message : String} {body : List Cell}
    (draws : Draws ((if sign.isEmpty then "" else sign ++ " ") ++ message).toList body)
    (stands : console.shown = page above [] .standard) :
    (console.status sign message).shown =
      page ((rowsOf (Remark.stamp console.clock ++ body)).reverse ++
        above.drop (console.height % rowLimit)) [] .standard := by
  have letters : (Text.dim ("[" ++ timeOfDay console.clock ++ "]") ++ " " ++
        (if sign.isEmpty then "" else sign ++ " ") ++ message ++ "\n").toList =
      ((Text.dim ("[" ++ timeOfDay console.clock ++ "]")).toList ++ [' ']) ++
        ((if sign.isEmpty then "" else sign ++ " ") ++ message).toList ++ ['\n'] := by
    simp
  have printed : (console.status sign message).shown =
      (console.put (erasure console.height ++ [.write
        (Text.dim ("[" ++ timeOfDay console.clock ++ "]") ++ " " ++
          (if sign.isEmpty then "" else sign ++ " ") ++ message ++ "\n")])).shown := rfl
  rw [printed, shown_put, stands, List.flatMap_append, feed_append, feed_erasure,
    List.flatMap_singleton, Command.render, letters]
  exact ((draws_stamp console.clock).append draws).line _

/-- What a remark takes away: as many rows as the last status message had, for another one. -/
def cleared (console : Console) (remark : Remark) : Nat :=
  if remark.isStatus then console.height % rowLimit else 0

theorem shown_say
    (plain : remark.Plain) (stands : console.shown = page above [] .standard) :
    (console.say remark).shown =
      page (remark.rows.reverse ++ above.drop (console.cleared remark)) [] .standard := by
  rcases remark with ⟨time, message⟩
  have standsThen : { console with clock := time }.shown = page above [] .standard := stands
  cases message with
  | log part text =>
      exact shown_log time (plain part (by simp [Remark.texts]))
        (plain text (by simp [Remark.texts])) standsThen
  | success text =>
      have read : PlainText text.toList := plain text (by simp [Remark.texts])
      exact shown_status (draws_marked (by decide) read .green) standsThen
  | unchanged text =>
      have read : PlainText text.toList := plain text (by simp [Remark.texts])
      have draws : Draws ((if "".isEmpty then "" else "" ++ " ") ++ Text.dim text).toList
          (Pen.ink ⟨false, true, none⟩ text.toList) := by
        rw [if_pos (by decide), String.empty_append]
        exact draws_dim read
      exact shown_status draws standsThen
  | failure summary detail =>
      have read : PlainText (detailed summary detail).toList :=
        plainText_detailed (plain summary (by simp [Remark.texts]))
          (plain detail (by simp [Remark.texts]))
      exact shown_status (draws_marked (by decide) read .red) standsThen
  | warning text =>
      have read : PlainText text.toList := plain text (by simp [Remark.texts])
      exact shown_status (draws_marked (by decide) read .yellow) standsThen

/-! ## How many rows a status message has -/

theorem countP_stamp (time : Nat) : (Remark.stamp time).countP Cell.breaks = 0 := by
  have unbroken : '\n' ∉ (timeOfDay time).toList := by
    intro member
    rcases mem_timeOfDay member with digit | colon
    · cases digit
    · cases colon
  simp only [Remark.stamp, List.countP_append, countP_ink, String.toList_append,
    List.count_append, List.count_eq_zero_of_not_mem unbroken]
  rfl

theorem countP_marked {mark : String} (unbroken : '\n' ∉ mark.toList) (colour : Text.Colour)
    (text : String) :
    (Remark.marked colour mark text).countP Cell.breaks = text.toList.count '\n' := by
  rw [Remark.marked, List.countP_append, countP_ink, countP_ink,
    List.count_eq_zero_of_not_mem unbroken, Nat.zero_add]
  rfl

theorem lineCount_dim (text : String) : lineCount (Text.dim text) = lineCount text := by
  have on : (Text.control 2).toList.count '\n' = 0 := rfl
  have off : (Text.control 0).toList.count '\n' = 0 := rfl
  rw [lineCount, Text.dim, String.toList_append, String.toList_append, List.count_append,
    List.count_append, on, off, Nat.zero_add, Nat.add_zero, lineCount]

theorem length_marked (mark : String) (unbroken : '\n' ∉ mark.toList) (time : Nat)
    (colour : Text.Colour) (text : String) :
    (rowsOf (Remark.stamp time ++ Remark.marked colour mark text)).length = lineCount text := by
  rw [length_rowsOf, List.countP_append, countP_stamp, countP_marked unbroken, Nat.zero_add,
    lineCount]

/-- A console remembers how many rows its last status message has. -/
theorem height_of_status (console : Console) (status : remark.isStatus = true) :
    (console.say remark).height = remark.rows.length := by
  rcases remark with ⟨time, message⟩
  rw [Remark.rows, Remark.cells]
  cases message with
  | log part text => cases status
  | success text => exact (length_marked "✓" (by decide) time .green text).symm
  | unchanged text =>
      rw [length_rowsOf, List.countP_append, countP_stamp, countP_ink, Nat.zero_add]
      exact lineCount_dim text
  | failure summary detail =>
      exact (length_marked "✗" (by decide) time .red (detailed summary detail)).symm
  | warning text => exact (length_marked "⚠" (by decide) time .yellow text).symm

theorem height_of_log (console : Console) (logged : remark.isStatus = false) :
    (console.say remark).height = console.height := by
  rcases remark with ⟨time, message⟩
  cases message with
  | log part text => rfl
  | success text => cases logged
  | unchanged text => cases logged
  | failure summary detail => cases logged
  | warning text => cases logged

end Console

end ModuleBridge
