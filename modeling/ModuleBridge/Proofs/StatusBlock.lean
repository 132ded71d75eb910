import Mathlib.Data.List.Induction
import ModuleBridge.Proofs.Remarks

/-!
# The status block on a screen

The rows that a status message takes away are those of the status message before it only if
nothing was logged in between.  What a terminal shows in the end is what a slate holds that keeps
apart the rows above the latest status block, the block, and the rows logged since.

The block takes away only itself exactly when no log line stands between two status messages and
none but the last has too many rows to be moved over (`status_takes_itself_iff`).
-/

namespace ModuleBridge

namespace Console

open Terminal

variable {console : Console} {remark : Remark}

/-! ## Slates -/

/-- What is shown, around the latest status block. -/
structure Slate where
  /-- The rows above the block. -/
  older : List Row
  block : List Row
  /-- The rows that were logged since. -/
  newer : List Row
  deriving DecidableEq, Repr

namespace Slate

variable {slate : Slate}

/-- All rows, the topmost first. -/
def rows (slate : Slate) : List Row :=
  slate.older ++ slate.block ++ slate.newer

/-- What the next status message leaves: it takes as many of the last rows away as the block has,
up to a multiple of what a terminal can be told to move. -/
def left (slate : Slate) : List Row :=
  slate.rows.take (slate.rows.length - slate.block.length % rowLimit)

/-- The slate after a remark. -/
def add (slate : Slate) (remark : Remark) : Slate :=
  if remark.isStatus then
    ⟨slate.left, remark.rows, []⟩
  else
    { slate with newer := slate.newer ++ remark.rows }

/-- The slate after some remarks. -/
def after (remarks : List Remark) : Slate :=
  remarks.foldl add ⟨[], [], []⟩

/-- The console shows what the slate holds, and knows how high its block is. -/
structure Mirrors (slate : Slate) (console : Console) : Prop where
  shown : console.shown = page slate.rows.reverse [] .standard
  height : console.height = slate.block.length

theorem mirrors_start (verbose : Bool) : Mirrors ⟨[], [], []⟩ (Console.start verbose) :=
  ⟨rfl, rfl⟩

theorem Mirrors.say (mirrors : Mirrors slate console) (plain : remark.Plain) :
    Mirrors (slate.add remark) (console.say remark) := by
  have shown := shown_say plain mirrors.shown
  cases status : remark.isStatus with
  | false =>
      rw [cleared, status] at shown
      rw [add, status]
      refine ⟨?_, ?_⟩
      · rw [shown]
        simp [rows]
      · rw [height_of_log console status]
        exact mirrors.height
  | true =>
      rw [cleared, status, if_pos rfl, mirrors.height] at shown
      rw [add, status]
      refine ⟨?_, height_of_status console status⟩
      rw [shown, List.drop_reverse]
      simp [rows, left]

/-- Whatever is said in plain texts, the terminal shows the slate of the remarks. -/
theorem mirrors_after (verbose : Bool) {remarks : List Remark}
    (plain : ∀ remark ∈ remarks, remark.Plain) :
    Mirrors (after remarks) (remarks.foldl Console.say (Console.start verbose)) := by
  induction remarks using List.reverseRecOn with
  | nil => exact mirrors_start verbose
  | append_singleton remarks remark inductionHypothesis =>
      rw [after, List.foldl_concat, List.foldl_concat]
      refine (inductionHypothesis ?_).say (plain remark (by simp))
      exact fun each member => plain each (List.mem_append_left _ member)

end Slate

/-! ## Log lines and status messages on a screen -/

/-- The rows of the log lines among some remarks. -/
def logged (remarks : List Remark) : List Row :=
  (remarks.filter fun remark => !remark.isStatus).flatMap Remark.rows

/-- The rows of all log lines and of the last status message, in the order of the remarks. -/
def kept : List Remark → List Row
  | [] => []
  | remark :: rest =>
    (if remark.isStatus && rest.any Remark.isStatus then [] else remark.rows) ++ kept rest

/-- Status messages with no log line between them; none but the last has too many rows. -/
def Undisturbed (remarks : List Remark) : Prop :=
  ∃ before block after, remarks = before ++ block ++ after ∧
    (∀ remark ∈ before ++ after, remark.isStatus = false) ∧
    (∀ remark ∈ block, remark.isStatus = true) ∧
    ∀ remark ∈ block.dropLast, remark.rows.length < rowLimit

/-- Log lines, and then status messages that another one may follow. -/
def Tight (remarks : List Remark) : Prop :=
  ∃ before block, remarks = before ++ block ∧ (∀ remark ∈ before, remark.isStatus = false) ∧
    ∀ remark ∈ block, remark.isStatus = true ∧ remark.rows.length < rowLimit

/-- A row of a text that is dimmed in part. -/
def faint (row : Row) : Bool :=
  row.any fun cell => cell.pen.dim

theorem logged_concat_log (remarks : List Remark) (log : remark.isStatus = false) :
    logged (remarks ++ [remark]) = logged remarks ++ remark.rows := by
  simp [logged, log]

theorem logged_concat_status (remarks : List Remark) (status : remark.isStatus = true) :
    logged (remarks ++ [remark]) = logged remarks := by
  simp [logged, status]

theorem kept_concat_log (remarks : List Remark) (log : remark.isStatus = false) :
    kept (remarks ++ [remark]) = kept remarks ++ remark.rows := by
  induction remarks with
  | nil => simp [kept, log]
  | cons first rest inductionHypothesis =>
      rw [List.cons_append, kept, kept, inductionHypothesis, List.append_assoc]
      simp [log]

theorem kept_concat_status (remarks : List Remark) (status : remark.isStatus = true) :
    kept (remarks ++ [remark]) = logged remarks ++ remark.rows := by
  induction remarks with
  | nil => simp [kept, logged]
  | cons first rest inductionHypothesis =>
      have later : (rest ++ [remark]).any Remark.isStatus = true := by
        simp [status]
      rw [List.cons_append, kept, inductionHypothesis, later, Bool.and_true]
      cases kind : first.isStatus with
      | false => simp [logged, kind]
      | true => simp [logged, kind]

theorem split_concat {remarks front others : List Remark} {last : Remark}
    (parts : remarks ++ [remark] = front ++ others.concat last) :
    remarks = front ++ others ∧ remark = last := by
  rw [List.concat_eq_append, ← List.append_assoc] at parts
  rcases List.append_inj' parts rfl with ⟨same, lastToo⟩
  exact ⟨same, (List.cons.inj lastToo).1⟩

theorem tight_concat_status (remarks : List Remark) (status : remark.isStatus = true) :
    Tight (remarks ++ [remark]) ↔ Tight remarks ∧ remark.rows.length < rowLimit := by
  constructor
  · rintro ⟨before, block, parts, logs, statuses⟩
    rcases List.eq_nil_or_concat block with rfl | ⟨others, last, rfl⟩
    · rw [List.append_nil] at parts
      have log := logs remark (by rw [← parts]; simp)
      rw [status] at log
      cases log
    · rcases split_concat parts with ⟨rfl, rfl⟩
      refine ⟨⟨before, others, rfl, logs, ?_⟩, (statuses remark (by simp)).2⟩
      exact fun each member => statuses each (by simp [member])
  · rintro ⟨⟨before, block, rfl, logs, statuses⟩, few⟩
    refine ⟨before, block ++ [remark], List.append_assoc _ _ _, logs, ?_⟩
    intro each member
    rcases List.mem_append.1 member with inBlock | last
    · exact statuses each inBlock
    · rw [List.mem_singleton.1 last]
      exact ⟨status, few⟩

theorem tight_concat_log (remarks : List Remark) (log : remark.isStatus = false) :
    Tight (remarks ++ [remark]) ↔ ∀ each ∈ remarks, each.isStatus = false := by
  constructor
  · rintro ⟨before, block, parts, logs, statuses⟩
    rcases List.eq_nil_or_concat block with rfl | ⟨others, last, rfl⟩
    · rw [List.append_nil] at parts
      exact fun each member => logs each (by rw [← parts]; simp [member])
    · rcases split_concat parts with ⟨-, rfl⟩
      have status := (statuses remark (by simp)).1
      rw [log] at status
      cases status
  · intro logs
    refine ⟨remarks ++ [remark], [], (List.append_nil _).symm, ?_, nofun⟩
    intro each member
    rcases List.mem_append.1 member with earlier | last
    · exact logs each earlier
    · rw [List.mem_singleton.1 last]
      exact log

theorem undisturbed_concat_log (remarks : List Remark) (log : remark.isStatus = false) :
    Undisturbed (remarks ++ [remark]) ↔ Undisturbed remarks := by
  constructor
  · rintro ⟨before, block, after, parts, logs, statuses, few⟩
    rcases List.eq_nil_or_concat after with rfl | ⟨others, last, rfl⟩
    · rw [List.append_nil] at parts logs
      rcases List.eq_nil_or_concat block with rfl | ⟨others, last, rfl⟩
      · refine ⟨remarks, [], [], by simp, ?_, nofun, nofun⟩
        intro each member
        rw [List.append_nil] at parts member
        exact logs each (by rw [← parts]; simp [member])
      · rcases split_concat parts with ⟨-, rfl⟩
        have status := statuses remark (by simp)
        rw [log] at status
        cases status
    · rcases split_concat parts with ⟨rfl, -⟩
      refine ⟨before, block, others, rfl, ?_, statuses, few⟩
      intro each member
      refine logs each ?_
      rw [List.concat_eq_append, ← List.append_assoc]
      exact List.mem_append_left _ member
  · rintro ⟨before, block, after, rfl, logs, statuses, few⟩
    refine ⟨before, block, after ++ [remark], by simp, ?_, statuses, few⟩
    intro each member
    rw [← List.append_assoc] at member
    rcases List.mem_append.1 member with earlier | last
    · exact logs each earlier
    · rw [List.mem_singleton.1 last]
      exact log

theorem undisturbed_concat_status (remarks : List Remark) (status : remark.isStatus = true) :
    Undisturbed (remarks ++ [remark]) ↔ Tight remarks := by
  constructor
  · rintro ⟨before, block, after, parts, logs, statuses, few⟩
    rcases List.eq_nil_or_concat after with rfl | ⟨others, last, rfl⟩
    · rw [List.append_nil] at parts logs
      rcases List.eq_nil_or_concat block with rfl | ⟨others, last, rfl⟩
      · rw [List.append_nil] at parts
        have log := logs remark (by rw [← parts]; simp)
        rw [status] at log
        cases log
      · rcases split_concat parts with ⟨rfl, -⟩
        refine ⟨before, others, rfl, logs, ?_⟩
        intro each member
        refine ⟨statuses each (by simp [member]), few each ?_⟩
        rw [List.concat_eq_append, List.dropLast_concat]
        exact member
    · rcases split_concat parts with ⟨-, rfl⟩
      have log := logs remark (by simp)
      rw [status] at log
      cases log
  · rintro ⟨before, block, rfl, logs, statuses⟩
    refine ⟨before, block ++ [remark], [], by simp, by simpa using logs, ?_, ?_⟩
    · intro each member
      rcases List.mem_append.1 member with inBlock | last
      · exact (statuses each inBlock).1
      · rw [List.mem_singleton.1 last]
        exact status
    · rw [List.dropLast_concat]
      exact fun each member => (statuses each member).2

/-! ## Rows that cannot be taken for those of a log line -/

theorem not_faint_of_logged {remarks : List Remark} {row : Row} (member : row ∈ logged remarks) :
    faint row = false := by
  rcases List.mem_flatMap.1 member with ⟨remark, listed, inRows⟩
  have log := (List.mem_filter.1 listed).2
  rw [faint, List.any_eq_false]
  intro cell inRow
  have inCells := (mem_of_mem_splitOnP inRows cell inRow).1
  rcases remark with ⟨time, message⟩
  cases message with
  | log part text =>
      rcases List.mem_append.1 inCells with head | tail
      · rcases List.mem_map.1 head with ⟨letter, -, rfl⟩
        exact Bool.false_ne_true
      · rcases List.mem_map.1 tail with ⟨letter, -, rfl⟩
        exact Bool.false_ne_true
  | success text => cases log
  | unchanged text => cases log
  | failure summary detail => cases log
  | warning text => cases log

theorem stamp_eq (time : Nat) :
    ∃ rest, Remark.stamp time = ⟨'[', ⟨false, true, none⟩⟩ :: rest := by
  simp [Remark.stamp, Pen.ink]

theorem cells_of_status (status : remark.isStatus = true) :
    ∃ body, remark.cells = Remark.stamp remark.time ++ body := by
  rcases remark with ⟨time, message⟩
  rw [Remark.cells]
  cases message with
  | log part text => cases status
  | success text => exact ⟨_, rfl⟩
  | unchanged text => exact ⟨_, rfl⟩
  | failure summary detail => exact ⟨_, rfl⟩
  | warning text => exact ⟨_, rfl⟩

/-- The first row of a status message begins with its time. -/
theorem faint_first (status : remark.isStatus = true) :
    ∃ first others, remark.rows = first :: others ∧ faint first = true := by
  rcases cells_of_status status with ⟨body, cells⟩
  rcases stamp_eq remark.time with ⟨rest, stamp⟩
  have kept : Cell.breaks ⟨'[', ⟨false, true, none⟩⟩ = false := rfl
  rcases head?_rowsOf_cons kept (rest ++ body) with ⟨others, rows, split⟩
  refine ⟨⟨'[', ⟨false, true, none⟩⟩ :: others, rows, ?_, rfl⟩
  rw [Remark.rows, cells, stamp, List.cons_append, split]

namespace Slate

variable {slate : Slate} {remarks : List Remark}

theorem after_concat (remarks : List Remark) (remark : Remark) :
    after (remarks ++ [remark]) = (after remarks).add remark :=
  List.foldl_concat ..

/-- Without status messages there is no block. -/
theorem after_of_logs (logs : ∀ remark ∈ remarks, remark.isStatus = false) :
    after remarks = ⟨[], [], logged remarks⟩ := by
  induction remarks using List.reverseRecOn with
  | nil => rfl
  | append_singleton remarks remark inductionHypothesis =>
      have log : remark.isStatus = false := logs remark (by simp)
      have earlier := inductionHypothesis fun each member => logs each (by simp [member])
      rw [after_concat, earlier, add, log, logged_concat_log remarks log]
      rfl

/-- After a status message the block begins with a row that no log line has. -/
theorem faint_block (spoken : ¬∀ remark ∈ remarks, remark.isStatus = false) :
    ∃ first others, (after remarks).block = first :: others ∧ faint first = true := by
  induction remarks using List.reverseRecOn with
  | nil => exact absurd nofun spoken
  | append_singleton remarks remark inductionHypothesis =>
      rw [after_concat, add]
      cases status : remark.isStatus with
      | true => exact faint_first status
      | false =>
          refine inductionHypothesis fun logs => spoken ?_
          intro each member
          rcases List.mem_append.1 member with earlier | last
          · exact logs each earlier
          · rw [List.mem_singleton.1 last]
            exact status

theorem left_eq_append (slate : Slate) :
    slate.left = slate.older ++ (slate.block ++ slate.newer).take
      (slate.block.length + slate.newer.length - slate.block.length % rowLimit) := by
  have few : slate.block.length % rowLimit ≤ slate.block.length := Nat.mod_le _ _
  have count : slate.rows.length - slate.block.length % rowLimit = slate.older.length +
      (slate.block.length + slate.newer.length - slate.block.length % rowLimit) := by
    simp only [rows, List.length_append]
    omega
  rw [left, count, rows, List.append_assoc, List.take_length_add_append]

/-- Where only rows of log lines are left, the block alone was taken away. -/
theorem left_of_unfaint
    (slate : Slate) {first : Row} {others : List Row} (block : slate.block = first :: others)
    (stamped : faint first = true) (unfaint : ∀ row ∈ slate.left, faint row = false) :
    slate.newer = [] ∧ slate.block.length < rowLimit ∧ slate.left = slate.older := by
  have few : slate.block.length % rowLimit ≤ slate.block.length := Nat.mod_le _ _
  have bound : slate.block.length % rowLimit < rowLimit := Nat.mod_lt _ (by decide)
  have count : slate.block.length + slate.newer.length - slate.block.length % rowLimit = 0 := by
    by_contra some?
    rcases Nat.exists_eq_succ_of_ne_zero some? with ⟨further, amount⟩
    have shown : first ∈ slate.left := by
      rw [left_eq_append, amount, block, List.cons_append, List.take_succ_cons]
      exact List.mem_append_right _ List.mem_cons_self
    rw [unfaint first shown] at stamped
    cases stamped
  refine ⟨List.eq_nil_of_length_eq_zero (by omega), by omega, ?_⟩
  rw [left_eq_append, count, List.take_zero, List.append_nil]

theorem left_of_few (few : slate.block.length < rowLimit) (quiet : slate.newer = []) :
    slate.left = slate.older := by
  rw [left_eq_append, quiet, Nat.mod_eq_of_lt few, List.length_nil, Nat.add_zero, Nat.sub_self,
    List.take_zero, List.append_nil]

/-- A further status message leaves the log lines exactly behind status messages in a row. -/
theorem left_eq_logged_iff (remarks : List Remark) :
    (after remarks).left = logged remarks ↔ Tight remarks := by
  induction remarks using List.reverseRecOn with
  | nil => exact iff_of_true rfl ⟨[], [], rfl, nofun, nofun⟩
  | append_singleton remarks remark inductionHypothesis =>
      cases status : remark.isStatus with
      | false =>
          rw [tight_concat_log remarks status]
          constructor
          · intro same
            by_contra spoken
            rcases faint_block spoken with ⟨first, others, block, stamped⟩
            have added : after (remarks ++ [remark]) =
                { after remarks with newer := (after remarks).newer ++ remark.rows } := by
              rw [after_concat, add, status]
              rfl
            rw [added] at same
            have quiet := (left_of_unfaint
              { after remarks with newer := (after remarks).newer ++ remark.rows } block stamped
              fun row member => not_faint_of_logged (same ▸ member)).1
            have rows : remark.rows.length = 0 :=
              List.length_eq_zero_iff.2 (List.append_eq_nil_iff.1 quiet).2
            rw [Remark.rows, length_rowsOf] at rows
            cases rows
          · intro logs
            have allLogs : ∀ each ∈ remarks ++ [remark], each.isStatus = false := by
              intro each member
              rcases List.mem_append.1 member with earlier | last
              · exact logs each earlier
              · rw [List.mem_singleton.1 last]
                exact status
            rw [after_of_logs allLogs]
            simp [left, rows]
      | true =>
          have added : after (remarks ++ [remark]) = ⟨(after remarks).left, remark.rows, []⟩ := by
            rw [after_concat, add, status]
            rfl
          rw [tight_concat_status remarks status, ← inductionHypothesis,
            logged_concat_status remarks status, added]
          constructor
          · intro same
            rcases faint_first status with ⟨first, others, block, stamped⟩
            have alone := left_of_unfaint ⟨(after remarks).left, remark.rows, []⟩ block stamped
              fun row member => not_faint_of_logged (same ▸ member)
            exact ⟨alone.2.2.symm.trans same, alone.2.1⟩
          · rintro ⟨same, few⟩
            rw [left_of_few few rfl]
            exact same

/-- The log lines and the last status message are shown exactly where nothing disturbs the block. -/
theorem rows_eq_kept_iff (remarks : List Remark) :
    (after remarks).rows = kept remarks ↔ Undisturbed remarks := by
  induction remarks using List.reverseRecOn with
  | nil => exact iff_of_true rfl ⟨[], [], [], rfl, nofun, nofun, nofun⟩
  | append_singleton remarks remark inductionHypothesis =>
      rw [after_concat, add]
      cases status : remark.isStatus with
      | false =>
          have added : ({ after remarks with
              newer := (after remarks).newer ++ remark.rows } : Slate).rows =
                (after remarks).rows ++ remark.rows := by
            simp [rows]
          rw [if_neg Bool.false_ne_true, added, kept_concat_log remarks status,
            undisturbed_concat_log remarks status, List.append_left_inj, inductionHypothesis]
      | true =>
          have added : (⟨(after remarks).left, remark.rows, []⟩ : Slate).rows =
              (after remarks).left ++ remark.rows := by
            simp [rows]
          rw [if_pos rfl, added, kept_concat_status remarks status,
            undisturbed_concat_status remarks status, List.append_left_inj, left_eq_logged_iff]

end Slate

/-! ## What the status block takes away -/

/--
Whatever is said in texts without control characters other than line feeds, at whatever times, the
screen shows the slate of the remarks and the blank row of the cursor below it.  Every log line is
shown, and of the status messages only the last one, exactly when no log line stands between two
status messages and none but the last has as many rows as a terminal cannot be told to move over.
-/
theorem status_takes_itself_iff (verbose : Bool) {remarks : List Remark}
    (plain : ∀ remark ∈ remarks, remark.Plain) :
    (remarks.foldl say (Console.start verbose)).shown.screen =
        (Slate.after remarks).rows ++ [[]] ∧
      ((remarks.foldl say (Console.start verbose)).shown.screen = kept remarks ++ [[]] ↔
        Undisturbed remarks) := by
  have mirrors := Slate.mirrors_after verbose plain
  have screen : (remarks.foldl say (Console.start verbose)).shown.screen =
      (Slate.after remarks).rows ++ [[]] := by
    rw [mirrors.shown, Terminal.screen, page, List.reverse_reverse]
  refine ⟨screen, ?_⟩
  rw [screen, List.append_left_inj, Slate.rows_eq_kept_iff]

/-- Two status messages in a row, the first one of two lines, between two log lines. -/
def orderly : List Remark :=
  [⟨0, .log "build" "one"⟩, ⟨1, .failure "two" "three"⟩, ⟨2, .success "four"⟩,
    ⟨3, .log "hot" "five"⟩]

theorem status_takes_itself_iff_orderly :
    (∀ remark ∈ orderly, remark.Plain) ∧ Undisturbed orderly ∧
      (orderly.foldl say (Console.start false)).shown.screen = kept orderly ++ [[]] := by
  have plain : ∀ remark ∈ orderly, remark.Plain := by
    unfold Remark.Plain
    decide
  have undisturbed : Undisturbed orderly := by
    refine ⟨[⟨0, .log "build" "one"⟩], [⟨1, .failure "two" "three"⟩, ⟨2, .success "four"⟩],
      [⟨3, .log "hot" "five"⟩], rfl, by decide, by decide, ?_⟩
    intro remark member
    rw [List.mem_singleton.1 member]
    rw [← height_of_status (Console.start false) rfl]
    decide
  exact ⟨plain, undisturbed, (status_takes_itself_iff false plain).2.2 undisturbed⟩

/-- The texts of the rows of a screen. -/
def lines (terminal : Terminal) : List String :=
  terminal.screen.map fun row => String.ofList (row.map Cell.letter)

/-- A log line between two status messages is taken away, and the first one of these stays. -/
theorem log_line_taken_away :
    let remarks : List Remark :=
      [⟨0, .success "a"⟩, ⟨0, .log "watch" "x"⟩, ⟨0, .success "b"⟩]
    (∀ remark ∈ remarks, remark.Plain) ∧
      lines (remarks.foldl say (Console.start false)).shown =
        ["[00:00:00] ✓ a", "[00:00:00] ✓ b", ""] ∧
      (remarks.foldl say (Console.start false)).shown.screen ≠ kept remarks ++ [[]] := by
  intro remarks
  refine ⟨?_, ?_, ?_⟩
  · unfold Remark.Plain
    decide
  · decide +kernel
  · decide +kernel

end Console

end ModuleBridge
