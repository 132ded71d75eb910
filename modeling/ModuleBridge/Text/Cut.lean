/-!
# Cutting text at a mark

Paths, module ids and queries are read by cutting a text at a character or by
taking a known beginning or ending away.  Each cut is characterised by the
text it came from: the two parts and the mark give the whole text back.
-/

namespace ModuleBridge.Text

/-- The text before and the text after the first `mark`. -/
def cut? (mark : Char) : List Char → Option (List Char × List Char)
  | [] => none
  | letter :: rest =>
    if letter = mark then
      some ([], rest)
    else
      (cut? mark rest).map fun (before, after) => (letter :: before, after)

/-- A cut exists exactly where the text is `before`, the mark, `after`, with no earlier mark. -/
theorem cut?_eq_some_iff {mark : Char} {text before after : List Char} :
    cut? mark text = some (before, after) ↔
      text = before ++ mark :: after ∧ mark ∉ before := by
  induction text generalizing before with
  | nil => simp [cut?]
  | cons letter rest inductive_step =>
    by_cases same : letter = mark
    · subst same
      cases before with
      | nil => simp [cut?, eq_comm]
      | cons first others =>
        simp only [cut?, if_pos]
        constructor
        · intro equality
          simp at equality
        · rintro ⟨equality, absent⟩
          simp only [List.cons_append, List.cons.injEq] at equality
          exact absurd (List.mem_cons.2 (.inl equality.1)) absent
    · simp only [cut?, if_neg same, Option.map_eq_some_iff, Prod.mk.injEq, Prod.exists]
      constructor
      · rintro ⟨front, back, found, rfl, rfl⟩
        obtain ⟨rfl, absent⟩ := inductive_step.1 found
        exact ⟨rfl, by simp [absent, Ne.symm same]⟩
      · rintro ⟨equality, absent⟩
        cases before with
        | nil =>
          simp only [List.nil_append, List.cons.injEq] at equality
          exact absurd equality.1 same
        | cons first others =>
          simp only [List.cons_append, List.cons.injEq] at equality
          obtain ⟨rfl, tail⟩ := equality
          exact ⟨others, after,
            inductive_step.2 ⟨tail, fun member => absent (List.mem_cons_of_mem _ member)⟩,
            rfl, rfl⟩

/-- There is no cut exactly where the mark does not occur. -/
theorem cut?_eq_none_iff {mark : Char} {text : List Char} :
    cut? mark text = none ↔ mark ∉ text := by
  induction text with
  | nil => simp [cut?]
  | cons letter rest inductive_step =>
    by_cases same : letter = mark
    · simp [cut?, same]
    · simp only [cut?, if_neg same, Option.map_eq_none_iff, inductive_step, List.mem_cons,
        Ne.symm same, false_or]

/-- The text before and the text after the last `mark`. -/
def cutLast? (mark : Char) (text : List Char) : Option (List Char × List Char) :=
  (cut? mark text.reverse).map fun (after, before) => (before.reverse, after.reverse)

/-- What follows `lead` in a text that begins with it. -/
def dropLead? : List Char → List Char → Option (List Char)
  | [], text => some text
  | _ :: _, [] => none
  | letter :: lead, first :: text => if letter = first then dropLead? lead text else none

theorem dropLead?_eq_some_iff {lead text rest : List Char} :
    dropLead? lead text = some rest ↔ text = lead ++ rest := by
  induction lead generalizing text with
  | nil => simp [dropLead?]
  | cons letter lead inductive_step =>
    cases text with
    | nil => simp [dropLead?]
    | cons first text =>
      by_cases same : letter = first
      · simp [dropLead?, same, inductive_step]
      · simp [dropLead?, same, Ne.symm same]

/-- What precedes `tail` in a text that ends with it. -/
def dropTail? (tail text : List Char) : Option (List Char) :=
  (dropLead? tail.reverse text.reverse).map List.reverse

theorem dropTail?_eq_some_iff {tail text rest : List Char} :
    dropTail? tail text = some rest ↔ text = rest ++ tail := by
  simp only [dropTail?, Option.map_eq_some_iff, dropLead?_eq_some_iff]
  constructor
  · rintro ⟨reversed, equality, rfl⟩
    have := congrArg List.reverse equality
    simpa using this
  · rintro rfl
    exact ⟨rest.reverse, by simp, by simp⟩

/--
The front of a text that takes exactly `count` bytes.  There is none where
the cut would fall inside a character.
-/
def takeBytes? : Nat → List Char → Option (List Char)
  | 0, _ => some []
  | _ + 1, [] => none
  | count, letter :: rest =>
    if letter.utf8Size ≤ count then
      (takeBytes? (count - letter.utf8Size) rest).map (letter :: ·)
    else
      none

/-- The text with every `mark` replaced by `other`. -/
def replaceChar (mark other : Char) (text : String) : String :=
  String.ofList (text.toList.map fun letter => if letter = mark then other else letter)

/-- Replaces every occurrence of a two-letter pattern, from left to right. -/
def replacePair (first second : Char) (other : List Char) : List Char → List Char
  | [] => []
  | [letter] => [letter]
  | letter :: next :: rest =>
    if letter = first ∧ next = second then
      other ++ replacePair first second other rest
    else
      letter :: replacePair first second other (next :: rest)

end ModuleBridge.Text
