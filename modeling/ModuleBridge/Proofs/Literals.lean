import Mathlib.Data.List.Forall2
import Mathlib.Data.List.Infix
import ModuleBridge.Extraction
import ModuleBridge.Stub

/-!
# Literals in generated code

A literal is read letter by letter up to its closing quote, and escapes are resolved on the way.
A quoted text is read back whatever follows it, also where the end of a comment in it was
broken up: a letter stands for itself or is escaped, and a `/` may be escaped at any place.

So stubs name files and pipelines exactly, whatever these are called, and nothing in a name can
end the comment or the line in which it stands.
-/

namespace ModuleBridge.Text

/-! ## Reading a literal -/

/-- The letter that is escaped by another one. -/
def shortEscape? : Char → Option Char
  | '"' => some '"'
  | '\\' => some '\\'
  | '/' => some '/'
  | 'b' => some '\x08'
  | 'f' => some '\x0c'
  | 'n' => some '\n'
  | 'r' => some '\r'
  | 't' => some '\t'
  | _ => none

/-- The number that hexadecimal digits write. -/
def hexNumber? (digits : List Char) : Option Nat :=
  (digits.mapM hexValue?).map fun values =>
    values.foldl (fun total digit => total * 16 + digit) 0

/-- The code point that two numeric escapes name together. -/
def pairPoint? (first second : List Char) : Option Nat := do
  let high ← hexNumber? first
  let low ← hexNumber? second
  if 0xD800 ≤ high ∧ high < 0xDC00 ∧ 0xDC00 ≤ low ∧ low < 0xE000 then
    some (0x10000 + (high - 0xD800) * 0x400 + (low - 0xDC00))
  else none

/-- Reads a text up to the quote that closes it: the text, and what follows. -/
def readText? : List Char → Option (List Char × List Char)
  | [] => none
  | letter :: rest =>
    if letter = '"' then some ([], rest)
    else if letter = '\\' then
      match rest with
      | 'u' :: a :: b :: c :: d :: rest =>
        match hexScalar? [a, b, c, d] with
        | some point =>
          (readText? rest).map fun (text, after) => (Char.ofNat point :: text, after)
        | none =>
          match rest with
          | '\\' :: 'u' :: e :: f :: g :: h :: rest =>
            match pairPoint? [a, b, c, d] [e, f, g, h] with
            | some point =>
              (readText? rest).map fun (text, after) => (Char.ofNat point :: text, after)
            | none => none
          | _ => none
      | mark :: rest =>
        match shortEscape? mark with
        | some named => (readText? rest).map fun (text, after) => (named :: text, after)
        | none => none
      | [] => none
    else if letter.toNat < 0x20 then none
    else (readText? rest).map fun (text, after) => (letter :: text, after)

/-- Reads a literal at the front of some code: the text it stands for, and what follows. -/
def readLiteral? : List Char → Option (String × List Char)
  | '"' :: rest => (readText? rest).map fun (text, after) => (String.ofList text, after)
  | _ => none

/-- Wherever the literal stands, it is read as the text, and reading goes on behind it. -/
def Denotes (literal text : String) : Prop :=
  ∀ after, readLiteral? (literal.toList ++ after) = some (text, after)

/-! ## Letters and how they are written -/

variable {letter : Char} {text letters rest : List Char}

theorem hexScalar?_hexByte :
    ∀ value : Fin 32,
      hexScalar? (['0', '0'] ++ hexByte (UInt8.ofNat value)) = some value.val := by
  decide

theorem plain_hexByte (value : Fin 32) :
    ∀ digit ∈ hexByte (UInt8.ofNat value), digit ≠ '*' ∧ 0x20 ≤ digit.toNat := by
  have checked :
      ∀ value : Fin 32,
        (hexByte (UInt8.ofNat value)).all
          (fun digit => digit != '*' && decide (0x20 ≤ digit.toNat)) = true := by
    decide
  intro digit member
  have passes := List.all_eq_true.1 (checked value) digit member
  rw [Bool.and_eq_true, bne_iff_ne, decide_eq_true_iff] at passes
  exact passes

/-- A letter that stands for itself in a literal. -/
structure Literal (letter : Char) : Prop where
  quote : letter ≠ '"'
  escape : letter ≠ '\\'
  printable : 0x20 ≤ letter.toNat

/-- Letters that stand behind a backslash for a letter. -/
structure Escapes (letter : Char) (marks : List Char) : Prop where
  read : ∀ rest, readText? ('\\' :: marks ++ rest) =
    (readText? rest).map fun (text, after) => (letter :: text, after)
  star : '*' ∉ marks
  printable : ∀ mark ∈ marks, 0x20 ≤ mark.toNat

theorem escapes_short {mark : Char} (named : shortEscape? mark = some letter)
    (star : mark ≠ '*') (printable : 0x20 ≤ mark.toNat) :
    Escapes letter [mark] where
  read rest := by
    have other : mark ≠ 'u' := by
      rintro rfl
      cases named
    rw [List.cons_append, List.singleton_append, readText?.eq_def]
    simp [other, named]
  star := by simpa using Ne.symm star
  printable := by simpa using printable

theorem escapes_numeric (control : letter.toNat < 0x20) :
    Escapes letter ('u' :: '0' :: '0' :: hexByte (UInt8.ofNat letter.toNat)) where
  read rest := by
    have scalar := hexScalar?_hexByte ⟨letter.toNat, control⟩
    obtain ⟨high, low, digits⟩ :
        ∃ high low, hexByte (UInt8.ofNat letter.toNat) = [high, low] :=
      ⟨_, _, rfl⟩
    rw [digits] at scalar ⊢
    rw [List.cons_append, readText?.eq_def]
    simp only [List.cons_append, List.nil_append] at scalar ⊢
    simp [scalar]
  star := by
    have plain := plain_hexByte ⟨letter.toNat, control⟩
    simp only [List.mem_cons, not_or]
    exact ⟨by decide, by decide, by decide, fun member => (plain _ member).1 rfl⟩
  printable := by
    have plain := plain_hexByte ⟨letter.toNat, control⟩
    simp only [List.forall_mem_cons]
    exact ⟨by decide, by decide, by decide, fun mark member => (plain mark member).2⟩

/-- A letter is written as itself, or behind a backslash. -/
theorem quotedChar_cases (letter : Char) :
    quotedChar letter = [letter] ∧ Literal letter ∨
      ∃ marks, quotedChar letter = '\\' :: marks ∧ Escapes letter marks := by
  unfold quotedChar
  split
  · exact .inr ⟨['"'], rfl, escapes_short rfl (by decide) (by decide)⟩
  · exact .inr ⟨['\\'], rfl, escapes_short rfl (by decide) (by decide)⟩
  · exact .inr ⟨['n'], rfl, escapes_short rfl (by decide) (by decide)⟩
  · exact .inr ⟨['r'], rfl, escapes_short rfl (by decide) (by decide)⟩
  · exact .inr ⟨['t'], rfl, escapes_short rfl (by decide) (by decide)⟩
  · exact .inr ⟨['b'], rfl, escapes_short rfl (by decide) (by decide)⟩
  · exact .inr ⟨['f'], rfl, escapes_short rfl (by decide) (by decide)⟩
  · rename_i quote escape _ _ _ _ _
    split
    · rename_i control
      exact .inr ⟨_, rfl, escapes_numeric control⟩
    · rename_i printable
      exact .inl ⟨rfl, quote, escape, Nat.le_of_not_lt printable⟩

theorem readText?_of_literal (literal : Literal letter) (rest : List Char) :
    readText? (letter :: rest) =
      (readText? rest).map fun (text, after) => (letter :: text, after) := by
  rw [readText?.eq_def]
  simp [literal.quote, literal.escape, Nat.not_lt.2 literal.printable]

/-! ## Spellings of a text -/

/-- Letters that stand for a text in a literal: each as it is quoted, or a `/` that is escaped. -/
inductive Spells : List Char → List Char → Prop where
  | nil : Spells [] []
  | letter (letter : Char) {text letters : List Char} :
      Spells text letters → Spells (letter :: text) (quotedChar letter ++ letters)
  | slash {text letters : List Char} :
      Spells text letters → Spells ('/' :: text) ('\\' :: '/' :: letters)

theorem spells_quoted (text : List Char) : Spells text (text.flatMap quotedChar) := by
  induction text with
  | nil => exact .nil
  | cons letter rest inductionHypothesis => exact .letter letter inductionHypothesis

/-- A spelling is read as the text up to the quote behind it. -/
theorem Spells.read (spells : Spells text letters) (after : List Char) :
    readText? (letters ++ '"' :: after) = some (text, after) := by
  induction spells with
  | nil =>
      rw [List.nil_append, readText?.eq_def]
      exact if_pos rfl
  | letter letter _ inductionHypothesis =>
      rw [List.append_assoc]
      rcases quotedChar_cases letter with ⟨same, literal⟩ | ⟨marks, escaped, escapes⟩
      · rw [same, List.singleton_append, readText?_of_literal literal, inductionHypothesis]
        rfl
      · rw [escaped, escapes.read, inductionHypothesis]
        rfl
  | slash _ inductionHypothesis =>
      have escapes : Escapes '/' ['/'] := escapes_short rfl (by decide) (by decide)
      have reads := escapes.read
      simp only [List.cons_append, List.nil_append] at reads ⊢
      rw [reads, inductionHypothesis]
      rfl

/-- No letter of a spelling is a control character. -/
theorem Spells.printable (spells : Spells text letters) :
    ∀ letter ∈ letters, 0x20 ≤ letter.toNat := by
  induction spells with
  | nil => exact nofun
  | letter letter _ inductionHypothesis =>
      rw [List.forall_mem_append]
      refine ⟨?_, inductionHypothesis⟩
      rcases quotedChar_cases letter with ⟨same, literal⟩ | ⟨marks, escaped, escapes⟩
      · rw [same, List.forall_mem_singleton]
        exact literal.printable
      · rw [escaped, List.forall_mem_cons]
        exact ⟨by decide, escapes.printable⟩
  | slash _ inductionHypothesis =>
      rw [List.forall_mem_cons, List.forall_mem_cons]
      exact ⟨by decide, by decide, inductionHypothesis⟩

/-- A spelling between quotes stands for the text. -/
theorem Spells.denotes {literal text : String} (spells : Spells text.toList letters)
    (written : literal.toList = '"' :: letters ++ ['"']) : Denotes literal text := by
  intro after
  have reads := spells.read after
  rw [written, List.append_assoc, List.cons_append, List.singleton_append, readLiteral?, reads,
    Option.map_some]
  dsimp only
  rw [String.ofList_toList]

theorem denotes_quoted (text : String) : Denotes (quoted text) text := by
  refine (spells_quoted text.toList).denotes ?_
  rw [quoted, String.toList_ofList]

/-! ## Ends of comments -/

/-- What replaces the end of a comment in a literal. -/
abbrev breakEnds : List Char → List Char :=
  replacePair '*' '/' ['*', '\\', '/']

theorem breakEnds_cons (other : letter ≠ '*') (rest : List Char) :
    breakEnds (letter :: rest) = letter :: breakEnds rest := by
  cases rest with
  | nil => rfl
  | cons next more => rw [breakEnds, replacePair, if_neg fun both => other both.1]

theorem breakEnds_append (without : '*' ∉ letters) (rest : List Char) :
    breakEnds (letters ++ rest) = letters ++ breakEnds rest := by
  induction letters with
  | nil => rfl
  | cons letter letters inductionHypothesis =>
      rw [List.mem_cons, not_or] at without
      rw [List.cons_append, breakEnds_cons (Ne.symm without.1), inductionHypothesis without.2,
        List.cons_append]

/-- A star stays where no `/` follows it. -/
theorem breakEnds_star (apart : rest.head? ≠ some '/') :
    breakEnds ('*' :: rest) = '*' :: breakEnds rest := by
  cases rest with
  | nil => rfl
  | cons next more =>
      rw [breakEnds, replacePair, if_neg]
      rintro ⟨-, rfl⟩
      exact apart rfl

/-- The first letter stays. -/
theorem head?_breakEnds (letters : List Char) : (breakEnds letters).head? = letters.head? := by
  unfold breakEnds
  fun_cases replacePair with
  | case1 => rfl
  | case2 => rfl
  | case3 letter next rest both => rw [both.1]; rfl
  | case4 => rfl

/-- Without the end of a comment. -/
def Unended (letters : List Char) : Prop :=
  ¬['*', '/'] <:+: letters

instance (letters : List Char) : Decidable (Unended letters) :=
  inferInstanceAs (Decidable ¬['*', '/'] <:+: letters)

theorem unended_nil : Unended [] :=
  fun ends => absurd (List.infix_nil.1 ends) (List.cons_ne_nil _ _)

theorem unended_cons_iff :
    Unended (letter :: rest) ↔ Unended rest ∧ (letter = '*' → rest.head? ≠ some '/') := by
  have begins : ['*', '/'] <+: letter :: rest ↔ letter = '*' ∧ rest.head? = some '/' := by
    rw [List.cons_prefix_cons, List.singleton_prefix_iff_head?_eq_some, eq_comm]
  rw [Unended, List.infix_cons_iff, begins, not_or, not_and, and_comm]
  rfl

theorem unended_append {front back : List Char} (unended : Unended front)
    (further : Unended back) (apart : back.head? ≠ some '/') : Unended (front ++ back) := by
  induction front with
  | nil => exact further
  | cons letter rest inductionHypothesis =>
      rcases unended_cons_iff.1 unended with ⟨later, star⟩
      refine unended_cons_iff.2 ⟨inductionHypothesis later, ?_⟩
      cases rest with
      | nil => exact fun _ => apart
      | cons next more => exact star

theorem unended_breakEnds (letters : List Char) : Unended (breakEnds letters) := by
  induction letters using replacePair.induct '*' '/' with
  | case1 => exact unended_nil
  | case2 letter => exact unended_cons_iff.2 ⟨unended_nil, fun _ => nofun⟩
  | case3 letter next rest both inductionHypothesis =>
      rw [breakEnds, replacePair, if_pos both, List.cons_append, List.cons_append,
        List.cons_append, List.nil_append]
      have slash : Unended ('/' :: breakEnds rest) :=
        unended_cons_iff.2 ⟨inductionHypothesis, fun same => absurd same (by decide)⟩
      have broken : Unended ('\\' :: '/' :: breakEnds rest) :=
        unended_cons_iff.2 ⟨slash, fun same => absurd same (by decide)⟩
      exact unended_cons_iff.2 ⟨broken, fun _ first => absurd (Option.some.inj first) (by decide)⟩
  | case4 letter next rest apart inductionHypothesis =>
      have tail : breakEnds (letter :: next :: rest) = letter :: breakEnds (next :: rest) := by
        rw [breakEnds, replacePair, if_neg apart]
      rw [tail, unended_cons_iff, head?_breakEnds]
      refine ⟨inductionHypothesis, ?_⟩
      rintro rfl same
      exact apart ⟨rfl, Option.some.inj same⟩

/-- A letter that is no star is written without one. -/
theorem star_notMem_quotedChar (other : letter ≠ '*') : '*' ∉ quotedChar letter := by
  rcases quotedChar_cases letter with ⟨same, -⟩ | ⟨marks, escaped, escapes⟩
  · rw [same, List.mem_singleton]
    exact Ne.symm other
  · rw [escaped, List.mem_cons, not_or]
    exact ⟨by decide, escapes.star⟩

/-- Only a `/` is written with a `/` in front. -/
theorem head?_quotedChar (other : letter ≠ '/') (rest : List Char) :
    (quotedChar letter ++ rest).head? ≠ some '/' := by
  rcases quotedChar_cases letter with ⟨same, -⟩ | ⟨marks, escaped, -⟩
  · rw [same]
    exact fun first => other (Option.some.inj first)
  · rw [escaped]
    exact fun first => absurd (Option.some.inj first) (by decide)

theorem breakEnds_quotedChar (apart : letter = '*' → rest.head? ≠ some '/') :
    breakEnds (quotedChar letter ++ rest) = quotedChar letter ++ breakEnds rest := by
  by_cases star : letter = '*'
  · subst star
    exact breakEnds_star (apart rfl)
  · exact breakEnds_append (star_notMem_quotedChar star) rest

/-- Where ends of comments are broken up, a text is still spelled. -/
theorem spells_breakEnds (text : List Char) :
    ∃ letters, Spells text letters ∧
      breakEnds (text.flatMap quotedChar ++ ['"']) = letters ++ ['"'] := by
  induction text using replacePair.induct '*' '/' with
  | case1 => exact ⟨[], .nil, rfl⟩
  | case2 letter =>
      refine ⟨quotedChar letter ++ [], .letter letter .nil, ?_⟩
      rw [List.flatMap_singleton, List.append_nil, breakEnds_quotedChar fun _ => (by decide)]
      rfl
  | case3 letter next rest both inductionHypothesis =>
      rcases both with ⟨rfl, rfl⟩
      rcases inductionHypothesis with ⟨letters, spells, broken⟩
      refine ⟨'*' :: '\\' :: '/' :: letters, .letter '*' (.slash spells), ?_⟩
      change ['*', '\\', '/'] ++ breakEnds (rest.flatMap quotedChar ++ ['"']) = _
      rw [broken]
      rfl
  | case4 letter next rest apart inductionHypothesis =>
      rcases inductionHypothesis with ⟨letters, spells, broken⟩
      refine ⟨quotedChar letter ++ letters, .letter letter spells, ?_⟩
      rw [List.flatMap_cons, List.append_assoc, breakEnds_quotedChar, broken, List.append_assoc]
      rintro rfl
      rw [List.flatMap_cons, List.append_assoc]
      exact head?_quotedChar (fun slash => apart ⟨rfl, slash⟩) _

end ModuleBridge.Text

namespace ModuleBridge

open Text

/-! ## Stubs -/

namespace Stub

variable {text : String}

/-- What stands between the quotes of a literal. -/
theorem exists_spells_literal (text : String) :
    ∃ letters, Spells text.toList letters ∧
      (literal text).toList = '"' :: letters ++ ['"'] ∧ Unended (literal text).toList := by
  have written : (literal text).toList =
      breakEnds ('"' :: text.toList.flatMap quotedChar ++ ['"']) := by
    rw [literal, quoted, String.toList_ofList, String.toList_ofList]
  rcases spells_breakEnds text.toList with ⟨letters, spells, broken⟩
  refine ⟨letters, spells, ?_, ?_⟩
  · rw [written, List.cons_append, breakEnds_cons (by decide), broken]
    rfl
  · rw [written]
    exact unended_breakEnds _

theorem denotes_literal (text : String) : Denotes (literal text) text := by
  rcases exists_spells_literal text with ⟨letters, spells, written, -⟩
  exact spells.denotes written

example : literal "**//\"" = "\"**\\//\\\"\"" := by
  decide

/-- A literal is one line of printable letters. -/
theorem notMem_literal (text : String) : '\n' ∉ (literal text).toList := by
  rcases exists_spells_literal text with ⟨letters, spells, written, -⟩
  rw [written]
  simp only [List.cons_append, List.mem_cons, List.mem_append, List.not_mem_nil, or_false, not_or]
  exact ⟨by decide, fun member => absurd (spells.printable _ member) (by decide), by decide⟩

/-- The letters of a stub in front of the `/` that ends its comment. -/
def commented (file : Path) (requester : String) : List Char :=
  "export default null;/*Removed ".toList ++ (literal file.display).toList ++
    " file that is not in plugin scope the ".toList ++ (literal requester).toList ++ ". *".toList

theorem toList_inert (file : Path) (requester : String) :
    (inert file requester).toList = commented file requester ++ ['/'] := by
  have closing : ". */".toList = ". *".toList ++ ['/'] := rfl
  unfold inert commented
  simp only [String.toList_append, closing, List.append_assoc]

theorem unended_literal (text : String) :
    Unended (literal text).toList ∧ (literal text).toList.head? ≠ some '/' := by
  rcases exists_spells_literal text with ⟨letters, -, written, unended⟩
  refine ⟨unended, ?_⟩
  rw [written]
  exact fun first => absurd (Option.some.inj first) (by decide)

/-- In front of its last letter, a stub does not end the comment. -/
theorem unended_commented (file : Path) (requester : String) :
    Unended (commented file requester) := by
  have shown := unended_literal file.display
  have named := unended_literal requester
  have opening : Unended "export default null;/*Removed ".toList := by decide
  have between : Unended " file that is not in plugin scope the ".toList := by decide
  have closing : Unended ". *".toList := by decide
  have first := unended_append opening shown.1 shown.2
  have second := unended_append first between (by decide)
  have third := unended_append second named.1 named.2
  exact unended_append third closing (by decide)

/-- The end of the comment is the end of the stub. -/
theorem eq_nil_of_inert {file : Path} {requester : String} {before after : List Char}
    (ends : (inert file requester).toList = before ++ '*' :: '/' :: after) : after = [] := by
  rw [toList_inert] at ends
  rcases List.eq_nil_or_concat after with nothing | ⟨others, last, rfl⟩
  · exact nothing
  · have front : commented file requester ++ ['/'] =
        before ++ ['*', '/'] ++ others ++ [last] := by
      simpa using ends
    have within : ['*', '/'] <:+: commented file requester :=
      ⟨before, others, (List.append_inj' front rfl).1.symm⟩
    exact absurd within (unended_commented file requester)

/-- A line that imports a file. -/
def importLine (file : Path) : List Char :=
  ("import " ++ literal file.display ++ ";").toList

theorem notMem_importLine (file : Path) : '\n' ∉ importLine file := by
  unfold importLine
  rw [String.toList_append, String.toList_append, List.mem_append, List.mem_append, not_or, not_or]
  exact ⟨⟨by decide, notMem_literal _⟩, by decide⟩

/-- The lines of an aggregate. -/
theorem splitOn_aggregate (files : List Path) :
    (aggregate files).toList.splitOn '\n' =
      files.map importLine ++ ["export default null;".toList] := by
  induction files with
  | nil => decide
  | cons file rest inductionHypothesis =>
      have next : (aggregate (file :: rest)).toList =
          importLine file ++ '\n' :: (aggregate rest).toList := by
        have lineEnd : ";\n".toList = ";".toList ++ ['\n'] := rfl
        unfold aggregate importLine
        simp only [List.map_cons, String.join_cons, String.toList_append, lineEnd,
          List.append_assoc, List.cons_append, List.nil_append]
      rw [next, List.splitOn_append_cons_self_of_not_mem (notMem_importLine file),
        inductionHypothesis]
      rfl

end Stub

/-! ## Embedded assets -/

theorem extract_embedded
    {rules : Extraction.Rules} {artifact : Artifact} {resource : Resource} {asset : Asset}
    (asked : resource.requestType? = some .embedAssets)
    (found : artifact.find? .embedded (resource.index?.getD "") = some asset) :
    (extract rules artifact resource).outcome =
      .ok ⟨"export default " ++ quoted asset.code, asset.map?⟩ := by
  have selected : Extraction.select artifact resource .embedded = .ok asset := by
    rw [Extraction.select, found]
  have written : ("export default " ++ quoted asset.code).isEmpty = false := by
    rw [← Bool.not_eq_true, String.isEmpty_iff, ← String.toList_inj]
    simp
  rw [extract, Extraction.pick, asked]
  dsimp only
  rw [Extraction.embedded, selected]
  dsimp only [Extraction.settled, Except.map, Except.bind]
  rw [Extraction.nonEmpty, written]
  rfl

/--
A stub is `export default null;` and one comment, which ends with the stub and nowhere before, and
its two literals stand for the file and for the pipeline that asks.  An aggregate has a line for
each file, in order, whose literal stands for the file, and `export default null;` behind them.
The code of an embedded asset is a literal that stands for its text.  All this holds whatever the
files, the pipeline and the text are.
-/
theorem generated_code_carries_text
    (file : Path) (requester : String) (files : List Path) (rules : Extraction.Rules)
    (artifact : Artifact) (resource : Resource) :
    (∃ shown named : String,
        Stub.inert file requester =
          "export default null;/*Removed " ++ shown ++
            " file that is not in plugin scope the " ++ named ++ ". */" ∧
        Denotes shown file.display ∧ Denotes named requester ∧
        ∀ before after,
          (Stub.inert file requester).toList = before ++ '*' :: '/' :: after → after = []) ∧
      (∃ literals : List String,
        (Stub.aggregate files).toList.splitOn '\n' =
          (literals.map fun literal => ("import " ++ literal ++ ";").toList) ++
            ["export default null;".toList] ∧
        List.Forall₂ Denotes literals (files.map Path.display)) ∧
      ∀ asset,
        resource.requestType? = some .embedAssets →
          artifact.find? .embedded (resource.index?.getD "") = some asset →
            ∃ literal, Denotes literal asset.code ∧
              (extract rules artifact resource).outcome =
                .ok ⟨"export default " ++ literal, asset.map?⟩ := by
  refine ⟨?_, ?_, ?_⟩
  · refine ⟨Stub.literal file.display, Stub.literal requester, ?_, Stub.denotes_literal _,
      Stub.denotes_literal _, fun before after => Stub.eq_nil_of_inert⟩
    unfold Stub.inert
    rfl
  · refine ⟨files.map fun file => Stub.literal file.display, ?_, ?_⟩
    · rw [Stub.splitOn_aggregate, List.map_map]
      rfl
    · rw [List.forall₂_map_left_iff, List.forall₂_map_right_iff, List.forall₂_same]
      exact fun each _ => Stub.denotes_literal each.display
  · intro asset asked found
    exact ⟨quoted asset.code, denotes_quoted asset.code, extract_embedded asked found⟩

/-- An artifact with one embedded asset, whose text closes a comment, a literal and a line. -/
def closing : Artifact :=
  ⟨"let a = 1;", none, [.plain .embedded "0" "*/\";\n"], none, []⟩

theorem generated_code_carries_text_closing :
    let resource : Resource :=
      ⟨⟨"/App.es"⟩, "/App.es?type=embedAssets&index=0",
        ⟨[("type", .text "embedAssets"), ("index", .text "0")]⟩⟩
    let rules : Extraction.Rules := ⟨.standard, false, none⟩
    resource.requestType? = some .embedAssets ∧
      closing.find? .embedded (resource.index?.getD "") =
        some (.plain .embedded "0" "*/\";\n") ∧
      ∃ literal, Denotes literal "*/\";\n" ∧
        (extract rules closing resource).outcome = .ok ⟨"export default " ++ literal, none⟩ := by
  intro resource rules
  have asked : resource.requestType? = some .embedAssets := by decide
  have found : closing.find? .embedded (resource.index?.getD "") =
      some (.plain .embedded "0" "*/\";\n") := by
    decide
  have carries := generated_code_carries_text ⟨"/a*/b.es"⟩ "**//" [] rules closing resource
  exact ⟨asked, found, carries.2.2 _ asked found⟩

end ModuleBridge
