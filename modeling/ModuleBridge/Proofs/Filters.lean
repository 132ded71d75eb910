import ModuleBridge.Filter
import ModuleBridge.Proofs.CharSets
import ModuleBridge.Proofs.Matching

/-!
# What the standard filter accepts

The standard pattern can be read, and where it matches a path without a question
mark, the path ends with a dot and a language extension, or with these, another
dot and the variant suffix, all of it in any case.
-/

namespace ModuleBridge

open Pattern

/-- Letter by letter, both texts are alike but for case. -/
def AlikeInCase (left right : List Char) : Prop :=
  List.Forall₂ (fun left right => Alike foldPairs left.toNat right.toNat) left right

/-- The letter has no other case. -/
def Caseless (letter : Char) : Prop :=
  ∀ pair ∈ foldPairs, pair.1 ≠ letter.toNat ∧ pair.2 ≠ letter.toNat

theorem caseless_dot : Caseless '.' := by
  unfold Caseless
  decide +kernel

theorem caseless_slash : Caseless '/' := by
  unfold Caseless
  decide +kernel

theorem caseless_mark : Caseless '?' := by
  unfold Caseless
  decide +kernel

theorem Caseless.eq_of_alike
    {letter other : Char}
    (caseless : Caseless letter)
    (alike : Alike foldPairs other.toNat letter.toNat) :
    other = letter :=
  Char.toNat_inj.1 (Pattern.eq_of_alike caseless alike)

theorem AlikeInCase.refl (letters : List Char) : AlikeInCase letters letters :=
  List.forall₂_same.2 fun letter _ => alike_refl foldPairs letter.toNat

/-- A letter without cases stands in both of two texts that are alike, or in neither. -/
theorem AlikeInCase.notMem
    {left right : List Char} {letter : Char}
    (alike : AlikeInCase left right)
    (caseless : Caseless letter)
    (absent : letter ∉ right) :
    letter ∉ left := by
  induction alike with
  | nil => exact List.not_mem_nil
  | @cons first second rest others alikes _ induction =>
    rw [List.mem_cons, not_or] at absent ⊢
    refine ⟨?_, induction absent.2⟩
    rintro rfl
    exact absent.1 (caseless.eq_of_alike alikes.symm).symm

namespace Pattern

/-- Where case is ignored, the pattern of one letter. -/
def anyCase (letter : Char) : Node :=
  .letter ((Mode.initial true).settleCase (.single letter.toNat))

/-- Where case is ignored, the pattern of a word. -/
def word (letters : List Char) : Node :=
  letters.foldr (fun letter rest => .follow (anyCase letter) rest) .empty

/-- The pattern that language files match, with or without the variant suffix. -/
def languagePattern : Node :=
  .follow (anyCase '.')
    (.follow (.either (word "es".toList) (word "ease".toList))
      (.follow (.repeated 0 (some 1) (word ".vue".toList))
        (.follow (.either (anyCase '?') (.look .textStop)) .empty)))

/-! ## Reading the standard pattern -/

section Costs

variable {before behind : Node} {low high : Nat}

theorem cost_follow_le (first : before.cost ≤ low) (second : behind.cost ≤ high) :
    (Node.follow before behind).cost ≤ low + high :=
  Nat.add_le_add first second

theorem cost_either_le (left : before.cost ≤ low) (right : behind.cost ≤ high) :
    (Node.either before behind).cost ≤ low + high + 40 :=
  Nat.add_le_add_right (Nat.add_le_add left right) 40

theorem cost_optional_le (body : before.cost ≤ low) :
    (Node.repeated 0 (some 1) before).cost ≤ low + 72 := by
  simp only [Node.cost]
  omega

/-- A letter grows by the other cases it has, of which there are no more than pairs. -/
theorem cost_anyCase_le (letter : Char) : (anyCase letter).cost ≤ 300000 := by
  have ranges := CharSet.length_foldBy_le foldPairs (.single letter.toNat)
  have pairs : foldPairs.length = 1499 := by decide +kernel
  rw [pairs] at ranges
  change Node.setCost ((CharSet.single letter.toNat).foldBy foldPairs) ≤ 300000
  have low := List.length_filter_le (fun range : Nat × Nat => decide (range.2 < 0x80))
    ((CharSet.single letter.toNat).foldBy foldPairs).ranges
  simp only [Node.setCost, CharSet.single, List.length_singleton] at *
  omega

theorem cost_word_le (letters : List Char) :
    (word letters).cost ≤ letters.length * 300000 + 32 := by
  induction letters with
  | nil => exact Nat.le_refl 32
  | cons letter rest induction =>
    refine Nat.le_trans (cost_follow_le (cost_anyCase_le letter) induction) ?_
    rw [List.length_cons]
    omega

theorem cost_languagePattern_le : languagePattern.cost ≤ costLimit := by
  have extension := cost_either_le (cost_word_le "es".toList) (cost_word_le "ease".toList)
  have variant := cost_optional_le (cost_word_le ".vue".toList)
  have stop := cost_either_le (cost_anyCase_le '?') (Nat.le_refl (Node.look .textStop).cost)
  have whole := cost_follow_le (cost_anyCase_le '.') (cost_follow_le extension
    (cost_follow_le variant (cost_follow_le stop (Nat.le_refl Node.empty.cost))))
  exact Nat.le_trans whole (by decide)

end Costs

/-- A pattern whose parts can be read is read as their sequence, unless it is too large. -/
theorem read_of_run
    {text : String} {ignoreCase : Bool} {progress : Progress}
    (run : Progress.run (text.toList.length + 1)
      ⟨Mode.initial ignoreCase, ⟨[], [], Mode.initial ignoreCase⟩, [], []⟩ text.toList =
        some progress)
    (closed : progress.outer = [])
    (flat : progress.level.close.depth ≤ nestLimit)
    (small : progress.level.close.node.cost ≤ costLimit) :
    Pattern.read ignoreCase text = .ok progress.level.close.node := by
  have nested : ¬(!progress.outer.isEmpty || decide (nestLimit < progress.level.close.depth)) := by
    simp [closed, flat]
  simp only [Pattern.read, run]
  rw [if_neg nested, if_neg (Nat.not_lt.2 small)]

theorem readAll_singleton
    {text : String} {ignoreCase : Bool} {node : Node}
    (read : Pattern.read ignoreCase text = .ok node)
    (small : node.cost ≤ costLimit) :
    readAll ignoreCase [text] = .ok [node] := by
  have within : ¬costLimit < 0 + node.cost := by omega
  simp only [readAll, List.mapM_cons, List.mapM_nil, read]
  exact if_neg within

/-- What has been read of the standard pattern at its end. -/
def standardProgress : Progress :=
  ⟨Mode.initial true,
    ⟨[],
      [⟨.either (anyCase '?') (.look .textStop), 2, true⟩,
        ⟨.repeated 0 (some 1) (word ".vue".toList), 3, true⟩,
        ⟨.either (word "es".toList) (word "ease".toList), 3, true⟩,
        ⟨anyCase '.', 0, true⟩],
      Mode.initial true⟩,
    [], []⟩

theorem read_standard :
    Pattern.read true "\\.(es|ease)(\\.vue)?(\\?|$)" = .ok languagePattern := by
  have run : Progress.run ("\\.(es|ease)(\\.vue)?(\\?|$)".toList.length + 1)
      ⟨Mode.initial true, ⟨[], [], Mode.initial true⟩, [], []⟩
      "\\.(es|ease)(\\.vue)?(\\?|$)".toList = some standardProgress := rfl
  exact read_of_run run rfl (by decide) cost_languagePattern_le

/-! ## What the standard pattern spans -/

/-- The text between two positions. -/
structure Reads (text : List Char) (first : Nat) (found : List Char) (last : Nat) : Prop where
  here : text.drop first = found ++ text.drop last
  length : last = first + found.length

section Spans

variable {text letters found more : List Char} {letter : Char} {first middle last : Nat}

theorem reads_nil : Reads text first [] last ↔ first = last := by
  constructor
  · intro reads
    simpa using reads.length.symm
  · rintro rfl
    exact ⟨rfl, rfl⟩

theorem reads_singleton : Reads text first [letter] last ↔
    last = first + 1 ∧ text[first]? = some letter := by
  constructor
  · intro reads
    have here := congrArg List.head? reads.here
    rw [List.head?_drop] at here
    exact ⟨reads.length, here⟩
  · rintro ⟨rfl, here⟩
    rcases List.getElem?_eq_some_iff.1 here with ⟨within, rfl⟩
    exact ⟨List.drop_eq_getElem_cons within, rfl⟩

theorem Reads.append
    (reads : Reads text first found middle)
    (behind : Reads text middle more last) :
    Reads text first (found ++ more) last where
  here := by rw [reads.here, behind.here, List.append_assoc]
  length := by rw [behind.length, reads.length, List.length_append, Nat.add_assoc]

/-- A part of a text is read behind what stands before it. -/
theorem reads_of_append (front found rest : List Char) :
    Reads (front ++ (found ++ rest)) front.length found (front.length + found.length) where
  here := by rw [← List.drop_drop, List.drop_left, List.drop_left]
  length := rfl

/-- What is read in two parts is read part by part. -/
theorem reads_append :
    Reads text first (found ++ more) last ↔
      ∃ middle, Reads text first found middle ∧ Reads text middle more last := by
  constructor
  · intro reads
    have behind : text.drop (first + found.length) = more ++ text.drop last := by
      rw [← List.drop_drop, reads.here, List.append_assoc, List.drop_left]
    refine ⟨first + found.length, ⟨?_, rfl⟩, ⟨behind, ?_⟩⟩
    · rw [behind, reads.here, List.append_assoc]
    · rw [reads.length, List.length_append, Nat.add_assoc]
  · rintro ⟨middle, reads, behind⟩
    exact reads.append behind

theorem spans_anyCase :
    (anyCase letter).Spans text.toArray first last ↔
      ∃ found, Reads text first [found] last ∧ Alike foldPairs found.toNat letter.toNat := by
  have members : ∀ point, ((CharSet.single letter.toNat).foldBy foldPairs).contains point = true ↔
      Alike foldPairs point letter.toNat := by
    intro point
    simp [CharSet.contains_foldBy]
  change (last = first + 1 ∧ ∃ found, text.toArray[first]? = some found ∧
    ((CharSet.single letter.toNat).foldBy foldPairs).contains found.toNat = true) ↔ _
  simp only [members, List.getElem?_toArray, reads_singleton, and_assoc, exists_and_left]

theorem spans_word :
    (word letters).Spans text.toArray first last ↔
      ∃ found, Reads text first found last ∧ AlikeInCase found letters := by
  induction letters generalizing first with
  | nil =>
    change first = last ↔ _
    simp only [AlikeInCase, List.forall₂_nil_right_iff, exists_eq_right, reads_nil]
  | cons letter rest induction =>
    change (∃ middle, (anyCase letter).Spans text.toArray first middle ∧
      (word rest).Spans text.toArray middle last) ↔ _
    simp only [spans_anyCase, induction]
    constructor
    · rintro ⟨middle, ⟨head, reads, alike⟩, tail, behind, others⟩
      exact ⟨[head] ++ tail, reads.append behind, .cons alike others⟩
    · rintro ⟨found, reads, alikes⟩
      rcases List.forall₂_cons_right_iff.1 alikes with ⟨head, tail, alike, others, rfl⟩
      rw [← List.singleton_append, reads_append] at reads
      rcases reads with ⟨middle, reads, behind⟩
      exact ⟨middle, ⟨head, reads, alike⟩, tail, behind, others⟩

theorem spans_optional {body : Node} {text : Array Char} :
    (Node.repeated 0 (some 1) body).Spans text first last ↔
      first = last ∨ body.Spans text first last := by
  constructor
  · rintro ⟨count, -, allowed, chain⟩
    have few : count ≤ 1 := allowed 1 rfl
    rcases Nat.le_one_iff_eq_zero_or_eq_one.1 few with rfl | rfl
    · exact .inl chain
    · rcases chain with ⟨middle, spans, rfl⟩
      exact .inr spans
  · rintro (rfl | spans)
    · exact ⟨0, le_rfl, by simp, rfl⟩
    · exact ⟨1, Nat.zero_le 1, by simp, last, spans, rfl⟩

end Spans

/-- The extension of language files, in any case. -/
def IsLanguage (extension : List Char) : Prop :=
  AlikeInCase extension "es".toList ∨ AlikeInCase extension "ease".toList

/-- The text ends as a language file does, with or without the variant suffix, in any case. -/
structure LanguageEnding (text front extension variant : List Char) : Prop where
  whole : text = front ++ '.' :: (extension ++ variant)
  language : IsLanguage extension
  suffix : variant = [] ∨ AlikeInCase variant ".vue".toList

theorem spans_language {text : List Char} {first last : Nat} :
    (Node.either (word "es".toList) (word "ease".toList)).Spans text.toArray first last ↔
      ∃ found, Reads text first found last ∧ IsLanguage found := by
  change
    (word "es".toList).Spans text.toArray first last ∨
      (word "ease".toList).Spans text.toArray first last ↔ _
  simp only [spans_word, IsLanguage, and_or_left, exists_or]

theorem spans_variant {text : List Char} {first last : Nat} :
    (Node.repeated 0 (some 1) (word ".vue".toList)).Spans text.toArray first last ↔
      ∃ found, Reads text first found last ∧ (found = [] ∨ AlikeInCase found ".vue".toList) := by
  simp only [spans_optional, spans_word, and_or_left, exists_or, exists_eq_right, reads_nil]

/-- Where there is no question mark, the pattern stops only where the text does. -/
theorem spans_stop {text : List Char} {first last : Nat} (unmarked : '?' ∉ text) :
    (Node.either (anyCase '?') (.look .textStop)).Spans text.toArray first last ↔
      first = last ∧ last = text.length := by
  constructor
  · rintro (mark | ⟨rfl, atEnd⟩)
    · rcases spans_anyCase.1 mark with ⟨found, markRead, alike⟩
      rcases caseless_mark.eq_of_alike alike with rfl
      exact absurd (List.mem_of_getElem? (reads_singleton.1 markRead).2) unmarked
    · exact ⟨rfl, by simpa [Look.holds] using atEnd⟩
  · rintro ⟨rfl, rfl⟩
    exact .inr ⟨rfl, by simp [Look.holds]⟩

theorem isMatch_languagePattern {path : String} (unmarked : '?' ∉ path.toList) :
    languagePattern.isMatch path = true ↔
      ∃ front extension variant, LanguageEnding path.toList front extension variant := by
  rw [Node.isMatch_iff]
  constructor
  · rintro ⟨first, within, last, afterDot, dot, afterExtension, extension, afterVariant, variant,
      afterStop, stop, rfl⟩
    rcases spans_anyCase.1 dot with ⟨found, dotRead, alike⟩
    rcases caseless_dot.eq_of_alike alike with rfl
    rcases spans_language.1 extension with ⟨extension, extensionRead, language⟩
    rcases spans_variant.1 variant with ⟨variant, variantRead, suffix⟩
    rcases (spans_stop unmarked).1 stop with ⟨rfl, size⟩
    refine ⟨path.toList.take first, extension, variant, ?_, language, suffix⟩
    have whole := List.take_append_drop first path.toList
    rw [dotRead.here, extensionRead.here, variantRead.here, size, List.drop_length,
      List.append_nil] at whole
    exact whole.symm
  · rintro ⟨front, extension, variant, ending⟩
    have reads := reads_of_append front (['.'] ++ (extension ++ variant)) []
    rw [List.append_nil, List.singleton_append, ← ending.whole] at reads
    have size := congrArg List.length ending.whole
    rw [List.length_append] at size
    rw [← size, ← List.singleton_append, reads_append] at reads
    rcases reads with ⟨afterDot, dotRead, reads⟩
    rcases reads_append.1 reads with ⟨afterExtension, extensionRead, variantRead⟩
    refine ⟨front.length, by omega, path.toList.length, afterDot, ?_, afterExtension, ?_,
      path.toList.length, ?_, path.toList.length, ?_, rfl⟩
    · exact spans_anyCase.2 ⟨'.', dotRead, alike_refl _ _⟩
    · exact spans_language.2 ⟨extension, extensionRead, ending.language⟩
    · exact spans_variant.2 ⟨variant, variantRead, ending.suffix⟩
    · exact (spans_stop unmarked).2 ⟨rfl, rfl⟩

end Pattern

namespace Filter

/-- The filter that the standard settings describe. -/
def standard : Filter :=
  ⟨[languagePattern], []⟩

theorem ofSettings_standard : ofSettings .standard = .ok standard := by
  have included : readAll true FilterSettings.standard.included = .ok [languagePattern] :=
    readAll_singleton read_standard cost_languagePattern_le
  rw [ofSettings, included]
  rfl

theorem unmarked_pathPart (id : String) : '?' ∉ (pathPart id).toList := by
  unfold pathPart
  split
  next path query cut =>
    rw [String.toList_ofList]
    exact (Text.cut?_eq_some_iff.1 cut).2
  next uncut => exact Text.cut?_eq_none_iff.1 uncut

/-- The standard filter accepts the paths of language files, of ids the host has not kept. -/
theorem accepts_standard_iff {id : String} :
    standard.accepts id = true ↔
      id.toList.head? ≠ some '\x00' ∧
        ∃ front extension variant,
          LanguageEnding (pathPart id).toList front extension variant := by
  rw [← isMatch_languagePattern (unmarked_pathPart id)]
  simp [accepts, standard]

end Filter

end ModuleBridge
