import ModuleBridge.Proofs.Filters
import ModuleBridge.Proofs.Formation
import ModuleBridge.Proofs.Cleaning

/-!
# Language files, as the filter and the reading of an id see them

The standard filter takes language files in any case, with or without the
variant suffix.  The reading of an id takes the suffix off as it is written,
behind an extension as it is written.  So a path that the filter takes comes to
a language extension unless it ends with the suffix in another spelling, or with
the suffix behind an extension in another spelling; then the suffix stays and is
what the path has for an extension.
-/

namespace ModuleBridge

open Pattern

namespace Path

variable {path : Path} {name extension : String}

/-- The path is that of a language file, whatever the case of its extension. -/
def HasLanguageExtension (path : Path) : Prop :=
  ∃ extension, path.extension? = some extension ∧ IsLanguage extension.toList

/-! ## File names -/

theorem fileName?_eq_some_iff :
    path.fileName? = some name ↔ path.components.getLast? = some (.name name) := by
  unfold fileName?
  split
  next text last => simp [last]
  next unnamed =>
    refine iff_of_false nofun ?_
    intro last
    exact unnamed name last

/-- Cleaning keeps the file name. -/
theorem fileName?_clean (found : path.fileName? = some name) :
    path.clean.fileName? = some name := by
  rw [fileName?_eq_some_iff] at found ⊢
  rcases List.getLast?_eq_some_iff.1 found with ⟨before, steps⟩
  have reversed := path.cleanComponents_components
  rw [steps, cleanComponents, List.foldl_append, List.reverse_inj] at reversed
  change Component.name name :: before.foldl cleanStep [] = path.remains at reversed
  rw [components_clean, ← reversed, if_neg (List.cons_ne_nil _ _), List.reverse_cons,
    List.getLast?_concat]

theorem extension?_clean (found : path.extension? = some extension) :
    path.clean.extension? = some extension := by
  rcases extension?_eq_some_iff.1 found with ⟨name, stem, named, split⟩
  exact extension?_eq_some_iff.2 ⟨name, stem, fileName?_clean named, split⟩

/-- A long piece between separators is a name. -/
theorem ofPiece?_of_long {piece : List Char} (long : 2 < piece.length) :
    Component.ofPiece? piece = some (.name (String.ofList piece)) := by
  unfold Component.ofPiece?
  split
  next => cases long
  next => exact absurd long (by decide)
  next => exact absurd long (by decide)
  next => rfl

/-- The front of a path up to within its last name: what that name begins with is not empty. -/
structure Stem (front stem : List Char) : Prop where
  opens : front = stem ∨ ∃ before, front = before ++ '/' :: stem
  undivided : '/' ∉ stem
  nonempty : stem ≠ []

theorem Stem.append
    {front stem tail : List Char}
    (known : Stem front stem) (undivided : '/' ∉ tail) :
    Stem (front ++ tail) (stem ++ tail) where
  opens := by
    rcases known.opens with rfl | ⟨before, rfl⟩
    · exact .inl rfl
    · exact .inr ⟨before, by simp⟩
  undivided := by simp [known.undivided, undivided]
  nonempty := by simp [known.nonempty]

/-- What stands behind the last separator is the file name. -/
theorem fileName?_of_stem
    {text : String} {stem : List Char}
    (opens : text.toList = stem ∨ ∃ before, text.toList = before ++ '/' :: stem)
    (undivided : '/' ∉ stem)
    (long : 2 < stem.length) :
    (Path.mk text).fileName? = some (String.ofList stem) := by
  have alone : stepsIn stem = [.name (String.ofList stem)] := by
    rw [stepsIn, List.splitOn_eq_singleton undivided, List.filterMap_cons, ofPiece?_of_long long]
    rfl
  have last : (stepsIn text.toList).getLast? = some (.name (String.ofList stem)) := by
    rcases opens with whole | ⟨before, whole⟩
    · rw [whole, alone]
      rfl
    · rw [whole, stepsIn_append_cons, alone, List.getLast?_concat]
  rcases (Path.mk text).components_eq with ⟨lead, steps, -⟩
  rw [fileName?_eq_some_iff, steps, List.getLast?_append]
  change Option.or (stepsIn text.toList).getLast? _ = _
  rw [last]
  rfl

/-- What is put behind a stem and a dot is the extension. -/
theorem Stem.extension?
    {front stem extension : List Char} {text : String}
    (known : Stem front stem)
    (whole : text.toList = front ++ '.' :: extension)
    (undivided : '/' ∉ extension) (undotted : '.' ∉ extension)
    (long : 1 < extension.length) :
    (Path.mk text).extension? = some (String.ofList extension) := by
  have dotted : '/' ∉ '.' :: extension := by simp [undivided]
  have longer := known.append dotted
  rw [← whole] at longer
  refine extension?_eq_some_iff.2 ⟨String.ofList (stem ++ '.' :: extension), stem,
    fileName?_of_stem longer.opens longer.undivided ?_, known.nonempty, by simp, by simpa⟩
  simp only [List.length_append, List.length_cons]
  omega

theorem exists_last_piece (front : List Char) :
    ∃ stem, (front = stem ∨ ∃ before, front = before ++ '/' :: stem) ∧ '/' ∉ stem := by
  cases cut : Text.cutLast? '/' front with
  | none =>
    refine ⟨front, .inl rfl, ?_⟩
    simpa [Text.cutLast?, Text.cut?_eq_none_iff] using cut
  | some parts =>
    rcases parts with ⟨before, stem⟩
    rcases Text.cutLast?_eq_some_iff.1 cut with ⟨whole, undivided⟩
    exact ⟨stem, .inr ⟨before, whole⟩, undivided⟩

/-- A visible name has a stem before every dot in it. -/
theorem exists_stem
    {text : String} {front tail : List Char}
    (named : (Path.mk text).fileName? = some name)
    (visible : name.toList.head? ≠ some '.')
    (whole : text.toList = front ++ '.' :: tail)
    (undivided : '/' ∉ tail)
    (long : 1 < tail.length) :
    ∃ stem, Stem front stem := by
  rcases exists_last_piece front with ⟨stem, opens, single⟩
  refine ⟨stem, opens, single, ?_⟩
  rintro rfl
  have opens : text.toList = '.' :: tail ∨
      ∃ before, text.toList = before ++ '/' :: '.' :: tail := by
    rcases opens with rfl | ⟨before, rfl⟩
    · exact .inl whole
    · exact .inr ⟨before, by simp [whole]⟩
  have hidden := fileName?_of_stem opens (by simp [undivided])
    (by rw [List.length_cons]; omega)
  rw [named, Option.some.injEq] at hidden
  rw [hidden] at visible
  exact visible (by simp)

end Path

namespace Pattern

variable {text front extension variant : List Char}

/-! ## Spellings of the ending -/

theorem length_of_isLanguage (language : IsLanguage extension) :
    extension.length = 2 ∨ extension.length = 4 :=
  language.imp List.Forall₂.length_eq List.Forall₂.length_eq

/-- A letter without cases that is in no extension is in none of their spellings either. -/
theorem notMem_of_isLanguage
    {letter : Char}
    (language : IsLanguage extension) (caseless : Caseless letter)
    (absent : letter ∉ "ease".toList) :
    letter ∉ extension := by
  rcases language with short | long
  · refine short.notMem caseless fun member => absent ?_
    simp at member ⊢
    tauto
  · exact long.notMem caseless absent

/-- The text ends with the variant suffix, in any case. -/
def EndsInVariant (text : List Char) : Prop :=
  ∃ front variant, text = front ++ variant ∧ AlikeInCase variant ".vue".toList

/-- The text ends with an extension and the variant suffix as they are written. -/
def EndsAsWritten (text : List Char) : Prop :=
  ".es.vue".toList <:+ text ∨ ".ease.vue".toList <:+ text

/-- A spelling of the suffix is a dot and three letters more. -/
theorem exists_of_alike_variant (alike : AlikeInCase variant ".vue".toList) :
    ∃ letters, variant = '.' :: letters ∧ letters.length = 3 ∧
      '.' ∉ letters ∧ '/' ∉ letters := by
  rcases List.forall₂_cons_right_iff.1 alike with ⟨dot, letters, first, rest, rfl⟩
  rcases caseless_dot.eq_of_alike first with rfl
  exact ⟨letters, rfl, rest.length_eq,
    AlikeInCase.notMem rest caseless_dot (by decide),
    AlikeInCase.notMem rest caseless_slash (by decide)⟩

/-- What follows the last dot of a text is determined. -/
theorem last_part_unique
    {other part : List Char}
    (same : front ++ '.' :: extension = other ++ '.' :: part)
    (undotted : '.' ∉ extension) (single : '.' ∉ part) :
    front = other ∧ extension = part := by
  have first := Text.cutLast?_eq_some_iff.2 ⟨same, single⟩
  rw [Text.cutLast?_eq_some_iff.2 ⟨rfl, undotted⟩, Option.some.injEq, Prod.mk.injEq] at first
  exact first

/-- No text ends both with an extension and with the suffix. -/
theorem not_endsInVariant
    (whole : text = front ++ '.' :: extension) (language : IsLanguage extension) :
    ¬EndsInVariant text := by
  rintro ⟨other, variant, same, alike⟩
  rcases exists_of_alike_variant alike with ⟨letters, rfl, three, undotted, -⟩
  have unspelled := notMem_of_isLanguage language caseless_dot (by decide)
  rcases last_part_unique (whole.symm.trans same) unspelled undotted with ⟨-, rfl⟩
  rcases length_of_isLanguage language with two | four <;> omega

theorem suffix_iff
    (known : List Char)
    (whole : text = front ++ '.' :: extension ++ variant)
    (undotted : '.' ∉ extension)
    (alike : AlikeInCase variant ".vue".toList)
    (single : '.' ∉ known) :
    '.' :: known ++ ".vue".toList <:+ text ↔ variant = ".vue".toList ∧ extension = known := by
  constructor
  · rintro ⟨other, joined⟩
    rw [whole, ← List.append_assoc] at joined
    rcases List.append_inj' joined alike.length_eq.symm with ⟨same, rfl⟩
    exact ⟨rfl, (last_part_unique same single undotted).2.symm⟩
  · rintro ⟨rfl, rfl⟩
    exact ⟨front, by rw [whole, List.append_assoc]⟩

theorem endsAsWritten_iff
    (whole : text = front ++ '.' :: extension ++ variant)
    (language : IsLanguage extension)
    (alike : AlikeInCase variant ".vue".toList) :
    EndsAsWritten text ↔
      variant = ".vue".toList ∧ (extension = "es".toList ∨ extension = "ease".toList) := by
  have undotted := notMem_of_isLanguage language caseless_dot (by decide)
  have short := suffix_iff "es".toList whole undotted alike (by decide)
  have long := suffix_iff "ease".toList whole undotted alike (by decide)
  rw [and_or_left, ← short, ← long]
  rfl

end Pattern

namespace Resource

variable {id name : String} {settings : ResolveSettings}

/-! ## The path of an id -/

/-- Nothing is taken off but the suffix where an id has no escapes and no virtual beginning. -/
theorem path_parse
    (unescaped : Text.Unescaped id.toList)
    (real : ∀ lead ∈ settings.virtualPrefixes, ¬lead.toList <+: id.toList) :
    (parse settings id).path =
      Path.clean ⟨(stripVariant? settings (Filter.pathPart id)).getD (Filter.pathPart id)⟩ := by
  have split : (splitQuery id).1 = Filter.pathPart id := by
    unfold splitQuery Filter.pathPart
    cases Text.cut? '?' id.toList <;> rfl
  unfold parse
  rw [Text.percentDecode_of_unescaped unescaped, stripVirtual_of_real real]
  simp only [split]
  cases stripVariant? settings (Filter.pathPart id) <;> rfl

/-- The suffix is taken off behind an extension, where both are written as in the settings. -/
theorem stripVariant?_eq_some_iff
    {path base : String} (suffixed : settings.variantSuffix.isEmpty = false) :
    stripVariant? settings path = some base ↔
      path.toList = base.toList ++ settings.variantSuffix.toList ∧
        ∃ extension ∈ settings.extensions, (Path.mk base).extension? = some extension := by
  simp only [stripVariant?, suffixed, Bool.false_eq_true, if_false, Option.bind_eq_bind,
    Option.bind_eq_some_iff, Text.dropTail?_eq_some_iff, Option.ite_none_right_eq_some,
    Option.some.injEq, List.contains_iff_mem]
  constructor
  · rintro ⟨letters, whole, extension, found, known, rfl⟩
    exact ⟨by rw [whole, String.toList_ofList], extension, known, found⟩
  · rintro ⟨whole, extension, known, found⟩
    refine ⟨base.toList, whole, extension, ?_, known, String.ofList_toList⟩
    rw [String.ofList_toList, found]

theorem mem_extensions_iff {extension : List Char} :
    String.ofList extension ∈ ResolveSettings.standard.extensions ↔
      extension = "es".toList ∨ extension = "ease".toList := by
  simp [ResolveSettings.standard, ← String.toList_inj]

section Ending

variable {text base : String} {front stem extension variant : List Char}

theorem extension?_of_language
    (known : Path.Stem front stem)
    (whole : text.toList = front ++ '.' :: extension)
    (language : IsLanguage extension) :
    (Path.mk text).extension? = some (String.ofList extension) :=
  known.extension? whole (notMem_of_isLanguage language caseless_slash (by decide))
    (notMem_of_isLanguage language caseless_dot (by decide))
    (by rcases length_of_isLanguage language with two | four <;> omega)

/-- Without the suffix, a path keeps the extension it was accepted for. -/
theorem hasLanguageExtension_of_bare
    (known : Path.Stem front stem)
    (whole : text.toList = front ++ '.' :: extension)
    (language : IsLanguage extension) :
    (Path.clean ⟨(stripVariant? .standard text).getD text⟩).HasLanguageExtension := by
  have kept : stripVariant? .standard text = none := by
    refine Option.eq_none_iff_forall_ne_some.2 fun base stripped => ?_
    have joined := ((stripVariant?_eq_some_iff rfl).1 stripped).1
    exact not_endsInVariant whole language ⟨_, _, joined, AlikeInCase.refl _⟩
  have found := Path.extension?_clean (extension?_of_language known whole language)
  rw [kept, Option.getD_none]
  exact ⟨_, found, by rwa [String.toList_ofList]⟩

/-- The suffix is taken off a path that ends with it when the ending is as written. -/
theorem stripVariant?_of_variant
    (known : Path.Stem front stem)
    (whole : text.toList = front ++ '.' :: extension ++ variant)
    (language : IsLanguage extension)
    (alike : AlikeInCase variant ".vue".toList) :
    stripVariant? .standard text = some base ↔
      base.toList = front ++ '.' :: extension ∧ EndsAsWritten text.toList := by
  rw [stripVariant?_eq_some_iff rfl, endsAsWritten_iff whole language alike]
  constructor
  · rintro ⟨joined, spelled, listed, found⟩
    rw [whole] at joined
    rcases List.append_inj' joined alike.length_eq with ⟨same, written⟩
    rw [extension?_of_language known same.symm language, Option.some.injEq] at found
    rw [← found] at listed
    exact ⟨same.symm, written, mem_extensions_iff.1 listed⟩
  · rintro ⟨same, rfl, spelled⟩
    refine ⟨?_, _, mem_extensions_iff.2 spelled, extension?_of_language known same language⟩
    rw [whole, same]
    rfl

/-- A path that the suffix is left on has no language extension. -/
theorem not_hasLanguageExtension_of_variant
    (known : Path.Stem front stem)
    (whole : text.toList = front ++ '.' :: extension ++ variant)
    (language : IsLanguage extension)
    (alike : AlikeInCase variant ".vue".toList) :
    ¬(Path.clean ⟨text⟩).HasLanguageExtension := by
  rcases exists_of_alike_variant alike with ⟨letters, rfl, three, undotted, undivided⟩
  have dotted : '/' ∉ '.' :: extension := by
    simp [notMem_of_isLanguage language caseless_slash]
  have kept := (known.append dotted).extension? whole undivided undotted (by omega)
  rintro ⟨other, found, otherLanguage⟩
  rw [Path.extension?_clean kept, Option.some.injEq] at found
  rw [← found, String.toList_ofList] at otherLanguage
  rcases length_of_isLanguage otherLanguage with two | four <;> omega

/-- With the suffix, a path comes to a language extension when both are as written. -/
theorem hasLanguageExtension_iff_of_variant
    (known : Path.Stem front stem)
    (whole : text.toList = front ++ '.' :: extension ++ variant)
    (language : IsLanguage extension)
    (alike : AlikeInCase variant ".vue".toList) :
    (Path.clean ⟨(stripVariant? .standard text).getD text⟩).HasLanguageExtension ↔
      EndsAsWritten text.toList := by
  cases stripped : stripVariant? .standard text with
  | some base =>
    rcases (stripVariant?_of_variant known whole language alike).1 stripped with ⟨same, written⟩
    have found := Path.extension?_clean (extension?_of_language known same language)
    exact iff_of_true ⟨_, found, by rwa [String.toList_ofList]⟩ written
  | none =>
    refine iff_of_false (not_hasLanguageExtension_of_variant known whole language alike) ?_
    intro written
    have taken := (stripVariant?_of_variant known whole language alike).2
      ⟨String.toList_ofList, written⟩
    rw [stripped] at taken
    cases taken

/-- An accepted path comes to a language extension unless its ending is spelled otherwise. -/
theorem hasLanguageExtension_iff
    (named : (Path.mk text).fileName? = some name)
    (visible : name.toList.head? ≠ some '.')
    (ending : LanguageEnding text.toList front extension variant) :
    (Path.clean ⟨(stripVariant? .standard text).getD text⟩).HasLanguageExtension ↔
      (EndsInVariant text.toList → EndsAsWritten text.toList) := by
  rcases ending with ⟨whole, language, suffix⟩
  have undivided : '/' ∉ extension ++ variant := by
    refine mt List.mem_append.1 (not_or.2 ⟨?_, ?_⟩)
    · exact notMem_of_isLanguage language caseless_slash (by decide)
    · rcases suffix with rfl | alike
      · exact List.not_mem_nil
      · exact alike.notMem caseless_slash (by decide)
  have long : 1 < (extension ++ variant).length := by
    rw [List.length_append]
    rcases length_of_isLanguage language with two | four <;> omega
  rcases Path.exists_stem named visible whole undivided long with ⟨stem, known⟩
  rcases suffix with rfl | alike
  · rw [List.append_nil] at whole
    refine iff_of_true (hasLanguageExtension_of_bare known whole language) fun ends => ?_
    exact absurd ends (not_endsInVariant whole language)
  · rw [← List.cons_append, ← List.append_assoc] at whole
    rw [forall_prop_of_true ⟨_, _, whole, alike⟩]
    exact hasLanguageExtension_iff_of_variant known whole language alike

end Ending

/--
The standard filter and the reading of an id agree on what a language file is, except where the
path of the id ends with the variant suffix: there they agree exactly if the suffix and the
extension before it are written as in the settings.
-/
theorem agrees_with_filter_iff
    {filter : Filter}
    (read : Filter.ofSettings .standard = .ok filter)
    (unescaped : Text.Unescaped id.toList)
    (real : ∀ lead ∈ ResolveSettings.standard.virtualPrefixes, ¬lead.toList <+: id.toList)
    (named : (Path.mk (Filter.pathPart id)).fileName? = some name)
    (visible : name.toList.head? ≠ some '.')
    (accepted : filter.accepts id = true) :
    (parse .standard id).path.HasLanguageExtension ↔
      (EndsInVariant (Filter.pathPart id).toList →
        EndsAsWritten (Filter.pathPart id).toList) := by
  rw [Filter.ofSettings_standard, Except.ok.injEq] at read
  subst read
  rcases Filter.accepts_standard_iff.1 accepted with ⟨-, front, extension, variant, ending⟩
  rw [path_parse unescaped real]
  exact hasLanguageExtension_iff named visible ending

theorem alike_upper : AlikeInCase "ES".toList "es".toList :=
  .cons ⟨'e'.toNat, .inr (by decide +kernel), .inl rfl⟩
    (.cons ⟨'s'.toNat, .inr (by decide +kernel), .inl rfl⟩ .nil)

/-- A path in capital letters, with a step up in it. -/
theorem agrees_with_filter_iff_upper :
    Filter.standard.accepts "/src/lib/../App.ES?vue&type=style" = true ∧
      (parse .standard "/src/lib/../App.ES?vue&type=style").path.HasLanguageExtension := by
  have path : Filter.pathPart "/src/lib/../App.ES?vue&type=style" = "/src/lib/../App.ES" := by
    decide +kernel
  have ending : LanguageEnding "/src/lib/../App.ES".toList "/src/lib/../App".toList
      "ES".toList [] :=
    ⟨by decide, .inl alike_upper, .inl rfl⟩
  have accepted : Filter.standard.accepts "/src/lib/../App.ES?vue&type=style" = true := by
    refine Filter.accepts_standard_iff.2 ⟨by decide, ?_⟩
    rw [path]
    exact ⟨_, _, _, ending⟩
  have named : (Path.mk (Filter.pathPart "/src/lib/../App.ES?vue&type=style")).fileName? =
      some "App.ES" := by
    rw [path]
    decide +kernel
  refine ⟨accepted, (agrees_with_filter_iff Filter.ofSettings_standard
    (Text.unescaped_of_not_mem (by decide)) (by decide) named (by decide) accepted).2 ?_⟩
  rw [path]
  exact fun ends => absurd ends (not_endsInVariant ending.whole ending.language)

/-- The variant of a file in capital letters is accepted, but its suffix is not taken off. -/
theorem upper_variant_disagrees :
    (∃ filter, Filter.ofSettings .standard = .ok filter ∧
        filter.accepts "/src/App.ES.vue" = true) ∧
      Text.Unescaped "/src/App.ES.vue".toList ∧
      (∀ lead ∈ ResolveSettings.standard.virtualPrefixes,
        ¬lead.toList <+: "/src/App.ES.vue".toList) ∧
      (Path.mk (Filter.pathPart "/src/App.ES.vue")).fileName? = some "App.ES.vue" ∧
      (parse .standard "/src/App.ES.vue").path = ⟨"/src/App.ES.vue"⟩ ∧
      ¬(parse .standard "/src/App.ES.vue").path.HasLanguageExtension := by
  have path : Filter.pathPart "/src/App.ES.vue" = "/src/App.ES.vue" := by decide +kernel
  have ending : LanguageEnding "/src/App.ES.vue".toList "/src/App".toList "ES".toList
      ".vue".toList :=
    ⟨by decide, .inl alike_upper, .inr (AlikeInCase.refl _)⟩
  have parsed : (parse .standard "/src/App.ES.vue").path = ⟨"/src/App.ES.vue"⟩ := by cbv
  have found : (Path.mk "/src/App.ES.vue").extension? = some "vue" := by decide +kernel
  refine ⟨⟨_, Filter.ofSettings_standard, Filter.accepts_standard_iff.2 ⟨by decide, ?_⟩⟩,
    Text.unescaped_of_not_mem (by decide), by decide, by rw [path]; decide +kernel, parsed, ?_⟩
  · rw [path]
    exact ⟨_, _, _, ending⟩
  · rw [parsed]
    rintro ⟨extension, same, language⟩
    rw [found, Option.some.injEq] at same
    rw [← same] at language
    exact absurd (length_of_isLanguage language) (by decide)

end Resource

end ModuleBridge
