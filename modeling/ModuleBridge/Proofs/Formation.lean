import ModuleBridge.Proofs.Requests

/-!
# Imports that carry a suffix

The key of a file under import formation is the file with a suffix behind it.  A request for this
key sets the suffix aside and puts it back, and reading the key takes the suffix off again, for
every file: a suffix without dots and separators is the extension of whatever it is put behind.
-/

namespace ModuleBridge

/-! ## The extension of a path that gets a suffix -/

namespace Component

variable {name : String}

/-- A dot behind a name gives a name, whatever follows. -/
theorem Plain.append_dotted
    (plain : Plain name) {extension : String} (undivided : '/' ∉ extension.toList) :
    Plain (name ++ "." ++ extension) := by
  rcases plain with ⟨read, whole⟩
  have letters : (name ++ "." ++ extension).toList =
      name.toList ++ '.' :: extension.toList := by
    simp
  constructor
  · rw [letters]
    cases first : name.toList with
    | nil =>
        rw [first] at read
        cases read
    | cons letter rest =>
        have unlike : letter :: rest ++ '.' :: extension.toList ≠ ['.', '.'] := by
          intro same
          have alone : letter = '.' ∧ rest = [] := by
            cases rest with
            | nil => exact ⟨(List.cons.inj same).1, rfl⟩
            | cons second others => simp at same
          rw [first, alone.1, alone.2] at read
          cases read
        rw [ofPiece?, ← first, ← letters, String.ofList_toList]
        · simp
        · simp
        · exact unlike
  · rw [letters, List.mem_append, List.mem_cons]
    rintro (front | same | behind)
    · exact whole front
    · cases same
    · exact undivided behind

end Component

namespace Path

variable {path : Path} {name extension : String}

theorem fileName?_ofComponents
    {before : List String} (plain : ∀ step ∈ before ++ [name], Component.Plain step) :
    (ofComponents (.root :: (before ++ [name]).map .name)).fileName? = some name := by
  have last : (Component.root :: (before ++ [name]).map .name).getLast? = some (.name name) := by
    simp [List.getLast?_cons]
  rw [fileName?, components_ofComponents plain, last]

/-- A plain path with a last name ends with it. -/
theorem IsPlain.ends (plain : path.IsPlain) (found : path.fileName? = some name) :
    ∃ before, (∀ step ∈ before ++ [name], Component.Plain step) ∧
      path = ofComponents (.root :: (before ++ [name]).map .name) := by
  rcases plain with ⟨names, plain, rfl⟩
  rcases List.eq_nil_or_concat names with rfl | ⟨before, last, rfl⟩
  · cases found
  · rw [List.concat_eq_append] at plain found ⊢
    rw [fileName?_ofComponents plain] at found
    rcases Option.some.inj found with rfl
    exact ⟨before, plain, rfl⟩

theorem text_append (before : List String) (name tail : String) :
    (ofComponents (.root :: (before ++ [name]).map .name)).text ++ tail =
      (ofComponents (.root :: (before ++ [name ++ tail]).map .name)).text := by
  apply String.toList_injective
  simp [ofComponents, String.toList_intercalate, Component.text, Function.comp_def,
    Text.intercalate_append_cons]

/-- What is put behind a plain path after a dot is its extension. -/
theorem extension?_append
    (plain : path.IsPlain) (found : path.fileName? = some name)
    (undotted : '.' ∉ extension.toList) (undivided : '/' ∉ extension.toList) :
    (Path.mk (path.text ++ ("." ++ extension))).extension? = some extension := by
  rcases plain.ends found with ⟨before, steps, rfl⟩
  have plainName : Component.Plain name := steps name (by simp)
  have longer : ∀ step ∈ before ++ [name ++ ("." ++ extension)], Component.Plain step := by
    intro step member
    rcases List.mem_append.1 member with front | last
    · exact steps step (List.mem_append_left _ front)
    · rw [List.mem_singleton.1 last, ← String.append_assoc]
      exact plainName.append_dotted undivided
  rw [text_append]
  apply extension?_eq_some_iff.2
  refine ⟨name ++ ("." ++ extension), name.toList, fileName?_ofComponents longer, ?_, ?_, undotted⟩
  · intro empty
    have read := plainName.1
    rw [empty] at read
    cases read
  · simp

end Path

/-- Nothing is taken off a text that no virtual beginning begins. -/
theorem Resource.stripVirtual_of_real
    {settings : ResolveSettings} {text : String}
    (real : ∀ lead ∈ settings.virtualPrefixes, ¬lead.toList <+: text.toList) :
    stripVirtual settings text = text := by
  have nothing : settings.virtualPrefixes.findSome? (fun lead =>
      Text.dropLead? lead.toList text.toList) = none := by
    rw [List.findSome?_eq_none_iff]
    intro lead member
    cases drops : Text.dropLead? lead.toList text.toList with
    | none => rfl
    | some rest => exact absurd ⟨rest, (Text.dropLead?_eq_some_iff.1 drops).symm⟩ (real lead member)
  rw [stripVirtual, nothing]
  rfl

namespace Request

variable {settings : ResolveSettings} {file : Path} {name given query : String}

/-! ## Keys with a suffix -/

/-- A name that can follow the dot of a suffix: no language file has it as its extension. -/
structure Formative (extensions : List String) (name : String) : Prop where
  nonempty : name ≠ ""
  plain : ∀ mark ∈ ['.', '/', '?', '%'], mark ∉ name.toList
  foreign : name ∉ extensions

/-- A language file, by a clean absolute path without marks. -/
structure LanguageFile (extensions : List String) (file : Path) : Prop where
  absolute : file.isAbsolute = true
  clean : file.clean = file
  plain : '?' ∉ file.text.toList ∧ '%' ∉ file.text.toList
  language : ∃ extension ∈ extensions, file.extension? = some extension

/-- The id under which a file is asked for with a suffix behind it, and with a query. -/
def formedId (file : Path) (given query : String) : String :=
  (formationKey file given).text ++ "?" ++ query

/-- The dot of the suffix may be left out where the key is formed. -/
theorem formationKey_eq
    (undotted : '.' ∉ name.toList) (spelled : given = "." ++ name ∨ given = name) :
    formationKey file given = ⟨file.text ++ ("." ++ name)⟩ := by
  rw [formationKey]
  rcases spelled with rfl | rfl
  · rw [toList_dotted, List.head?_cons, if_pos rfl]
  · rw [if_neg fun dotted => undotted (List.mem_of_head? dotted), String.append_assoc]

theorem formedId_eq
    (undotted : '.' ∉ name.toList) (spelled : given = "." ++ name ∨ given = name) :
    formedId file given query =
      String.ofList ((file.text ++ ("." ++ name)).toList ++ '?' :: query.toList) := by
  apply String.toList_injective
  rw [formedId, formationKey_eq undotted spelled]
  simp

variable {extensions : List String}

theorem LanguageFile.extension?_append
    (language : LanguageFile extensions file) (formative : Formative extensions name) :
    (Path.mk (file.text ++ ("." ++ name))).extension? = some name := by
  rcases language.language with ⟨extension, -, found⟩
  rcases Path.extension?_eq_some_iff.1 found with ⟨last, -, named, -⟩
  have plain : file.IsPlain := language.clean ▸ Path.plain_clean language.absolute
  exact Path.extension?_append plain named (formative.plain _ (by decide))
    (formative.plain _ (by decide))

theorem LanguageFile.notMem_append
    (language : LanguageFile extensions file) (formative : Formative extensions name) :
    '?' ∉ (file.text ++ ("." ++ name)).toList ∧ '%' ∉ (file.text ++ ("." ++ name)).toList := by
  have mark : '?' ∉ name.toList := formative.plain _ (by decide)
  have percent : '%' ∉ name.toList := formative.plain _ (by decide)
  simp [language.plain.1, language.plain.2, mark, percent]

theorem setsAside_formed
    (language : LanguageFile extensions file) (formative : Formative extensions name) :
    SetsAside ⟨extensions, some ("." ++ name)⟩ (file.text ++ ("." ++ name)) name where
  formed := nofun
  found := language.extension?_append formative
  foreign := by
    have undotted : name.toList.dropWhile (· == '.') = name.toList := by
      cases letters : name.toList with
      | nil => rfl
      | cons first rest =>
          apply List.dropWhile_cons_of_neg
          intro dot
          have undotted : '.' ∉ name.toList := formative.plain _ (by decide)
          rw [letters, beq_iff_eq.1 dot] at undotted
          exact undotted List.mem_cons_self
    rw [Rules.isLanguage, undotted, String.ofList_toList]
    simpa using formative.foreign

theorem rejoined_of_unmarked {raw : List Char} (unmarked : '?' ∉ raw) : rejoined raw = raw := by
  rw [rejoined, List.splitOn_eq_singleton unmarked]
  cases raw <;> simp

/-! ## The round trip -/

/-- A key of a file that exists is what a request for it resolves to. -/
theorem resolve?_formedId
    (language : LanguageFile extensions file) (formative : Formative extensions name)
    (spelled : given = "." ++ name ∨ given = name)
    (asked : query ≠ "") (unmarked : '?' ∉ query.toList)
    {disk : Disk} (stands : disk.exists? file = true) (resolver : String → Option Path) :
    resolve? ⟨extensions, some ("." ++ name)⟩ disk resolver (formedId file given query) =
      some ⟨formedId file given query, none⟩ := by
  have undotted : '.' ∉ name.toList := formative.plain _ (by decide)
  have mark := (language.notMem_append formative).1
  have ends : (file.text ++ ("." ++ name)).toList = file.text.toList ++ '.' :: name.toList := by
    simp
  have aside := setAside?_of_suffix (setsAside_formed language formative) ends
  have unasked : asksResolver disk file.text = false := by
    rw [asksResolver, language.absolute, stands]
    rfl
  have tail : tailOf (formedId file given query) = "?" ++ query := by
    rw [tailOf, formedId_eq undotted spelled, split_of_marked mark, rejoined_of_unmarked unmarked,
      String.ofList_toList]
    simpa using asked
  rw [resolve?_eq, tail, formedId_eq undotted spelled, pathOf_of_marked mark,
    String.ofList_toList, aside, String.ofList_toList, Option.map_some]
  dsimp only
  rw [fileOf, unasked]
  rw [Option.some.injEq, Answer.mk.injEq]
  refine ⟨String.toList_injective ?_, rfl⟩
  simp

theorem stripVariant?_formed
    (suffix : settings.variantSuffix = "." ++ name)
    (language : LanguageFile settings.extensions file) :
    Resource.stripVariant? settings (file.text ++ ("." ++ name)) = some file.text := by
  have nonempty : settings.variantSuffix.isEmpty = false := by
    rw [suffix]
    simp
  have tail : Text.dropTail? settings.variantSuffix.toList (file.text ++ ("." ++ name)).toList =
      some file.text.toList :=
    Text.dropTail?_eq_some_iff.2 (by simp [suffix])
  rcases language.language with ⟨extension, known, found⟩
  rw [Resource.stripVariant?, nonempty, tail]
  simp [found, known]

/-- A key that no virtual beginning is taken off is read as its file, with the flag `vue`. -/
theorem parse_formedId
    (suffix : settings.variantSuffix = "." ++ name)
    (language : LanguageFile settings.extensions file)
    (formative : Formative settings.extensions name)
    (spelled : given = "." ++ name ∨ given = name) (unescaped : '%' ∉ query.toList)
    (real : ∀ lead ∈ settings.virtualPrefixes,
      ¬lead.toList <+: (formedId file given query).toList) :
    (Resource.parse settings (formedId file given query)).path = file ∧
      (Resource.parse settings (formedId file given query)).query.flag "vue" = true := by
  have undotted : '.' ∉ name.toList := formative.plain _ (by decide)
  rcases language.notMem_append formative with ⟨mark, percent⟩
  have plain : '%' ∉ (formedId file given query).toList := by
    rw [formedId_eq undotted spelled, String.toList_ofList, List.mem_append, List.mem_cons]
    rintro (front | same | behind)
    · exact percent front
    · cases same
    · exact unescaped behind
  have decoded := Text.percentDecode_of_unescaped (Text.unescaped_of_not_mem plain)
  have whole := Resource.stripVirtual_of_real real
  have parts : Resource.splitQuery (formedId file given query) =
      (file.text ++ ("." ++ name), query) := by
    rw [formedId_eq undotted spelled, Resource.splitQuery_append mark, String.ofList_toList,
      String.ofList_toList]
  have variant := stripVariant?_formed suffix language
  constructor
  · rw [Resource.parse, decoded, whole, parts]
    dsimp only
    rw [variant]
    exact language.clean
  · rw [Query.flag, Resource.get?_query_parse, decoded, whole, parts]
    simp [variant, QueryValue.isSet]

/--
The key of a file under import formation, with any query behind it, resolves to itself where the
file exists.  It is read as this file with the flag `vue` where no virtual beginning begins it.
-/
theorem formedId_round_trip
    (suffix : settings.variantSuffix = "." ++ name)
    (language : LanguageFile settings.extensions file)
    (formative : Formative settings.extensions name)
    (spelled : given = "." ++ name ∨ given = name)
    (asked : query ≠ "") (unmarked : '?' ∉ query.toList) (unescaped : '%' ∉ query.toList)
    {disk : Disk} (stands : disk.exists? file = true) (resolver : String → Option Path) :
    resolve? ⟨settings.extensions, some ("." ++ name)⟩ disk resolver (formedId file given query) =
        some ⟨formedId file given query, none⟩ ∧
      ((∀ lead ∈ settings.virtualPrefixes,
          ¬lead.toList <+: (formedId file given query).toList) →
        (Resource.parse settings (formedId file given query)).path = file ∧
          (Resource.parse settings (formedId file given query)).query.flag "vue" = true) := by
  constructor
  · exact resolve?_formedId language formative spelled asked unmarked stands resolver
  · exact parse_formedId suffix language formative spelled unescaped

theorem formative_vue : Formative ["es", "ease"] "vue" where
  nonempty := by decide
  plain := by simp
  foreign := by decide

theorem languageFile_app : LanguageFile ["es", "ease"] ⟨"/src/App.es"⟩ where
  absolute := rfl
  clean := by cbv
  plain := by decide
  language := ⟨"es", by decide, by cbv⟩

/-- The style of a file is asked for by a key that was formed without the dot. -/
theorem formedId_round_trip_style :
    let disk := (Disk.empty.put ["src", "App.es"] (.file none)).put ["src"] .directory
    formedId ⟨"/src/App.es"⟩ "vue" "vue&type=style" = "/src/App.es.vue?vue&type=style" ∧
      resolve? ⟨["es", "ease"], some ".vue"⟩ disk (fun _ => none)
          "/src/App.es.vue?vue&type=style" =
        some ⟨"/src/App.es.vue?vue&type=style", none⟩ ∧
      (Resource.parse .standard "/src/App.es.vue?vue&type=style").path = ⟨"/src/App.es"⟩ ∧
      (Resource.parse .standard "/src/App.es.vue?vue&type=style").query.flag "vue" = true := by
  intro disk
  have formed : formedId ⟨"/src/App.es"⟩ "vue" "vue&type=style" =
      "/src/App.es.vue?vue&type=style" := by
    decide +kernel
  have suffix : ResolveSettings.standard.variantSuffix = "." ++ "vue" := by decide
  have unmarked : '?' ∉ "vue&type=style".toList := by decide
  have unescaped : '%' ∉ "vue&type=style".toList := by decide
  have stands : disk.exists? ⟨"/src/App.es"⟩ = true := by cbv
  have trip := formedId_round_trip suffix languageFile_app formative_vue (.inr rfl) (by decide)
    unmarked unescaped stands (fun _ => none)
  have real : ∀ lead ∈ ResolveSettings.standard.virtualPrefixes,
      ¬lead.toList <+: "/src/App.es.vue?vue&type=style".toList := by
    decide
  rw [formed] at trip
  exact ⟨formed, trip.1, trip.2 real⟩

/-- A virtual beginning that ends inside the suffix leaves only the rest of the suffix. -/
theorem formedId_misread :
    let settings : ResolveSettings :=
      { ResolveSettings.standard with virtualPrefixes := ["/src/App.es.v"] }
    let disk := (Disk.empty.put ["src", "App.es"] (.file none)).put ["src"] .directory
    (settings.variantSuffix = "." ++ "vue" ∧ LanguageFile settings.extensions ⟨"/src/App.es"⟩ ∧
        Formative settings.extensions "vue" ∧
        (∀ lead ∈ settings.virtualPrefixes, ¬lead.toList <+: "/src/App.es".toList) ∧
        disk.exists? ⟨"/src/App.es"⟩ = true) ∧
      formedId ⟨"/src/App.es"⟩ ".vue" "a" = "/src/App.es.vue?a" ∧
      (Resource.parse settings "/src/App.es.vue?a").path = ⟨"ue"⟩ ∧
      (Resource.parse settings "/src/App.es.vue?a").query.flag "vue" = false := by
  refine ⟨⟨?_, languageFile_app, formative_vue, ?_, ?_⟩, ?_, ?_, ?_⟩
  · decide
  · decide
  · cbv
  · decide +kernel
  · cbv
  · cbv

end Request

end ModuleBridge
