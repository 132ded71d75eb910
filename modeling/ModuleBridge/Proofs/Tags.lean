import Mathlib
import ModuleBridge.Bridge.Load
import ModuleBridge.Change
import ModuleBridge.Proofs.Percent

/-!
# Tags and what is served

The query of a url is read twice: by a request, for what is served, and by an edit, for the
sections that the module depends on.  Both readings find the same keys.  They agree on what
is served unless the key `direct` stands in the url, or a style is asked for together with
an action other than `macro=true`.
-/

namespace ModuleBridge

/-! ## Keys that are flags -/

/-- The keys are the same, apart from `vue` and from empty texts that became flags. -/
def Query.Settles (before after : Query) : Prop :=
  ∀ key, key ≠ "vue" →
    after.get? key = before.get? key ∨
      key ∈ Resource.flagKeys ∧ before.get? key = some (.text "") ∧
        after.get? key = some (.flag true)

namespace Query.Settles

variable {before middle after : Query} {key : String}

theorem refl (query : Query) : Settles query query :=
  fun _ _ => .inl rfl

theorem trans (first : Settles before middle) (second : Settles middle after) :
    Settles before after := by
  intro key other
  rcases first key other with same | ⟨flag, empty, settled⟩
  · rcases second key other with still | ⟨flag, empty, settled⟩
    · exact .inl (still.trans same)
    · exact .inr ⟨flag, same ▸ empty, settled⟩
  · rcases second key other with still | ⟨-, unsettled, -⟩
    · exact .inr ⟨flag, empty, still.trans settled⟩
    · cases settled.symm.trans unsettled

theorem contains_eq (settles : Settles before after) (other : key ≠ "vue") :
    after.contains key = before.contains key := by
  rw [contains, contains]
  rcases settles key other with same | ⟨-, empty, settled⟩
  · rw [same]
  · rw [empty, settled]
    rfl

/-- A text that is not empty stands for a key in both. -/
theorem text?_eq_some_iff (settles : Settles before after) (other : key ≠ "vue") {text : String}
    (written : text ≠ "") :
    after.text? key = some text ↔ before.text? key = some text := by
  rw [text?, text?]
  rcases settles key other with same | ⟨-, empty, settled⟩
  · rw [same]
  · rw [empty, settled]
    refine iff_of_false (Option.some_ne_none _).symm ?_
    intro same
    exact written (Option.some.inj same).symm

end Query.Settles

theorem Query.settles_settleFlag
    (query : Query) {key : String} (flag : key ∈ Resource.flagKeys) :
    Settles query (Resource.settleFlag query key) := by
  intro name other
  rw [Resource.settleFlag]
  by_cases same : name = key
  · subst same
    rw [if_neg fun found => other found.1]
    split
    · rename_i empty
      exact .inr ⟨flag, empty, get?_insert_self query name _⟩
    · exact .inl rfl
  · split
    · exact .inl (get?_insert_of_ne same query _)
    · split
      · exact .inl (get?_insert_of_ne same query _)
      · exact .inl rfl

theorem Query.settles_foldl
    {keys : List String} (flags : ∀ key ∈ keys, key ∈ Resource.flagKeys) (query : Query) :
    Settles query (keys.foldl Resource.settleFlag query) := by
  induction keys generalizing query with
  | nil => exact .refl query
  | cons key rest inductionHypothesis =>
      have settled := query.settles_settleFlag (flags key List.mem_cons_self)
      have flagsLater := fun other member => flags other (List.mem_cons_of_mem key member)
      exact settled.trans (inductionHypothesis flagsLater (Resource.settleFlag query key))

/-! ## The query of an id -/

theorem Text.cut?_append {mark : Char} {lead : List Char} (absent : mark ∉ lead)
    (rest : List Char) :
    cut? mark (lead ++ rest) =
      (cut? mark rest).map fun (before, after) => (lead ++ before, after) := by
  cases found : cut? mark rest with
  | none =>
      rw [cut?_eq_none_iff] at found
      rw [Option.map_none, cut?_eq_none_iff, List.mem_append]
      rintro (front | back)
      · exact absent front
      · exact found back
  | some parts =>
      rcases parts with ⟨before, after⟩
      rcases cut?_eq_some_iff.1 found with ⟨rfl, missing⟩
      rw [Option.map_some]
      refine cut?_eq_some_iff.2 ⟨(List.append_assoc _ _ _).symm, ?_⟩
      rw [List.mem_append]
      rintro (front | back)
      · exact absent front
      · exact missing back

namespace Resource

variable {settings : ResolveSettings}

/-- No virtual beginning has a question mark in it. -/
def PlainPrefixes (settings : ResolveSettings) : Prop :=
  ∀ lead ∈ settings.virtualPrefixes, '?' ∉ lead.toList

/-- A virtual beginning that is taken off leaves the query as it is. -/
theorem splitQuery_stripVirtual (plain : PlainPrefixes settings) (text : String) :
    (splitQuery (stripVirtual settings text)).2 = (splitQuery text).2 := by
  rw [stripVirtual]
  cases found : settings.virtualPrefixes.findSome? fun lead =>
      Text.dropLead? lead.toList text.toList with
  | none => rfl
  | some rest =>
      rcases List.exists_of_findSome?_eq_some found with ⟨lead, member, drops⟩
      have whole := Text.dropLead?_eq_some_iff.1 drops
      rw [Option.map_some, Option.getD_some, splitQuery, splitQuery, whole,
        Text.cut?_append (plain lead member), String.toList_ofList]
      cases Text.cut? '?' rest <;> rfl

/-- What a request finds in the query is what is written there, with flags settled. -/
theorem settles_query (settings : ResolveSettings) (id : String) :
    Query.Settles
      (Query.parse (splitQuery (stripVirtual settings (Text.percentDecode id))).2)
      (parse settings id).query := by
  rw [parse]
  generalize splitQuery (stripVirtual settings (Text.percentDecode id)) = parts
  rcases parts with ⟨path, raw⟩
  dsimp only
  have settles : Query.Settles (Query.parse raw) (flagKeys.foldl settleFlag (Query.parse raw)) :=
    Query.settles_foldl (fun _ member => member) _
  generalize flagKeys.foldl settleFlag (Query.parse raw) = query at settles
  cases stripVariant? settings path with
  | none => exact settles
  | some base =>
      refine settles.trans ?_
      intro key other
      dsimp only
      split
      · exact .inl rfl
      · exact .inl (Query.get?_insert_of_ne other query _)

end Resource

/-! ## Tags -/

/-- The tag of a query. -/
def Query.tag (query : Query) : ModuleTag :=
  if query.contains "direct" then .direct
  else if query.text? "macro" = some "true" then .expansion
  else if query.text? "type" = some "style" then .style
  else .standard

theorem ModuleTag.ofUrl_eq (url : String) :
    ofUrl url = (Query.parse (Resource.splitQuery url).2).tag := by
  rw [ofUrl, Resource.splitQuery]
  cases Text.cut? '?' url.toList with
  | none => rfl
  | some parts => rfl

theorem Query.Settles.tag_eq {before after : Query} (settles : Settles before after) :
    after.tag = before.tag := by
  have direct : after.contains "direct" = before.contains "direct" :=
    settles.contains_eq (by decide)
  have expands : after.text? "macro" = some "true" ↔ before.text? "macro" = some "true" :=
    settles.text?_eq_some_iff (by decide) (by decide)
  have kind : after.text? "type" = some "style" ↔ before.text? "type" = some "style" :=
    settles.text?_eq_some_iff (by decide) (by decide)
  simp only [tag, direct, expands, kind]

/-- The tag of a url is the tag of the query that a request finds in it. -/
theorem ModuleTag.ofUrl_eq_tag
    {settings : ResolveSettings} {url : String} (unescaped : Text.Unescaped url.toList)
    (plain : Resource.PlainPrefixes settings) :
    ofUrl url = (Resource.parse settings url).query.tag := by
  have settles := Resource.settles_query settings url
  rw [Text.percentDecode_of_unescaped unescaped, Resource.splitQuery_stripVirtual plain] at settles
  rw [ofUrl_eq, settles.tag_eq]

/-! ## What is served -/

/-- A style is served, and not the answer to an action. -/
def Resource.ServesStyle (resource : Resource) : Prop :=
  resource.requestType? = some .style ∧ Bridge.actionOf? resource = none

theorem Resource.requestType?_eq_style_iff (resource : Resource) :
    resource.requestType? = some .style ↔ resource.query.text? "type" = some "style" := by
  rw [requestType?, Option.map_eq_some_iff]
  constructor
  · rintro ⟨name, found, same⟩
    split at same
    · rename_i style
      rw [found, style]
    · split at same <;> cases same
  · exact fun found => ⟨"style", found, if_pos rfl⟩

theorem Resource.wantsMacros_of_text
    {resource : Resource} (written : resource.query.text? "macro" = some "true") :
    resource.wantsMacros = true := by
  rw [Query.text?, Option.bind_eq_some_iff] at written
  rcases written with ⟨value, found, text⟩
  cases value with
  | flag on => cases text
  | text content =>
      cases text
      rw [wantsMacros, Query.flag, found]
      rfl

/-- A request for macros is answered by an action. -/
theorem Resource.wantsMacros_of_unanswered
    {resource : Resource} (unanswered : Bridge.actionOf? resource = none) :
    resource.wantsMacros = false := by
  cases wants : resource.wantsMacros with
  | false => rfl
  | true =>
      rw [Bridge.actionOf?, if_pos wants] at unanswered
      cases unanswered

namespace ModuleTag

/-- A change of the sections that a request is served from invalidates the tag. -/
structure Tracks (tag : ModuleTag) (resource : Resource) (change : SectionChange) : Prop where
  /-- Macros come from the script. -/
  expansion :
    resource.wantsMacros = true → change.script = true → change.invalidates tag = true
  style : resource.ServesStyle → change.style = true → change.invalidates tag = true
  others :
    resource.wantsMacros = false → ¬resource.ServesStyle →
      (change.script || change.markup) = true → change.invalidates tag = true

variable {tag : ModuleTag}

theorem of_script_iff :
    (∀ change : SectionChange, change.script = true → change.invalidates tag = true) ↔
      tag = .expansion ∨ tag = .standard := by
  constructor
  · intro tracks
    have alone := tracks ⟨true, false, false⟩ rfl
    cases tag with
    | direct | style => cases alone
    | expansion => exact .inl rfl
    | standard => exact .inr rfl
  · rintro (rfl | rfl) change script
    · exact script
    · exact Bool.or_eq_true_iff.2 (.inl script)

theorem of_style_iff :
    (∀ change : SectionChange, change.style = true → change.invalidates tag = true) ↔
      tag = .style := by
  constructor
  · intro tracks
    have alone := tracks ⟨false, false, true⟩ rfl
    cases tag with
    | direct | expansion | standard => cases alone
    | style => rfl
  · rintro rfl change style
    exact style

theorem of_script_or_markup_iff :
    (∀ change : SectionChange, (change.script || change.markup) = true →
      change.invalidates tag = true) ↔ tag = .standard := by
  constructor
  · intro tracks
    have alone := tracks ⟨false, true, false⟩ rfl
    cases tag with
    | direct | expansion | style => cases alone
    | standard => rfl
  · rintro rfl change either
    exact either

/-- The tags that track what is served for a request. -/
theorem forall_tracks_iff (resource : Resource) :
    (∀ change, tag.Tracks resource change) ↔
      (resource.wantsMacros = true → tag = .expansion ∨ tag = .standard) ∧
        (resource.ServesStyle → tag = .style) ∧
        (resource.wantsMacros = false → ¬resource.ServesStyle → tag = .standard) := by
  rw [← of_script_iff, ← of_style_iff, ← of_script_or_markup_iff]
  constructor
  · intro tracks
    exact ⟨fun wants change => (tracks change).expansion wants,
      fun serves change => (tracks change).style serves,
      fun wants serves change => (tracks change).others wants serves⟩
  · rintro ⟨expansion, style, others⟩ change
    exact ⟨fun wants => expansion wants change, fun serves => style serves change,
      fun wants serves => others wants serves change⟩

/-- The tag of a query tracks what is served for it, but for two kinds of queries. -/
theorem tracks_of_query_iff (resource : Resource) :
    (∀ change, resource.query.tag.Tracks resource change) ↔
      resource.query.contains "direct" = false ∧
        (resource.requestType? = some .style →
          resource.query.text? "macro" = some "true" ∨ Bridge.actionOf? resource = none) := by
  rw [forall_tracks_iff, resource.requestType?_eq_style_iff, Query.tag]
  cases direct : resource.query.contains "direct" with
  | true =>
      rw [if_pos rfl]
      refine iff_of_false ?_ (fun found => Bool.false_ne_true found.1.symm)
      rintro ⟨expansion, style, others⟩
      cases wants : resource.wantsMacros with
      | true => rcases expansion wants with same | same <;> cases same
      | false =>
          by_cases serves : resource.ServesStyle
          · cases style serves
          · cases others wants serves
  | false =>
      rw [if_neg Bool.false_ne_true]
      by_cases written : resource.query.text? "macro" = some "true"
      · rw [if_pos written, Resource.wantsMacros_of_text written]
        refine iff_of_true ⟨fun _ => .inl rfl, ?_, fun same => by cases same⟩
          ⟨rfl, fun _ => .inl written⟩
        rintro ⟨-, unanswered⟩
        have wants := Resource.wantsMacros_of_text written
        cases wants.symm.trans (Resource.wantsMacros_of_unanswered unanswered)
      · rw [if_neg written]
        by_cases asked : resource.query.text? "type" = some "style"
        · rw [if_pos asked]
          have typed := resource.requestType?_eq_style_iff.2 asked
          constructor
          · rintro ⟨expansion, -, others⟩
            refine ⟨rfl, fun _ => .inr ?_⟩
            cases wants : resource.wantsMacros with
            | true => rcases expansion wants with same | same <;> cases same
            | false =>
                cases answer : Bridge.actionOf? resource with
                | none => rfl
                | some action =>
                    have answered : ¬resource.ServesStyle := fun serves =>
                      Option.some_ne_none _ (answer.symm.trans serves.2)
                    cases others wants answered
          · rintro ⟨-, agree⟩
            have unanswered := (agree asked).resolve_left written
            refine ⟨?_, fun _ => rfl, fun _ other => absurd ⟨typed, unanswered⟩ other⟩
            rw [Resource.wantsMacros_of_unanswered unanswered]
            intro same
            cases same
        · rw [if_neg asked]
          refine iff_of_true ⟨fun _ => .inr rfl, ?_, fun _ _ => rfl⟩ ⟨rfl, (absurd · asked)⟩
          exact fun serves => absurd (resource.requestType?_eq_style_iff.1 serves.1) asked

/--
An edit reaches every module that is served from a section it changed, exactly when no key
`direct` stands in the url and, where a style is asked for, either `macro=true` stands there
or no action answers.
-/
theorem tracks_served_iff
    {settings : ResolveSettings} {url : String} (unescaped : Text.Unescaped url.toList)
    (plain : Resource.PlainPrefixes settings) :
    let resource := Resource.parse settings url
    (∀ change, (ofUrl url).Tracks resource change) ↔
      resource.query.contains "direct" = false ∧
        (resource.requestType? = some .style →
          resource.query.text? "macro" = some "true" ∨ Bridge.actionOf? resource = none) := by
  intro resource
  rw [ofUrl_eq_tag unescaped plain]
  exact tracks_of_query_iff resource

theorem plainPrefixes_standard : Resource.PlainPrefixes .standard := by
  unfold Resource.PlainPrefixes
  decide

/-- Macros that `macro=true` asks for beside a style are tracked. -/
theorem tracks_served_iff_expansion :
    Text.Unescaped "/App.es?vue&macro=true&type=style".toList ∧
      Resource.PlainPrefixes .standard ∧
      ∀ change, (ofUrl "/App.es?vue&macro=true&type=style").Tracks
        (Resource.parse .standard "/App.es?vue&macro=true&type=style") change := by
  have unescaped : Text.Unescaped "/App.es?vue&macro=true&type=style".toList :=
    Text.unescaped_of_not_mem (by decide)
  refine ⟨unescaped, plainPrefixes_standard,
    (tracks_served_iff unescaped plainPrefixes_standard).2 ⟨?_, fun _ => .inl ?_⟩⟩
  · cbv
  · cbv

/-- Macros that a bare key asks for beside a style are served, and their script is not tracked. -/
theorem expansion_untracked_beside_style :
    let url := "/App.es?macro&type=style"
    let resource := Resource.parse .standard url
    let change : SectionChange := ⟨true, false, false⟩
    Text.Unescaped url.toList ∧ Resource.PlainPrefixes .standard ∧
      resource.query.flag "direct" = false ∧ resource.wantsMacros = true ∧
      change.script = true ∧ change.invalidates (ofUrl url) = false := by
  refine ⟨Text.unescaped_of_not_mem (by decide), plainPrefixes_standard, ?_, ?_, rfl, ?_⟩
  · cbv
  · cbv
  · cbv

end ModuleTag

end ModuleBridge
