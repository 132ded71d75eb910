import ModuleBridge.Bridge.Load
import ModuleBridge.Proofs.Bridge.Work
import ModuleBridge.Proofs.Literals

/-!
# Assets that are asked for

A request for a style or an embedded asset is about the first asset of its kind under its index.
What it is answered, and what the style preprocessor is asked on the way, follows from that asset
alone; where there is none, the request fails and nobody is asked.  All else that an artifact
holds, and whatever stands behind the asset, makes no difference.
-/

namespace ModuleBridge

/-! ## The asset of a request -/

/-- The asset is of a kind and stands under an index. -/
def Asset.Suits (asset : Asset) (kind : AssetKind) (index : String) : Prop :=
  asset.kind = kind ∧ asset.id = index

namespace Artifact

variable {artifact other : Artifact} {kind : AssetKind} {index : String} {asset : Asset}

/-- The first asset of a kind under an index. -/
def Leads (artifact : Artifact) (kind : AssetKind) (index : String) (asset : Asset) : Prop :=
  ∃ before after, artifact.assets = before ++ asset :: after ∧ asset.Suits kind index ∧
    ∀ earlier ∈ before, ¬earlier.Suits kind index

/-- No asset of a kind stands under an index. -/
def Lacks (artifact : Artifact) (kind : AssetKind) (index : String) : Prop :=
  ∀ asset ∈ artifact.assets, ¬asset.Suits kind index

/-- The artifact with further assets at the end. -/
def appended (artifact : Artifact) (more : List Asset) : Artifact :=
  { artifact with assets := artifact.assets ++ more }

theorem suits_iff :
    (asset.kind == kind && asset.id == index) = true ↔ asset.Suits kind index := by
  rw [Bool.and_eq_true, beq_iff_eq, beq_iff_eq, Asset.Suits]

theorem find?_eq_some_iff_leads :
    artifact.find? kind index = some asset ↔ artifact.Leads kind index asset := by
  rw [find?, List.find?_eq_some_iff_append, suits_iff, Leads]
  constructor
  · rintro ⟨suits, before, after, assets, earlier⟩
    refine ⟨before, after, assets, suits, ?_⟩
    intro each member
    have unlike := earlier each member
    rwa [Bool.not_eq_true', ← Bool.not_eq_true, suits_iff] at unlike
  · rintro ⟨before, after, assets, suits, earlier⟩
    refine ⟨suits, before, after, assets, ?_⟩
    intro each member
    rw [Bool.not_eq_true', ← Bool.not_eq_true, suits_iff]
    exact earlier each member

theorem find?_eq_none_iff_lacks :
    artifact.find? kind index = none ↔ artifact.Lacks kind index := by
  rw [find?, List.find?_eq_none]
  simp only [suits_iff]
  rfl

theorem Leads.appended (leads : artifact.Leads kind index asset) (more : List Asset) :
    (artifact.appended more).Leads kind index asset := by
  rcases leads with ⟨before, after, assets, suits, earlier⟩
  refine ⟨before, after ++ more, ?_, suits, earlier⟩
  rw [Artifact.appended, assets, List.append_assoc, List.cons_append]

/-- Two artifacts with the same first asset, or without any, are looked up alike. -/
theorem find?_congr
    (same : ∀ asset, artifact.Leads kind index asset ↔ other.Leads kind index asset) :
    artifact.find? kind index = other.find? kind index := by
  apply Option.ext
  intro asset
  rw [find?_eq_some_iff_leads, find?_eq_some_iff_leads]
  exact same asset

end Artifact

namespace Resource

/-- The kind of asset that a request is about, where it is about one. -/
def assetKind? (resource : Resource) : Option AssetKind :=
  match resource.requestType? with
  | some .style => some .style
  | some .embedAssets => some .embedded
  | _ => none

/-- The index that a request names; empty where it names none. -/
def assetIndex (resource : Resource) : String :=
  resource.index?.getD ""

end Resource

namespace Extraction

variable {rules : Rules} {artifact other : Artifact} {resource : Resource} {kind : AssetKind}
  {asset : Asset} {extracted : Extracted} {request : StyleRequest} {preprocessor : Preprocessor}

/-! ## What an asset is answered by -/

/-- What a preprocessor's output for a request gives: its code, unless it has errors. -/
def compiled (resource : Resource) (output : StyleOutput) : Except Fault Extracted :=
  if output.errors = [] then
    nonEmpty resource ⟨output.code, output.map?⟩
  else
    .error (.preprocess (StyleError.join output.errors))

/-- What a request for an asset is answered, and what is asked of the preprocessor for it. -/
def ofAsset (rules : Rules) (resource : Resource) : AssetKind → Asset → Extraction
  | .style, asset =>
    match rules.preprocessor? with
    | none => settled (nonEmpty resource ⟨asset.code, asset.map?⟩)
    | some preprocessor =>
      let request := styleRequest rules resource asset
      ⟨compiled resource (preprocessor request), some request⟩
  | _, asset => settled (.ok ⟨"export default " ++ Text.quoted asset.code, asset.map?⟩)

/-- The answer to a request for an asset that is not there. -/
def missing (resource : Resource) (kind : AssetKind) : Extraction :=
  settled (.error (.assetNotFound resource.id kind.name resource.assetIndex))

theorem requestType?_of_style (kinded : resource.assetKind? = some .style) :
    resource.requestType? = some .style := by
  rw [Resource.assetKind?] at kinded
  split at kinded
  · assumption
  · cases kinded
  · cases kinded

theorem requestType?_of_embedded (kinded : resource.assetKind? = some .embedded) :
    resource.requestType? = some .embedAssets := by
  rw [Resource.assetKind?] at kinded
  split at kinded
  · cases kinded
  · assumption
  · cases kinded

theorem bind_ofStyleOutput (resource : Resource) (output : StyleOutput) :
    (ofStyleOutput output).bind (nonEmpty resource) = compiled resource output := by
  rw [ofStyleOutput, compiled]
  cases errors : output.errors with
  | nil => rfl
  | cons first rest => rfl

theorem extract_style (kinded : resource.assetKind? = some .style) :
    extract rules artifact resource =
      match artifact.find? .style resource.assetIndex with
      | some asset => ofAsset rules resource .style asset
      | none => missing resource .style := by
  rw [extract, pick, requestType?_of_style kinded]
  dsimp only
  rw [style, select, ← Resource.assetIndex]
  cases artifact.find? .style resource.assetIndex with
  | none => rfl
  | some asset =>
      dsimp only
      rw [ofAsset]
      cases rules.preprocessor? with
      | none => rfl
      | some preprocessor =>
          dsimp only
          rw [bind_ofStyleOutput]

theorem extract_embed (kinded : resource.assetKind? = some .embedded) :
    extract rules artifact resource =
      match artifact.find? .embedded resource.assetIndex with
      | some asset => ofAsset rules resource .embedded asset
      | none => missing resource .embedded := by
  have typed := requestType?_of_embedded kinded
  have unasked : (extract rules artifact resource).asked? = none := by
    rw [extract, pick, typed]
    rfl
  cases found : artifact.find? .embedded resource.assetIndex with
  | none =>
      rw [extract, pick, typed]
      dsimp only
      rw [embedded, select, ← Resource.assetIndex, found]
      rfl
  | some asset =>
      have outcome : (extract rules artifact resource).outcome = _ :=
        extract_embedded typed found
      cases extraction : extract rules artifact resource with
      | mk result asked? =>
          rw [extraction] at unasked outcome
          rw [show asked? = none from unasked, show result = _ from outcome]
          rfl

/-- A request for an asset is answered from what the look-up of this asset gives. -/
theorem extract_of_assetKind (kinded : resource.assetKind? = some kind) :
    extract rules artifact resource =
      match artifact.find? kind resource.assetIndex with
      | some asset => ofAsset rules resource kind asset
      | none => missing resource kind := by
  cases kind with
  | style => exact extract_style kinded
  | embedded => exact extract_embed kinded
  | expansion =>
      rw [Resource.assetKind?] at kinded
      split at kinded <;> cases kinded

theorem extract_of_leads
    (kinded : resource.assetKind? = some kind)
    (leads : artifact.Leads kind resource.assetIndex asset) :
    extract rules artifact resource = ofAsset rules resource kind asset := by
  rw [extract_of_assetKind kinded, Artifact.find?_eq_some_iff_leads.2 leads]

theorem extract_of_lacks
    (kinded : resource.assetKind? = some kind)
    (lacks : artifact.Lacks kind resource.assetIndex) :
    extract rules artifact resource = missing resource kind := by
  rw [extract_of_assetKind kinded, Artifact.find?_eq_none_iff_lacks.2 lacks]

/-! ## What the preprocessor is asked -/

theorem unasked_of_untyped (kinded : resource.assetKind? = none) :
    (extract rules artifact resource).asked? = none := by
  rw [extract, pick]
  split
  · rfl
  · rename_i typed
    rw [Resource.assetKind?, typed] at kinded
    cases kinded
  · split
    · rfl
    · rfl

/-- The preprocessor is asked for a style that is there, and for nothing else. -/
theorem asked?_eq_some_iff :
    (extract rules artifact resource).asked? = some request ↔
      resource.assetKind? = some .style ∧ rules.preprocessor?.isSome = true ∧
        ∃ asset, artifact.Leads .style resource.assetIndex asset ∧
          request = styleRequest rules resource asset := by
  cases kinded : resource.assetKind? with
  | none =>
      rw [unasked_of_untyped kinded]
      exact iff_of_false nofun fun asks => nomatch asks.1
  | some kind =>
      rw [extract_of_assetKind kinded]
      cases kind with
      | style =>
          simp only [← Artifact.find?_eq_some_iff_leads, true_and]
          cases artifact.find? .style resource.assetIndex with
          | none => simp [missing, settled]
          | some asset =>
              simp only [ofAsset]
              cases rules.preprocessor? with
              | none => simp [settled]
              | some preprocessor => simp [eq_comm]
      | embedded =>
          refine iff_of_false ?_ fun asks => nomatch asks.1
          split <;> exact nofun
      | expansion =>
          refine iff_of_false ?_ fun asks => nomatch asks.1
          split <;> exact nofun

/-- Where the preprocessor is asked, its output decides what is answered. -/
theorem outcome_of_asked
    (asked : (extract rules artifact resource).asked? = some request)
    (installed : rules.preprocessor? = some preprocessor) :
    (extract rules artifact resource).outcome = compiled resource (preprocessor request) := by
  rcases asked?_eq_some_iff.1 asked with ⟨kinded, -, asset, leads, rfl⟩
  rw [extract_of_leads kinded leads]
  simp only [ofAsset, installed]

/-- Only the output for what is asked makes a difference, not the preprocessor's others. -/
theorem extract_of_agreeing
    (installed : rules.preprocessor? = some preprocessor) {instead : Preprocessor}
    (agrees : ∀ request, (extract rules artifact resource).asked? = some request →
      instead request = preprocessor request) :
    extract { rules with preprocessor? := some instead } artifact resource =
      extract rules artifact resource := by
  cases kinded : resource.assetKind? with
  | none =>
      rw [extract, extract, pick, pick]
      split
      · rfl
      · rename_i typed
        rw [Resource.assetKind?, typed] at kinded
        cases kinded
      · rfl
  | some kind =>
      rw [extract_of_assetKind kinded, extract_of_assetKind kinded]
      cases found : artifact.find? kind resource.assetIndex with
      | none => rfl
      | some asset =>
          cases kind with
          | style =>
              have leads := Artifact.find?_eq_some_iff_leads.1 found
              have asked : (extract rules artifact resource).asked? =
                  some (styleRequest rules resource asset) :=
                asked?_eq_some_iff.2 ⟨kinded, by rw [installed]; rfl, asset, leads, rfl⟩
              have same := agrees _ asked
              simp only [ofAsset, installed]
              rw [← same]
              rfl
          | embedded => rfl
          | expansion => rfl

/-! ## The fields of what is asked -/

theorem isScoped_iff (rules : Rules) (resource : Resource) (asset : Asset) :
    (styleRequest rules resource asset).isScoped = true ↔
      (styleRequest rules resource asset).scopeId ≠ "" := by
  dsimp only [styleRequest]
  rw [Bool.not_eq_true', ← Bool.not_eq_true, String.isEmpty_iff]

theorem language?_eq_some_iff (rules : Rules) (resource : Resource) (asset : Asset)
    (language : String) :
    (styleRequest rules resource asset).language? = some language ↔
      resource.language? = some language ∧ language ∈ rules.style.preprocessed := by
  dsimp only [styleRequest]
  rw [Option.filter_eq_some_iff, StyleSettings.allows, List.contains_iff_mem]

end Extraction

/-! ## Calls of the preprocessor -/

/-- How the styles of a bridge are compiled. -/
def Setting.styleRules (setting : Setting) : Extraction.Rules :=
  ⟨setting.config.style, setting.config.styleProduction, setting.preprocessor?⟩

/-- Of a pick, the journal tells what the preprocessor was asked. -/
theorem Bridge.journal_pick
    (setting : Setting) (artifact : Artifact) (resource : Resource) (bridge : Bridge) :
    (endOf (Bridge.pick setting artifact resource).run bridge).journal =
      bridge.journal ++
        (extract setting.styleRules artifact resource).asked?.toList.map Call.style := by
  rw [Bridge.pick, ← Setting.styleRules]
  dsimp only
  cases (extract setting.styleRules artifact resource).asked? with
  | none => exact (List.append_nil _).symm
  | some request => rfl

namespace Extraction

/-! ## Isolation -/

/--
A request for a style or an embedded asset is answered from the first asset of its kind under its
index (`ofAsset`), whatever else the artifact holds, and further assets behind it change nothing;
without such an asset it fails, naming the id, the kind and the index, and nobody is asked.
Artifacts with the same first asset are answered alike.  Whatever is asked for, the preprocessor is
asked about a style that is there, once, and about nothing else: nothing it would answer otherwise
makes a difference.  It is told of a scope exactly when there is a scope id, and of a language
exactly when this is to be preprocessed, and any error of it fails the request.  No code that is
handed out is empty.
-/
theorem extraction_isolated (rules : Rules) (artifact : Artifact) (resource : Resource) :
    (∀ kind, resource.assetKind? = some kind →
        (∀ asset, artifact.Leads kind resource.assetIndex asset →
          extract rules artifact resource = ofAsset rules resource kind asset ∧
            ∀ more, extract rules (artifact.appended more) resource =
              extract rules artifact resource) ∧
          (artifact.Lacks kind resource.assetIndex →
            extract rules artifact resource =
              settled (.error (.assetNotFound resource.id kind.name resource.assetIndex))) ∧
          ∀ other : Artifact,
            (∀ asset, artifact.Leads kind resource.assetIndex asset ↔
              other.Leads kind resource.assetIndex asset) →
            extract rules other resource = extract rules artifact resource) ∧
      (∀ request,
        (extract rules artifact resource).asked? = some request ↔
          resource.assetKind? = some .style ∧ rules.preprocessor?.isSome = true ∧
            ∃ asset, artifact.Leads .style resource.assetIndex asset ∧
              request = styleRequest rules resource asset) ∧
      (∀ setting bridge,
        (Bridge.endOf (Bridge.pick setting artifact resource).run bridge).journal =
          bridge.journal ++
            (extract setting.styleRules artifact resource).asked?.toList.map Call.style) ∧
      (∀ preprocessor instead, rules.preprocessor? = some preprocessor →
        (∀ request, (extract rules artifact resource).asked? = some request →
          instead request = preprocessor request) →
        extract { rules with preprocessor? := some instead } artifact resource =
          extract rules artifact resource) ∧
      (∀ request, (extract rules artifact resource).asked? = some request →
        (request.isScoped = true ↔ request.scopeId ≠ "") ∧
          (∀ language, request.language? = some language ↔
            resource.language? = some language ∧ language ∈ rules.style.preprocessed) ∧
          ∀ preprocessor, rules.preprocessor? = some preprocessor →
            (preprocessor request).errors ≠ [] →
              (extract rules artifact resource).outcome =
                .error (.preprocess (StyleError.join (preprocessor request).errors))) ∧
      ∀ extracted, (extract rules artifact resource).outcome = .ok extracted →
        extracted.code ≠ "" := by
  refine ⟨?_, ?_, ?_, ?_, ?_, ?_⟩
  · intro kind kinded
    refine ⟨?_, extract_of_lacks kinded, ?_⟩
    · intro asset leads
      refine ⟨extract_of_leads kinded leads, ?_⟩
      intro more
      rw [extract_of_leads kinded leads, extract_of_leads kinded (leads.appended more)]
    · intro other same
      rw [extract_of_assetKind kinded, extract_of_assetKind kinded, Artifact.find?_congr same]
  · exact fun request => asked?_eq_some_iff
  · exact fun setting bridge => Bridge.journal_pick setting artifact resource bridge
  · exact fun preprocessor instead installed => extract_of_agreeing installed
  · intro request asked
    rcases asked?_eq_some_iff.1 asked with ⟨-, -, asset, -, rfl⟩
    refine ⟨isScoped_iff rules resource asset, language?_eq_some_iff rules resource asset, ?_⟩
    intro preprocessor installed errors
    rw [outcome_of_asked asked installed, compiled, if_neg errors]
  · intro extracted succeeded empty
    have kept := code_isEmpty_of_extract succeeded
    rw [empty] at kept
    cases kept

/-- An artifact with two styles and an embedded asset, all under one index. -/
def mixed : Artifact :=
  ⟨"let a = 1;", none,
    [.plain .embedded "0" "<svg/>", .plain .style "0" ".a", .plain .style "0" ".b"],
    some "let raw = 1;", []⟩

/-- A request for an asset by its type and its index. -/
def asking (type index : String) : Resource :=
  ⟨⟨"/App.es"⟩, "/App.es?type=" ++ type ++ "&index=" ++ index,
    ⟨[("type", .text type), ("index", .text index)]⟩⟩

/-- The first style is asked about and refused, a style that is not there is not asked about. -/
theorem extraction_isolated_mixed :
    let refusing : Preprocessor := fun _ => ⟨"", none, [⟨"unclosed", none⟩]⟩
    let picky : Preprocessor := fun request =>
      if request.source = ".a" then refusing request else ⟨request.source, none, []⟩
    let rules : Rules := ⟨.standard, false, some refusing⟩
    let first : Asset := .plain .style "0" ".a"
    let request := styleRequest rules (asking "style" "0") first
    (asking "style" "0").assetKind? = some .style ∧
      mixed.Leads .style "0" first ∧ mixed.Lacks .style "7" ∧
      (extract rules mixed (asking "style" "0")).asked? = some request ∧
      (extract rules mixed (asking "style" "0")).outcome = .error (.preprocess "unclosed") ∧
      extract rules (mixed.appended [first]) (asking "style" "0") =
        extract rules mixed (asking "style" "0") ∧
      extract rules { mixed with code := "let b = 2;" } (asking "style" "0") =
        extract rules mixed (asking "style" "0") ∧
      extract { rules with preprocessor? := some picky } mixed (asking "style" "0") =
        extract rules mixed (asking "style" "0") ∧
      extract rules mixed (asking "style" "7") =
        settled (.error (.assetNotFound "/App.es?type=style&index=7" "style" "7")) ∧
      (extract rules mixed (asking "embedAssets" "0")).outcome =
        .ok ⟨"export default \"<svg/>\"", none⟩ ∧
      "export default \"<svg/>\"" ≠ "" := by
  intro refusing picky rules first request
  have kinded : (asking "style" "0").assetKind? = some .style := by decide
  have leads : mixed.Leads .style "0" first :=
    Artifact.find?_eq_some_iff_leads.1 (by decide)
  have lacks : mixed.Lacks .style "7" := Artifact.find?_eq_none_iff_lacks.1 (by decide)
  have isolated := extraction_isolated rules mixed (asking "style" "0")
  have answered := isolated.1 .style kinded
  have asked : (extract rules mixed (asking "style" "0")).asked? = some request :=
    (isolated.2.1 request).2 ⟨kinded, rfl, first, leads, rfl⟩
  have refused := (isolated.2.2.2.2.1 request asked).2.2 refusing rfl (by decide)
  have otherwise := answered.2.2 { mixed with code := "let b = 2;" } fun _ => Iff.rfl
  have agrees : ∀ request, (extract rules mixed (asking "style" "0")).asked? = some request →
      picky request = refusing request := by
    intro other askedToo
    rcases Option.some.inj (asked.symm.trans askedToo) with rfl
    rfl
  have absent :=
    (extraction_isolated rules mixed (asking "style" "7")).1 .style (by decide)
  have embeds := extraction_isolated rules mixed (asking "embedAssets" "0")
  have exported : (extract rules mixed (asking "embedAssets" "0")).outcome =
      .ok ⟨"export default \"<svg/>\"", none⟩ := by
    decide
  exact ⟨kinded, leads, lacks, asked, refused, (answered.1 first leads).2 [first], otherwise,
    isolated.2.2.2.1 refusing picky rfl agrees, absent.2.1 lacks, exported,
    embeds.2.2.2.2.2 _ exported⟩

end Extraction

end ModuleBridge
