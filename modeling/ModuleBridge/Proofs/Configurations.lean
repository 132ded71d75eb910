import ModuleBridge.Config.File
import Mathlib.Data.List.Nodup

/-!
# Configurations that pass the check

The check collects all that is wrong with a configuration.  A configuration passes exactly
when every pattern can be read by itself, there are extensions, all of them written without
their dot, the variant suffix is written with it, no style language is blank, and the
pipelines have names of their own, none of them blank, with one main pipeline among them.
-/

namespace ModuleBridge

/-! ## Reports without complaints -/

namespace Report

@[simp]
theorem isClean_empty : empty.isClean = true := rfl

@[simp]
theorem isClean_complaint (field message : String) (hint? : Option String) :
    (complaint field message hint?).isClean = false := rfl

@[simp]
theorem isClean_caution (field message : String) : (caution field message).isClean = true := rfl

@[simp]
theorem isClean_append (first second : Report) :
    (first ++ second).isClean = (first.isClean && second.isClean) := by
  change (first.complaints ++ second.complaints).isEmpty =
    (first.complaints.isEmpty && second.complaints.isEmpty)
  cases first.complaints <;> rfl

/-- A complaint is made unless a condition holds. -/
theorem isClean_ite_complaint {condition : Prop} [Decidable condition]
    {field message : String} {hint? : Option String} :
    (if condition then complaint field message hint? else empty).isClean = true ↔ ¬condition := by
  split
  · rename_i wrong
    exact ⟨nofun, fun right => absurd wrong right⟩
  · rename_i right
    exact ⟨fun _ => right, fun _ => rfl⟩

/-- A caution is no complaint, whether it is given or not. -/
@[simp]
theorem isClean_ite_caution (condition : Prop) [Decidable condition] (field message : String) :
    (if condition then caution field message else empty).isClean = true := by
  split <;> rfl

theorem isClean_joined {reports : List Report} :
    (joined reports).isClean = true ↔ ∀ report ∈ reports, report.isClean = true := by
  have behind : ∀ first : Report, (reports.foldl append first).isClean = true ↔
      first.isClean = true ∧ ∀ report ∈ reports, report.isClean = true := by
    induction reports with
    | nil => exact fun first => (and_iff_left nofun).symm
    | cons report rest inductionHypothesis =>
        intro first
        rw [List.foldl_cons, inductionHypothesis, List.forall_mem_cons, ← and_assoc]
        exact and_congr_left' ((Bool.eq_iff_iff.1 (isClean_append first report)).trans
          Bool.and_eq_true_iff)
  exact (behind empty).trans (and_iff_right rfl)

theorem isClean_each {α : Type} {items : List α} {report : Nat → α → Report} :
    (each items report).isClean = true ↔
      ∀ index item, items[index]? = some item → (report index item).isClean = true := by
  rw [each, isClean_joined, List.forall_mem_map]
  constructor
  · intro clean index item stands
    exact clean (item, index) (List.mk_mem_zipIdx_iff_getElem?.2 stands)
  · intro clean item stands
    exact clean item.2 item.1 (List.mem_zipIdx_iff_getElem?.1 stands)

/-- Where the place in the list does not matter. -/
theorem isClean_each_of_mem
    {α : Type} {items : List α} {report : Nat → α → Report} {passes : α → Prop}
    (judges : ∀ index item, (report index item).isClean = true ↔ passes item) :
    (each items report).isClean = true ↔ ∀ item ∈ items, passes item := by
  rw [isClean_each]
  constructor
  · intro clean item member
    rcases List.mem_iff_getElem?.1 member with ⟨index, stands⟩
    exact (judges index item).1 (clean index item stands)
  · intro passes index item stands
    exact (judges index item).2 (passes item (List.mem_of_getElem? stands))

theorem isClean_ofPattern {field pattern : String} :
    (ofPattern field pattern).isClean = true ↔ (Pattern.read false pattern).isOk = true := by
  rw [ofPattern]
  cases Pattern.read false pattern with
  | ok node => exact ⟨fun _ => rfl, fun _ => rfl⟩
  | error refusal => exact ⟨nofun, nofun⟩

end Report

/-! ## What the check looks for -/

namespace Config

variable {config : Config}

/-- What a configuration needs to pass the check. -/
structure Sound (config : Config) : Prop where
  included : ∀ pattern ∈ config.filter.included, (Pattern.read false pattern).isOk = true
  excluded : ∀ pattern ∈ config.filter.excluded, (Pattern.read false pattern).isOk = true
  scopes :
    ∀ entry ∈ config.pipelines, ∀ pattern ∈ entry.scope, (Pattern.read false pattern).isOk = true
  extensions : config.resolve.extensions ≠ []
  undotted : ∀ extension ∈ config.resolve.extensions, extension.toList.head? ≠ some '.'
  suffix :
    config.resolve.variantSuffix.isEmpty = true ∨
      config.resolve.variantSuffix.toList.head? = some '.'
  languages : ∀ language ∈ config.style.preprocessed, Text.isBlankText language = false
  single : config.pipelines.countP PipelineEntry.main = 1
  named : ∀ entry ∈ config.pipelines, Text.isBlankText entry.name = false
  distinct : (config.pipelines.map PipelineEntry.name).Nodup

end Config

open Report

theorem FilterSettings.isClean_check {settings : FilterSettings} :
    settings.check.isClean = true ↔
      (∀ pattern ∈ settings.included, (Pattern.read false pattern).isOk = true) ∧
        ∀ pattern ∈ settings.excluded, (Pattern.read false pattern).isOk = true := by
  rw [check, isClean_append, Bool.and_eq_true]
  exact and_congr (isClean_each_of_mem fun _ _ => isClean_ofPattern)
    (isClean_each_of_mem fun _ _ => isClean_ofPattern)

theorem ResolveSettings.isClean_check {settings : ResolveSettings} :
    settings.check.isClean = true ↔
      settings.extensions ≠ [] ∧
        (∀ extension ∈ settings.extensions, extension.toList.head? ≠ some '.') ∧
        (settings.variantSuffix.isEmpty = true ∨
          settings.variantSuffix.toList.head? = some '.') := by
  rw [check, isClean_append, isClean_append, Bool.and_eq_true, Bool.and_eq_true,
    isClean_ite_complaint, and_assoc, List.isEmpty_iff]
  refine and_congr_right' (and_congr (isClean_each_of_mem fun _ _ => isClean_ite_complaint) ?_)
  split
  · rename_i dotted
    exact ⟨fun _ => dotted, fun _ => rfl⟩
  · rename_i undotted
    exact ⟨nofun, fun dotted => absurd dotted undotted⟩

theorem StyleSettings.isClean_check {settings : StyleSettings} :
    settings.check.isClean = true ↔
      ∀ language ∈ settings.preprocessed, Text.isBlankText language = false := by
  rw [check]
  exact isClean_each_of_mem fun _ language =>
    isClean_ite_complaint.trans (Bool.not_eq_true (Text.isBlankText language)).to_iff

namespace PipelineEntry

variable {entries : List PipelineEntry}

theorem isClean_checkName {before : List PipelineEntry} {index : Nat} {entry : PipelineEntry} :
    (checkName before index entry).isClean = true ↔
      Text.isBlankText entry.name = false ∧ entry.name ∉ takenNames before := by
  rw [checkName]
  cases Text.isBlankText entry.name with
  | true => exact ⟨nofun, nofun⟩
  | false =>
      rw [if_neg Bool.false_ne_true, isClean_ite_complaint, List.contains_iff_mem]
      exact (and_iff_right rfl).symm

theorem isClean_check {index : Nat} {entry : PipelineEntry} :
    (check entries index entry).isClean = true ↔
      (Text.isBlankText entry.name = false ∧ entry.name ∉ takenNames (entries.take index)) ∧
        ∀ pattern ∈ entry.scope, (Pattern.read false pattern).isOk = true := by
  rw [check, isClean_append, isClean_append, isClean_ite_caution, Bool.and_true, Bool.and_eq_true,
    isClean_checkName, isClean_joined, List.forall_mem_map]
  exact and_congr_right' (forall₂_congr fun _ _ => isClean_ofPattern)

/-- No name was taken before exactly when no name comes twice. -/
theorem untaken_iff_nodup (named : ∀ entry ∈ entries, Text.isBlankText entry.name = false) :
    (∀ index entry, entries[index]? = some entry → entry.name ∉ takenNames (entries.take index)) ↔
      (entries.map PipelineEntry.name).Nodup := by
  have taken : ∀ index,
      takenNames (entries.take index) = (entries.map PipelineEntry.name).take index := by
    intro index
    rw [takenNames, List.map_take, List.filter_eq_self]
    intro name member
    rcases List.mem_map.1 (List.mem_of_mem_take member) with ⟨entry, among, rfl⟩
    rw [named entry among]
    rfl
  rw [List.nodup_iff_getElem?_ne_getElem?]
  constructor
  · intro untaken left right before inside same
    rw [List.length_map] at inside
    have stands : entries[right]? = some entries[right] := List.getElem?_eq_getElem inside
    refine untaken right _ stands ?_
    rw [taken, List.mem_iff_getElem?]
    refine ⟨left, ?_⟩
    rw [List.getElem?_take_of_lt before, same, List.getElem?_map, stands]
    rfl
  · intro distinct index entry stands isTaken
    rw [taken, List.mem_iff_getElem?] at isTaken
    rcases isTaken with ⟨place, named⟩
    have before : place < index := by
      by_contra behind
      rw [List.getElem?_take_eq_none (Nat.le_of_not_lt behind)] at named
      cases named
    rw [List.getElem?_take_of_lt before] at named
    have inside : index < (entries.map PipelineEntry.name).length := by
      rw [List.length_map]
      exact (List.getElem?_eq_some_iff.1 stands).1
    refine distinct place index before inside ?_
    rw [named, List.getElem?_map, stands]
    rfl

/-- The names pass exactly when none is blank and none comes twice. -/
theorem isClean_each_check :
    (each entries (check entries)).isClean = true ↔
      (∀ entry ∈ entries, ∀ pattern ∈ entry.scope, (Pattern.read false pattern).isOk = true) ∧
        (∀ entry ∈ entries, Text.isBlankText entry.name = false) ∧
        (entries.map PipelineEntry.name).Nodup := by
  rw [isClean_each]
  constructor
  · intro clean
    have named : ∀ entry ∈ entries, Text.isBlankText entry.name = false := by
      intro entry member
      rcases List.mem_iff_getElem?.1 member with ⟨index, stands⟩
      exact (isClean_check.1 (clean index entry stands)).1.1
    refine ⟨?_, named, (untaken_iff_nodup named).1 ?_⟩
    · intro entry member
      rcases List.mem_iff_getElem?.1 member with ⟨index, stands⟩
      exact (isClean_check.1 (clean index entry stands)).2
    · exact fun index entry stands => (isClean_check.1 (clean index entry stands)).1.2
  · rintro ⟨readable, named, distinct⟩ index entry stands
    have member := List.mem_of_getElem? stands
    exact isClean_check.2
      ⟨⟨named entry member, (untaken_iff_nodup named).2 distinct index entry stands⟩,
        readable entry member⟩

theorem isClean_checkMain :
    (checkMain entries).isClean = true ↔ entries.countP PipelineEntry.main = 1 := by
  rw [checkMain]
  split
  · rename_i none
    rw [none]
    exact ⟨nofun, nofun⟩
  · rename_i one
    exact ⟨fun _ => one, fun _ => rfl⟩
  · rename_i several
    exact ⟨nofun, fun one => absurd one several⟩

end PipelineEntry

namespace Config

variable {config : Config}

theorem isClean_checkWatch (config : Config) : config.checkWatch.isClean = true :=
  isClean_ite_caution _ _ _

theorem isClean_check_iff : config.check.isClean = true ↔ config.Sound := by
  rw [check, isClean_joined]
  simp only [List.forall_mem_cons, List.not_mem_nil, false_implies, implies_true, and_true,
    FilterSettings.isClean_check, ResolveSettings.isClean_check, StyleSettings.isClean_check,
    PipelineEntry.isClean_checkMain, PipelineEntry.isClean_each_check, isClean_checkWatch]
  constructor
  · rintro ⟨⟨included, excluded⟩, ⟨extensions, undotted, suffix⟩, languages, single, scopes,
      named, distinct⟩
    exact ⟨included, excluded, scopes, extensions, undotted, suffix, languages, single, named,
      distinct⟩
  · intro sound
    exact ⟨⟨sound.included, sound.excluded⟩, ⟨sound.extensions, sound.undotted, sound.suffix⟩,
      sound.languages, sound.single, sound.scopes, sound.named, sound.distinct⟩

/-- A configuration is accepted exactly when it is sound. -/
theorem validate_eq_ok_iff {console : Console} :
    (config.validate console).2 = .ok () ↔ config.Sound := by
  rw [← isClean_check_iff, validate]
  cases config.check.isClean with
  | true => exact ⟨fun _ => rfl, fun _ => rfl⟩
  | false => exact ⟨nofun, nofun⟩

end Config

end ModuleBridge
