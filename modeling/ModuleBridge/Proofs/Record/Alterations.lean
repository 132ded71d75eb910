import ModuleBridge.Proofs.Record.Coherence

/-!
# Texts that alter a record

Of the texts that come in one after another, those that differ from the text
before them alter the record.  The others leave everything that depends on the
text alone, and none of them makes a record valid.
-/

namespace ModuleBridge.Record

/-- How many of some actions bring another text than the one before. -/
def alterations (record : Record) : List Action → Nat
  | [] => 0
  | action :: rest =>
    (if (record.act action).source? = record.source? then 0 else 1) +
      (record.act action).alterations rest

theorem alterations_append (record : Record) (first second : List Action) :
    record.alterations (first ++ second) =
      record.alterations first + (first.foldl act record).alterations second := by
  induction first generalizing record with
  | nil => simp [alterations]
  | cons action rest inductionHypothesis =>
      rw [List.cons_append, alterations, inductionHypothesis, alterations, List.foldl_cons]
      omega

/-- A record holds the text it held, or the one that came in. -/
theorem source?_act (record : Record) (action : Action) :
    (record.act action).source? = record.source? ∨
      (record.act action).source? = action.text? := by
  have effect := effect_act record action
  change (record.act action).core.source? = _ ∨ (record.act action).core.source? = _
  generalize (record.act action).core = after at effect ⊢
  cases effect with
  | kept => exact .inl rfl
  | renewed text incoming other => exact .inr incoming.symm
  | analysed => exact .inl rfl
  | built => exact .inl rfl

theorem isSome_source?_act
    {record : Record} (known : record.source?.isSome) (action : Action) :
    (record.act action).source?.isSome := by
  have effect := effect_act record action
  change (record.act action).core.source?.isSome
  generalize (record.act action).core = after at effect ⊢
  cases effect with
  | kept => exact known
  | renewed => rfl
  | analysed => exact known
  | built => exact known

theorem isSome_source?_foldl
    {record : Record} (known : record.source?.isSome) (actions : List Action) :
    (actions.foldl act record).source?.isSome := by
  induction actions generalizing record with
  | nil => exact known
  | cons action rest inductionHypothesis =>
      exact inductionHypothesis (isSome_source?_act known action)

/-! ## The text there is -/

/-- The digest is that of the text. -/
def Digested (record : Record) : Prop :=
  record.digest? = record.source?.map Digest.of

theorem digested_act {record : Record} (digested : record.Digested) (action : Action) :
    (record.act action).Digested := by
  have effect := effect_act record action
  change (record.act action).core.Digested
  generalize (record.act action).core = after at effect ⊢
  cases effect with
  | kept => exact digested
  | renewed => exact rfl
  | analysed => exact digested
  | built => exact digested

/-- However a text comes in, it replaces the one there is. -/
theorem core_act_of_text
    {action : Action} {text : String}
    (incoming : action.text? = some text) (record : Record) :
    (record.act action).core = (record.replace text (Digest.of text)).core := by
  cases action with
  | feed other =>
      rcases Option.some.inj incoming with rfl
      rfl
  | observe observer other =>
      rcases Option.some.inj incoming with rfl
      exact core_observe record observer other
  | markSeen | storeAnalysis | storeBuild | setWatch | markWatched =>
      cases incoming

/-- A text that comes in is the text there is from then on, unless one of its digest was there. -/
theorem source?_act_of_text
    {record : Record} (digested : record.Digested)
    {action : Action} {text : String} (incoming : action.text? = some text)
    (faithful : ∀ held, record.source? = some held → Digest.of held = Digest.of text →
      held = text) :
    (record.act action).source? = some text := by
  rw [(fields_of_core_eq (core_act_of_text incoming record)).1]
  by_cases same : record.digest? = some (Digest.of text)
  · rw [replace_of_digest same]
    rw [digested] at same
    rcases Option.map_eq_some_iff.1 same with ⟨held, source, digest⟩
    rw [source, faithful held source digest]
  · rw [replace_of_digest_ne same]
    rfl

theorem isSome_source?_act_of_text
    {record : Record} (digested : record.Digested)
    {action : Action} {text : String} (incoming : action.text? = some text) :
    (record.act action).source?.isSome := by
  rw [(fields_of_core_eq (core_act_of_text incoming record)).1]
  by_cases same : record.digest? = some (Digest.of text)
  · rw [replace_of_digest same]
    rw [digested] at same
    rcases Option.map_eq_some_iff.1 same with ⟨held, source, -⟩
    rw [source]
    rfl
  · rw [replace_of_digest_ne same]
    rfl

section

variable {origin : Provenance} {record : Record}

/-- A text that comes in needs no excuse. -/
theorem timely_of_text
    {action : Action} (arrives : action.text?.isSome) (record : Record) :
    record.Timely origin action := by
  cases action with
  | storeAnalysis | storeBuild => cases arrives
  | feed | observe | markSeen | setWatch | markWatched => trivial

theorem coherent_foldl
    (coherent : record.Coherent origin)
    {actions : List Action} (arrive : ∀ action ∈ actions, action.text?.isSome) :
    (actions.foldl act record).Coherent origin := by
  induction actions generalizing record with
  | nil => exact coherent
  | cons action rest inductionHypothesis =>
      have arrives := arrive action List.mem_cons_self
      apply inductionHypothesis (coherent.act (timely_of_text arrives record))
      intro other later
      exact arrive other (List.mem_cons_of_mem action later)

/-- The revision counts the texts that alter the record. -/
theorem revision_act_of_text
    (coherent : record.Coherent origin)
    {action : Action} (arrives : action.text?.isSome) :
    (record.act action).revision =
      record.revision + if (record.act action).source? = record.source? then 0 else 1 := by
  have effect := effect_act record action
  change
    (record.act action).core.revision =
      record.revision + if (record.act action).core.source? = record.source? then 0 else 1
  generalize (record.act action).core = after at effect ⊢
  cases effect with
  | kept => exact (Nat.add_zero _).symm.trans (congrArg _ (if_pos rfl).symm)
  | renewed text incoming other =>
      have different : (record.renewed text).core.source? ≠ record.source? := by
        intro same
        have held : record.source? = some text := same.symm
        rw [coherent.digest, held] at other
        exact other rfl
      rw [if_neg different]
      rfl
  | analysed => cases arrives
  | built => cases arrives

theorem revision_foldl_of_text
    (coherent : record.Coherent origin)
    {actions : List Action} (arrive : ∀ action ∈ actions, action.text?.isSome) :
    (actions.foldl act record).revision = record.revision + record.alterations actions := by
  induction actions generalizing record with
  | nil => rfl
  | cons action rest inductionHypothesis =>
      have arrives := arrive action List.mem_cons_self
      have later : ∀ other ∈ rest, other.text?.isSome :=
        fun other member => arrive other (List.mem_cons_of_mem action member)
      rw [List.foldl_cons,
        inductionHypothesis (coherent.act (timely_of_text arrives record)) later,
        revision_act_of_text coherent arrives, alterations, Nat.add_assoc]

/-- The revision stays exactly when none of the texts alters the record. -/
theorem revision_foldl_eq_iff
    (coherent : record.Coherent origin)
    {actions : List Action} (arrive : ∀ action ∈ actions, action.text?.isSome) :
    (actions.foldl act record).revision = record.revision ↔ record.alterations actions = 0 := by
  rw [revision_foldl_of_text coherent arrive, Nat.add_eq_left]

theorem source?_foldl_of_unaltered
    {actions : List Action} (unaltered : record.alterations actions = 0) :
    (actions.foldl act record).source? = record.source? := by
  induction actions generalizing record with
  | nil => rfl
  | cons action rest inductionHypothesis =>
      rw [alterations, Nat.add_eq_zero_iff] at unaltered
      have same : (record.act action).source? = record.source? := by
        by_cases same : (record.act action).source? = record.source?
        · exact same
        · rw [if_neg same] at unaltered
          exact absurd unaltered.1 Nat.one_ne_zero
      rw [List.foldl_cons, inductionHypothesis unaltered.2, same]

end

/-- No text that comes in makes a record valid. -/
theorem isValid_act_of_text
    {record : Record} {action : Action}
    (arrives : action.text?.isSome) (invalid : record.isValid = false) :
    (record.act action).isValid = false := by
  have effect := effect_act record action
  change (record.act action).core.isValid = false
  generalize (record.act action).core = after at effect ⊢
  cases effect with
  | kept => exact invalid
  | renewed => rfl
  | analysed => cases arrives
  | built => cases arrives

theorem isValid_foldl_of_text
    {record : Record} {actions : List Action}
    (arrive : ∀ action ∈ actions, action.text?.isSome)
    (invalid : record.isValid = false) :
    (actions.foldl act record).isValid = false := by
  induction actions generalizing record with
  | nil => exact invalid
  | cons action rest inductionHypothesis =>
      have arrives := arrive action List.mem_cons_self
      refine inductionHypothesis ?_ (isValid_act_of_text arrives invalid)
      intro other later
      exact arrive other (List.mem_cons_of_mem action later)

/-! ## Answers of the analyzer -/

theorem storeAnalysis_of_ne
    {record : Record} {revision : Nat} (other : record.revision ≠ revision)
    (analysis : Analysis) (sections : Snapshot) :
    record.storeAnalysis revision analysis sections = (record, false) := by
  rw [storeAnalysis]
  cases record.digest? with
  | none => rfl
  | some digest => exact if_neg other

theorem storeAnalysis_of_current
    {record : Record} (known : record.digest?.isSome)
    (analysis : Analysis) (sections : Snapshot) :
    (record.storeAnalysis record.revision analysis sections).2 = true := by
  rcases Option.isSome_iff_exists.1 known with ⟨digest, held⟩
  simp [storeAnalysis, held]

section

variable {origin : Provenance} {record : Record} {late : List Action}

/-- An answer is stored when no text that came in meanwhile has altered the record. -/
theorem storeAnalysis_of_unaltered
    (coherent : record.Coherent origin) (known : record.source?.isSome)
    (arrive : ∀ action ∈ late, action.text?.isSome)
    (unaltered : record.alterations late = 0)
    (analysis : Analysis) (sections : Snapshot) :
    ((late.foldl act record).storeAnalysis record.revision analysis sections).2 = true := by
  have digest : (late.foldl act record).digest?.isSome := by
    rw [(coherent_foldl coherent arrive).digest, Option.isSome_map,
      source?_foldl_of_unaltered unaltered]
    exact known
  rw [← (revision_foldl_eq_iff coherent arrive).2 unaltered]
  exact storeAnalysis_of_current digest analysis sections

/-- An answer is dropped when a text that came in meanwhile has altered the record. -/
theorem storeAnalysis_of_altered
    (coherent : record.Coherent origin)
    (arrive : ∀ action ∈ late, action.text?.isSome)
    (altered : record.alterations late ≠ 0)
    (analysis : Analysis) (sections : Snapshot) :
    (late.foldl act record).storeAnalysis record.revision analysis sections =
      (late.foldl act record, false) :=
  storeAnalysis_of_ne (mt (revision_foldl_eq_iff coherent arrive).1 altered) analysis sections

end

end ModuleBridge.Record
