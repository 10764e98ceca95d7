import CrateReadme.Config.Basic
import Mathlib.Data.List.Induction

/-!
# The last source wins

Settings are put together step by step: a table is merged, the command line is applied, or the draft
is frozen and thawed again. A table is merged if every setting in it has a value of its type. Then
each setting of the run is what the last step that sets it says, the features each once and in the
order in which they were named first, and every step that is no mere cycle adds its warnings and its
name to what the steps before it left. So freezing and thawing in between changes nothing.
-/

namespace CrateReadme.Config

/-! ## Steps -/

/-- One step in putting settings together. -/
inductive Step where
  | table (entries : Data.Table) (base : Files.Location) (source : String)
  | commandLine (overrides : Overrides) (base : Files.Location)
  | cycle (directory : Files.Location)

def Step.apply : Step → Merging Unit
  | .table entries base source => mergeTable entries base source
  | .commandLine overrides base => modify fun draft => draft.override overrides base
  | .cycle directory => modify fun draft => (draft.freeze directory).thaw

/-- Does steps one after the other, up to the first that fails. -/
def run (steps : List Step) : Merging Unit :=
  steps.forM Step.apply

/-- Some changes lead from one draft to another and do not fail. -/
def Merges (changes : Merging Unit) (draft next : Draft) : Prop :=
  changes.run.run draft = (.ok (), next)

/-! ## What a step says -/

def flagOf? : Data.Value → Option Bool
  | .bool flag => some flag
  | _ => none

def textsOf? : Data.Value → Option (List String)
  | .text text => some [text]
  | .list items => items.mapM textOf?
  | _ => none

/-- If a table has a key, its value can be read as the setting of that name. -/
def HasOnly {Setting : Type} (read : Data.Value → Option Setting) (table : Data.Table)
    (key : String) : Prop :=
  ∀ value, table.get? key = some value → (read value).isSome

instance {Setting : Type} (read : Data.Value → Option Setting) (table : Data.Table)
    (key : String) : Decidable (HasOnly read table key) :=
  decidable_of_iff (((table.get? key).all fun value => (read value).isSome) = true) <| by
    rw [HasOnly]
    cases table.get? key <;> simp

/-- Every setting in a table has a value of its type. -/
structure IsWellTyped (table : Data.Table) : Prop where
  text : ∀ key ∈ ["out", "template"], HasOnly textOf? table key
  features : HasOnly textsOf? table "features"
  flag : ∀ key ∈ ["expand_macros", "all_features", "no_default_features", "prefer_bin"],
    HasOnly flagOf? table key

theorem isWellTyped_iff {table : Data.Table} :
    IsWellTyped table ↔
      HasOnly textOf? table "out" ∧ HasOnly textOf? table "template" ∧
        HasOnly textsOf? table "features" ∧
        HasOnly flagOf? table "expand_macros" ∧ HasOnly flagOf? table "all_features" ∧
        HasOnly flagOf? table "no_default_features" ∧ HasOnly flagOf? table "prefer_bin" := by
  constructor
  · rintro ⟨htext, hfeatures, hflag⟩
    simp only [List.forall_mem_cons, List.not_mem_nil, false_imp_iff, implies_true,
      and_true] at htext hflag
    exact ⟨htext.1, htext.2, hfeatures, hflag⟩
  · rintro ⟨hout, htemplate, hfeatures, hflag⟩
    exact ⟨by simp [hout, htemplate], hfeatures, by simpa using hflag⟩

instance (table : Data.Table) : Decidable (IsWellTyped table) :=
  decidable_of_iff _ isWellTyped_iff.symm

namespace Step

/-- Whether a step can be done: a table must be well typed. -/
def IsAccepted : Step → Prop
  | .table entries _ _ => IsWellTyped entries
  | .commandLine _ _ => True
  | .cycle _ => True

instance : DecidablePred IsAccepted
  | .table entries _ _ => inferInstanceAs (Decidable (IsWellTyped entries))
  | .commandLine _ _ => inferInstanceAs (Decidable True)
  | .cycle _ => inferInstanceAs (Decidable True)

/-- Whether a step is more than freezing and thawing. -/
def isMerge : Step → Bool
  | .cycle _ => false
  | _ => true

/-- The text that a step sets, with the directory it is relative to. -/
def text? (key : String) (given : Overrides → Option String) :
    Step → Option (String × Files.Location)
  | .table entries base _ => ((entries.get? key).bind textOf?).map fun text => (text, base)
  | .commandLine overrides base => (given overrides).map fun text => (text, base)
  | .cycle _ => none

/-- The truth value that a step sets. -/
def flag? (key : String) (given : Overrides → Option Bool) : Step → Option Bool
  | .table entries _ _ => (entries.get? key).bind flagOf?
  | .commandLine overrides _ => given overrides
  | .cycle _ => none

/-- The names of features that a step sets. On the command line an empty list sets none. -/
def features? : Step → Option (List String)
  | .table entries _ _ => ((entries.get? "features").bind textsOf?).map featureNames
  | .commandLine overrides _ =>
    (overrides.features.filter fun items => !items.isEmpty).map featureNames
  | .cycle _ => none

/-- The output that a step sets: standard output, or a file seen from the directory of the step. -/
def output? (step : Step) : Option (Option Files.Location) :=
  (step.text? "out" Overrides.output).map fun (text, base) =>
    if text = "-" then none else some (base.under (.ofText text))

/-- The template that a step sets, seen from the directory of the step. -/
def template? (step : Step) : Option Files.Location :=
  (step.text? "template" Overrides.template).map fun (text, base) => base.under (.ofText text)

def expandMacros? : Step → Option Bool :=
  flag? "expand_macros" Overrides.expandMacros

def allFeatures? : Step → Option Bool :=
  flag? "all_features" Overrides.allFeatures

def noDefaultFeatures? : Step → Option Bool :=
  flag? "no_default_features" Overrides.noDefaultFeatures

def preferBinary? : Step → Option Bool :=
  flag? "prefer_bin" Overrides.preferBinary

def source? : Step → Option String
  | .table _ _ source => some source
  | .commandLine _ _ => some "<cli>"
  | .cycle _ => none

/-- The warnings of a step: one for each key of its table that names no setting. -/
def warnings : Step → List String
  | .table entries _ source =>
    ((entries.map Prod.fst).filter fun key => key ∉ keys).map fun key =>
      source ++ ": unknown configuration key `" ++ key ++ "`"
  | .commandLine _ _ => []
  | .cycle _ => []

end Step

def last? {Setting : Type} (setting : Step → Option Setting) (steps : List Step) : Option Setting :=
  steps.reverse.findSome? setting

/-- The settings after some steps that start from those of a directory. -/
def settled (directory : Files.Location) (steps : List Step) : Config where
  output := (last? Step.output? steps).getD (some (directory.under (.ofText "README.md")))
  template := (last? Step.template? steps).getD (directory.under (.ofText "README.j2"))
  expandMacros := (last? Step.expandMacros? steps).getD false
  features := ((last? Step.features? steps).getD []).eraseDups
  allFeatures := (last? Step.allFeatures? steps).getD false
  noDefaultFeatures := (last? Step.noDefaultFeatures? steps).getD false
  preferBinary := (last? Step.preferBinary? steps).getD false
  sources := "<defaults>" :: steps.filterMap Step.source?
  warnings := steps.flatMap Step.warnings

/-! ## One step -/

section Merging

variable {Setting : Type} {draft next : Draft} {table : Data.Table} {base : Files.Location}
  {source key : String}

/-- Changes after each other merge if there is a draft in between. -/
theorem merges_bind {first second : Merging Unit} :
    Merges (first >>= fun _ => second) draft next ↔
      ∃ between, Merges first draft between ∧ Merges second between next := by
  rw [Merges, ExceptT.run_bind, StateT.run_bind]
  rcases hfirst : first.run.run draft with ⟨error | _, between⟩
  · constructor
    · intro hfails
      cases hfails
    · rintro ⟨_, hother, -⟩
      rw [Merges, hfirst] at hother
      cases hother
  · constructor
    · exact fun hsecond => ⟨between, hfirst, hsecond⟩
    · rintro ⟨_, hother, hsecond⟩
      rw [Merges, hfirst] at hother
      cases hother
      exact hsecond

theorem merges_pure : Merges (pure ()) draft next ↔ next = draft := by
  refine ⟨fun hmerges => ?_, fun hnext => by rw [hnext]; rfl⟩
  cases hmerges
  rfl

theorem merges_modify {change : Draft → Draft} :
    Merges (modify change) draft next ↔ next = change draft := by
  refine ⟨fun hmerges => ?_, fun hnext => by rw [hnext]; rfl⟩
  cases hmerges
  rfl

/-- A key is merged if its value can be read; without it, the draft stays as it is. -/
theorem merges_mergeKey {read : Data.Value → Option Setting} {put : Draft → Setting → Draft}
    {current : Draft → Setting} {change : Draft → Data.Value → Except ConfigError Draft}
    (hchange : ∀ value, change draft value = .ok next ↔
      ∃ setting, read value = some setting ∧ next = put draft setting)
    (hcurrent : put draft (current draft) = draft) :
    Merges (mergeKey table key change) draft next ↔
      HasOnly read table key ∧
        next = put draft (((table.get? key).bind read).getD (current draft)) := by
  rw [mergeKey, HasOnly]
  cases hvalue : table.get? key with
  | none => simp [merges_pure, hcurrent]
  | some value =>
    have hmerges : Merges (mergeKey table key change) draft next ↔
        change draft value = .ok next := by
      have hget : (get : ExceptT ConfigError (StateM Draft) Draft).run.run draft =
          (.ok draft, draft) := rfl
      rw [Merges, mergeKey, hvalue, ExceptT.run_bind, StateT.run_bind, hget]
      simp only [bind]
      cases change draft value with
      | error => constructor <;> intro hfails <;> cases hfails
      | ok => constructor <;> intro hnext <;> cases hnext <;> rfl
    rw [mergeKey, hvalue] at hmerges
    simp only [Option.some.injEq, forall_eq', Option.bind_some]
    refine hmerges.trans ((hchange value).trans ?_)
    cases read value with
    | none => simp
    | some setting => simp

theorem merges_text (put : Draft → Setting → Draft) (current : Draft → Setting)
    (read : String → Setting) (hcurrent : put draft (current draft) = draft) :
    Merges (mergeKey table key (changeText source key fun draft text => put draft (read text)))
        draft next ↔
      HasOnly textOf? table key ∧
        next = put draft ((((table.get? key).bind textOf?).map read).getD (current draft)) := by
  have hmerges := @merges_mergeKey Setting draft next table key
    (fun value => (textOf? value).map read) put current
    (changeText source key fun draft text => put draft (read text))
    (fun value => by cases value <;> simp [changeText, textOf?, eq_comm]) hcurrent
  simpa [HasOnly, Option.map_bind, Function.comp_def] using hmerges

theorem merges_flag (put : Draft → Bool → Draft) (current : Draft → Bool)
    (hcurrent : put draft (current draft) = draft) :
    Merges (mergeKey table key (changeFlag source key put)) draft next ↔
      HasOnly flagOf? table key ∧
        next = put draft (((table.get? key).bind flagOf?).getD (current draft)) :=
  merges_mergeKey (fun value => by cases value <;> simp [changeFlag, flagOf?, eq_comm]) hcurrent

theorem featureItems_eq_ok_iff {value : Data.Value} {items : List String} :
    featureItems source value = .ok items ↔ textsOf? value = some items := by
  cases value with
  | list values =>
    rw [featureItems, textsOf?]
    cases values.mapM textOf? <;> simp
  | _ => simp [featureItems, textsOf?]

/-- Features are merged if they are a text or a list of texts. -/
theorem merges_features :
    Merges (mergeKey table "features" (changeFeatures source)) draft next ↔
      HasOnly textsOf? table "features" ∧
        next = { draft with
          features := (((table.get? "features").bind textsOf?).map featureNames).getD
            draft.features } := by
  have hchange (value : Data.Value) : changeFeatures source draft value = .ok next ↔
      ∃ features, (textsOf? value).map featureNames = some features ∧
        next = { draft with features := features } := by
    rw [changeFeatures]
    cases hitems : featureItems source value with
    | error error =>
      have hnone : textsOf? value = none := Option.eq_none_iff_forall_ne_some.mpr fun items hsome =>
        by simp [featureItems_eq_ok_iff.mpr hsome] at hitems
      rw [hnone]
      constructor
      · intro hfails
        cases hfails
      · rintro ⟨_, hsome, -⟩
        cases hsome
    | ok items =>
      rw [featureItems_eq_ok_iff.mp hitems]
      constructor
      · intro hok
        cases hok
        exact ⟨_, rfl, rfl⟩
      · rintro ⟨_, hsome, rfl⟩
        cases hsome
        rfl
  have hmerges := @merges_mergeKey _ draft next table "features" _
    (fun draft features => { draft with features := features }) Draft.features _ hchange rfl
  simpa [HasOnly, Option.map_bind, Function.comp_def] using hmerges

end Merging

def Draft.after (draft : Draft) (step : Step) : Draft :=
  match step with
  | .cycle directory => (draft.freeze directory).thaw
  | step =>
    { output := step.output?.getD draft.output
      template := step.template?.or draft.template
      expandMacros := step.expandMacros?.getD draft.expandMacros
      features := step.features?.getD draft.features
      allFeatures := step.allFeatures?.getD draft.allFeatures
      noDefaultFeatures := step.noDefaultFeatures?.getD draft.noDefaultFeatures
      preferBinary := step.preferBinary?.getD draft.preferBinary
      sources := draft.sources ++ step.source?.toList
      warnings := draft.warnings ++ step.warnings }

/-- The draft after a table, field by field, in terms of the table. -/
theorem after_table (draft : Draft) (table : Data.Table) (base : Files.Location)
    (source : String) :
    draft.after (.table table base source) =
      { output := (((table.get? "out").bind textOf?).map (outputOf base)).getD draft.output
        template := (((table.get? "template").bind textOf?).map fun text =>
          some (base.under (.ofText text))).getD draft.template
        expandMacros := ((table.get? "expand_macros").bind flagOf?).getD draft.expandMacros
        features := (((table.get? "features").bind textsOf?).map featureNames).getD draft.features
        allFeatures := ((table.get? "all_features").bind flagOf?).getD draft.allFeatures
        noDefaultFeatures :=
          ((table.get? "no_default_features").bind flagOf?).getD draft.noDefaultFeatures
        preferBinary := ((table.get? "prefer_bin").bind flagOf?).getD draft.preferBinary
        sources := draft.sources ++ [source]
        warnings := draft.warnings ++ unknownKeys table source } := by
  have hwarnings : unknownKeys table source = (Step.table table base source).warnings := by
    simp [unknownKeys, Step.warnings, List.filter_map, Function.comp_def]
  have houtput : (Step.table table base source).output? =
      ((table.get? "out").bind textOf?).map (outputOf base) := by
    rw [Step.output?, Step.text?, Option.map_map]
    rfl
  rw [hwarnings, ← houtput, Draft.after]
  · congr 1
    rw [Step.template?, Step.text?, Option.map_map]
    cases (table.get? "template").bind textOf? <;> rfl
  · simp

/-- A table is merged if and only if it is well typed, and then it changes the draft as a step does.
-/
theorem merges_mergeTable {draft next : Draft} {table : Data.Table} {base : Files.Location}
    {source : String} :
    Merges (mergeTable table base source) draft next ↔
      IsWellTyped table ∧ next = draft.after (.table table base source) := by
  have hput {key : String} {draft next : Draft} := @merges_text _ draft next table source key
    (fun draft output => { draft with output }) Draft.output (outputOf base) rfl
  have hplace {key : String} {draft next : Draft} := @merges_text _ draft next table source key
    (fun draft template => { draft with template }) Draft.template
    (fun text => some (base.under (.ofText text))) rfl
  have hexpand {key : String} {draft next : Draft} := @merges_flag draft next table source key
    (fun draft flag => { draft with expandMacros := flag }) Draft.expandMacros rfl
  have hall {key : String} {draft next : Draft} := @merges_flag draft next table source key
    (fun draft flag => { draft with allFeatures := flag }) Draft.allFeatures rfl
  have hnone {key : String} {draft next : Draft} := @merges_flag draft next table source key
    (fun draft flag => { draft with noDefaultFeatures := flag }) Draft.noDefaultFeatures rfl
  have hprefer {key : String} {draft next : Draft} := @merges_flag draft next table source key
    (fun draft flag => { draft with preferBinary := flag }) Draft.preferBinary rfl
  simp only [mergeTable, merges_bind, merges_modify, hput, hplace, merges_features, hexpand, hall,
    hnone, hprefer, and_assoc, exists_and_left, exists_eq_left]
  rw [isWellTyped_iff, after_table]
  simp only [and_assoc]

theorem override_eq (draft : Draft) (overrides : Overrides) (base : Files.Location) :
    draft.override overrides base = draft.after (.commandLine overrides base) := by
  rw [Draft.override, Draft.after]
  · simp [Step.output?, Step.template?, Step.text?, Step.expandMacros?, Step.allFeatures?,
      Step.noDefaultFeatures?, Step.preferBinary?, Step.flag?, Step.features?, Step.source?,
      Step.warnings, Overrides.features?, Option.map_map, Function.comp_def]
    rfl
  · simp

theorem merges_apply {step : Step} {draft next : Draft} :
    Merges step.apply draft next ↔ step.IsAccepted ∧ next = draft.after step := by
  cases step with
  | table entries base source => exact merges_mergeTable
  | commandLine overrides base =>
    simp only [Step.apply, merges_modify, override_eq, Step.IsAccepted, true_and]
  | cycle directory => simp only [Step.apply, merges_modify, Step.IsAccepted, true_and, Draft.after]

/-! ## The steps of a run -/

/-- Steps merge if each of them is accepted, and then each changes what the ones before it left. -/
theorem merges_run {steps : List Step} {draft next : Draft} :
    Merges (run steps) draft next ↔
      (∀ step ∈ steps, step.IsAccepted) ∧ next = steps.foldl Draft.after draft := by
  induction steps generalizing draft with
  | nil => simp [run, merges_pure]
  | cons step steps ih =>
    have hrun : run (step :: steps) = step.apply >>= fun _ => run steps := rfl
    rw [hrun, merges_bind]
    simp only [merges_apply, ih, List.forall_mem_cons, List.foldl_cons, and_assoc, exists_and_left,
      exists_eq_left]

theorem last?_concat {Setting : Type} (setting : Step → Option Setting) (steps : List Step)
    (step : Step) : last? setting (steps ++ [step]) = (setting step).or (last? setting steps) := by
  rw [last?, List.reverse_concat, List.findSome?_cons]
  cases setting step <;> rfl

theorem eraseDups_eraseDups {α : Type} [BEq α] [LawfulBEq α] (items : List α) :
    items.eraseDups.eraseDups = items.eraseDups := by
  induction items using List.reverseRec with
  | nil => rfl
  | append_singleton items item ih =>
    rw [List.eraseDups_append, List.eraseDups_append, ih]
    by_cases hold : item ∈ items
    · simp [List.removeAll, hold]
    · have hself : [item].eraseDups = [item] := rfl
      simp [List.removeAll, hself, hold]

/-- Settings as a step leaves them. -/
def after (config : Config) (step : Step) : Config where
  output := step.output?.getD config.output
  template := step.template?.getD config.template
  expandMacros := step.expandMacros?.getD config.expandMacros
  features := (step.features?.map List.eraseDups).getD config.features
  allFeatures := step.allFeatures?.getD config.allFeatures
  noDefaultFeatures := step.noDefaultFeatures?.getD config.noDefaultFeatures
  preferBinary := step.preferBinary?.getD config.preferBinary
  sources := config.sources ++ step.source?.toList
  warnings := config.warnings ++ step.warnings

/-- One more step changes the settled settings as it says. -/
theorem settled_concat (directory : Files.Location) (steps : List Step) (step : Step) :
    settled directory (steps ++ [step]) = (settled directory steps).after step := by
  simp only [settled, after, last?_concat, Option.getD_or, List.filterMap_append,
    List.flatMap_append, List.cons_append]
  congr 1
  · cases step.features? <;> rfl
  · cases step.source? <;> simp

/-- A step that merges something does to frozen settings what it does to the draft. -/
theorem freeze_after (draft : Draft) {step : Step} (hmerge : step.isMerge = true)
    (here : Files.Location) : (draft.after step).freeze here = (draft.freeze here).after step := by
  rw [Draft.after, Draft.freeze, Draft.freeze, after]
  · congr 1
    · cases step.template? <;> rfl
    · cases step.features? <;> rfl
  · rintro directory rfl
    cases hmerge

theorem freeze_cycle (draft : Draft) (there here : Files.Location) :
    (draft.after (.cycle there)).freeze here = draft.freeze there := by
  simp only [Draft.after, Draft.freeze, thaw, eraseDups_eraseDups, Option.getD_some]

theorem after_cycle (config : Config) (there : Files.Location) :
    config.after (.cycle there) = config := by
  simp [after, Step.output?, Step.template?, Step.text?, Step.expandMacros?, Step.allFeatures?,
    Step.noDefaultFeatures?, Step.preferBinary?, Step.flag?, Step.features?, Step.source?,
    Step.warnings]

/-- Wherever a draft is frozen, it gives the settled settings. -/
def IsSettled (directory : Files.Location) (steps : List Step) (draft : Draft) : Prop :=
  ∀ here, draft.freeze here = settled directory steps

theorem IsSettled.after {directory : Files.Location} {steps : List Step} {draft : Draft}
    (hsettled : IsSettled directory steps draft) (step : Step) :
    IsSettled directory (steps ++ [step]) (draft.after step) := by
  intro here
  rw [settled_concat]
  cases hmerge : step.isMerge with
  | true => rw [freeze_after draft hmerge, hsettled here]
  | false =>
    cases step with
    | cycle there => rw [freeze_cycle, hsettled there, after_cycle]
    | table | commandLine => cases hmerge

/-- Steps lead from the defaults of a directory to a draft that is settled. -/
theorem isSettled_foldl (directory : Files.Location) (steps : List Step) :
    IsSettled directory steps (steps.foldl Draft.after (.defaults directory)) := by
  induction steps using List.reverseRec with
  | nil => exact fun here => rfl
  | append_singleton steps step ih =>
    rw [List.foldl_append]
    exact ih.after step

/-- Freezing and thawing in between settles nothing. -/
theorem settled_filter_isMerge (directory : Files.Location) (steps : List Step) :
    settled directory (steps.filter Step.isMerge) = settled directory steps := by
  induction steps using List.reverseRec with
  | nil => rfl
  | append_singleton steps step ih =>
    rw [List.filter_append, settled_concat, ← ih]
    cases step with
    | cycle there => rw [after_cycle]; simp [Step.isMerge]
    | table | commandLine => exact settled_concat ..

/-- Only the steps that merge something can fail. -/
theorem forall_isAccepted_filter_isMerge (steps : List Step) :
    (∀ step ∈ steps.filter Step.isMerge, step.IsAccepted) ↔ ∀ step ∈ steps, step.IsAccepted := by
  refine ⟨fun haccepted step hmem => ?_, fun haccepted step hmem =>
    haccepted step (List.mem_filter.mp hmem).1⟩
  cases hmerge : step.isMerge with
  | true => exact haccepted step (List.mem_filter.mpr ⟨hmem, hmerge⟩)
  | false =>
    cases step with
    | cycle => trivial
    | table | commandLine => cases hmerge

/-- A run of steps succeeds if every table in it is well typed. Then each setting is what the last
step that sets it says, and cycles of freezing and thawing make no difference, wherever they are. -/
theorem freeze_run_eq_settled (directory here : Files.Location) (steps : List Step) :
    ((∃ draft, Merges (run steps) (.defaults directory) draft) ↔
      ∀ step ∈ steps, step.IsAccepted) ∧
    ∀ draft, Merges (run steps) (.defaults directory) draft →
      draft.freeze here = settled directory steps ∧
      ∀ others : List Step, others.filter Step.isMerge = steps.filter Step.isMerge →
        ∃ other, Merges (run others) (.defaults directory) other ∧
          other.freeze here = draft.freeze here := by
  simp only [merges_run]
  refine ⟨by simp, ?_⟩
  rintro _ ⟨haccepted, rfl⟩
  refine ⟨isSettled_foldl directory steps here, fun others hsame =>
    ⟨_, ⟨?_, rfl⟩, ?_⟩⟩
  · rwa [← forall_isAccepted_filter_isMerge, hsame, forall_isAccepted_filter_isMerge]
  · rw [isSettled_foldl directory others here, isSettled_foldl directory steps here,
      ← settled_filter_isMerge, hsame, settled_filter_isMerge]

/-- A table in `/crate`, frozen and thawed, and then the command line in `/work`. -/
def tableThenCommandLine : List Step :=
  [.table [("out", .text "DOC.md"), ("template", .text "a.j2"), ("prefer_bin", .bool true),
      ("features", .list [.text "b, a", .text "b"]), ("colour", .int 1)] ⟨1, ["crate"]⟩ "c.toml",
    .cycle ⟨1, ["elsewhere"]⟩,
    .commandLine { template := "b.j2", features := some [], preferBinary := some false }
      ⟨1, ["work"]⟩]

/-- The command line replaces the template and the flag; the output and the features of the table
stay. -/
theorem freeze_run_tableThenCommandLine :
    (∀ step ∈ tableThenCommandLine, step.IsAccepted) ∧
      ∃ draft, Merges (run tableThenCommandLine) (.defaults ⟨1, ["work"]⟩) draft ∧
        draft.freeze ⟨1, ["work"]⟩ =
          { output := some ⟨1, ["crate", "DOC.md"]⟩
            template := ⟨1, ["work", "b.j2"]⟩
            features := ["b", "a"]
            sources := ["<defaults>", "c.toml", "<cli>"]
            warnings := ["c.toml: unknown configuration key `colour`"] } ∧
        ∃ other, Merges (run (tableThenCommandLine.filter Step.isMerge))
            (.defaults ⟨1, ["work"]⟩) other ∧
          other.freeze ⟨1, ["work"]⟩ = draft.freeze ⟨1, ["work"]⟩ := by
  obtain ⟨hruns, hsettled⟩ :=
    freeze_run_eq_settled ⟨1, ["work"]⟩ ⟨1, ["work"]⟩ tableThenCommandLine
  have haccepted : ∀ step ∈ tableThenCommandLine, step.IsAccepted := by decide +kernel
  obtain ⟨draft, hmerges⟩ := hruns.mpr haccepted
  obtain ⟨hfrozen, hothers⟩ := hsettled draft hmerges
  refine ⟨haccepted, draft, hmerges, hfrozen.trans (by decide +kernel),
    hothers _ (by simp)⟩

end CrateReadme.Config
