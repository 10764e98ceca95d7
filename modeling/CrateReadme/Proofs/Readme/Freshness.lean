import CrateReadme.Proofs.Link.Trace
import CrateReadme.Proofs.Readme.Token
import CrateReadme.Proofs.Snapshot.RoundTrip
import CrateReadme.Readme.Check

/-!
# A new readme is fresh

A readme that has just been made is found to be of the current schema, template and documentation,
and with the library names of now. Only a dependency whose requirement does not accept the recorded
version can speak against it.

A snapshot has one entry for a published name and keeps the first of the most specific versions
there. A dependency is judged by that version, wherever it came from: another dependency may be
published under the same name, and a link to a name that the source does not know has no version.
-/

namespace CrateReadme

/-- A snapshot that was made from a template and a documentation of now. -/
structure Snapshot.IsMadeFrom (snapshot : Snapshot) (template docs : String) : Prop where
  schema : snapshot.schema = currentSchema
  template : snapshot.template = digest template
  docs : snapshot.docs = digest docs
  nodup_names : snapshot.names.Nodup
  libName : ∀ entry ∈ snapshot.crates, entry.libName = libNameOf entry.name

namespace Snapshot

variable {snapshot : Snapshot} {template docs : String}

theorem isMadeFrom_record (context : Link.Context) (raws : List String) (template docs : String) :
    ((start template docs).record (context.reached raws)).IsMadeFrom template docs where
  schema := (record_frame _ _).1
  template := (record_frame _ _).2.1
  docs := (record_frame _ _).2.2
  nodup_names := nodup_names_record (show (start template docs).names.Nodup from List.nodup_nil) _
  libName := by
    intro entry hmem
    rcases mem_crates_record hmem with ⟨target, htarget, rfl⟩ | hmem
    · rw [libName_entryFor, name_entryFor]
      exact Link.Context.libName_of_mem_reached htarget
    · cases hmem

theorem IsMadeFrom.sorted (hmade : snapshot.IsMadeFrom template docs) :
    snapshot.sorted.IsMadeFrom template docs where
  schema := hmade.schema
  template := hmade.template
  docs := hmade.docs
  nodup_names := nodup_names_sorted hmade.nodup_names
  libName := fun entry hmem => hmade.libName entry (snapshot.perm_sorted.mem_iff.mp hmem)

theorem IsMadeFrom.ofToken_token (hmade : snapshot.IsMadeFrom template docs) :
    ofToken snapshot.token = .ok snapshot.sorted := by
  apply Snapshot.ofToken_token
  · rw [hmade.schema]
    decide
  · rw [hmade.template, length_digest]
  · rw [hmade.docs, length_digest]
  · exact hmade.nodup_names

theorem IsMadeFrom.libName_of_find? (hmade : snapshot.IsMadeFrom template docs)
    {dependency : Dependency} {entry : LinkedCrate}
    (hfind : snapshot.find? dependency.published = some entry) :
    entry.libName = dependency.libName := by
  obtain ⟨hmem, hname⟩ := (find?_eq_some_iff hmade.nodup_names).mp hfind
  rw [hmade.libName entry hmem, hname, Dependency.libName]

/-- A dependency agrees with a snapshot: if its crate is recorded, the recorded version is known and
satisfies the requirement, if there is one. -/
def Agrees (snapshot : Snapshot) (dependency : Dependency) : Prop :=
  ∀ entry, snapshot.find? dependency.published = some entry →
    ∀ requirement, dependency.requirement = some requirement →
      ∃ version, entry.version = some version ∧ requirement.accepts version

theorem agrees_sorted_iff (hmade : snapshot.IsMadeFrom template docs) (dependency : Dependency) :
    snapshot.sorted.Agrees dependency ↔ snapshot.Agrees dependency := by
  rw [Agrees, Agrees, find?_eq_of_perm snapshot.perm_sorted hmade.nodup_names]

theorem accepts_iff_agrees (hmade : snapshot.IsMadeFrom template docs) (dependency : Dependency) :
    snapshot.accepts dependency.published dependency.requirement dependency.libName true ↔
      snapshot.Agrees dependency := by
  rw [accepts, Agrees]
  cases hfind : snapshot.find? dependency.published with
  | none => simp
  | some entry =>
      have hlib := hmade.libName_of_find? hfind
      cases hrequirement : dependency.requirement with
      | none => simp [hlib]
      | some requirement => cases hversion : entry.version <;> simp [hlib, hversion]

end Snapshot

namespace Readme

/-- The outcome names the first dependency in the order of the table that does not agree with a
snapshot; if there is none, the readme is up to date. -/
def NamesFirstDisagreement (snapshot : Snapshot) (dependencies : List Dependency)
    (outcome : Outcome) : Prop :=
  (∀ dependency ∈ dependencies, snapshot.Agrees dependency) ∧ outcome = .upToDate ∨
    ∃ earlier dependency later, dependencies = earlier ++ dependency :: later ∧
      (∀ other ∈ earlier, snapshot.Agrees other) ∧ ¬snapshot.Agrees dependency ∧
      outcome = .incompatible dependency.published

theorem judge_of_isMadeFrom {snapshot : Snapshot} {input : Input} {template : String}
    (hmade : snapshot.IsMadeFrom template input.docs) :
    judge snapshot input template =
      match incompatible? snapshot input.dependencies with
      | some dependency => .incompatible dependency.published
      | none => .upToDate := by
  have hcurrent : snapshot.isOutdated = false := by simp [Snapshot.isOutdated, hmade.schema]
  have hsame : snapshot.isOf template input.docs := by
    simp [Snapshot.isOf, hmade.template, hmade.docs]
  rw [judge, hcurrent, hsame]
  rfl

/-- The verdict names the first dependency that the snapshot does not agree with, if there is one.
-/
theorem namesFirstDisagreement_judge {snapshot : Snapshot} {input : Input} {template : String}
    (hmade : snapshot.IsMadeFrom template input.docs) :
    NamesFirstDisagreement snapshot input.dependencies (judge snapshot input template) := by
  rw [judge_of_isMadeFrom hmade]
  cases hfind : incompatible? snapshot input.dependencies with
  | none =>
      rw [incompatible?, List.find?_eq_none] at hfind
      refine Or.inl ⟨fun dependency hmem => ?_, rfl⟩
      rw [← Snapshot.accepts_iff_agrees hmade]
      simpa using hfind dependency hmem
  | some dependency =>
      rw [incompatible?, List.find?_eq_some_iff_append] at hfind
      obtain ⟨hrefuses, earlier, later, hsplit, hearlier⟩ := hfind
      refine Or.inr ⟨earlier, dependency, later, hsplit, fun other hmem => ?_, ?_, rfl⟩
      · rw [← Snapshot.accepts_iff_agrees hmade]
        simpa using hearlier other hmem
      · rw [← Snapshot.accepts_iff_agrees hmade]
        simpa using hrefuses

/-- A snapshot of the same input is up to date if and only if it agrees with every dependency. -/
theorem judge_eq_upToDate_iff {snapshot : Snapshot} {input : Input} {template : String}
    (hmade : snapshot.IsMadeFrom template input.docs) :
    judge snapshot input template = .upToDate ↔
      ∀ dependency ∈ input.dependencies, snapshot.Agrees dependency := by
  constructor
  · intro hjudge
    rcases namesFirstDisagreement_judge hmade with ⟨hagree, -⟩ | ⟨_, dependency, _, -, -, -, hfirst⟩
    · exact hagree
    · rw [hjudge] at hfirst
      cases hfirst
  · intro hagree
    rcases namesFirstDisagreement_judge hmade with
      ⟨-, hjudge⟩ | ⟨earlier, dependency, later, hsplit, -, hrefuses, -⟩
    · exact hjudge
    · exact absurd (hagree dependency (by simp [hsplit])) hrefuses

/-- The snapshot that is left behind by making several links. -/
def linkedSnapshot (input : Input) (template : String) (raws : List String) : Snapshot :=
  (input.linkContext.resolveAll { snapshot := .start template input.docs } raws).2.snapshot

theorem linkedSnapshot_eq_record (input : Input) (template : String) (raws : List String) :
    linkedSnapshot input template raws =
      (Snapshot.start template input.docs).record (input.linkContext.reached raws) :=
  Link.Context.snapshot_resolveAll _ _ _

theorem isMadeFrom_linkedSnapshot (input : Input) (template : String) (raws : List String) :
    (linkedSnapshot input template raws).IsMadeFrom template input.docs := by
  rw [linkedSnapshot_eq_record]
  exact Snapshot.isMadeFrom_record _ _ _ _

theorem exists_snapshot_draft (input : Input) (template : String) :
    ∃ raws, (draft input template).trace.snapshot = linkedSnapshot input template raws := by
  simp only [draft, resolveLinks]
  exact ⟨_, rfl⟩

theorem snapshot_of_render {input : Input} {template : String} {rendering : Rendering}
    (hrender : render input template = .ok rendering) :
    rendering.snapshot = (draft input template).trace.snapshot := by
  unfold render at hrender
  split at hrender
  · cases hrender
  · simp only at hrender
    split at hrender
    · cases hrender
    · rw [← Except.ok.inj hrender]

theorem isMadeFrom_of_render {input : Input} {template : String} {rendering : Rendering}
    (hrender : render input template = .ok rendering) :
    rendering.snapshot.IsMadeFrom template input.docs := by
  obtain ⟨raws, hlinked⟩ := exists_snapshot_draft input template
  rw [snapshot_of_render hrender, hlinked]
  exact isMadeFrom_linkedSnapshot input template raws

/-- What may follow a trailer without becoming part of its token. -/
def EndsTrailer (links : List (String × String)) (after : String) : Prop :=
  links ≠ [] ∨ after = "" ∨ ∃ rest, after = " " ++ rest ∨ after = "\n" ++ rest

/-- What stands behind a token in the trailer ends it. -/
theorem EndsTrailer.endsToken {links : List (String × String)} {after : String} {rest : List Char}
    (hafter : EndsTrailer links after) (hnone : links = [] → rest = [])
    (hsome : links ≠ [] → rest.head? = some '\n') : EndsToken (rest ++ after.toList) := by
  intro c hmem
  by_cases hlinks : links = []
  · rw [hnone hlinks, List.nil_append] at hmem
    rcases hafter with hlinks' | rfl | ⟨later, rfl | rfl⟩
    · exact absurd hlinks hlinks'
    · cases hmem
    · rw [String.toList_append] at hmem
      cases hmem
      rfl
    · rw [String.toList_append] at hmem
      cases hmem
      rfl
  · rw [List.head?_append, hsome hlinks] at hmem
    cases hmem
    rfl

theorem token?_of_trailer {readme before after : String} {snapshot : Snapshot}
    {links : List (String × String)} (hreadme : readme = before ++ trailer snapshot links ++ after)
    (hbefore : ¬marker.toList <:+: (before ++ " ").toList) (hafter : EndsTrailer links after) :
    token? readme = some snapshot.token := by
  obtain ⟨rest, htrailer, hnone, hsome⟩ := exists_toList_trailer snapshot links
  have hsplit : readme.toList =
      before.toList ++ (marker.toList ++ (snapshot.token.toList ++ (rest ++ after.toList))) := by
    rw [hreadme, String.toList_append, String.toList_append, htrailer]
    simp only [List.append_assoc]
  exact token?_of_first hsplit (by simpa using hbefore) (fun c => endsToken_of_mem_token)
    (hafter.endsToken hnone hsome)

/-! ## A template of two lines -/

/-- The template that writes a line and the link definitions. -/
def greeting : String :=
  "Hi\n\x7b\x7b links \x7d\x7d\n"

def greetingProgram : Template.Program where
  locals := [("links", .given)]
  body := [.text "Hi\n".toList, .output [.name "links"], .text "\n".toList]
  blocks := []

theorem ofText_greeting : Template.Program.ofText greeting.toList = .ok greetingProgram := by
  apply Template.Program.ofText_eq_of_isOf
  decide +kernel

open Template in
/-- The template fills in the link definitions, whatever they are. -/
theorem render_greeting (fields : Fields) :
    Template.render greeting.toList fields.values =
      .ok ("Hi\n".toList ++ fields.links.toList ++ "\n".toList) := by
  let frames : Array Frame := #[[("links", some (.text fields.links.toList))]]
  have hall : ∀ contexts : Array Context,
      executeAll ⟨callsWithin callDepth, ⟨[0], 0, .off, true⟩, .none⟩ greetingProgram.body
        { (default : State) with blocks := [], frames, contexts } =
      .ok ((), { (default : State) with
        blocks := [], frames, contexts
        output := #[some "Hi\n".toList, some fields.links.toList, some "\n".toList] }) := by
    intro contexts
    simp only [greetingProgram, executeAll, execute, writeAll, evaluate]
    rfl
  have hrun : ∃ last, greetingProgram.run fields.values
        { (default : State) with blocks := [], standIns := .usual } =
      .ok ("Hi\n".toList ++ fields.links.toList ++ "\n".toList, last) := by
    have hwritten : #[some "Hi\n".toList, some fields.links.toList, some "\n".toList] =
        (["Hi\n".toList, fields.links.toList, "\n".toList].map some).toArray := rfl
    obtain ⟨last, hlast⟩ := capturing_eq rfl (hall #[⟨[], fields.givenValues ++
      functionKinds.map fun entry => (entry.1, Value.kind entry.2)⟩]) hwritten
    refine ⟨last, ?_⟩
    rw [Program.run, Run.bind_of_ok (fields.mapM_values _)]
    exact hlast
  obtain ⟨last, hrun⟩ := hrun
  rw [Template.render, ofText_greeting]
  change Except.bind (greetingProgram.run _ _) _ = _
  rw [show greetingProgram.blocks = [] from rfl, hrun]
  rfl

theorem text_render_greeting {input : Input} {host : Option String}
    (hhost : Host.ofRepository? input.repository = some host) :
    ∃ rendering, render input greeting = .ok rendering ∧
      rendering.text = "Hi\n" ++ trailer rendering.snapshot rendering.links ++ "\n" := by
  generalize hmade : draft input greeting = made
  let fields : Fields :=
    ⟨input.crate, input.version.render, input.artifact.label, input.repository, host,
      input.license, input.rustVersion, String.ofList made.body,
      trailer made.trace.snapshot made.links⟩
  refine ⟨_, render_of_template hhost hmade (render_greeting fields), ?_⟩
  rw [← String.toList_inj]
  simp [fields]

/-! ## Checking a rendering -/

/-- If the marker does not occur before the trailer of a rendering, its token is found, and only the
first dependency in the order of the table that does not agree can keep it from being up to date.
The library names always agree. -/
theorem check_rendering {input : Input} {template : String} {rendering : Rendering}
    {before after : String} (hrender : render input template = .ok rendering)
    (htext : rendering.text = before ++ trailer rendering.snapshot rendering.links ++ after)
    (hbefore : ¬marker.toList <:+: (before ++ " ").toList)
    (hafter : EndsTrailer rendering.links after) :
    token? rendering.text = some rendering.snapshot.token ∧
      (∃ outcome, check input template { text := rendering.text } = .ok { outcome } ∧
        NamesFirstDisagreement rendering.snapshot input.dependencies outcome) ∧
      ∀ dependency ∈ input.dependencies, ∀ entry,
        rendering.snapshot.find? dependency.published = some entry →
          entry.libName = dependency.libName := by
  have hmade := isMadeFrom_of_render hrender
  have htoken := token?_of_trailer htext hbefore hafter
  refine ⟨htoken, ⟨judge rendering.snapshot.sorted input template, ?_, ?_⟩, ?_⟩
  · rw [check, htoken]
    simp only [hmade.ofToken_token]
  · have hjudge := namesFirstDisagreement_judge hmade.sorted
    simpa only [NamesFirstDisagreement, Snapshot.agrees_sorted_iff hmade] using hjudge
  · intro dependency _ entry hfind
    exact hmade.libName_of_find? hfind

theorem check_rendering_linked :
    let dependency : Dependency :=
      { ident := "dep", published := "dep", requirement := (Requirement.parse "^1.2").toOption,
        version := Version.ofText? "1.3.0" }
    let input : Input :=
      { crate := "my-crate", version := default, artifact := .library, docs := "[`dep::Item`]",
        scope := .empty, dependencies := [dependency], repository := none, license := none,
        rustVersion := none }
    let template : String := "Hi\n\x7b\x7b links \x7d\x7d\n"
    ∃ rendering, render input template = .ok rendering ∧
      token? rendering.text = some rendering.snapshot.token ∧
      (∃ outcome, check input template { text := rendering.text } = .ok { outcome } ∧
        NamesFirstDisagreement rendering.snapshot [dependency] outcome) ∧
      ∀ other ∈ [dependency], ∀ entry, rendering.snapshot.find? other.published = some entry →
        entry.libName = other.libName := by
  intro dependency input template
  obtain ⟨rendering, hrender, htext⟩ := text_render_greeting (show
    Host.ofRepository? input.repository = some none from rfl)
  exact ⟨rendering, hrender, check_rendering hrender htext (by decide)
    (Or.inr (Or.inr ⟨"", Or.inr rfl⟩))⟩

/-! ## When a new readme is stale -/

/-- The links of several destinations that lead to a crate, in their order. -/
def linksTo (input : Input) (raws : List String) (name : String) : List Link.Target :=
  (input.linkContext.reached raws).filter (·.crate = name)

/-- Every dependency was resolved to a version that its requirement accepts, if it was resolved. -/
def ResolvedAsRequired (dependencies : List Dependency) : Prop :=
  ∀ dependency ∈ dependencies, ∀ requirement ∈ dependency.requirement,
    ∀ version ∈ dependency.version, requirement.accepts version

instance (dependencies : List Dependency) : Decidable (ResolvedAsRequired dependencies) :=
  inferInstanceAs (Decidable (∀ dependency ∈ dependencies, ∀ requirement ∈ dependency.requirement,
    ∀ version ∈ dependency.version, requirement.accepts version))

/-- The snapshot of some links agrees with a dependency if and only if its requirement accepts the
first of the most specific links into it. -/
theorem agrees_linkedSnapshot_iff (input : Input) (template : String) (raws : List String)
    (dependency : Dependency) :
    (linkedSnapshot input template raws).Agrees dependency ↔
      ∀ requirement ∈ dependency.requirement, ∀ target,
        Snapshot.IsFirstBest (linksTo input raws dependency.published) target →
          ∃ version ∈ target.version, requirement.accepts version := by
  have hholds : Snapshot.Holds (linksTo input raws dependency.published)
      ((linkedSnapshot input template raws).find? dependency.published) := by
    rw [linkedSnapshot_eq_record]
    exact Snapshot.holds_record rfl _ _
  rw [Snapshot.Agrees]
  cases hfind : (linkedSnapshot input template raws).find? dependency.published with
  | none =>
      rw [hfind] at hholds
      have hnone : linksTo input raws dependency.published = [] := hholds
      constructor
      · intro _ requirement _ target hbest
        rw [hnone] at hbest
        cases hbest.mem
      · intro _ entry hentry
        cases hentry
  | some entry =>
      rw [hfind] at hholds
      obtain ⟨best, hbest, rfl⟩ := hholds
      constructor
      · intro hagrees requirement hrequirement target htarget
        rw [htarget.unique hbest]
        exact hagrees _ rfl requirement hrequirement
      · intro hbests found hfound requirement hrequirement
        cases hfound
        exact hbests requirement hrequirement best hbest

/-- A new snapshot is up to date if and only if every requirement accepts the version of the first
of the most specific links to its crate. If all dependencies were resolved as required, it is enough
that the links to a required crate have the version to which the dependency was resolved. -/
theorem judge_linkedSnapshot (input : Input) (template : String) (raws : List String) :
    (judge (linkedSnapshot input template raws) input template = .upToDate ↔
      ∀ dependency ∈ input.dependencies, ∀ requirement ∈ dependency.requirement, ∀ target,
        Snapshot.IsFirstBest (linksTo input raws dependency.published) target →
          ∃ version ∈ target.version, requirement.accepts version) ∧
    (ResolvedAsRequired input.dependencies →
      (∀ dependency ∈ input.dependencies, dependency.requirement ≠ none →
        ∀ target ∈ linksTo input raws dependency.published,
          target.version = dependency.version ∧ dependency.version ≠ none) →
      judge (linkedSnapshot input template raws) input template = .upToDate) := by
  have hiff : judge (linkedSnapshot input template raws) input template = .upToDate ↔
      ∀ dependency ∈ input.dependencies, ∀ requirement ∈ dependency.requirement, ∀ target,
        Snapshot.IsFirstBest (linksTo input raws dependency.published) target →
          ∃ version ∈ target.version, requirement.accepts version := by
    rw [judge_eq_upToDate_iff (isMadeFrom_linkedSnapshot input template raws)]
    simp only [agrees_linkedSnapshot_iff]
  refine ⟨hiff, fun hresolved hown => hiff.mpr ?_⟩
  intro dependency hdependency requirement hrequirement target hbest
  have hrequired : dependency.requirement ≠ none := Option.ne_none_iff_exists'.mpr ⟨_, hrequirement⟩
  obtain ⟨hversion, hknown⟩ := hown dependency hdependency hrequired target hbest.mem
  obtain ⟨version, hsome⟩ := Option.ne_none_iff_exists'.mp hknown
  exact ⟨version, hversion.trans hsome,
    hresolved dependency hdependency requirement hrequirement version hsome⟩

/-- A package with the given dependencies and nothing else to tell. -/
def packageWith (dependencies : List Dependency) : Input where
  crate := "my-crate"
  version := default
  artifact := .library
  docs := ""
  scope := .empty
  dependencies := dependencies
  repository := none
  license := none
  rustVersion := none

/-- A dependency of the source on the crate `foo`. -/
def onFoo (ident requirement : String) (version : Option Version) : Dependency where
  ident := ident
  published := "foo"
  requirement := (Requirement.parse requirement).toOption
  version := version

theorem judge_linkedSnapshot_same_version :
    let input := packageWith [onFoo "a" "^1" (Version.ofText? "1.5.0"),
      onFoo "b" "~1.5" (Version.ofText? "1.5.0")]
    judge (linkedSnapshot input "" ["a::X", "b::Y"]) input "" = .upToDate := by
  intro input
  have hresolved : ResolvedAsRequired input.dependencies := by decide +kernel
  have hown : ∀ dependency ∈ input.dependencies, dependency.requirement ≠ none →
      ∀ target ∈ linksTo input ["a::X", "b::Y"] dependency.published,
        target.version = dependency.version ∧ dependency.version ≠ none := by
    decide +kernel
  exact (judge_linkedSnapshot input "" ["a::X", "b::Y"]).2 hresolved hown

theorem judge_of_incompatible? {input : Input} {template : String} {raws : List String}
    {name : String}
    (hfirst : (incompatible? (linkedSnapshot input template raws) input.dependencies).map
      Dependency.published = some name) :
    judge (linkedSnapshot input template raws) input template = .incompatible name := by
  obtain ⟨dependency, hdependency, rfl⟩ := Option.map_eq_some_iff.mp hfirst
  rw [judge_of_isMadeFrom (isMadeFrom_linkedSnapshot input template raws), hdependency]

/-- Dependencies that are resolved as required do not keep a new snapshot from being stale: a link
may have the version of another dependency, a dependency may be unresolved, and a link may go by the
published name although the source calls the dependency otherwise. -/
theorem judge_linkedSnapshot_stale :
    let renamed := packageWith [onFoo "a" "^1" (Version.ofText? "1.5.0"),
      onFoo "b" "^2" (Version.ofText? "2.0.0")]
    let unresolved := packageWith [onFoo "foo" "^1" none]
    let hidden := packageWith [onFoo "a" "^1" (Version.ofText? "1.5.0")]
    (ResolvedAsRequired renamed.dependencies ∧
      judge (linkedSnapshot renamed "" ["a::X", "b::Y"]) renamed "" = .incompatible "foo") ∧
    (ResolvedAsRequired unresolved.dependencies ∧
      judge (linkedSnapshot unresolved "" ["foo::X"]) unresolved "" = .incompatible "foo") ∧
    (ResolvedAsRequired hidden.dependencies ∧
      judge (linkedSnapshot hidden "" ["foo::X"]) hidden "" = .incompatible "foo") := by
  intro renamed unresolved hidden
  refine ⟨⟨by decide +kernel, ?_⟩, ⟨by decide +kernel, ?_⟩, by decide +kernel, ?_⟩
  · exact judge_of_incompatible? (by decide +kernel)
  · exact judge_of_incompatible? (by decide +kernel)
  · exact judge_of_incompatible? (by decide +kernel)

end Readme

end CrateReadme
