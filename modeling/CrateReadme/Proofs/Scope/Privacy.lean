import CrateReadme.Proofs.Scope.Building
import CrateReadme.Proofs.Scope.Steps

/-!
# Private modules stay hidden

The clean-up looks at one import at a time, and following a path puts several of them together. The
part of a path that decides is the first one below the crate root: a step replaces it by that of an
import, which the clean-up has looked at, unless the import is of the crate root itself. Then a
later part of the path comes to the root. An import of a private module itself is no import out of
it, and an absolute path is taken as it is. Where following passes none of these, it never leads
into a private module.
-/

namespace CrateReadme.Scope

open Source

variable {scope : Scope} {crate path next : String} {binding : Binding}

/-- The parts of a path below the crate root. There are none if the path leads to another crate. -/
def innerParts? (crate path : String) : Option (List String) :=
  if Path.isAbsolute path then
    match Path.parts path with
    | _ :: first :: rest => if first = crate then some (rest.dropWhile Path.isRootWord) else none
    | _ => none
  else
    some ((Path.parts path).dropWhile Path.isRootWord)

/-- The path is that of something in a private module: `name::rest` or `::crate::name::rest`, where
`name` is that of the module. -/
def LeadsInside (scope : Scope) (crate path : String) : Prop :=
  ∃ name ∈ scope.privateModules, ∃ rest ≠ [], path = Path.ofParts (name :: rest) ∨
    path = Path.ofParts ((Path.separator ++ crate) :: name :: rest)

/-- Imports of the path lay private modules open: it is the path of the crate root or of a private
module, or an absolute path into one. -/
def Opens (scope : Scope) (crate path : String) : Prop :=
  path = "" ∨ innerParts? crate path = some [] ∨
    ∃ name ∈ scope.privateModules, ∃ rest, innerParts? crate path = some (name :: rest) ∧
      (rest = [] ∨ Path.isAbsolute path)

/-- Below the crate root the path does not start with a private module. -/
def StaysOutside (scope : Scope) (crate path : String) : Prop :=
  ∀ name ∈ scope.privateModules, ∀ rest, innerParts? crate path ≠ some (name :: rest)

/-- The inner parts of a path are parts of it. -/
theorem mem_of_mem_innerParts? {inner : List String} (hinner : innerParts? crate path = some inner)
    {part : String} (hmem : part ∈ inner) : part ∈ Path.parts path := by
  rw [innerParts?] at hinner
  split at hinner
  · split at hinner
    · next first second rest hparts =>
      split at hinner
      · cases hinner
        have hrest := (List.dropWhile_suffix _).subset hmem
        rw [hparts]
        exact List.mem_cons_of_mem _ (List.mem_cons_of_mem _ hrest)
      · cases hinner
    · cases hinner
  · cases hinner
    exact (List.dropWhile_suffix _).subset hmem

theorem staysOutside_of_parts (hpath : ∀ part ∈ Path.parts path, part ∉ scope.privateModules) :
    scope.StaysOutside crate path :=
  fun name hname _ hinner =>
    hpath name (mem_of_mem_innerParts? hinner List.mem_cons_self) hname

theorem isAbsolute_ofParts_cons {front : String} (hne : front ≠ "") (hfront : Path.EndsPlain front)
    (tail : List String) :
    Path.isAbsolute (Path.ofParts (front :: tail)) = Path.isAbsolute front := by
  by_cases hempty : tail = []
  · rw [hempty, Path.ofParts_singleton]
  · rw [Path.ofParts_cons _ hempty, String.append_assoc, Path.isAbsolute_append hne hfront]

/-- What stands behind a path below the crate root stays behind it. -/
theorem innerParts?_ofParts_cons {front whole head : String} {tail : List String}
    (hne : front ≠ "") (hfront : Path.EndsPlain front) (hwhole : Path.parts whole = head :: tail)
    (hinner : innerParts? crate front ≠ some []) :
    innerParts? crate (Path.ofParts (front :: tail)) =
      (innerParts? crate front).map fun inner => inner ++ tail := by
  have happend : ∀ parts : List String, parts.dropWhile Path.isRootWord ≠ [] →
      (parts ++ tail).dropWhile Path.isRootWord = parts.dropWhile Path.isRootWord ++ tail := by
    intro parts hparts
    rw [List.dropWhile_append, if_neg (by simpa using hparts)]
  rw [innerParts?] at hinner ⊢
  rw [innerParts?, isAbsolute_ofParts_cons hne hfront, Path.parts_ofParts_cons hfront hwhole]
  by_cases habsolute : Path.isAbsolute front
  · obtain ⟨others, hothers, hparts⟩ := Path.isAbsolute_iff_parts.mp habsolute
    obtain ⟨first, rest, rfl⟩ := List.exists_cons_of_ne_nil hothers
    rw [if_pos habsolute, hparts] at hinner ⊢
    simp only [List.cons_append, if_pos habsolute] at hinner ⊢
    split_ifs at hinner ⊢
    · rw [happend rest (by simpa using hinner)]
      rfl
    · rfl
  · rw [if_neg habsolute] at hinner ⊢
    rw [if_neg habsolute, happend _ (by simpa using hinner)]
    rfl

/-- A step by an import that lays nothing open does not lead into a private module. -/
theorem staysOutside_of_step (hproper : scope.IsProper)
    (hclean : scope.Holds fun binding =>
      binding.kind = .imported → scope.leadsIntoPrivateModule binding.path = false)
    (hstep : scope.step? path = some (binding, next)) (hopens : ¬scope.Opens crate binding.path) :
    scope.StaysOutside crate next := by
  obtain ⟨-, head, tail, hparts, -, hfront, rfl⟩ := step?_eq_some_iff.mp hstep
  have hbinding := hproper.bindings.of_front? hfront
  have hne : binding.path ≠ "" := fun hempty => hopens (Or.inl hempty)
  have hroot : innerParts? crate binding.path ≠ some [] := fun hempty =>
    hopens (Or.inr (Or.inl hempty))
  intro name hname rest hinner
  rw [innerParts?_ofParts_cons hne hbinding.endsPlain hparts hroot] at hinner
  obtain ⟨inner, hown, hinner⟩ := Option.map_eq_some_iff.mp hinner
  obtain ⟨first, below, rfl⟩ : ∃ first below, inner = first :: below :=
    List.exists_cons_of_ne_nil fun hempty => hroot (hempty ▸ hown)
  obtain ⟨rfl, -⟩ := List.cons.inj hinner
  have hlong : ¬(below = [] ∨ Path.isAbsolute binding.path) := fun hopen =>
    hopens (Or.inr (Or.inr ⟨first, hname, below, hown, hopen⟩))
  obtain ⟨hbelow, habsolute⟩ := not_or.mp hlong
  obtain ⟨second, others, rfl⟩ := List.exists_cons_of_ne_nil hbelow
  have himported : binding.kind = .imported := by
    by_contra hother
    exact habsolute (hbinding.isAbsolute hother)
  have hpublic := hclean.of_front? hfront himported
  rw [innerParts?, if_neg habsolute, Option.some.injEq] at hown
  rw [leadsIntoPrivateModule, if_neg habsolute, hown] at hpublic
  simp [hname] at hpublic

/-- In a clean scope, steps that open nothing stay outside of private modules. -/
theorem staysOutside_of_mem_steps (hproper : scope.IsProper)
    (hclean : scope.Holds fun binding =>
      binding.kind = .imported → scope.leadsIntoPrivateModule binding.path = false)
    {limit : ℕ} (hopens : ∀ step ∈ scope.steps limit path, ¬scope.Opens crate step.1.path) :
    ∀ step ∈ scope.steps limit path, scope.StaysOutside crate step.2 := by
  induction limit generalizing path with
  | zero => exact fun step hmem => (List.not_mem_nil hmem).elim
  | succ limit ih =>
      rw [steps] at hopens ⊢
      cases hstep : scope.step? path with
      | none => exact fun step hmem => (List.not_mem_nil hmem).elim
      | some found =>
          rw [hstep] at hopens
          intro step hmem
          rcases List.mem_cons.mp hmem with rfl | hlater
          · exact staysOutside_of_step hproper hclean hstep (hopens _ List.mem_cons_self)
          · exact ih (fun other hother => hopens other (List.mem_cons_of_mem _ hother)) step hlater

/-- The crate in place of a word for its root changes nothing below the root. -/
theorem innerParts?_rooted (hcrate : Path.IsSegment crate) (path : String) :
    innerParts? crate (rooted crate path) = innerParts? crate path := by
  rw [rooted]
  by_cases habsolute : Path.isAbsolute path
  · rw [if_pos habsolute]
  · rw [if_neg habsolute]
    cases hparts : Path.parts path with
    | nil => rfl
    | cons head tail =>
        simp only
        split
        · next hroot =>
          have hne : Path.separator ++ crate ≠ "" := fun hempty =>
            hcrate.1 (String.append_eq_empty_iff.mp hempty).2
          rw [innerParts?, isAbsolute_ofParts_cons hne (hcrate.endsPlain.append hcrate.1 _),
            if_pos (Path.isAbsolute_separator_append crate),
            Path.parts_ofParts_cons (hcrate.endsPlain.append hcrate.1 _) hparts,
            Path.parts_separator_append, hcrate.parts, innerParts?, if_neg habsolute, hparts,
            List.dropWhile_cons_of_pos hroot]
          simp
        · rfl

/-- A path that stays outside leads into no private module. -/
theorem StaysOutside.not_leadsInside (hpath : scope.StaysOutside crate path)
    (hnames : ∀ name ∈ scope.privateModules,
      Path.IsSegment name ∧ Path.isRootWord name = false)
    (hcrate : Path.IsSegment crate) : ¬scope.LeadsInside crate path := by
  rintro ⟨name, hname, rest, hrest, hinside⟩
  obtain ⟨hsegment, hroot⟩ := hnames name hname
  have hparts : Path.parts (Path.ofParts (name :: rest)) =
      name :: Path.parts (Path.ofParts rest) := by
    rw [Path.ofParts_cons name hrest, Path.parts_append_separator hsegment.endsPlain,
      hsegment.parts]
    rfl
  refine hpath name hname (Path.parts (Path.ofParts rest)) ?_
  rcases hinside with rfl | rfl
  · rw [innerParts?, isAbsolute_ofParts_cons hsegment.1 hsegment.endsPlain,
      hsegment.not_isAbsolute, hparts, List.dropWhile_cons_of_neg (by simp [hroot])]
    rfl
  · rw [Path.ofParts_cons _ (List.cons_ne_nil _ _), innerParts?, String.append_assoc,
      String.append_assoc, if_pos (Path.isAbsolute_separator_append _),
      Path.parts_separator_append, ← String.append_assoc,
      Path.parts_append_separator hcrate.endsPlain, hcrate.parts, hparts]
    simp [hroot]

/-- A reference without a part that is the name of a private module does not resolve to a path into
one, if no step on the way is by a path that lays private modules open. -/
theorem resolve_build_not_leadsInside (hcrate : Path.IsSegment crate) (edition : Option String)
    {nodes : List Node} (hnodes : ∀ node ∈ nodes, node.IsNamed) {text : String}
    (hparts : ∀ part ∈ Path.parts (referencePath text),
      part ∉ (build crate edition nodes).privateModules)
    (hopens :
      ∀ step ∈ (build crate edition nodes).steps (maxReplacements + 1) (referencePath text),
      ¬(build crate edition nodes).Opens crate step.1.path) (kind : Option SymbolKind) :
    ¬(build crate edition nodes).LeadsInside crate
      ((build crate edition nodes).resolve crate text kind).path := by
  obtain ⟨hproper, hclean⟩ := isProper_build hnodes crate edition
  generalize build crate edition nodes = scope at *
  have hsteps := staysOutside_of_mem_steps hproper hclean hopens
  rw [resolve_path]
  generalize referencePath text = reference at *
  rcases follow_cases crate maxReplacements reference kind with
    ⟨last, hlast, -, hreached⟩ | ⟨front, binding, -, hmany⟩
  · have houtside : scope.StaysOutside crate last := by
      rcases List.mem_cons.mp hlast with rfl | hlater
      · exact staysOutside_of_parts hparts
      · obtain ⟨step, hstep, rfl⟩ := List.mem_map.mp hlater
        exact hsteps step hstep
    have hrooted : scope.StaysOutside crate (rooted crate last) := fun name hname rest hinner =>
      houtside name hname rest (innerParts?_rooted hcrate last ▸ hinner)
    rw [hreached]
    exact hrooted.not_leadsInside hproper.modules hcrate
  · have hlast := hsteps (binding, (scope.follow crate maxReplacements reference kind).path)
      (hmany ▸ List.mem_append_right _ List.mem_cons_self)
    exact hlast.not_leadsInside hproper.modules hcrate

/-- An item of a private module that the crate exports is known by its path at the crate root. -/
theorem resolve_build_not_leadsInside_exported :
    let nodes := [Node.item { kind := .moduleItem, ident := "inner" },
      Node.use { tree := .path "inner" (.name "Thing"), visibility := .everywhere }]
    let scope := build "my_crate" none nodes
    ¬scope.LeadsInside "my_crate" (scope.resolve "my_crate" "Thing" none).path := by
  intro nodes scope
  have hnodes : ∀ node ∈ nodes, node.IsNamed := by
    intro node hmem
    rcases List.mem_pair.mp hmem with rfl | rfl
    · exact ⟨by decide, by decide, by simp⟩
    · exact ⟨Path.IsSegment.isSegmented (by decide), Path.IsSegment.isSegmented (by decide)⟩
  have hfold : nodes.foldl (addNode "my_crate") (ofPrelude none) =
      (((ofPrelude none).addPrivateModule "inner").bind "Thing" .imported "inner::Thing").bind
        "Thing" .reexported (Path.ofItem "my_crate" "Thing") := by
    simp [nodes, addNode, addItem, isPreludeImport, addUseTree, addImport, Visibility.isPublic,
      Path.separator]
  have hmodules : scope.privateModules = ["inner"] := by
    rw [privateModules_build, hfold]
    simp [privateModules_ofPrelude]
  have hreference : referencePath "Thing" = "Thing" := by decide
  have hparts : Path.parts "Thing" = ["Thing"] := Path.IsSegment.parts (by decide)
  have hfront : scope.front? "Thing" = some ⟨.reexported, Path.ofItem "my_crate" "Thing"⟩ := by
    refine front?_build hnodes ?_ rfl
    rw [hfold]
    exact front?_bind_self _ _ (by decide)
  have habsolute := isAbsolute_ofItem "my_crate" "Thing"
  have hstep : scope.step? "Thing" = some (⟨.reexported, Path.ofItem "my_crate" "Thing"⟩,
      Path.ofItem "my_crate" "Thing") :=
    step?_eq_some_iff.mpr ⟨by decide, "Thing", [], hparts, by decide, hfront,
      (Path.ofParts_singleton _).symm⟩
  have hsteps : scope.steps (maxReplacements + 1) "Thing" =
      [(⟨.reexported, Path.ofItem "my_crate" "Thing"⟩, Path.ofItem "my_crate" "Thing")] := by
    rw [steps, hstep, show maxReplacements = 31 + 1 from rfl]
    simp only
    rw [steps, step?_eq_none_of_isAbsolute habsolute]
  refine resolve_build_not_leadsInside (by decide) none hnodes ?_ ?_ none
  · rw [hreference, hparts]
    change ∀ part ∈ ["Thing"], part ∉ scope.privateModules
    rw [hmodules]
    decide
  · rw [hreference]
    change ∀ step ∈ scope.steps (maxReplacements + 1) "Thing", ¬scope.Opens "my_crate" step.1.path
    rw [hsteps]
    intro step hmem
    rw [List.mem_singleton.mp hmem]
    have hinner : innerParts? "my_crate" (Path.ofItem "my_crate" "Thing") = some ["Thing"] := by
      rw [innerParts?, if_pos habsolute, Path.parts_ofItem (by decide) (by decide)]
      rfl
    rintro (hempty | hroot | ⟨name, hname, rest, hopen, -⟩)
    · have hnone : Path.isAbsolute "" := hempty ▸ habsolute
      exact absurd hnone (by decide)
    · rw [hinner] at hroot
      cases hroot
    · rw [hinner] at hopen
      cases hopen
      rw [hmodules] at hname
      exact absurd hname (by decide)

/-- An absolute import is taken as it is, also where it leads into a private module. -/
theorem resolve_build_leadsInside_absolute :
    let nodes := [Node.item { kind := .moduleItem, ident := "inner" },
      Node.use { tree := .path "::my_crate" (.path "inner" (.name "Thing")) }]
    let scope := build "my_crate" none nodes
    (∀ part ∈ Path.parts "Thing", part ∉ scope.privateModules) ∧
      scope.LeadsInside "my_crate" (scope.resolve "my_crate" "Thing" none).path := by
  intro nodes scope
  have hnodes : ∀ node ∈ nodes, node.IsNamed := by
    intro node hmem
    rcases List.mem_pair.mp hmem with rfl | rfl
    · exact ⟨by decide, by decide, by simp⟩
    · refine ⟨⟨["my_crate"], List.cons_ne_nil _ _, by decide,
        Or.inr (by simp [Path.separator])⟩, ?_, ?_⟩
      · exact Path.IsSegment.isSegmented (by decide)
      · exact Path.IsSegment.isSegmented (by decide)
  have hfold : nodes.foldl (addNode "my_crate") (ofPrelude none) =
      ((ofPrelude none).addPrivateModule "inner").bind "Thing" .imported
        "::my_crate::inner::Thing" := by
    simp [nodes, addNode, addItem, isPreludeImport, addUseTree, addImport, Visibility.isPublic,
      Path.separator]
  have hmodules : scope.privateModules = ["inner"] := by
    rw [privateModules_build, hfold]
    simp [privateModules_ofPrelude]
  have hparts : Path.parts "Thing" = ["Thing"] := Path.IsSegment.parts (by decide)
  have habsolute : Path.isAbsolute "::my_crate::inner::Thing" :=
    Path.isAbsolute_iff.mpr ⟨"my_crate::inner::Thing", by simp [Path.separator]⟩
  have hfront : scope.front? "Thing" = some ⟨.imported, "::my_crate::inner::Thing"⟩ := by
    refine front?_build hnodes ?_ ?_
    · rw [hfold]
      exact front?_bind_self _ _ (by decide)
    · rw [isPrivateImport, leadsIntoPrivateModule, if_pos habsolute, Bool.and_false]
  have hstep : scope.step? "Thing" =
      some (⟨.imported, "::my_crate::inner::Thing"⟩, "::my_crate::inner::Thing") :=
    step?_eq_some_iff.mpr ⟨by decide, "Thing", [], hparts, by decide, hfront,
      (Path.ofParts_singleton _).symm⟩
  refine ⟨?_, ?_⟩
  · rw [hparts, hmodules]
    decide
  · obtain ⟨kind, hfollow⟩ := follow_of_step "my_crate" 31 none hstep
    rw [resolve_path, show referencePath "Thing" = "Thing" by decide,
      show maxReplacements = 31 + 1 from rfl, hfollow,
      follow_isAbsolute "my_crate" 31 kind habsolute]
    exact ⟨"inner", hmodules ▸ List.mem_cons_self, ["Thing"], List.cons_ne_nil _ _,
      Or.inr (by simp [Path.ofParts_cons, Path.separator])⟩

end CrateReadme.Scope
