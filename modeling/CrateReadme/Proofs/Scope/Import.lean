import CrateReadme.Proofs.Scope.Steps

/-!
# A single import

A crate that declares nothing but one import sees the names of the prelude and the imported one. The
imported name leads to the path of the import and stays there, because nothing else binds the first
segment of the path. Only where the imported name is that first segment itself does following go on:
every further step puts the path of the import in front of what is there already.
-/

namespace CrateReadme.Scope

open Source

variable {first name path : String} {rest : List String}

/-- A name as it stands in a `use` declaration: a segment without blanks and angle brackets that is
no word for the crate root. -/
structure IsName (name : String) : Prop where
  segment : Path.IsSegment name
  plain : ∀ c ∈ name.toList, Text.isBlank c = false ∧ c ≠ '<' ∧ c ≠ '>'
  notRoot : Path.isRootWord name = false

instance (name : String) : Decidable (IsName name) :=
  decidable_of_iff
    (Path.IsSegment name ∧
      (name.toList.all fun c => Text.isBlank c = false ∧ c ≠ '<' ∧ c ≠ '>') ∧
      Path.isRootWord name = false)
    ⟨fun ⟨segment, plain, notRoot⟩ => ⟨segment, by simpa using plain, notRoot⟩,
      fun hname => ⟨hname.segment, by simpa using hname.plain, hname.notRoot⟩⟩

/-- The tree of a path without groups, globs and new names. -/
def pathTree (first : String) : List String → UseTree
  | [] => .name first
  | second :: rest => .path first (pathTree second rest)

/-- The scope of a crate that declares nothing but a private import of one path. -/
def ofImport (crate : String) (edition : Option String) (tree : UseTree) : Scope :=
  build crate edition [.use { tree, visibility := .inherited }]

theorem IsName.referencePath_eq_self (hname : IsName name) : referencePath name = name := by
  rw [referencePath, Text.strip_eq_self fun c hmem => (hname.plain c hmem).1,
    Path.withoutGenerics_eq_self fun c hmem => (hname.plain c hmem).2, String.ofList_toList]

/-- Adding the tree of a path imports its last segment. -/
theorem addUseTree_pathTree (crate : String) (visibility : Visibility) (scope : Scope)
    {start : String} (hstart : start ≠ "" ∨ rest ≠ [])
    (hlast : (first :: rest).getLast (List.cons_ne_nil _ _) ≠ "self") :
    addUseTree crate visibility scope start (pathTree first rest) =
      addImport crate visibility scope (start ++ Path.ofParts (first :: rest))
        ((first :: rest).getLast (List.cons_ne_nil _ _)) := by
  induction rest generalizing start first with
  | nil =>
      have hne : start ≠ "" := hstart.resolve_right fun hrest => hrest rfl
      rw [pathTree, addUseTree, if_neg (by simpa using hlast), if_neg hne, Path.ofParts_singleton]
      rfl
  | cons second rest ih =>
      have hne : start ++ first ++ Path.separator ≠ "" := by
        intro hempty
        have hseparator := (String.append_eq_empty_iff.mp hempty).2
        exact absurd hseparator (by decide)
      rw [pathTree, addUseTree, ih (Or.inl hne) (by simpa using hlast),
        Path.ofParts_cons first (List.cons_ne_nil _ _)]
      simp only [String.append_assoc, List.getLast_cons_cons]

section SingleImport

variable (crate : String) (edition : Option String)
  (hsegments : ∀ segment ∈ first :: rest, Path.IsSegment segment) (hrest : rest ≠ [])

theorem front?_eq_none (scope : Scope) (hfree : scope.contains name = false) :
    scope.front? name = none := by
  have hlookup : scope.entries.lookup name = none := by
    rw [List.lookup_eq_none_iff]
    intro entry hmem
    rw [contains, List.any_eq_false] at hfree
    rw [bne_iff_ne]
    exact fun hsame => hfree entry hmem (beq_iff_eq.mpr hsame.symm)
  rw [front?, get, hlookup]
  rfl

include hsegments hrest

/-- The import comes before whatever the prelude binds its name to. -/
theorem get_ofImport
    (hself : (first :: rest).getLast (List.cons_ne_nil _ _) ≠ "self")
    (hprelude : isPreludeImport (pathTree first rest) = false) (name : String) :
    (ofImport crate edition (pathTree first rest)).get name =
      if name = (first :: rest).getLast (List.cons_ne_nil _ _) then
        ⟨.imported, Path.ofParts (first :: rest)⟩ :: (ofPrelude edition).get name
      else (ofPrelude edition).get name := by
  have hlong : Path.ofParts (first :: rest) ≠ (first :: rest).getLast (List.cons_ne_nil _ _) := by
    intro hsame
    have hparts := (Path.ofParts_segments (List.cons_ne_nil _ _) hsegments).2.2
    rw [hsame, (hsegments _ (List.getLast_mem _)).parts] at hparts
    exact hrest (List.cons.inj hparts).2.symm
  have hbuild : [Node.use { tree := pathTree first rest }].foldl (addNode crate)
      (ofPrelude edition) =
        (ofPrelude edition).bind ((first :: rest).getLast (List.cons_ne_nil _ _)) .imported
          (Path.ofParts (first :: rest)) := by
    rw [List.foldl_cons, List.foldl_nil, addNode]
    simp only
    rw [hprelude, if_neg Bool.false_ne_true, addUseTree_pathTree crate _ _ (Or.inr hrest) hself,
      String.empty_append, addImport]
    rfl
  have hnodup := nodup_names_bind (nodup_names_ofPrelude edition)
    ((first :: rest).getLast (List.cons_ne_nil _ _)) .imported (Path.ofParts (first :: rest))
  have hkeep : ∀ binding, isPrivateImport ((ofPrelude edition).bind
      ((first :: rest).getLast (List.cons_ne_nil _ _)) .imported
        (Path.ofParts (first :: rest))) binding = false := by
    intro binding
    rw [isPrivateImport, leadsIntoPrivateModule, privateModules_bind, privateModules_ofPrelude]
    split_ifs
    · simp
    · split <;> simp
  have hget : ∀ scope : Scope, scope.freeze.get name = scope.get name := fun _ => rfl
  rw [ofImport, build, hbuild, hget, get_clean hnodup, get_bind,
    List.filter_eq_self.mpr fun binding _ => by rw [hkeep]; rfl]
  by_cases hname : name = (first :: rest).getLast (List.cons_ne_nil _ _)
  · rw [if_pos ⟨hname, hlong⟩, if_pos hname, hname]
  · rw [if_neg fun h => hname h.1, if_neg hname]

omit hrest in
/-- A path whose head is an import that starts with the same name gets longer by a step. -/
theorem step?_of_front?_self {scope : Scope} (hroot : Path.isRootWord first = false)
    (hfront : scope.front? first = some ⟨.imported, Path.ofParts (first :: rest)⟩)
    {tail : List String} (htail : ∀ segment ∈ tail, Path.IsSegment segment) :
    scope.step? (Path.ofParts (first :: tail)) =
      some (⟨.imported, Path.ofParts (first :: rest)⟩, Path.ofParts (first :: (rest ++ tail))) := by
  have hall : ∀ segment ∈ first :: tail, Path.IsSegment segment := by
    rintro segment (_ | ⟨_, hmem⟩)
    · exact hsegments first List.mem_cons_self
    · exact htail segment hmem
  have hne : first :: tail ≠ [] := List.cons_ne_nil _ _
  refine step?_eq_some_iff.mpr ⟨Path.not_isAbsolute_ofParts hne hall, first, tail,
    (Path.ofParts_segments hne hall).2.2, hroot, hfront, ?_⟩
  by_cases hempty : tail = []
  · rw [hempty, Path.ofParts_singleton, List.append_nil]
  · rw [Path.ofParts_cons _ hempty, ← List.cons_append,
      Path.ofParts_append (List.cons_ne_nil _ _) hempty]

omit hrest in
/-- Where the head of a path stands for a path with the same head, each step puts what follows that
head in front of what was behind it. -/
theorem follow_of_front?_self {scope : Scope} (hroot : Path.isRootWord first = false)
    (hfront : scope.front? first = some ⟨.imported, Path.ofParts (first :: rest)⟩)
    (remaining : ℕ) {tail : List String} (htail : ∀ segment ∈ tail, Path.IsSegment segment)
    (kind : Option SymbolKind) :
    (scope.follow crate remaining (Path.ofParts (first :: tail)) kind).path =
      Path.ofParts (first :: ((List.replicate (remaining + 1) rest).flatten ++ tail)) := by
  induction remaining generalizing tail kind with
  | zero =>
      rw [follow_zero_of_step crate kind (step?_of_front?_self hsegments hroot hfront htail)]
      simp
  | succ remaining ih =>
      obtain ⟨kind', hfollow⟩ :=
        follow_of_step crate remaining kind (step?_of_front?_self hsegments hroot hfront htail)
      have hlonger : ∀ segment ∈ rest ++ tail, Path.IsSegment segment := by
        intro segment hmem
        rcases List.mem_append.mp hmem with hmem | hmem
        · exact hsegments segment (List.mem_cons_of_mem _ hmem)
        · exact htail segment hmem
      rw [hfollow, ih hlonger, List.replicate_succ' (n := remaining + 1), List.flatten_append]
      simp

/-- What the only import of a crate leads to. If its name is not also the first segment of its path,
the name resolves to the path of the import. If it is, the name stands for a path that starts with
the name again: what follows the first segment is repeated until resolving is given up. -/
theorem resolve_ofImport (hfirst : IsName first)
    (hlast : IsName ((first :: rest).getLast (List.cons_ne_nil _ _)))
    (hprelude : isPreludeImport (pathTree first rest) = false)
    (hfree : (ofPrelude edition).contains first = false) (kind : Option SymbolKind) :
    ((ofImport crate edition (pathTree first rest)).resolve crate
      ((first :: rest).getLast (List.cons_ne_nil _ _)) kind).path =
        Path.ofParts (first :: (List.replicate
          (if (first :: rest).getLast (List.cons_ne_nil _ _) = first then maxReplacements + 1
            else 1) rest).flatten) := by
  have hself : (first :: rest).getLast (List.cons_ne_nil _ _) ≠ "self" := by
    intro hword
    have hroot := hlast.notRoot
    rw [hword] at hroot
    exact absurd hroot (by decide)
  have hget := get_ofImport crate edition hsegments hrest hself hprelude
  generalize ofImport crate edition (pathTree first rest) = scope at hget ⊢
  generalize (first :: rest).getLast (List.cons_ne_nil _ _) = last at hlast hget ⊢
  have hfront : scope.front? last = some ⟨.imported, Path.ofParts (first :: rest)⟩ := by
    rw [front?, hget, if_pos rfl]
    rfl
  rw [resolve_path, hlast.referencePath_eq_self]
  by_cases hsame : last = first
  · subst hsame
    have hnone : ∀ segment ∈ ([] : List String), Path.IsSegment segment := by simp
    have hfollow := follow_of_front?_self crate hsegments hlast.notRoot hfront maxReplacements
      hnone kind
    rw [Path.ofParts_singleton, List.append_nil] at hfollow
    rw [if_pos rfl, hfollow]
  · have hstep : scope.step? last =
        some (⟨.imported, Path.ofParts (first :: rest)⟩, Path.ofParts (first :: rest)) :=
      step?_eq_some_iff.mpr ⟨hlast.segment.not_isAbsolute, last, [], hlast.segment.parts,
        hlast.notRoot, hfront, (Path.ofParts_singleton _).symm⟩
    have hunbound : scope.HeadUnbound (Path.ofParts (first :: rest)) := by
      refine ⟨first, rest, (Path.ofParts_segments (List.cons_ne_nil _ _) hsegments).2.2,
        hfirst.notRoot, ?_⟩
      rw [front?, hget, if_neg (Ne.symm hsame)]
      exact front?_eq_none _ hfree
    obtain ⟨kind', hfollow⟩ := follow_of_step crate 31 kind hstep
    rw [if_neg hsame, show maxReplacements = 31 + 1 from rfl, hfollow,
      follow_of_no_step crate 31 kind' (step?_eq_none_of_headUnbound hunbound),
      rooted_of_headUnbound crate hunbound]
    simp

end SingleImport

theorem contains_ofPrelude_anyhow : (ofPrelude none).contains "anyhow" = false := by
  apply contains_ofPrelude
  decide

/-- The import of a type of a dependency. -/
theorem resolve_ofImport_of_dependency :
    ((ofImport "my_crate" none (pathTree "anyhow" ["Error"])).resolve "my_crate"
      "Error" none).path = "anyhow::Error" := by
  have hsegments : ∀ segment ∈ ["anyhow", "Error"], Path.IsSegment segment := by decide
  have hresolve := resolve_ofImport "my_crate" none hsegments (by decide) (by decide) (by decide)
    rfl contains_ofPrelude_anyhow none
  simpa [Path.ofParts_cons, Path.separator] using hresolve

/-- The item `use anyhow::anyhow;` fulfils all conditions on an import, but its name does not
resolve to its path. -/
theorem resolve_ofImport_of_own_name :
    (∀ segment ∈ ["anyhow", "anyhow"], IsName segment) ∧
      isPreludeImport (pathTree "anyhow" ["anyhow"]) = false ∧
      (ofPrelude none).contains "anyhow" = false ∧
      ((ofImport "my_crate" none (pathTree "anyhow" ["anyhow"])).resolve "my_crate"
        "anyhow" none).path ≠ "anyhow::anyhow" := by
  have hnames : ∀ segment ∈ ["anyhow", "anyhow"], IsName segment := by decide
  have hsegments : ∀ segment ∈ ["anyhow", "anyhow"], Path.IsSegment segment := fun segment hmem =>
    (hnames segment hmem).segment
  have hname := hnames "anyhow" List.mem_cons_self
  refine ⟨hnames, rfl, contains_ofPrelude_anyhow, ?_⟩
  have hget := get_ofImport "my_crate" none hsegments (by decide) (by decide) rfl "anyhow"
  have hfront : (ofImport "my_crate" none (pathTree "anyhow" ["anyhow"])).front? "anyhow" =
      some ⟨.imported, Path.ofParts ["anyhow", "anyhow"]⟩ := by
    rw [front?, hget]
    rfl
  have hnone : ∀ segment ∈ ([] : List String), Path.IsSegment segment := by simp
  have hfollow := follow_of_front?_self "my_crate" hsegments hname.notRoot hfront
    maxReplacements hnone none
  have hrepeated : ∀ segment ∈ List.replicate (maxReplacements + 2) "anyhow",
      Path.IsSegment segment := fun segment hmem =>
    List.eq_of_mem_replicate hmem ▸ hname.segment
  rw [Path.ofParts_singleton, List.flatten_replicate_singleton, List.append_nil,
    ← List.replicate_succ] at hfollow
  rw [resolve_path, hname.referencePath_eq_self, hfollow]
  intro hsame
  have hown : Path.ofParts ["anyhow", "anyhow"] = "anyhow::anyhow" := by
    simp [Path.ofParts_cons, Path.separator]
  have hparts := (Path.ofParts_segments (by simp) hrepeated).2.2
  rw [hsame, ← hown, (Path.ofParts_segments (by simp) hsegments).2.2] at hparts
  exact absurd (congrArg List.length hparts) (by simp [maxReplacements])

end CrateReadme.Scope
