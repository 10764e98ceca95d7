import CrateReadme.Proofs.Scope.Table
import CrateReadme.Proofs.Symbol.Path

/-!
# What building a scope keeps

Whatever a crate declares and imports, only imports enter its scope with a relative path, no path
ends in a colon, and the private modules have names of their own. Each way in which a name enters
the scope keeps this, so that it holds of the whole scope.
-/

namespace CrateReadme

open Source

/-- A binding as a crate root makes it: what stands behind the path can be told from it, and only
the path of an import is relative. -/
structure Binding.IsProper (binding : Binding) : Prop where
  endsPlain : Path.EndsPlain binding.path
  isAbsolute : binding.kind ≠ .imported → Path.isAbsolute binding.path

namespace Source

mutual

/-- All names in a `use` tree are segments. One that leads on may be absolute. -/
def UseTree.IsNamed : UseTree → Prop
  | .path head tail => Path.IsSegmented head ∧ tail.IsNamed
  | .name ident => Path.IsSegmented ident
  | .rename ident newName => Path.IsSegmented ident ∧ Path.IsSegment newName
  | .glob => True
  | .group members => UseTree.AreNamed members

/-- All names in some `use` trees are segments. -/
def UseTree.AreNamed : List UseTree → Prop
  | [] => True
  | member :: members => member.IsNamed ∧ UseTree.AreNamed members

end

/-- All names in a node are segments, and no item has the name of the crate root. -/
def Node.IsNamed : Node → Prop
  | .item declaration =>
    Path.IsSegment declaration.ident ∧ Path.isRootWord declaration.ident = false ∧
      ∀ name, declaration.aliasOf = some name → name ≠ "" → Path.IsSegment name
  | .use declaration => declaration.tree.IsNamed

end Source

namespace Scope

variable {scope : Scope} {crate start : String} {kind : SymbolKind} {visibility : Visibility}

/-- A scope that binds each name once, with proper bindings, and whose private modules have names of
their own. -/
structure IsProper (scope : Scope) : Prop where
  nodup : scope.names.Nodup
  bindings : scope.Holds Binding.IsProper
  modules : ∀ name ∈ scope.privateModules,
    Path.IsSegment name ∧ Path.isRootWord name = false

theorem isAbsolute_ofItem (crate ident : String) : Path.isAbsolute (Path.ofItem crate ident) := by
  rw [Path.ofItem, String.append_assoc, String.append_assoc]
  exact Path.isAbsolute_separator_append _

theorem isProper_ofItem {ident : String} (hne : ident ≠ "") (hend : Path.EndsPlain ident)
    (crate : String) (kind : SymbolKind) : Binding.IsProper ⟨kind, Path.ofItem crate ident⟩ where
  endsPlain := hend.append hne _
  isAbsolute := fun _ => isAbsolute_ofItem crate ident

theorem isProper_imported {path : String} (hend : Path.EndsPlain path) :
    Binding.IsProper ⟨.imported, path⟩ where
  endsPlain := hend
  isAbsolute := fun himported => absurd rfl himported

theorem IsProper.bind (hscope : scope.IsProper) (ident : String) {path : String}
    (hbinding : Binding.IsProper ⟨kind, path⟩) : (scope.bind ident kind path).IsProper where
  nodup := nodup_names_bind hscope.nodup ident kind path
  bindings := hscope.bindings.bind ident hbinding
  modules := by
    rw [privateModules_bind]
    exact hscope.modules

theorem IsProper.addPrivateModule (hscope : scope.IsProper) {name : String}
    (hname : Path.IsSegment name) (hroot : Path.isRootWord name = false) :
    (scope.addPrivateModule name).IsProper := by
  rw [Scope.addPrivateModule]
  split
  · exact hscope
  · refine ⟨hscope.nodup, hscope.bindings, fun other hmem => ?_⟩
    rcases List.mem_append.mp hmem with hold | hnew
    · exact hscope.modules other hold
    · rw [List.mem_singleton.mp hnew]
      exact ⟨hname, hroot⟩

/-- A declared item keeps a scope proper. -/
theorem IsProper.addItem (hscope : scope.IsProper) {item : Declaration}
    (hitem : (Node.item item).IsNamed) : (scope.addItem crate item).IsProper := by
  obtain ⟨hident, hroot, halias⟩ := hitem
  have hbinding := isProper_ofItem hident.1 hident.endsPlain crate item.kind
  rw [Scope.addItem]
  split
  · split
    · exact hscope.bind _ hbinding
    · exact hscope.addPrivateModule hident hroot
  · split
    · next name hname =>
      split
      · exact hscope
      · next hother =>
        have hne : name ≠ "" := fun hempty => hother (Or.inl hempty)
        refine hscope.bind _ ⟨(halias name hname hne).endsPlain.append hne _, fun _ => ?_⟩
        exact Path.isAbsolute_separator_append name
    · exact hscope
  · split
    · exact (hscope.bind _ hbinding).bind _ hbinding
    · exact hscope
  · split
    · exact hscope.bind _ hbinding
    · exact hscope
  · split
    · exact hscope.bind _ hbinding
    · exact hscope
  · split
    · exact (hscope.bind _ hbinding).bind _ hbinding
    · exact hscope
  · split
    · exact hscope.bind _ hbinding
    · exact hscope

theorem IsProper.addImport (hscope : scope.IsProper) {path ident : String}
    (hpath : Path.EndsPlain path) (hne : ident ≠ "") (hident : Path.EndsPlain ident) :
    (scope.addImport crate visibility path ident).IsProper := by
  rw [Scope.addImport]
  split
  · exact (hscope.bind ident (isProper_imported hpath)).bind ident
      (isProper_ofItem hne hident crate _)
  · exact hscope.bind ident (isProper_imported hpath)

/-- What leads to a `use` tree: nothing, or a path and a separator. -/
def LeadsOn (start : String) : Prop :=
  start = "" ∨ ∃ path, path ≠ "" ∧ Path.EndsPlain path ∧ start = path ++ Path.separator

theorem LeadsOn.parentPath (hstart : LeadsOn start) :
    (start = "" ∧ parentPath start = "") ∨
      (parentPath start ≠ "" ∧ Path.EndsPlain (parentPath start)) := by
  rcases hstart with rfl | ⟨path, hne, hend, rfl⟩
  · exact Or.inl ⟨rfl, rfl⟩
  · have hparent : Scope.parentPath (path ++ Path.separator) = path := by
      rw [Scope.parentPath, String.toList_append, Path.toList_separator]
      simp
    rw [hparent]
    exact Or.inr ⟨hne, hend⟩

theorem LeadsOn.cons (start : String) {head : String} (hhead : Path.IsSegmented head) :
    LeadsOn (start ++ head ++ Path.separator) := by
  obtain ⟨hne, hend⟩ := hhead.endsPlain
  refine Or.inr ⟨start ++ head, ?_, hend.append hne start, rfl⟩
  exact fun hempty => hne (String.append_eq_empty_iff.mp hempty).2

mutual

/-- An import keeps a scope proper. -/
theorem IsProper.addUseTree {scope : Scope} {start : String} {tree : UseTree}
    (hscope : scope.IsProper) (hstart : LeadsOn start) (htree : tree.IsNamed) :
    (addUseTree crate visibility scope start tree).IsProper := by
  match tree with
  | .path head tail =>
      rw [Scope.addUseTree]
      exact hscope.addUseTree (LeadsOn.cons start htree.1) htree.2
  | .name ident =>
      obtain ⟨hne, hend⟩ := Path.IsSegmented.endsPlain htree
      rw [Scope.addUseTree]
      split
      · rcases hstart.parentPath with ⟨-, hparent⟩ | ⟨hparent, hplain⟩
        · simp only [hparent]
          exact hscope
        · simp only
          split
          · next last hlast =>
            obtain ⟨hlastNe, hlastEnd⟩ := hplain.lastPart? hlast
            exact hscope.addImport hplain hlastNe hlastEnd
          · rw [if_neg hparent]
            exact hscope.addImport hplain hparent hplain
      · split
        · exact hscope
        · exact hscope.addImport (hend.append hne start) hne hend
  | .rename ident newName =>
      obtain ⟨hne, hend⟩ := htree.1.endsPlain
      rw [Scope.addUseTree]
      split
      · exact hscope
      · refine hscope.addImport ?_ htree.2.1 htree.2.endsPlain
        split
        · rcases hstart.parentPath with ⟨-, hparent⟩ | ⟨-, hplain⟩
          · rw [hparent]
            simp [Path.EndsPlain]
          · exact hplain
        · exact hend.append hne start
  | .glob =>
      rw [Scope.addUseTree]
      exact ⟨hscope.nodup, hscope.bindings, hscope.modules⟩
  | .group members =>
      rw [Scope.addUseTree]
      exact hscope.addUseTrees hstart htree

theorem IsProper.addUseTrees {scope : Scope} {start : String} {trees : List UseTree}
    (hscope : scope.IsProper) (hstart : LeadsOn start) (htrees : UseTree.AreNamed trees) :
    (addUseTrees crate visibility scope start trees).IsProper := by
  match trees with
  | [] => exact hscope
  | tree :: trees =>
      rw [Scope.addUseTrees]
      exact (hscope.addUseTree hstart htrees.1).addUseTrees hstart htrees.2

end

theorem IsProper.addNode (hscope : scope.IsProper) {node : Node} (hnode : node.IsNamed) :
    (addNode crate scope node).IsProper := by
  cases node with
  | item declaration => exact hscope.addItem hnode
  | use declaration =>
      rw [Scope.addNode]
      split
      · exact hscope
      · exact hscope.addUseTree (Or.inl rfl) hnode

theorem IsProper.foldl_addNode (hscope : scope.IsProper) {nodes : List Node}
    (hnodes : ∀ node ∈ nodes, node.IsNamed) :
    (nodes.foldl (Scope.addNode crate) scope).IsProper := by
  induction nodes generalizing scope with
  | nil => exact hscope
  | cons node nodes ih =>
      exact ih (hscope.addNode (hnodes node List.mem_cons_self))
        fun other hmem => hnodes other (List.mem_cons_of_mem _ hmem)

/-- The names of the prelude are segments. -/
theorem isSegment_of_mem_items {year : Int} {item : String × String × SymbolKind}
    (hmem : item ∈ Prelude.items year) : Path.IsSegment item.1 := by
  have hall : ∀ item ∈ Prelude.firstEdition ++ Prelude.since2021 ++ Prelude.since2024,
      Path.IsSegment item.1 := by decide +kernel
  apply hall
  rw [Prelude.items] at hmem
  rcases List.mem_append.mp hmem with hmem | hmem
  · refine List.mem_append_left _ ?_
    rcases List.mem_append.mp hmem with hfirst | hlater
    · exact List.mem_append_left _ hfirst
    · split at hlater
      · exact List.mem_append_right _ hlater
      · cases hlater
  · split at hmem
    · exact List.mem_append_right _ hmem
    · cases hmem

/-- The bindings of the prelude are proper. -/
theorem isProper_of_mem_entries {edition : Option String} {entry : Prelude.Entry}
    (hmem : entry ∈ Prelude.entries edition) : Binding.IsProper ⟨entry.kind, entry.path⟩ := by
  have hplain : ∀ name ∈ Prelude.macros ++ Prelude.primitives, Path.IsSegment name := by
    decide +kernel
  have hstd : ∀ (kind : SymbolKind) (home : String) {name : String}, Path.IsSegment name →
      Binding.IsProper ⟨kind, "::" ++ home ++ name⟩ := by
    refine fun kind home name hname => ⟨hname.endsPlain.append hname.1 _, fun _ => ?_⟩
    rw [String.append_assoc]
    exact Path.isAbsolute_separator_append _
  rcases List.mem_append.mp hmem with hmem | hmem
  · rcases List.mem_append.mp hmem with hmem | hmem
    · obtain ⟨name, hname, rfl⟩ := List.mem_map.mp hmem
      exact hstd .textMacro "std::" (hplain name (List.mem_append_left _ hname))
    · obtain ⟨name, hname, rfl⟩ := List.mem_map.mp hmem
      exact hstd .primitive "std::" (hplain name (List.mem_append_right _ hname))
  · obtain ⟨⟨name, home, kind⟩, hitem, rfl⟩ := List.mem_map.mp hmem
    have hentry := hstd kind ("std::" ++ home ++ "::") (isSegment_of_mem_items hitem)
    simpa [← String.append_assoc] using hentry

theorem isProper_ofPrelude (edition : Option String) : (ofPrelude edition).IsProper where
  nodup := nodup_names_ofPrelude edition
  bindings := Holds.foldl_bind (fun _ hmem => (List.not_mem_nil hmem).elim)
    fun _ hmem => isProper_of_mem_entries hmem
  modules := by
    rw [privateModules_ofPrelude]
    exact fun _ hmem => (List.not_mem_nil hmem).elim

theorem privateModules_build (crate : String) (edition : Option String) (nodes : List Node) :
    (build crate edition nodes).privateModules =
      (nodes.foldl (addNode crate) (ofPrelude edition)).privateModules :=
  rfl

section Build

variable {nodes : List Node} (hnodes : ∀ node ∈ nodes, node.IsNamed)
include hnodes

theorem isProper_nodes (crate : String) (edition : Option String) :
    (nodes.foldl (addNode crate) (ofPrelude edition)).IsProper :=
  (isProper_ofPrelude edition).foldl_addNode hnodes

/-- The candidates of a name in the scope of a crate: what its nodes bind the name to, without the
imports out of private modules. -/
theorem get_build (crate : String) (edition : Option String) (name : String) :
    (build crate edition nodes).get name =
      ((nodes.foldl (addNode crate) (ofPrelude edition)).get name).filter fun binding =>
        !(nodes.foldl (addNode crate) (ofPrelude edition)).isPrivateImport binding :=
  get_clean (isProper_nodes hnodes crate edition).nodup name

theorem front?_build {crate : String} {edition : Option String} {name : String} {binding : Binding}
    (hfront : (nodes.foldl (addNode crate) (ofPrelude edition)).front? name = some binding)
    (hkept : (nodes.foldl (addNode crate) (ofPrelude edition)).isPrivateImport binding = false) :
    (build crate edition nodes).front? name = some binding := by
  rw [front?, List.head?_eq_some_iff] at hfront
  obtain ⟨others, hget⟩ := hfront
  rw [front?, get_build hnodes, hget, List.filter_cons_of_pos (by rw [hkept]; rfl)]
  rfl

/-- Only imports are relative in the scope of a crate, and none of them leads out of a private
module. -/
theorem isProper_build (crate : String) (edition : Option String) :
    (build crate edition nodes).IsProper ∧
      (build crate edition nodes).Holds fun binding =>
        binding.kind = .imported →
          (build crate edition nodes).leadsIntoPrivateModule binding.path = false := by
  have hfold := isProper_nodes hnodes crate edition
  have hclean := hfold.bindings.clean
  refine ⟨⟨nodup_names_clean hfold.nodup, fun entry hentry binding hbinding =>
    (hclean entry hentry binding hbinding).1, hfold.modules⟩,
    fun entry hentry binding hbinding himported => ?_⟩
  have hpublic := (hclean entry hentry binding hbinding).2
  rw [isPrivateImport, decide_eq_true himported, Bool.true_and] at hpublic
  exact hpublic

end Build

end Scope

end CrateReadme
