import CrateReadme.Proofs.Scope.Table

/-!
# Grouped imports

A `use` tree with groups stands for several trees without any, one for each name that it brings into
scope. Whatever the tree does to a scope, these trees do one after the other: each name is entered
under the path that leads to it, and a group adds nothing to that path.

Imports from the prelude are left out of a scope, but only where no group stands in front of the
word `prelude`. A tree may hide such an import in a group, and then it counts.
-/

namespace CrateReadme

open Source

variable {tree single : UseTree} {scope : Scope} {crate : String} {visibility : Visibility}

namespace Source.UseTree

mutual

/-- The trees without groups that a tree stands for, in order. -/
def expansions : UseTree → List UseTree
  | .path head tail => tail.expansions.map (.path head)
  | .group members => expansionsOfAll members
  | tree => [tree]

/-- The trees without groups that several trees stand for, in order. -/
def expansionsOfAll : List UseTree → List UseTree
  | [] => []
  | member :: members => member.expansions ++ expansionsOfAll members

end

def isSingle : UseTree → Bool
  | .path _ tail => tail.isSingle
  | .group _ => false
  | _ => true

mutual

/-- The imports that a tree stands for are single ones. -/
theorem isSingle_of_mem_expansions {tree single : UseTree} (hmem : single ∈ tree.expansions) :
    single.isSingle := by
  match tree with
  | .path head tail =>
      rw [expansions, List.mem_map] at hmem
      obtain ⟨rest, hrest, rfl⟩ := hmem
      rw [isSingle]
      exact isSingle_of_mem_expansions hrest
  | .group members =>
      rw [expansions] at hmem
      exact isSingle_of_mem_expansionsOfAll hmem
  | .name _ | .rename _ _ | .glob =>
      cases hmem with
      | head => rfl
      | tail _ hmem => cases hmem

theorem isSingle_of_mem_expansionsOfAll {members : List UseTree} {single : UseTree}
    (hmem : single ∈ expansionsOfAll members) : single.isSingle := by
  match members with
  | [] => cases hmem
  | member :: members =>
      rw [expansionsOfAll, List.mem_append] at hmem
      rcases hmem with hmem | hmem
      · exact isSingle_of_mem_expansions hmem
      · exact isSingle_of_mem_expansionsOfAll hmem

end

mutual

/-- The globs of a tree, each with the path that leads to it. -/
def globs (start : String) : UseTree → List String
  | .path head tail => tail.globs (start ++ head ++ Path.separator)
  | .glob => [start ++ "*"]
  | .group members => globsOfAll start members
  | .name _ | .rename _ _ => []

/-- The globs of several trees below one path. -/
def globsOfAll (start : String) : List UseTree → List String
  | [] => []
  | member :: members => member.globs start ++ globsOfAll start members

end

mutual

theorem flatMap_globs_expansions (start : String) (tree : UseTree) :
    tree.expansions.flatMap (globs start) = tree.globs start := by
  match tree with
  | .path head tail =>
      rw [expansions, List.flatMap_map, globs]
      exact flatMap_globs_expansions _ tail
  | .group members =>
      rw [expansions, globs]
      exact flatMap_globs_expansionsOfAll start members
  | .name _ | .rename _ _ | .glob => exact List.flatMap_singleton _ _

theorem flatMap_globs_expansionsOfAll (start : String) (members : List UseTree) :
    (expansionsOfAll members).flatMap (globs start) = globsOfAll start members := by
  match members with
  | [] => rfl
  | member :: members =>
      rw [expansionsOfAll, List.flatMap_append, flatMap_globs_expansions start member,
        flatMap_globs_expansionsOfAll start members, globsOfAll]

end

/-- The imports from the prelude that a tree hides behind a group. -/
def hiddenPrelude (tree : UseTree) : List UseTree :=
  if Scope.isPreludeImport tree then [] else tree.expansions.filter Scope.isPreludeImport

/-- Where no group stands in front of the word `prelude`, all that a tree stands for comes from the
prelude. -/
theorem isPreludeImport_of_mem_expansions (htree : Scope.isPreludeImport tree)
    (hmem : single ∈ tree.expansions) : Scope.isPreludeImport single := by
  unfold Scope.isPreludeImport at htree
  split at htree
  · rw [expansions, expansions, List.map_map, List.mem_map] at hmem
    obtain ⟨rest, -, rfl⟩ := hmem
    exact htree
  · cases htree

theorem isPreludeImport_eq_of_hiddenPrelude (hhidden : tree.hiddenPrelude = [])
    (hmem : single ∈ tree.expansions) :
    Scope.isPreludeImport single = Scope.isPreludeImport tree := by
  cases htree : Scope.isPreludeImport tree with
  | true => exact isPreludeImport_of_mem_expansions htree hmem
  | false =>
      rw [hiddenPrelude, htree, if_neg Bool.false_ne_true, List.filter_eq_nil_iff] at hhidden
      exact Bool.eq_false_iff.mpr (hhidden single hmem)

end Source.UseTree

namespace Scope

open UseTree (expansions expansionsOfAll globs globsOfAll)

/-! ### One tree -/

theorem foldl_addUseTree_path (scope : Scope) (start head : String) (tails : List UseTree) :
    (tails.map (.path head)).foldl (fun scope tail => addUseTree crate visibility scope start tail)
        scope =
      tails.foldl (fun scope tail =>
        addUseTree crate visibility scope (start ++ head ++ Path.separator) tail) scope := by
  rw [List.foldl_map]
  simp only [addUseTree]

mutual

/-- A tree brings into scope what the trees without groups that it stands for bring in. -/
theorem foldl_addUseTree_expansions (scope : Scope) (start : String) (tree : UseTree) :
    tree.expansions.foldl (fun scope single => addUseTree crate visibility scope start single)
        scope =
      addUseTree crate visibility scope start tree := by
  match tree with
  | .path head tail =>
      rw [expansions, foldl_addUseTree_path, foldl_addUseTree_expansions scope _ tail, addUseTree]
  | .group members =>
      rw [expansions, foldl_addUseTree_expansionsOfAll scope start members, addUseTree]
  | .name _ | .rename _ _ | .glob => rfl

theorem foldl_addUseTree_expansionsOfAll (scope : Scope) (start : String)
    (members : List UseTree) :
    (expansionsOfAll members).foldl
        (fun scope single => addUseTree crate visibility scope start single) scope =
      addUseTrees crate visibility scope start members := by
  match members with
  | [] => rfl
  | member :: members =>
      rw [expansionsOfAll, List.foldl_append, foldl_addUseTree_expansions scope start member,
        foldl_addUseTree_expansionsOfAll _ start members, addUseTrees]

end

/-! ### Recorded globs -/

@[simp]
theorem globs_bind (scope : Scope) (ident : String) (kind : SymbolKind) (path : String) :
    (scope.bind ident kind path).globs = scope.globs := by
  rw [bind]
  split <;> rfl

@[simp]
theorem globs_addImport (path ident : String) :
    (addImport crate visibility scope path ident).globs = scope.globs := by
  rw [addImport]
  split
  · rw [globs_bind, globs_bind]
  · rw [globs_bind]

mutual

/-- The globs of a tree are added behind the others. -/
theorem globs_addUseTree (scope : Scope) (start : String) (tree : UseTree) :
    (addUseTree crate visibility scope start tree).globs = scope.globs ++ tree.globs start := by
  match tree with
  | .path head tail =>
      rw [addUseTree, UseTree.globs]
      exact globs_addUseTree scope _ tail
  | .name ident =>
      rw [addUseTree, UseTree.globs, List.append_nil]
      split
      · simp only
        split
        · exact globs_addImport _ _
        · split
          · rfl
          · exact globs_addImport _ _
      · split
        · rfl
        · exact globs_addImport _ _
  | .rename ident newName =>
      rw [addUseTree, UseTree.globs, List.append_nil]
      split
      · rfl
      · exact globs_addImport _ _
  | .glob => rw [addUseTree, UseTree.globs]
  | .group members =>
      rw [addUseTree, UseTree.globs]
      exact globs_addUseTrees scope start members

theorem globs_addUseTrees (scope : Scope) (start : String) (trees : List UseTree) :
    (addUseTrees crate visibility scope start trees).globs =
      scope.globs ++ globsOfAll start trees := by
  match trees with
  | [] => rw [addUseTrees, globsOfAll, List.append_nil]
  | tree :: trees =>
      rw [addUseTrees, globs_addUseTrees _ start trees, globs_addUseTree scope start tree,
        globsOfAll, List.append_assoc]

end

theorem globs_addItem (item : Declaration) : (addItem crate scope item).globs = scope.globs := by
  have hprivate : (scope.addPrivateModule item.ident).globs = scope.globs := by
    rw [addPrivateModule]
    split <;> rfl
  rw [addItem]
  split <;> (try split) <;> (try split) <;> simp only [globs_bind, hprivate]

def globsOfNode : Node → List String
  | .item _ => []
  | .use declaration =>
    if isPreludeImport declaration.tree then [] else declaration.tree.globs ""

theorem globs_addNode (node : Node) :
    (addNode crate scope node).globs = scope.globs ++ globsOfNode node := by
  cases node with
  | item declaration => rw [globsOfNode, List.append_nil, addNode, globs_addItem]
  | use declaration =>
      rw [addNode, globsOfNode]
      split
      · rw [List.append_nil]
      · exact globs_addUseTree scope "" declaration.tree

theorem globs_foldl_addNode (nodes : List Node) :
    (nodes.foldl (addNode crate) scope).globs = scope.globs ++ nodes.flatMap globsOfNode := by
  induction nodes generalizing scope with
  | nil => rw [List.flatMap_nil, List.append_nil, List.foldl_nil]
  | cons node nodes ih =>
      rw [List.foldl_cons, ih, globs_addNode, List.flatMap_cons, List.append_assoc]

theorem globs_ofPrelude (edition : Option String) : (ofPrelude edition).globs = [] := by
  rw [ofPrelude]
  generalize Prelude.entries edition = entries
  have hfold (scope : Scope) :
      (entries.foldl (fun scope entry => scope.bind entry.ident entry.kind entry.path)
        scope).globs = scope.globs := by
    induction entries generalizing scope with
    | nil => rfl
    | cons entry entries ih => rw [List.foldl_cons, ih, globs_bind]
  rw [hfold]

/-- A scope records the globs of all imports, in order. -/
theorem globs_build (crate : String) (edition : Option String) (nodes : List Node) :
    (build crate edition nodes).globs = nodes.flatMap globsOfNode := by
  have hbuild : (build crate edition nodes).globs =
      (nodes.foldl (addNode crate) (ofPrelude edition)).globs := rfl
  rw [hbuild, globs_foldl_addNode, globs_ofPrelude, List.nil_append]

/-! ### A whole crate root -/

/-- Nothing is lost where some members of a list are skipped exactly if these give nothing. -/
theorem flatMap_skip_eq_iff {α β : Type} (skip : α → Bool) (give : α → List β) (xs : List α) :
    xs.flatMap (fun x => if skip x then [] else give x) = xs.flatMap give ↔
      ∀ x ∈ xs.filter skip, give x = [] := by
  have hle (xs : List α) :
      (xs.flatMap fun x => if skip x then [] else give x).length ≤ (xs.flatMap give).length := by
    induction xs with
    | nil => exact Nat.le_refl _
    | cons x xs ih =>
        rw [List.flatMap_cons, List.flatMap_cons, List.length_append, List.length_append]
        refine Nat.add_le_add ?_ ih
        split
        · exact Nat.zero_le _
        · exact Nat.le_refl _
  induction xs with
  | nil => simp
  | cons x xs ih =>
      rw [List.flatMap_cons, List.flatMap_cons, List.filter_cons]
      cases hskip : skip x with
      | false => simpa using ih
      | true =>
          simp only [if_true, List.nil_append, List.forall_mem_cons]
          constructor
          · intro hsame
            have hlength := congrArg List.length hsame
            have hshort := hle xs
            rw [List.length_append] at hlength
            have hnone : give x = [] := List.length_eq_zero_iff.mp (by omega)
            rw [hnone, List.nil_append] at hsame
            exact ⟨hnone, ih.mp hsame⟩
          · rintro ⟨hnone, hrest⟩
            rw [hnone, List.nil_append, ih.mpr hrest]

section Separate

variable {grouped : Import} {separate : List Import}
  (htrees : separate.map Import.tree = grouped.tree.expansions)

include htrees

/-- Single imports of what a tree stands for do what its own import does, unless an import from the
prelude is hidden in it. -/
theorem foldl_addNode_separate
    (hvisible : ∀ declaration ∈ separate, declaration.visibility = grouped.visibility)
    (hhidden : grouped.tree.hiddenPrelude = []) :
    (separate.map Node.use).foldl (addNode crate) scope = addNode crate scope (.use grouped) := by
  have hprelude : ∀ declaration ∈ separate,
      isPreludeImport declaration.tree = isPreludeImport grouped.tree := fun declaration hmem =>
    UseTree.isPreludeImport_eq_of_hiddenPrelude hhidden (htrees ▸ List.mem_map_of_mem hmem)
  rw [addNode, ← foldl_addUseTree_expansions, ← htrees, List.foldl_map, List.foldl_map]
  generalize isPreludeImport grouped.tree = skipped at hprelude ⊢
  clear htrees hhidden
  induction separate generalizing scope with
  | nil => exact (ite_self scope).symm
  | cons declaration separate ih =>
      have hvisible' := List.forall_mem_cons.mp hvisible
      have hprelude' := List.forall_mem_cons.mp hprelude
      rw [List.foldl_cons, ih hvisible'.2 hprelude'.2, addNode, hprelude'.1, hvisible'.1,
        List.foldl_cons]
      cases skipped <;> rfl

/-- Single imports record the same globs exactly if no glob of the prelude is hidden. -/
theorem flatMap_globsOfNode_separate :
    globsOfNode (.use grouped) = (separate.map Node.use).flatMap globsOfNode ↔
      ∀ single ∈ grouped.tree.hiddenPrelude, single.globs "" = [] := by
  have hseparate : (separate.map Node.use).flatMap globsOfNode =
      grouped.tree.expansions.flatMap fun single =>
        if isPreludeImport single then [] else single.globs "" := by
    rw [← htrees, List.flatMap_map, List.flatMap_map]
    rfl
  rw [hseparate, globsOfNode, UseTree.hiddenPrelude, ← UseTree.flatMap_globs_expansions]
  split
  · next htree =>
    have hall : ∀ single ∈ grouped.tree.expansions, isPreludeImport single := fun _ hmem =>
      UseTree.isPreludeImport_of_mem_expansions htree hmem
    have hnone : grouped.tree.expansions.flatMap
        (fun single => if isPreludeImport single then [] else single.globs "") = [] :=
      List.flatMap_eq_nil_iff.mpr fun single hmem => if_pos (hall single hmem)
    exact iff_of_true hnone.symm (by simp)
  · rw [eq_comm]
    exact flatMap_skip_eq_iff isPreludeImport (UseTree.globs "") grouped.tree.expansions

end Separate

/-- For every crate root, an import may be replaced by single imports of what its tree stands for.
The scope stays the same if no import from the prelude is hidden in the tree, and the recorded globs
are the same exactly if no glob of the prelude is. -/
theorem build_separate (crate : String) (edition : Option String) (before after : List Node)
    {grouped : Import} {separate : List Import}
    (htrees : separate.map Import.tree = grouped.tree.expansions)
    (hvisible : ∀ declaration ∈ separate, declaration.visibility = grouped.visibility) :
    (∀ declaration ∈ separate, declaration.tree.isSingle) ∧
      (grouped.tree.hiddenPrelude = [] →
        build crate edition (before ++ .use grouped :: after) =
          build crate edition (before ++ separate.map .use ++ after)) ∧
      ((build crate edition (before ++ .use grouped :: after)).globs =
          (build crate edition (before ++ separate.map .use ++ after)).globs ↔
        ∀ single ∈ grouped.tree.hiddenPrelude, single.globs "" = []) := by
  refine ⟨fun declaration hmem => ?_, fun hhidden => ?_, ?_⟩
  · exact UseTree.isSingle_of_mem_expansions (htrees ▸ List.mem_map_of_mem hmem)
  · rw [build, build, List.foldl_append, List.foldl_cons, List.foldl_append, List.foldl_append,
      foldl_addNode_separate htrees hvisible hhidden]
  · rw [globs_build, globs_build, List.flatMap_append, List.flatMap_cons, List.flatMap_append,
      List.flatMap_append, List.append_assoc, List.append_cancel_left_eq,
      List.append_cancel_right_eq]
    exact flatMap_globsOfNode_separate htrees

/-- The members of `std::{fmt::{self, Display as Show}, io::prelude::*}`. -/
def fmtAndIo : List UseTree :=
  [.path "fmt" (.group [.name "self", .rename "Display" "Show"]),
    .path "io" (.path "prelude" .glob)]

def publicImport (tree : UseTree) : Import :=
  { tree, visibility := .everywhere }

theorem build_separate_nested :
    (expansions (.path "std" (.group fmtAndIo))).length = 3 ∧
      build "my_crate" none [.use (publicImport (.path "std" (.group fmtAndIo)))] =
        build "my_crate" none ((expansions (.path "std" (.group fmtAndIo))).map fun single =>
          .use (publicImport single)) := by
  have htrees : ((expansions (.path "std" (.group fmtAndIo))).map publicImport).map Import.tree =
      expansions (publicImport (.path "std" (.group fmtAndIo))).tree := by
    rw [List.map_map]
    exact List.map_id _
  have hvisible : ∀ declaration ∈
      (expansions (.path "std" (.group fmtAndIo))).map publicImport,
      declaration.visibility = (publicImport (.path "std" (.group fmtAndIo))).visibility := by
    simp [publicImport]
  obtain ⟨-, hsame, -⟩ := build_separate "my_crate" none [] [] htrees hvisible
  have hbuild := hsame rfl
  rw [List.nil_append, List.append_nil, List.map_map] at hbuild
  exact ⟨rfl, hbuild⟩

/-- The tree of `std::{fmt, prelude::v1::*}`. -/
def fmtAndPrelude : UseTree :=
  .path "std" (.group [.name "fmt", .path "prelude" (.path "v1" .glob)])

/-- An import of `std::{fmt, prelude::v1::*}` records a glob, an import of `std::prelude::v1::*` does
not. -/
theorem build_separate_prelude_in_group :
    (build "my_crate" none [.use (publicImport fmtAndPrelude)]).globs ≠
      (build "my_crate" none (fmtAndPrelude.expansions.map fun single =>
        .use (publicImport single))).globs := by
  rw [globs_build, globs_build]
  decide

end Scope

end CrateReadme
