import CrateReadme.Proofs.Scope.Building

/-!
# The kinds of declared paths

Beside the candidates of its names, a scope keeps the kind of every path that was declared. The
first declaration of a path decides: later ones go to the front of the candidates, but leave the
kind as it is. Imports declare nothing.
-/

namespace CrateReadme

open Source

variable {scope : Scope} {crate path : String}

namespace Source

/-- The path under which an item enters the scope of its crate, if it does. -/
def Declaration.path? (crate : String) (item : Declaration) : Option String :=
  match item.kind with
  | .crateAlias =>
    match item.aliasOf with
    | some name =>
      if name = "" ∨ name = "self" ∨ item.ident = Path.separator ++ name then none
      else some (Path.separator ++ name)
    | none => none
  | .textMacro | .attributeMacro | .deriveMacro =>
    if item.exported then some (Path.ofItem crate item.ident) else none
  | _ => if item.visibility.isPublic then some (Path.ofItem crate item.ident) else none

def Node.kindAt? (crate path : String) : Node → Option SymbolKind
  | .item declaration =>
    if declaration.path? crate = some path ∧ declaration.kind.isImport = false then
      some declaration.kind
    else
      none
  | .use _ => none

end Source

namespace Scope

/-- The kind of the first declaration of a path in a crate. What the prelude declares comes before
all nodes. -/
def firstKind? (crate : String) (edition : Option String) (nodes : List Node) (path : String) :
    Option SymbolKind :=
  ((ofPrelude edition).kindOfPath? path).or (nodes.findSome? (Node.kindAt? crate path))

theorem lookup_append_singleton (kinds : List (String × SymbolKind)) (path : String)
    (kind : SymbolKind) (other : String) :
    (kinds ++ [(path, kind)]).lookup other =
      (kinds.lookup other).or (if other = path then some kind else none) := by
  induction kinds with
  | nil =>
      by_cases hsame : other = path
      · simp [hsame]
      · simp [List.lookup_cons, hsame, beq_eq_false_iff_ne.mpr hsame]
  | cons entry kinds ih =>
      rw [List.cons_append, List.lookup_cons, List.lookup_cons, ih]
      cases other == entry.1 <;> rfl

/-- A binding gives its path a kind, unless the path has one, or the binding is an import or binds a
name to itself. -/
theorem kindOfPath?_bind {kind : SymbolKind} (habsolute : Path.isAbsolute path)
    {ident : String} (hself : path ≠ ident) (other : String) :
    (scope.bind ident kind path).kindOfPath? other =
      (scope.kindOfPath? other).or
        (if path = other ∧ kind.isImport = false then some kind else none) := by
  rw [bind, if_neg hself, kindOfPath?, kindOfPath?, habsolute, Bool.true_and]
  cases himport : kind.isImport with
  | true => simp
  | false =>
      cases hlookup : scope.kinds.lookup path with
      | none =>
          simp only [Bool.not_false, Bool.true_and, Option.isNone_none, if_true, and_true]
          rw [lookup_append_singleton]
          simp only [eq_comm]
      | some found =>
          by_cases hsame : path = other
          · subst hsame
            simp [hlookup]
          · simp [hsame]

@[simp]
theorem kindOfPath?_bind_of_isImport {kind : SymbolKind} (himport : kind.isImport)
    (ident path other : String) :
    (scope.bind ident kind path).kindOfPath? other = scope.kindOfPath? other := by
  rw [bind]
  split
  · rfl
  · simp [kindOfPath?, himport]

theorem ofItem_ne {ident other : String} (hlength : other.length ≤ ident.length + 3) :
    Path.ofItem crate ident ≠ other := by
  rintro rfl
  have hseparator : Path.separator.length = 2 := rfl
  simp only [Path.ofItem, String.length_append, hseparator] at hlength
  omega

/-- An item gives its path its kind, unless the path has one. -/
theorem kindOfPath?_addItem (item : Declaration) :
    (scope.addItem crate item).kindOfPath? path =
      (scope.kindOfPath? path).or ((Node.item item).kindAt? crate path) := by
  have hitem (ident : String) (hlength : ident.length ≤ item.ident.length + 3) (scope : Scope) :
      (scope.bind ident item.kind (Path.ofItem crate item.ident)).kindOfPath? path =
        (scope.kindOfPath? path).or
          (if Path.ofItem crate item.ident = path ∧ item.kind.isImport = false then some item.kind
            else none) :=
    kindOfPath?_bind (isAbsolute_ofItem crate item.ident) (ofItem_ne hlength) path
  have hsuffix (suffix : String) (hsuffix : suffix.length ≤ 3) (scope : Scope) :
      ((scope.bind item.ident item.kind (Path.ofItem crate item.ident)).bind
        (item.ident ++ suffix) item.kind (Path.ofItem crate item.ident)).kindOfPath? path =
          (scope.bind item.ident item.kind (Path.ofItem crate item.ident)).kindOfPath? path := by
    rw [hitem (item.ident ++ suffix) (by rw [String.length_append]; omega), hitem item.ident
      (by omega), Option.or_assoc, Option.or_self]
  have hplain := hitem item.ident (by omega) scope
  rw [addItem, Node.kindAt?, Declaration.path?]
  -- A private module changes the list of private modules only.
  have hprivate (name : String) :
      (scope.addPrivateModule name).kindOfPath? path = scope.kindOfPath? path := by
    rw [addPrivateModule]
    split <;> rfl
  cases hkind : item.kind with
  | moduleItem =>
      rw [hkind] at hplain
      by_cases hpublic : item.visibility.isPublic
      · simp only [hpublic, if_true, hplain, Option.some.injEq]
      · simp [hpublic, hprivate]
  | crateAlias =>
      cases halias : item.aliasOf with
      | none => simp
      | some name =>
          by_cases hnone : name = "" ∨ name = "self"
          · rcases hnone with rfl | rfl <;> simp
          · rw [not_or] at hnone
            simp only [hnone, false_or, if_false]
            by_cases hself : Path.separator ++ name = item.ident
            · simp [bind, hself]
            · rw [kindOfPath?_bind (Path.isAbsolute_separator_append name) hself]
              simp only [Ne.symm hself, if_false, Option.some.injEq]
  | textMacro =>
      rw [hkind] at hplain hsuffix
      by_cases hexported : item.exported
      · simp only [hexported, if_true, hsuffix "!" (by decide), hplain, Option.some.injEq]
      · simp [hexported]
  | attributeMacro | deriveMacro =>
      rw [hkind] at hplain
      by_cases hexported : item.exported
      · simp only [hexported, if_true, hplain, Option.some.injEq]
      · simp [hexported]
  | function =>
      rw [hkind] at hplain hsuffix
      by_cases hpublic : item.visibility.isPublic
      · simp only [hpublic, if_true, hsuffix "()" (by decide), hplain, Option.some.injEq]
      · simp [hpublic]
  | _ =>
      rw [hkind] at hplain
      by_cases hpublic : item.visibility.isPublic
      · simp only [hpublic, if_true, hplain, Option.some.injEq]
      · simp [hpublic]

theorem kindOfPath?_addImport (visibility : Visibility) (target ident : String) :
    (scope.addImport crate visibility target ident).kindOfPath? path = scope.kindOfPath? path := by
  rw [addImport]
  split
  · rw [kindOfPath?_bind_of_isImport rfl, kindOfPath?_bind_of_isImport rfl]
  · rw [kindOfPath?_bind_of_isImport rfl]

mutual

/-- A `use` tree declares nothing. -/
theorem kindOfPath?_addUseTree (visibility : Visibility) (scope : Scope) (start : String)
    (tree : UseTree) :
    (addUseTree crate visibility scope start tree).kindOfPath? path = scope.kindOfPath? path := by
  match tree with
  | .path head tail =>
      rw [addUseTree]
      exact kindOfPath?_addUseTree visibility scope _ tail
  | .name ident =>
      rw [addUseTree]
      split
      · simp only
        split
        · exact kindOfPath?_addImport visibility _ _
        · split
          · rfl
          · exact kindOfPath?_addImport visibility _ _
      · split
        · rfl
        · exact kindOfPath?_addImport visibility _ _
  | .rename ident newName =>
      rw [addUseTree]
      split
      · rfl
      · exact kindOfPath?_addImport visibility _ _
  | .glob =>
      rw [addUseTree]
      rfl
  | .group members =>
      rw [addUseTree]
      exact kindOfPath?_addUseTrees visibility scope start members

theorem kindOfPath?_addUseTrees (visibility : Visibility) (scope : Scope) (start : String)
    (trees : List UseTree) :
    (addUseTrees crate visibility scope start trees).kindOfPath? path =
      scope.kindOfPath? path := by
  match trees with
  | [] => rw [addUseTrees]
  | tree :: trees =>
      rw [addUseTrees, kindOfPath?_addUseTrees visibility _ start trees,
        kindOfPath?_addUseTree visibility scope start tree]

end

theorem kindOfPath?_addNode (node : Node) :
    (addNode crate scope node).kindOfPath? path =
      (scope.kindOfPath? path).or (node.kindAt? crate path) := by
  cases node with
  | item declaration => exact kindOfPath?_addItem declaration
  | use declaration =>
      rw [addNode, Node.kindAt?, Option.or_none]
      split
      · rfl
      · exact kindOfPath?_addUseTree ..

theorem kindOfPath?_foldl_addNode (nodes : List Node) :
    (nodes.foldl (addNode crate) scope).kindOfPath? path =
      (scope.kindOfPath? path).or (nodes.findSome? (Node.kindAt? crate path)) := by
  induction nodes generalizing scope with
  | nil => rw [List.foldl_nil, List.findSome?_nil, Option.or_none]
  | cons node nodes ih =>
      rw [List.foldl_cons, ih, kindOfPath?_addNode, List.findSome?_cons, Option.or_assoc]
      cases node.kindAt? crate path <;> rfl

/-- All paths of the prelude lead into the standard library. -/
theorem exists_path_of_mem_entries {edition : Option String} {entry : Prelude.Entry}
    (hmem : entry ∈ Prelude.entries edition) : ∃ rest, entry.path = "::std::" ++ rest := by
  rcases List.mem_append.mp hmem with hmem | hmem
  · rcases List.mem_append.mp hmem with hmem | hmem
    · obtain ⟨name, -, rfl⟩ := List.mem_map.mp hmem
      exact ⟨name, rfl⟩
    · obtain ⟨name, -, rfl⟩ := List.mem_map.mp hmem
      exact ⟨name, rfl⟩
  · obtain ⟨⟨name, home, kind⟩, -, rfl⟩ := List.mem_map.mp hmem
    exact ⟨home ++ "::" ++ name, by simp only [String.append_assoc]⟩

/-- Entries with other paths do not change the kind of a path. -/
theorem kindOfPath?_foldl_bind {entries : List Prelude.Entry}
    (hpath : ∀ entry ∈ entries, entry.path ≠ path) :
    (entries.foldl (fun scope entry => scope.bind entry.ident entry.kind entry.path)
      scope).kindOfPath? path = scope.kindOfPath? path := by
  induction entries generalizing scope with
  | nil => rfl
  | cons entry entries ih =>
      have hbind : (scope.bind entry.ident entry.kind entry.path).kindOfPath? path =
          scope.kindOfPath? path := by
        have hne : path ≠ entry.path := Ne.symm (hpath entry List.mem_cons_self)
        rw [bind]
        split
        · rfl
        · rw [kindOfPath?, kindOfPath?]
          split
          · rw [lookup_append_singleton, if_neg hne, Option.or_none]
          · rfl
      rw [List.foldl_cons, ih fun other hmem => hpath other (List.mem_cons_of_mem _ hmem), hbind]

/-- The prelude declares nothing in another crate. -/
theorem kindOfPath?_ofPrelude {ident : String} (hcrate : Path.IsSegment crate)
    (hident : Path.IsSegment ident) (hstd : crate ≠ "std") (edition : Option String) :
    (ofPrelude edition).kindOfPath? (Path.ofItem crate ident) = none := by
  rw [ofPrelude, kindOfPath?_foldl_bind]
  · rfl
  · intro entry hmem hsame
    obtain ⟨rest, hpath⟩ := exists_path_of_mem_entries hmem
    have hsegment : Path.IsSegment "std" := by decide
    have hsplit : "::std::" ++ rest = Path.separator ++ ("std" ++ Path.separator ++ rest) := by
      simp only [Path.separator, ← String.append_assoc]
      rfl
    have hparts := Path.parts_ofItem hcrate hident
    rw [← hsame, hpath, hsplit, Path.parts_separator_append,
      Path.parts_append_separator hsegment.endsPlain, hsegment.parts] at hparts
    exact hstd (List.cons.inj (List.cons.inj hparts).2).1.symm

/-- In the scope of a crate a path has the kind of its first declaration. -/
theorem kindOfPath?_build (edition : Option String) (nodes : List Node) :
    (build crate edition nodes).kindOfPath? path = firstKind? crate edition nodes path :=
  kindOfPath?_foldl_addNode nodes

end Scope

end CrateReadme
