import CrateReadme.Package.Metadata
import Mathlib.Data.List.Induction
import Mathlib.Data.List.Nodup

/-!
# The table of dependencies

The table of a package is put together in three passes: over the edges of the resolve graph that
leave the package, over what the package declares, and last comes the package itself. Whatever a
document holds, if it gives a package at all, then no normal declaration is left out of its table,
every other name there is that of a normal edge, a version stands where a normal edge that has a
name leads to a package of the document, and the last normal declaration of a name says what is
required.
-/

namespace CrateReadme

namespace Dependency

/-! ## Rows by name -/

variable {row : Dependency} {table : List Dependency} {ident : String}

theorem find?_cons (first : Dependency) : find? (first :: table) ident =
    if first.ident = ident then some first else find? table ident := by
  by_cases hsame : first.ident = ident <;> simp [find?, hsame]

/-- A row that was put is found under its name, and the others as before. -/
theorem find?_put : find? (put row table) ident =
    if row.ident = ident then some row else find? table ident := by
  induction table with
  | nil => rw [put, find?_cons]
  | cons first table ih =>
    rw [put]
    by_cases hplace : first.ident = row.ident
    · rw [if_pos hplace, find?_cons, find?_cons, hplace]
      split <;> rfl
    · rw [if_neg hplace, find?_cons, find?_cons, ih]
      by_cases hfirst : first.ident = ident
      · rw [if_pos hfirst, if_neg fun hrow => hplace (hfirst.trans hrow.symm)]
        rw [if_pos hfirst]
      · rw [if_neg hfirst, if_neg hfirst]

theorem map_ident_put : (put row table).map Dependency.ident =
    if row.ident ∈ table.map Dependency.ident then table.map Dependency.ident
    else table.map Dependency.ident ++ [row.ident] := by
  induction table with
  | nil => rfl
  | cons first table ih =>
    rw [put]
    by_cases hplace : first.ident = row.ident
    · simp [hplace]
    · rw [if_neg hplace, List.map_cons, ih, List.map_cons]
      by_cases hmem : row.ident ∈ table.map Dependency.ident
      · rw [if_pos hmem, if_pos (List.mem_cons_of_mem _ hmem)]
      · rw [if_neg hmem, if_neg (by simp [Ne.symm hplace, hmem]), List.cons_append]

theorem nodup_put (hnodup : (table.map Dependency.ident).Nodup) :
    ((put row table).map Dependency.ident).Nodup := by
  rw [map_ident_put]
  split
  · exact hnodup
  next hnew => exact List.nodup_append'.mpr ⟨hnodup, List.nodup_singleton _, by simpa using hnew⟩

/-- If no name occurs twice, a row is found if and only if it is in the table under that name. -/
theorem find?_eq_some_iff (hnodup : (table.map Dependency.ident).Nodup) :
    find? table ident = some row ↔ row ∈ table ∧ row.ident = ident := by
  induction table with
  | nil => simp [find?]
  | cons first table ih =>
    obtain ⟨hfirst, hnodup⟩ := List.nodup_cons.mp hnodup
    rw [find?_cons, List.mem_cons]
    by_cases hsame : first.ident = ident
    · rw [if_pos hsame, Option.some.injEq]
      constructor
      · rintro rfl
        exact ⟨.inl rfl, hsame⟩
      · rintro ⟨rfl | hmem, hrow⟩
        · rfl
        · exact absurd (hsame.trans hrow.symm ▸ List.mem_map_of_mem hmem) hfirst
    · rw [if_neg hsame, ih hnodup]
      constructor
      · rintro ⟨hmem, hrow⟩
        exact ⟨.inr hmem, hrow⟩
      · rintro ⟨rfl | hmem, hrow⟩
        · exact absurd hrow hsame
        · exact ⟨hmem, hrow⟩

end Dependency

namespace Package.Metadata

open Data (Table Value)

/-! ## What a document says -/

def tableOf? : Value → Option Table
  | .table entries => some entries
  | _ => none

def tablesAmong : Value → List Table
  | .list items => items.filterMap tableOf?
  | _ => []

def tablesIn (table : Table) (key : String) : List Table :=
  tablesAmong (table.get key)

def tableIn (table : Table) (key : String) : Table :=
  (tableOf? (table.get key)).getD []

def packagesOf (document : Table) : List Table :=
  tablesIn document "packages"

/-- The node of a package in the resolve graph: the first one with its id. -/
def nodeOf? (document description : Table) : Option Table :=
  (tablesIn (tableIn document "resolve") "nodes").find? fun node =>
    (node.get "id").same (description.get "id")

/-- The edges that leave a package in the resolve graph. -/
def edgesOf (document description : Table) : List Table :=
  (nodeOf? document description).elim [] fun node => tablesIn node "deps"

/-- The name that the source has for the package at the end of an edge. -/
def edgeIdent (edge : Table) : String :=
  ((edge.get? "name").getD (.text "")).shown

/-- An edge is normal if one of its kinds is, or if it has no kinds. -/
def IsNormalEdge (edge : Table) : Prop :=
  (edge.get "dep_kinds").isGiven = false ∨
    ∃ kind ∈ tablesIn edge "dep_kinds", isNormal (kind.get "kind") = true

def LeadsTo (packages : List Table) (edge : Table) : Prop :=
  ∃ package ∈ packages, (package.get "id").same (edge.get "pkg") = true

/-- The declared dependencies that are needed to run. -/
def normalDeclarations (description : Table) : List Table :=
  (tablesIn description "dependencies").filter fun declaration =>
    isNormal (declaration.get "kind")

/-- What a declaration requires, if it can be read. -/
def requirementIn (declaration : Table) : Option Requirement :=
  (Requirement.parse ((declaration.get "req").orElse (.text "*")).shown).toOption

def lastNamed? (declarations : List Table) (ident : String) : Option Table :=
  declarations.reverse.find? fun declaration => declaredIdent declaration = ident

/-! ## Readings that succeed -/

/-- A reading can succeed with a value. -/
def Gives {α : Type} (reading : Reading α) (value : α) : Prop :=
  ∃ before after, reading.run.run before = (.ok value, after)

section Reading

variable {α β : Type} {value : α} {result : β}

theorem gives_bind {first : Reading α} {second : α → Reading β}
    (hgives : Gives (first >>= second) result) :
    ∃ value, Gives first value ∧ Gives (second value) result := by
  obtain ⟨before, after, hrun⟩ := hgives
  rw [ExceptT.run_bind, StateT.run_bind] at hrun
  rcases hfirst : first.run.run before with ⟨error | value, between⟩
  · rw [hfirst] at hrun
    cases hrun
  · rw [hfirst] at hrun
    exact ⟨value, ⟨before, between, hfirst⟩, between, after, hrun⟩

theorem gives_pure {other : α} (hgives : Gives (pure other) value) : value = other := by
  obtain ⟨before, after, hrun⟩ := hgives
  cases hrun
  rfl

theorem not_gives_throw {error : MetadataError} : ¬ Gives (throw error) value := by
  rintro ⟨before, after, hrun⟩
  cases hrun

theorem gives_tableOf {value : Value} {table : Table} (hgives : Gives (tableOf value) table) :
    value = .table table := by
  cases value with
  | table entries => rw [gives_pure hgives]
  | _ => exact absurd hgives not_gives_throw

theorem gives_mapM_tableOf {values : List Value} {tables : List Table}
    (hgives : Gives (values.mapM tableOf) tables) : values = tables.map .table := by
  induction values generalizing tables with
  | nil => rw [gives_pure hgives]; rfl
  | cons value values ih =>
    rw [List.mapM_cons] at hgives
    obtain ⟨table, htable, hgives⟩ := gives_bind hgives
    obtain ⟨rest, hrest, hgives⟩ := gives_bind hgives
    rw [gives_pure hgives, List.map_cons, gives_tableOf htable, ih hrest]

end Reading

theorem filterMap_tableOf? (tables : List Table) :
    (tables.map Value.table).filterMap tableOf? = tables := by
  rw [List.filterMap_map]
  exact List.filterMap_some

theorem gives_itemsOf {value : Value} {values : List Value}
    (hgives : Gives (itemsOf value) values) : values.filterMap tableOf? = tablesAmong value := by
  cases value with
  | list items => rw [gives_pure hgives, tablesAmong]
  | table entries =>
    rw [gives_pure hgives, List.filterMap_map]
    exact List.filterMap_eq_nil_iff.mpr fun _ _ => rfl
  | text text =>
    rw [gives_pure hgives, List.filterMap_map]
    exact List.filterMap_eq_nil_iff.mpr fun _ _ => rfl
  | _ => exact absurd hgives not_gives_throw

theorem tablesAmong_of_isGiven_eq_false {value : Value} (hgiven : value.isGiven = false) :
    tablesAmong value = [] := by
  cases value with
  | list items =>
    cases items with
    | nil => rfl
    | cons => cases hgiven
  | _ => rfl

theorem gives_optionalItems {table : Table} {key : String} {values : List Value}
    (hgives : Gives (optionalItems table key) values) :
    values.filterMap tableOf? = tablesIn table key := by
  rw [gives_itemsOf hgives, tablesIn, Value.orElse]
  split
  · rfl
  · exact (tablesAmong_of_isGiven_eq_false (Bool.eq_false_iff.mpr ‹_›)).symm

theorem gives_optionalTables {table : Table} {key : String} {tables : List Table}
    (hgives : Gives (optionalTables table key) tables) : tables = tablesIn table key := by
  obtain ⟨values, hvalues, htables⟩ := gives_bind hgives
  rw [← gives_optionalItems hvalues, gives_mapM_tableOf htables, filterMap_tableOf?]

/-- What is read as an optional table is the table under the key, or an empty one. -/
theorem gives_optionalTable {table entries : Table} {key : String}
    (hgives : Gives (optionalTable table key) entries) : entries = tableIn table key := by
  have hvalue := gives_tableOf hgives
  rw [Value.orElse] at hvalue
  split at hvalue
  · rw [tableIn, hvalue]
    rfl
  · cases hvalue
    rw [tableIn]
    cases hentry : table.get key with
    | table entries =>
      cases entries with
      | nil => rfl
      | cons => simp [hentry, Value.isGiven] at *
    | _ => rfl

/-- Whether some tables hold one with a value is seen up to the first that does. -/
theorem gives_findBy {key : String} {wanted : Value} {values : List Value} {found : Option Table}
    (hgives : Gives (findBy key wanted values) found) :
    found = (values.filterMap tableOf?).find? fun table => (table.get key).same wanted := by
  induction values with
  | nil => exact gives_pure hgives
  | cons value values ih =>
    rw [findBy] at hgives
    obtain ⟨table, htable, hgives⟩ := gives_bind hgives
    rw [gives_tableOf htable, List.filterMap_cons_some (show tableOf? (.table table) = _ from rfl),
      List.find?_cons]
    cases hsame : (table.get key).same wanted with
    | true =>
      rw [hsame, if_pos rfl] at hgives
      exact gives_pure hgives
    | false =>
      rw [hsame, if_neg Bool.false_ne_true] at hgives
      exact ih hgives

theorem gives_anyM_isNormal {values : List Value} {result : Bool}
    (hgives : Gives (values.anyM fun kind => do return isNormal ((← tableOf kind).get "kind"))
      result) :
    result = (values.filterMap tableOf?).any fun kind => isNormal (kind.get "kind") := by
  induction values with
  | nil => exact gives_pure hgives
  | cons value values ih =>
    rw [List.anyM_cons] at hgives
    obtain ⟨normal, hnormal, hgives⟩ := gives_bind hgives
    obtain ⟨table, htable, hnormal⟩ := gives_bind hnormal
    rw [gives_tableOf htable, List.filterMap_cons_some (show tableOf? (.table table) = _ from rfl),
      List.any_cons, ← gives_pure hnormal]
    cases normal with
    | true => exact gives_pure hgives
    | false => exact ih hgives

theorem gives_hasNormalEdge {edge : Table} {result : Bool}
    (hgives : Gives (hasNormalEdge edge) result) : result = true ↔ IsNormalEdge edge := by
  obtain ⟨kinds, hkinds, hgives⟩ := gives_bind hgives
  rw [gives_anyM_isNormal hgives, gives_itemsOf hkinds, Value.orElse, IsNormalEdge]
  cases hgiven : (edge.get "dep_kinds").isGiven with
  | true => simp [tablesIn]
  | false =>
    refine iff_of_true ?_ (.inl rfl)
    rw [if_neg Bool.false_ne_true]
    decide

/-! ## Declared dependencies -/

def requirementRow (declaration : Table) : Dependency where
  ident := declaredIdent declaration
  published := ""
  requirement := requirementIn declaration

/-- A declaration adds a row if it is a normal one. -/
theorem gives_addRequirement {table next : List Dependency} {declaration : Table}
    (hgives : Gives (addRequirement table declaration) next) :
    next = if isNormal (declaration.get "kind") then
      Dependency.put (requirementRow declaration) table else table := by
  rw [addRequirement] at hgives
  split at hgives
  next hnormal =>
    rw [if_pos hnormal, requirementRow, requirementIn]
    dsimp only at hgives
    cases hparse : Requirement.parse ((declaration.get "req").orElse (.text "*")).shown with
    | ok requirement =>
      rw [hparse] at hgives
      exact gives_pure hgives
    | error cause =>
      rw [hparse] at hgives
      obtain ⟨_, -, hgives⟩ := gives_bind hgives
      exact gives_pure hgives
  next hother => rw [if_neg hother, gives_pure hgives]

def requirementTable (declarations : List Table) : List Dependency :=
  declarations.foldl (fun table declaration => Dependency.put (requirementRow declaration) table) []

/-- The requirements are those of the normal declarations. -/
theorem gives_requirementsOf {declarations : List Table} {declared : List Dependency}
    (hgives : Gives (requirementsOf declarations) declared) :
    declared = requirementTable
      (declarations.filter fun declaration => isNormal (declaration.get "kind")) := by
  rw [requirementsOf] at hgives
  rw [requirementTable]
  generalize ([] : List Dependency) = table at hgives ⊢
  induction declarations generalizing table with
  | nil => exact gives_pure hgives
  | cons declaration declarations ih =>
    rw [List.foldlM_cons] at hgives
    obtain ⟨next, hnext, hgives⟩ := gives_bind hgives
    rw [ih _ hgives, gives_addRequirement hnext, List.filter_cons]
    split <;> rfl

/-- The last declaration of a name says what is required. -/
theorem find?_requirementTable (declarations : List Table) (ident : String) :
    Dependency.find? (requirementTable declarations) ident =
      (lastNamed? declarations ident).map requirementRow := by
  rw [requirementTable]
  induction declarations using List.reverseRec with
  | nil => rfl
  | append_singleton declarations declaration ih =>
    rw [List.foldl_append, List.foldl_cons, List.foldl_nil, Dependency.find?_put, ih, lastNamed?,
      lastNamed?, List.reverse_append, List.reverse_singleton, List.singleton_append,
      List.find?_cons]
    by_cases hsame : declaredIdent declaration = ident <;> simp [requirementRow, hsame]

/-! ## Resolved dependencies -/

/-- An edge gives a row: it is normal, has a name and leads to a package of the document. -/
structure IsResolving (packages : List Table) (edge : Table) : Prop where
  normal : IsNormalEdge edge
  named : edgeIdent edge ≠ ""
  present : LeadsTo packages edge

/-- The row of an edge: it has a version, and the requirement that is declared for its name. -/
structure IsResolvedRow (declared : List Dependency) (name : String) (row : Dependency) : Prop where
  ident : row.ident = name
  version : row.version.isSome = true
  requirement : row.requirement = (Dependency.find? declared name).bind Dependency.requirement

section Resolved

variable {packages : List Table} {declared table next resolved : List Dependency} {edge : Table}

/-- An edge changes the table if and only if it is a resolving one, and then by one row. -/
theorem gives_addResolved (hgives : Gives (addResolved packages declared table edge) next) :
    ¬ IsResolving packages edge ∧ next = table ∨
      IsResolving packages edge ∧
        ∃ row, IsResolvedRow declared (edgeIdent edge) row ∧ next = Dependency.put row table := by
  rw [addResolved] at hgives
  obtain ⟨normal, hnormal, hgives⟩ := gives_bind hgives
  cases normal with
  | false =>
    rw [if_neg Bool.false_ne_true] at hgives
    refine .inl ⟨fun hedge => ?_, gives_pure hgives⟩
    cases (gives_hasNormalEdge hnormal).mpr hedge.normal
  | true =>
    rw [if_pos rfl] at hgives
    cases hfind : packages.reverse.find? fun package =>
        (package.get "id").same (edge.get "pkg") with
    | none =>
      rw [hfind] at hgives
      refine .inl ⟨fun hedge => ?_, gives_pure hgives⟩
      obtain ⟨package, hmem, hsame⟩ := hedge.present
      exact List.find?_eq_none.mp hfind package (List.mem_reverse.mpr hmem) hsame
    | some package =>
      rw [hfind] at hgives
      dsimp only at hgives
      split at hgives
      next hempty => exact .inl ⟨fun hedge => hedge.named hempty, gives_pure hgives⟩
      next hnamed =>
        obtain ⟨published, -, hgives⟩ := gives_bind hgives
        obtain ⟨text, -, hgives⟩ := gives_bind hgives
        obtain ⟨version, -, hgives⟩ := gives_bind hgives
        have hsame : (package.get "id").same (edge.get "pkg") = true := by
          simpa using List.find?_some hfind
        have hpresent : LeadsTo packages edge :=
          ⟨package, List.mem_reverse.mp (List.mem_of_find?_eq_some hfind), hsame⟩
        exact .inr ⟨⟨(gives_hasNormalEdge hnormal).mp rfl, hnamed, hpresent⟩,
          _, ⟨rfl, rfl, rfl⟩, gives_pure hgives⟩

/-- A name has the row of an edge if an edge gives one, and else the row that it had before. -/
theorem gives_foldlM_addResolved {edges : List Table} (ident : String)
    (hgives : Gives (edges.foldlM (addResolved packages declared) table) resolved) :
    ((∃ edge ∈ edges, IsResolving packages edge ∧ edgeIdent edge = ident) ∧
        ∃ row, IsResolvedRow declared ident row ∧ Dependency.find? resolved ident = some row) ∨
      (¬ ∃ edge ∈ edges, IsResolving packages edge ∧ edgeIdent edge = ident) ∧
        Dependency.find? resolved ident = Dependency.find? table ident := by
  induction edges generalizing table with
  | nil =>
    rw [gives_pure hgives]
    exact .inr ⟨by simp, rfl⟩
  | cons edge edges ih =>
    rw [List.foldlM_cons] at hgives
    obtain ⟨next, hnext, hgives⟩ := gives_bind hgives
    obtain ⟨⟨later, hmem, hlater⟩, hrow⟩ | ⟨hnone, hsame⟩ := ih hgives
    · exact .inl ⟨⟨later, List.mem_cons_of_mem _ hmem, hlater⟩, hrow⟩
    obtain ⟨hskipped, rfl⟩ | ⟨hedge, row, hrow, rfl⟩ := gives_addResolved hnext
    · refine .inr ⟨?_, hsame⟩
      rintro ⟨other, hmem, hother, hident⟩
      obtain rfl | hmem := List.mem_cons.mp hmem
      · exact hskipped hother
      · exact hnone ⟨other, hmem, hother, hident⟩
    · rw [Dependency.find?_put, hrow.ident] at hsame
      by_cases hident : edgeIdent edge = ident
      · rw [if_pos hident] at hsame
        exact .inl ⟨⟨edge, List.mem_cons_self, hedge, hident⟩, row, hident ▸ hrow, hsame⟩
      · rw [if_neg hident] at hsame
        refine .inr ⟨?_, hsame⟩
        rintro ⟨other, hmem, hother, hsame⟩
        obtain rfl | hmem := List.mem_cons.mp hmem
        · exact hident hsame
        · exact hnone ⟨other, hmem, hother, hsame⟩

theorem nodup_foldlM_addResolved {edges : List Table}
    (hgives : Gives (edges.foldlM (addResolved packages declared) table) resolved)
    (hnodup : (table.map Dependency.ident).Nodup) :
    (resolved.map Dependency.ident).Nodup := by
  induction edges generalizing table with
  | nil => rwa [gives_pure hgives]
  | cons edge edges ih =>
    rw [List.foldlM_cons] at hgives
    obtain ⟨next, hnext, hgives⟩ := gives_bind hgives
    refine ih hgives ?_
    obtain ⟨-, rfl⟩ | ⟨-, row, -, rfl⟩ := gives_addResolved hnext
    · exact hnodup
    · exact Dependency.nodup_put hnodup

end Resolved

/-! ## Dependencies that were not resolved -/

section Declared

variable (declared table : List Dependency) (declarations : List Table)

/-- The row that a declaration gives where no edge does. -/
def openRow (declaration : Table) (row : Dependency) : Dependency where
  ident := declaredIdent declaration
  published := ((declaration.get? "name").getD (.text (declaredIdent declaration))).shown
  requirement := row.requirement

/-- A declared dependency is added as an open row if its name is not in the table yet. -/
theorem find?_addDeclared (declaration : Table) (ident : String) :
    Dependency.find? (addDeclared declared table declaration) ident =
      (Dependency.find? table ident).or (if declaredIdent declaration = ident then
        (Dependency.find? declared ident).map (openRow declaration) else none) := by
  rw [addDeclared]
  by_cases hsame : declaredIdent declaration = ident
  · subst hsame
    cases htable : Dependency.find? table (declaredIdent declaration) with
    | some row => simp [htable]
    | none =>
      cases hdeclared : Dependency.find? declared (declaredIdent declaration) with
      | none => simp [htable]
      | some row =>
        dsimp only
        rw [Dependency.find?_put]
        simp [openRow]
  · rw [if_neg hsame, Option.or_none]
    split
    · rw [Dependency.find?_put, if_neg hsame]
    · rfl

/-- A name without a row gets one if it is declared with a requirement. -/
theorem find?_foldl_addDeclared (ident : String) :
    Dependency.find? (declarations.foldl (addDeclared declared) table) ident =
      (Dependency.find? table ident).or
        ((declarations.find? fun declaration => declaredIdent declaration = ident).bind
          fun declaration => (Dependency.find? declared ident).map (openRow declaration)) := by
  induction declarations generalizing table with
  | nil => simp
  | cons declaration declarations ih =>
    rw [List.foldl_cons, ih, find?_addDeclared, List.find?_cons]
    by_cases hsame : declaredIdent declaration = ident
    · cases Dependency.find? table ident <;> cases Dependency.find? declared ident <;> simp [hsame]
    · simp [hsame]

theorem nodup_foldl_addDeclared (hnodup : (table.map Dependency.ident).Nodup) :
    ((declarations.foldl (addDeclared declared) table).map Dependency.ident).Nodup := by
  induction declarations generalizing table with
  | nil => exact hnodup
  | cons declaration declarations ih =>
    refine ih _ ?_
    rw [addDeclared]
    split
    · exact Dependency.nodup_put hnodup
    · exact hnodup

end Declared

/-! ## The whole table -/

theorem gives_versionOf {text owner : String} {version : Version}
    (hgives : Gives (versionOf text owner) version) : Version.parse text = .ok version := by
  rw [versionOf] at hgives
  cases hparse : Version.parse text with
  | ok parsed =>
    rw [hparse] at hgives
    rw [gives_pure hgives]
  | error cause =>
    rw [hparse] at hgives
    exact absurd hgives not_gives_throw

theorem gives_fieldText {description : Table} {key text : String}
    (hgives : Gives (fieldText description key) text) :
    (description.get? key).map Value.shown = some text := by
  rw [fieldText] at hgives
  cases hvalue : description.get? key with
  | some value =>
    rw [hvalue] at hgives
    rw [gives_pure hgives, Option.map_some]
  | none =>
    rw [hvalue] at hgives
    exact absurd hgives not_gives_throw

section Packages

variable {document description : Table} {packages : List Value} {key : String} {wanted : Value}

theorem mem_packagesOf_of_findBy (hpackages : Gives (optionalItems document "packages") packages)
    (hgives : Gives (findBy key wanted packages) (some description)) :
    description ∈ packagesOf document := by
  rw [packagesOf, ← gives_optionalItems hpackages]
  exact List.mem_of_find?_eq_some (gives_findBy hgives).symm

theorem mem_packagesOf_of_onlyMember
    (hpackages : Gives (optionalItems document "packages") packages)
    (hgives : Gives (onlyMember document packages) description) :
    description ∈ packagesOf document := by
  obtain ⟨members, -, hgives⟩ := gives_bind hgives
  split at hgives
  · obtain ⟨found, hfind, hgives⟩ := gives_bind hgives
    cases found with
    | some package => exact gives_pure hgives ▸ mem_packagesOf_of_findBy hpackages hfind
    | none => exact absurd hgives not_gives_throw
  · exact absurd hgives not_gives_throw

/-- The package that is read is one of the packages of the document. -/
theorem mem_packagesOf_of_findPackage {name : Option String}
    (hgives : Gives (findPackage document name) description) :
    description ∈ packagesOf document := by
  obtain ⟨packages, hpackages, hgives⟩ := gives_bind hgives
  cases name with
  | some name =>
    obtain ⟨found, hfind, hgives⟩ := gives_bind hgives
    cases found with
    | some package => exact gives_pure hgives ▸ mem_packagesOf_of_findBy hpackages hfind
    | none => exact absurd hgives not_gives_throw
  | none =>
    obtain ⟨resolve, -, hgives⟩ := gives_bind hgives
    dsimp only at hgives
    split at hgives
    · obtain ⟨found, hfind, hgives⟩ := gives_bind hgives
      cases found with
      | some package => exact gives_pure hgives ▸ mem_packagesOf_of_findBy hpackages hfind
      | none => exact mem_packagesOf_of_onlyMember hpackages hgives
    · exact mem_packagesOf_of_onlyMember hpackages hgives

end Packages

def ownRow (name : String) (version : Version) (requirement : Requirement) : Dependency where
  ident := libNameOf name
  published := name
  requirement := requirement
  version := version

theorem own_eq_ok {name : String} {version : Version} {row : Dependency}
    (hown : Dependency.own name version = .ok row) :
    ∃ requirement, Requirement.parse ("=" ++ version.render) = .ok requirement ∧
      row = ownRow name version requirement := by
  rw [Dependency.own] at hown
  cases hparse : Requirement.parse ("=" ++ version.render) with
  | error cause => rw [hparse] at hown; cases hown
  | ok requirement =>
    rw [hparse] at hown
    cases hown
    exact ⟨requirement, rfl, rfl⟩

/-- The table without the row of the package itself. -/
def othersIn (description : Table) (resolved : List Dependency) : List Dependency :=
  (tablesIn description "dependencies").foldl
    (addDeclared (requirementTable (normalDeclarations description))) resolved

theorem gives_resolvedEdges {document description : Table} {edges : List Table}
    (hgives : Gives (resolvedEdges document description) edges) :
    edges = edgesOf document description := by
  obtain ⟨resolve, hresolve, hgives⟩ := gives_bind hgives
  obtain ⟨nodes, hnodes, hgives⟩ := gives_bind hgives
  obtain ⟨node, hnode, hgives⟩ := gives_bind hgives
  have hnode : node = nodeOf? document description := by
    rw [gives_findBy hnode, gives_optionalItems hnodes, gives_optionalTable hresolve, nodeOf?]
  rw [edgesOf, ← hnode]
  cases node with
  | none => exact gives_pure hgives
  | some node => exact gives_optionalTables hgives

/-- A table comes from three passes: over the edges, over the declarations and over the package. -/
theorem gives_dependenciesOf {document description : Table} {name : String} {version : Version}
    {table : List Dependency}
    (hgives : Gives (dependenciesOf document description name version) table) :
    ∃ resolved requirement,
      Gives ((edgesOf document description).foldlM (addResolved (packagesOf document)
        (requirementTable (normalDeclarations description))) []) resolved ∧
      Requirement.parse ("=" ++ version.render) = .ok requirement ∧
      table = Dependency.put (ownRow name version requirement) (othersIn description resolved) := by
  obtain ⟨declarations, hdeclarations, hrest⟩ := gives_bind hgives
  obtain ⟨declared, hdeclared, hrest⟩ := gives_bind hrest
  obtain ⟨packages, hpackages, hrest⟩ := gives_bind hrest
  obtain ⟨edges, hedges, hrest⟩ := gives_bind hrest
  obtain ⟨resolved, hresolved, htable⟩ := gives_bind hrest
  obtain rfl := gives_optionalTables hdeclarations
  obtain rfl := gives_requirementsOf hdeclared
  obtain rfl := gives_optionalTables hpackages
  obtain rfl := gives_resolvedEdges hedges
  cases hown : Dependency.own name version with
  | error cause =>
    rw [hown] at htable
    exact absurd htable not_gives_throw
  | ok row =>
    rw [hown] at htable
    obtain ⟨requirement, hparse, rfl⟩ := own_eq_ok hown
    exact ⟨resolved, requirement, hresolved, hparse, gives_pure htable⟩

/-- The row of a name other than that of the package: an edge gives it, or else a normal declaration
does. -/
theorem row_cases {document description : Table} {resolved : List Dependency} {row : Dependency}
    {ident : String}
    (hresolved : Gives ((edgesOf document description).foldlM (addResolved (packagesOf document)
      (requirementTable (normalDeclarations description))) []) resolved)
    (hrow : Dependency.find? (othersIn description resolved) ident = some row) :
    (∃ edge ∈ edgesOf document description,
        IsResolving (packagesOf document) edge ∧ edgeIdent edge = ident) ∧
        row.version.isSome = true ∧
        row.requirement = (lastNamed? (normalDeclarations description) ident).bind requirementIn ∨
      (¬ ∃ edge ∈ edgesOf document description,
        IsResolving (packagesOf document) edge ∧ edgeIdent edge = ident) ∧
        row.version = none ∧
        ∃ declaration, lastNamed? (normalDeclarations description) ident = some declaration ∧
          row.requirement = requirementIn declaration := by
  rw [othersIn, find?_foldl_addDeclared, find?_requirementTable] at hrow
  obtain ⟨hedge, other, hother, hfind⟩ | ⟨hnone, hfind⟩ := gives_foldlM_addResolved ident hresolved
  · rw [hfind, Option.some_or] at hrow
    obtain rfl := Option.some.inj hrow
    refine .inl ⟨hedge, hother.version, ?_⟩
    rw [hother.requirement, find?_requirementTable, Option.bind_map]
    rfl
  · rw [hfind] at hrow
    obtain ⟨declaration, -, hopen⟩ := Option.bind_eq_some_iff.mp hrow
    rw [Option.map_map] at hopen
    obtain ⟨last, hlast, rfl⟩ := Option.map_eq_some_iff.mp hopen
    exact .inr ⟨hnone, rfl, last, hlast, rfl⟩

theorem mem_of_lastNamed? {declarations : List Table} {ident : String} {declaration : Table}
    (hlast : lastNamed? declarations ident = some declaration) :
    declaration ∈ declarations ∧ declaredIdent declaration = ident :=
  ⟨List.mem_reverse.mp (List.mem_of_find?_eq_some hlast), by simpa using List.find?_some hlast⟩

/-- Every name of a normal declaration has a row. -/
theorem isSome_find?_othersIn {description : Table} {resolved : List Dependency}
    {declaration : Table} (hmem : declaration ∈ normalDeclarations description) :
    (Dependency.find? (othersIn description resolved) (declaredIdent declaration)).isSome := by
  have hdeclared : ((tablesIn description "dependencies").find? fun other =>
      declaredIdent other = declaredIdent declaration).isSome :=
    List.find?_isSome.mpr ⟨declaration, (List.mem_filter.mp hmem).1, by simp⟩
  have hlast : (lastNamed? (normalDeclarations description) (declaredIdent declaration)).isSome :=
    List.find?_isSome.mpr ⟨declaration, List.mem_reverse.mpr hmem, by simp⟩
  obtain ⟨first, hfirst⟩ := Option.isSome_iff_exists.mp hdeclared
  obtain ⟨last, hlast⟩ := Option.isSome_iff_exists.mp hlast
  rw [othersIn, find?_foldl_addDeclared, find?_requirementTable, hfirst, hlast]
  simp

/-- What the table of dependencies of a package holds. -/
structure IsTableOf (document description : Table) (package : Package) : Prop where
  /-- A name has one row. -/
  nodup : (package.dependencies.map Dependency.ident).Nodup
  /-- The package itself has a row that requires exactly its version. -/
  own : ∃ requirement, Requirement.parse ("=" ++ package.version.render) = .ok requirement ∧
    { ident := package.libName, published := package.name, requirement := some requirement,
      version := some package.version } ∈ package.dependencies
  /-- Any other name is that of a normal edge or of a normal declaration. -/
  origin : ∀ row ∈ package.dependencies, row.ident ≠ package.libName →
    (∃ edge ∈ edgesOf document description, IsNormalEdge edge ∧ edgeIdent edge = row.ident) ∨
      ∃ declaration ∈ normalDeclarations description, declaredIdent declaration = row.ident
  /-- No normal declaration is left out. -/
  complete : ∀ declaration ∈ normalDeclarations description,
    ∃ row ∈ package.dependencies, row.ident = declaredIdent declaration
  /-- The last normal declaration of a name says what is required. -/
  requirement : ∀ row ∈ package.dependencies, row.ident ≠ package.libName →
    ∀ declaration, lastNamed? (normalDeclarations description) row.ident = some declaration →
      row.requirement = requirementIn declaration
  /-- A version was chosen where a normal edge with the name leads to a package of the document. -/
  version : ∀ row ∈ package.dependencies, row.version.isSome = true ↔
    row.ident = package.libName ∨ ∃ edge ∈ edgesOf document description,
      IsResolving (packagesOf document) edge ∧ edgeIdent edge = row.ident

/-- The table that is read for a package is the one that the document describes. -/
theorem isTableOf {document description : Table} {package : Package}
    (hgives : Gives (dependenciesOf document description package.name package.version)
      package.dependencies) : IsTableOf document description package := by
  obtain ⟨resolved, requirement, hresolved, hparse, htable⟩ := gives_dependenciesOf hgives
  have hothers : ((othersIn description resolved).map Dependency.ident).Nodup :=
    nodup_foldl_addDeclared _ _ _ (nodup_foldlM_addResolved hresolved List.nodup_nil)
  have hnodup : (package.dependencies.map Dependency.ident).Nodup :=
    htable ▸ Dependency.nodup_put hothers
  have hfind (ident : String) : Dependency.find? package.dependencies ident =
      if package.libName = ident then some (ownRow package.name package.version requirement)
      else Dependency.find? (othersIn description resolved) ident := by
    rw [htable, Dependency.find?_put]
    rfl
  have hrows {row : Dependency} (hmem : row ∈ package.dependencies)
      (hother : row.ident ≠ package.libName) :
      Dependency.find? (othersIn description resolved) row.ident = some row := by
    have hrow := (Dependency.find?_eq_some_iff hnodup).mpr ⟨hmem, rfl⟩
    rwa [hfind, if_neg hother.symm] at hrow
  have hown : ownRow package.name package.version requirement ∈ package.dependencies :=
    ((Dependency.find?_eq_some_iff hnodup).mp (by rw [hfind, if_pos rfl])).1
  refine ⟨hnodup, ⟨requirement, hparse, hown⟩, ?origin, ?complete, ?requirement, ?version⟩
  case origin =>
    intro row hmem hother
    obtain ⟨⟨edge, hedge, hresolving, hident⟩, -, -⟩ | ⟨-, -, last, hlast, -⟩ :=
      row_cases hresolved (hrows hmem hother)
    · exact .inl ⟨edge, hedge, hresolving.normal, hident⟩
    · exact .inr ⟨last, mem_of_lastNamed? hlast⟩
  case complete =>
    intro declaration hmem
    have hsome : (Dependency.find? package.dependencies (declaredIdent declaration)).isSome := by
      rw [hfind]
      split
      · rfl
      · exact isSome_find?_othersIn hmem
    obtain ⟨row, hrow⟩ := Option.isSome_iff_exists.mp hsome
    exact ⟨row, (Dependency.find?_eq_some_iff hnodup).mp hrow⟩
  case requirement =>
    intro row hmem hother declaration hlast
    obtain ⟨-, -, hrequirement⟩ | ⟨-, -, last, hsame, hrequirement⟩ :=
      row_cases hresolved (hrows hmem hother)
    · rw [hrequirement, hlast, Option.bind_some]
    · rw [hrequirement, Option.some.inj (hsame.symm.trans hlast)]
  case version =>
    intro row hmem
    by_cases hother : row.ident = package.libName
    · have hrow := (Dependency.find?_eq_some_iff hnodup).mpr ⟨hmem, rfl⟩
      rw [hfind, if_pos hother.symm] at hrow
      exact iff_of_true (Option.some.inj hrow ▸ rfl) (.inl hother)
    · obtain ⟨hedge, hversion, -⟩ | ⟨hnone, hversion, -⟩ := row_cases hresolved (hrows hmem hother)
      · exact iff_of_true hversion (.inr hedge)
      · rw [hversion]
        exact iff_of_false Bool.false_ne_true fun hedge => hedge.elim hother hnone

/-- A description has the name and the version of a package. -/
structure Describes (description : Table) (package : Package) : Prop where
  name : (description.get? "name").map Value.shown = some package.name
  version : ∃ text, (description.get? "version").map Value.shown = some text ∧
    Version.parse text = .ok package.version

/-- A package that was read is described by a description that was found in the document. -/
theorem gives_read {document : Table} {name : Option String} {package : Package}
    (hgives : Gives (read document name) package) :
    ∃ description, Gives (findPackage document name) description ∧
      Describes description package ∧
      Gives (dependenciesOf document description package.name package.version)
        package.dependencies := by
  obtain ⟨description, hdescription, hrest⟩ := gives_bind hgives
  obtain ⟨name, hname, hrest⟩ := gives_bind hrest
  obtain ⟨text, htext, hrest⟩ := gives_bind hrest
  obtain ⟨version, hversion, hrest⟩ := gives_bind hrest
  obtain ⟨targets, -, hrest⟩ := gives_bind hrest
  obtain ⟨dependencies, hdependencies, hpackage⟩ := gives_bind hrest
  obtain rfl := gives_pure hpackage
  exact ⟨description, hdescription,
    ⟨gives_fieldText hname, text, gives_fieldText htext, gives_versionOf hversion⟩, hdependencies⟩

/-- If a document gives a package, then the table of its dependencies is complete, and what is only
needed for development or for building gives no row. -/
theorem isTableOf_of_ofMetadata {document : Table} {name : Option String} {package : Package}
    {warnings : List String} (hread : ofMetadata document name = (.ok package, warnings)) :
    ∃ description ∈ packagesOf document, Gives (findPackage document name) description ∧
      Describes description package ∧ IsTableOf document description package := by
  obtain ⟨description, hdescription, hdescribes, hdependencies⟩ := gives_read ⟨[], warnings, hread⟩
  exact ⟨description, mem_packagesOf_of_findPackage hdescription, hdescription, hdescribes,
    isTableOf hdependencies⟩

/-- A package that declares one dependency twice, another one with a requirement that cannot be
read, and a third one for development only. -/
def declaring : Table :=
  [("id", .text "app"), ("name", .text "my-app"), ("version", .text "1.0.0"),
    ("dependencies", .list
      [.table [("name", .text "foo"), ("req", .text "^1")],
        .table [("name", .text "foo"), ("req", .text "^1.2"), ("kind", .text "normal")],
        .table [("name", .text "bar"), ("rename", .text "other-bar"), ("req", .text "one")],
        .table [("name", .text "baz"), ("req", .text "^1"), ("kind", .text "dev")]])]

/-- A document in which edges lead from that package to others, one of them for development only. -/
def resolving : Table :=
  [("packages", .list [.table declaring,
      .table [("id", .text "foo"), ("name", .text "foo"), ("version", .text "1.2.3")],
      .table [("id", .text "baz"), ("name", .text "baz"), ("version", .text "1.0.0")]]),
    ("resolve", .table [("root", .text "app"), ("nodes", .list
      [.table [("id", .text "app"), ("deps", .list
        [.table [("name", .text "foo"), ("pkg", .text "foo")],
          .table [("name", .text "baz"), ("pkg", .text "baz"), ("dep_kinds", .list
            [.table [("kind", .text "dev")]])]])]])])]

theorem isTableOf_resolving :
    ∃ package warnings, ofMetadata resolving none = (.ok package, warnings) ∧
      package.dependencies.map (fun row => (row.ident, row.version.isSome)) =
        [("foo", true), ("other_bar", false), ("my_app", true)] ∧
      ∃ description ∈ packagesOf resolving, Gives (findPackage resolving none) description ∧
        Describes description package ∧ IsTableOf resolving description package := by
  have hrows : ((ofMetadata resolving none).1.toOption.map fun package =>
      package.dependencies.map fun row => (row.ident, row.version.isSome)) =
      some [("foo", true), ("other_bar", false), ("my_app", true)] := by decide +kernel
  rcases hread : ofMetadata resolving none with ⟨error | package, warnings⟩
  · rw [hread] at hrows
    cases hrows
  · rw [hread] at hrows
    exact ⟨package, warnings, rfl, Option.some.inj hrows, isTableOf_of_ofMetadata hread⟩

/-- A package that declares a dependency without a name. -/
def nameless : Table :=
  [("id", .text "a"), ("name", .text "a"), ("version", .text "1.0.0"),
    ("dependencies", .list [.table [("name", .text ""), ("req", .text "^1")]])]

def namelessEdge : Table :=
  [("name", .text ""), ("pkg", .text "b")]

/-- A document in which that edge leads from that package to another one. -/
def namelessDocument : Table :=
  [("packages", .list [.table nameless,
      .table [("id", .text "b"), ("name", .text "b"), ("version", .text "1.2.3")]]),
    ("resolve", .table [("root", .text "a"), ("nodes", .list
      [.table [("id", .text "a"), ("deps", .list [.table namelessEdge])]])])]

/-- An edge must have a name: without one it chooses no version for a name that is declared, be this
name empty as well. -/
theorem not_forall_isSome_version_iff :
    ¬ ∀ (document : Table) (name : Option String) (package : Package) (warnings : List String)
      (description : Table), ofMetadata document name = (.ok package, warnings) →
      Gives (findPackage document name) description →
      ∀ row ∈ package.dependencies, row.version.isSome = true ↔
        row.ident = package.libName ∨ ∃ edge ∈ edgesOf document description,
          IsNormalEdge edge ∧ LeadsTo (packagesOf document) edge ∧ edgeIdent edge = row.ident := by
  intro hall
  have hrows : ((ofMetadata namelessDocument none).1.toOption.map fun package =>
      package.dependencies.map fun row => (row.ident, row.version.isSome)) =
      some [("", false), ("a", true)] := by decide +kernel
  rcases hread : ofMetadata namelessDocument none with ⟨error | package, warnings⟩
  · rw [hread] at hrows
    cases hrows
  · rw [hread] at hrows
    have hrows : package.dependencies.map (fun row => (row.ident, row.version.isSome)) =
        [("", false), ("a", true)] := Option.some.inj hrows
    have hmem : ("", false) ∈ package.dependencies.map fun row => (row.ident, row.version.isSome) :=
      hrows ▸ List.mem_cons_self
    obtain ⟨row, hrow, hempty⟩ := List.mem_map.mp hmem
    obtain ⟨hident, hversion⟩ := Prod.mk.inj hempty
    have hedge : ∃ edge ∈ edgesOf namelessDocument nameless, IsNormalEdge edge ∧
        LeadsTo (packagesOf namelessDocument) edge ∧ edgeIdent edge = row.ident :=
      ⟨namelessEdge, List.mem_singleton.mpr rfl, .inl rfl,
        ⟨[("id", .text "b"), ("name", .text "b"), ("version", .text "1.2.3")],
          List.mem_cons_of_mem _ List.mem_cons_self, by decide⟩, hident.symm⟩
    have hsome := (hall namelessDocument none package warnings nameless hread ⟨[], [], rfl⟩ row
      hrow).mpr (.inr hedge)
    rw [hversion] at hsome
    cases hsome

end Package.Metadata

end CrateReadme
