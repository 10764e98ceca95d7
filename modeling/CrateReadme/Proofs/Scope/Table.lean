import CrateReadme.Scope.Build
import Mathlib.Data.List.Basic

/-!
# The table of a scope

A new binding goes to the front of the candidates of its name and leaves the other names alone. The
clean-up keeps the order of the candidates. So what holds of every binding that is made holds of
every binding of the scope.
-/

namespace CrateReadme.Scope

variable {scope : Scope} {ident name path : String} {kind : SymbolKind} {binding : Binding}

def names (scope : Scope) : List String :=
  scope.entries.map Prod.fst

def Holds (scope : Scope) (property : Binding → Prop) : Prop :=
  ∀ entry ∈ scope.entries, ∀ binding ∈ entry.2, property binding

/-- A binding goes in front of those of its name and leaves the other names alone. -/
theorem lookup_addBinding (ident : String) (binding : Binding)
    (entries : List (String × List Binding)) (name : String) :
    (addBinding ident binding entries).lookup name =
      if name = ident then some (binding :: (entries.lookup ident).getD [])
      else entries.lookup name := by
  induction entries with
  | nil =>
      by_cases h : name = ident
      · simp [addBinding, h]
      · simp [addBinding, List.lookup_cons, h, beq_eq_false_iff_ne.mpr h]
  | cons entry entries ih =>
      obtain ⟨other, bindings⟩ := entry
      rw [addBinding]
      by_cases hother : other = ident
      · subst hother
        by_cases h : name = other
        · simp [h]
        · simp [List.lookup_cons, h, beq_eq_false_iff_ne.mpr h]
      · rw [if_neg (by simpa using hother), List.lookup_cons, ih, List.lookup_cons,
          List.lookup_cons]
        by_cases h : name = ident
        · subst h
          have hne : (name == other) = false := beq_eq_false_iff_ne.mpr (Ne.symm hother)
          simp [hne]
        · by_cases h' : name = other <;> simp [h, h', hother]

theorem get_bind (scope : Scope) (ident : String) (kind : SymbolKind) (path name : String) :
    (scope.bind ident kind path).get name =
      if name = ident ∧ path ≠ ident then ⟨kind, path⟩ :: scope.get ident
      else scope.get name := by
  rw [bind]
  by_cases hself : path = ident
  · simp [hself]
  · rw [if_neg hself, get, get, get]
    simp only
    rw [lookup_addBinding]
    by_cases hname : name = ident <;> simp [hself, hname]

theorem front?_bind_self (scope : Scope) (kind : SymbolKind) (hne : path ≠ ident) :
    (scope.bind ident kind path).front? ident = some ⟨kind, path⟩ := by
  rw [front?, get_bind, if_pos ⟨rfl, hne⟩]
  rfl

/-- A name is added behind the others unless it is there. -/
theorem map_fst_addBinding (ident : String) (binding : Binding)
    (entries : List (String × List Binding)) :
    (addBinding ident binding entries).map Prod.fst =
      if ident ∈ entries.map Prod.fst then entries.map Prod.fst
      else entries.map Prod.fst ++ [ident] := by
  induction entries with
  | nil => rfl
  | cons entry entries ih =>
      obtain ⟨other, bindings⟩ := entry
      rw [addBinding]
      by_cases hother : other = ident
      · simp [hother]
      · rw [if_neg (by simpa using hother), List.map_cons, ih, List.map_cons]
        by_cases hmem : ident ∈ entries.map Prod.fst
        · rw [if_pos hmem, if_pos (List.mem_cons_of_mem _ hmem)]
        · have hmem' : ident ∉ other :: entries.map Prod.fst := by
            rw [List.mem_cons, not_or]
            exact ⟨Ne.symm hother, hmem⟩
          rw [if_neg hmem, if_neg hmem', List.cons_append]

theorem nodup_names_bind (hnodup : scope.names.Nodup) (ident : String) (kind : SymbolKind)
    (path : String) : (scope.bind ident kind path).names.Nodup := by
  rw [bind]
  split
  · exact hnodup
  · rw [names]
    simp only
    rw [map_fst_addBinding]
    split
    · exact hnodup
    · rename_i hnew
      exact List.nodup_append.mpr ⟨hnodup, by simp, fun other hmem _ hlast hsame =>
        hnew (List.mem_singleton.mp hlast ▸ hsame ▸ hmem)⟩

@[simp]
theorem privateModules_bind (scope : Scope) (ident : String) (kind : SymbolKind) (path : String) :
    (scope.bind ident kind path).privateModules = scope.privateModules := by
  rw [bind]
  split <;> rfl

@[simp]
theorem privateModules_addPrivateModule (scope : Scope) (name : String) :
    (scope.addPrivateModule name).privateModules =
      if name ∈ scope.privateModules then scope.privateModules
      else scope.privateModules ++ [name] := by
  rw [addPrivateModule]
  split <;> rfl

/-- An entry is an old one or starts with the binding that was added. -/
theorem mem_addBinding {entry : String × List Binding} {entries : List (String × List Binding)}
    (hmem : entry ∈ addBinding ident binding entries) :
    entry ∈ entries ∨ ∃ bindings, entry = (ident, binding :: bindings) ∧
      ∀ other ∈ bindings, ∃ old ∈ entries, other ∈ old.2 := by
  induction entries with
  | nil =>
      rw [addBinding, List.mem_singleton] at hmem
      exact Or.inr ⟨[], hmem, by simp⟩
  | cons first entries ih =>
      obtain ⟨other, bindings⟩ := first
      rw [addBinding] at hmem
      split at hmem
      · rename_i hsame
        rcases List.mem_cons.mp hmem with rfl | hmem
        · refine Or.inr ⟨bindings, by rw [eq_of_beq hsame], fun old hold => ?_⟩
          exact ⟨_, List.mem_cons_self, hold⟩
        · exact Or.inl (List.mem_cons_of_mem _ hmem)
      · rcases List.mem_cons.mp hmem with rfl | hmem
        · exact Or.inl List.mem_cons_self
        · rcases ih hmem with hold | ⟨bindings, hentry, hrest⟩
          · exact Or.inl (List.mem_cons_of_mem _ hold)
          · refine Or.inr ⟨bindings, hentry, fun other hother => ?_⟩
            obtain ⟨old, hold, hin⟩ := hrest other hother
            exact ⟨old, List.mem_cons_of_mem _ hold, hin⟩

namespace Holds

variable {property : Binding → Prop}

theorem bind (hscope : scope.Holds property) (ident : String)
    (hnew : property ⟨kind, path⟩) : (scope.bind ident kind path).Holds property := by
  rw [Scope.bind]
  split
  · exact hscope
  · intro entry hmem other hother
    rcases mem_addBinding hmem with hold | ⟨bindings, rfl, hrest⟩
    · exact hscope entry hold other hother
    · rcases List.mem_cons.mp hother with rfl | hother
      · exact hnew
      · obtain ⟨old, hold, hin⟩ := hrest other hother
        exact hscope old hold other hin

theorem of_front? (hscope : scope.Holds property) (hfront : scope.front? name = some binding) :
    property binding := by
  rw [front?, get] at hfront
  cases hlookup : scope.entries.lookup name with
  | none => simp [hlookup] at hfront
  | some bindings =>
      obtain ⟨front, back, hentries, -⟩ := List.lookup_eq_some_iff.mp hlookup
      refine hscope (name, bindings) (by simp [hentries]) binding (List.mem_of_head? ?_)
      simpa [hlookup] using hfront

/-- What is left of a scope was there before and is no import out of a private module. -/
theorem clean (hscope : scope.Holds property) :
    scope.clean.Holds fun binding => property binding ∧ scope.isPrivateImport binding = false := by
  intro entry hmem binding hbinding
  obtain ⟨⟨ident, bindings⟩, hold, hkept⟩ := List.mem_filterMap.mp hmem
  have hfilter : entry.2 = bindings.filter fun binding => !scope.isPrivateImport binding := by
    simp only at hkept
    split at hkept
    · cases hkept
    · rename_i kept hne
      cases hkept
      rfl
  rw [hfilter, List.mem_filter] at hbinding
  exact ⟨hscope _ hold binding hbinding.1, by simpa using hbinding.2⟩

theorem foldl_bind (hscope : scope.Holds property) {entries : List Prelude.Entry}
    (hentries : ∀ entry ∈ entries, property ⟨entry.kind, entry.path⟩) :
    (entries.foldl (fun scope entry => scope.bind entry.ident entry.kind entry.path)
      scope).Holds property := by
  induction entries generalizing scope with
  | nil => exact hscope
  | cons entry entries ih =>
      exact ih (hscope.bind entry.ident (hentries entry List.mem_cons_self))
        fun other hmem => hentries other (List.mem_cons_of_mem _ hmem)

end Holds

theorem get_filterMap_of_nodup {keep : Binding → Bool} {entries : List (String × List Binding)}
    (hnodup : (entries.map Prod.fst).Nodup) (name : String) :
    ((entries.filterMap fun (ident, bindings) =>
      match bindings.filter keep with
      | [] => none
      | kept => some (ident, kept)).lookup name).getD [] =
        ((entries.lookup name).getD []).filter keep := by
  induction entries with
  | nil => rfl
  | cons entry entries ih =>
      obtain ⟨ident, bindings⟩ := entry
      rw [List.map_cons, List.nodup_cons] at hnodup
      obtain ⟨hnew, hnodup⟩ := hnodup
      by_cases hname : name = ident
      · subst hname
        have hlater : entries.lookup name = none := by
          rw [List.lookup_eq_none_iff]
          intro entry hmem
          rw [bne_iff_ne]
          exact fun hsame => hnew (List.mem_map.mpr ⟨entry, hmem, hsame.symm⟩)
        have hrest := ih hnodup
        rw [hlater] at hrest
        rw [List.filterMap_cons, List.lookup_cons]
        cases hkept : bindings.filter keep with
        | nil => simpa [hkept] using hrest
        | cons first others => simp [hkept]
      · have hother : (name == ident) = false := beq_eq_false_iff_ne.mpr hname
        rw [List.lookup_cons, hother, ← ih hnodup, List.filterMap_cons]
        cases hkept : bindings.filter keep with
        | nil => simp only [hkept]
        | cons first others => simp only [hkept, List.lookup_cons, hother]

/-- The clean-up takes the imports out of private modules from the candidates of a name. -/
theorem get_clean (hnodup : scope.names.Nodup) (name : String) :
    scope.clean.get name =
      (scope.get name).filter fun binding => !scope.isPrivateImport binding :=
  get_filterMap_of_nodup hnodup name

/-- Cleaning up brings in no name twice. -/
theorem nodup_names_clean (hnodup : scope.names.Nodup) : scope.clean.names.Nodup := by
  refine hnodup.sublist ?_
  rw [names, names, clean]
  induction scope.entries with
  | nil => exact List.Sublist.slnil
  | cons entry entries ih =>
      obtain ⟨ident, bindings⟩ := entry
      rw [List.filterMap_cons, List.map_cons]
      cases hkept : bindings.filter fun binding => !scope.isPrivateImport binding with
      | nil =>
          simp only [hkept]
          exact ih.cons ident
      | cons first others =>
          simp only [hkept, List.map_cons]
          exact ih.cons_cons ident

theorem nodup_names_foldl_bind (hnodup : scope.names.Nodup) (entries : List Prelude.Entry) :
    (entries.foldl (fun scope entry => scope.bind entry.ident entry.kind entry.path)
      scope).names.Nodup := by
  induction entries generalizing scope with
  | nil => exact hnodup
  | cons entry entries ih => exact ih (nodup_names_bind hnodup entry.ident entry.kind entry.path)

theorem nodup_names_ofPrelude (edition : Option String) : (ofPrelude edition).names.Nodup :=
  @nodup_names_foldl_bind {} List.nodup_nil _

/-- The entries of the prelude add no other names than their own. -/
theorem names_foldl_bind (entries : List Prelude.Entry) :
    (entries.foldl (fun scope entry => scope.bind entry.ident entry.kind entry.path)
      scope).names ⊆ scope.names ++ entries.map Prelude.Entry.ident := by
  induction entries generalizing scope with
  | nil => simp
  | cons entry entries ih =>
      refine List.Subset.trans ih ?_
      have hbind : (scope.bind entry.ident entry.kind entry.path).names ⊆
          scope.names ++ [entry.ident] := by
        rw [bind]
        split
        · exact List.subset_append_left _ _
        · rw [names, map_fst_addBinding]
          split
          · exact List.subset_append_left _ _
          · exact List.Subset.refl _
      intro name hmem
      rcases List.mem_append.mp hmem with hmem | hmem
      · rcases List.mem_append.mp (hbind hmem) with hold | hnew
        · exact List.mem_append_left _ hold
        · obtain rfl := List.mem_singleton.mp hnew
          exact List.mem_append_right _ List.mem_cons_self
      · exact List.mem_append_right _ (List.mem_cons_of_mem _ hmem)

/-- The prelude binds no other names than those of its entries. -/
theorem contains_ofPrelude {edition : Option String}
    (hname : ∀ entry ∈ Prelude.entries edition, entry.ident ≠ name) :
    (ofPrelude edition).contains name = false := by
  rw [contains, List.any_eq_false]
  intro entry hmem hsame
  have hident : name ∈ (ofPrelude edition).names := by
    rw [← eq_of_beq hsame]
    exact List.mem_map_of_mem hmem
  obtain ⟨seed, hseed, hident⟩ :=
    List.mem_map.mp (names_foldl_bind (Prelude.entries edition) hident)
  exact hname seed hseed hident

theorem privateModules_ofPrelude (edition : Option String) :
    (ofPrelude edition).privateModules = [] := by
  rw [ofPrelude]
  generalize Prelude.entries edition = entries
  suffices hall : ∀ scope : Scope, scope.privateModules = [] →
      (entries.foldl (fun scope entry => scope.bind entry.ident entry.kind entry.path)
        scope).privateModules = [] from hall {} rfl
  induction entries with
  | nil => exact fun scope hscope => hscope
  | cons entry entries ih =>
      exact fun scope hscope => ih _ ((privateModules_bind ..).trans hscope)

/-! ## Following and resolving

The equations of the two functions are stated here by hand: to unfold them elsewhere, every round of
following would be evaluated.
-/

variable {crate text : String} {known : Option SymbolKind}

/-- One round of following a path. -/
theorem follow_eq (remaining : Nat) : scope.follow crate remaining path known =
    if Path.isAbsolute path then { path, kind := known }
    else
      match Path.parts path with
      | [] => { path, kind := known }
      | head :: tail =>
        if Path.isRootWord head then
          { path := Path.ofParts ((Path.separator ++ crate) :: tail), kind := known }
        else
          match scope.front? head with
          | none => { path, kind := known }
          | some binding =>
            let kind := if tail.isEmpty then some binding.kind else known
            let replaced := Path.ofParts (binding.path :: tail)
            if Path.isAbsolute replaced then { path := replaced, kind }
            else
              match remaining with
              | 0 => { path := replaced, kind, gaveUpAt := path }
              | remaining + 1 => scope.follow crate remaining replaced kind := by
  cases remaining with
  | zero => delta follow; rfl
  | succ remaining => delta follow; rfl

/-- What following leads to gets the kind that was declared for it, if it has none yet. -/
theorem resolve_of_follow {link : Resolved}
    (hfollow : scope.follow crate maxReplacements
      (String.ofList (Path.withoutGenerics (Text.strip text.toList))) known = link) :
    scope.resolve crate text known =
      match link.kind with
      | some _ => link
      | none =>
        if Path.isAbsolute link.path then { link with kind := scope.kindOfPath? link.path }
        else link := by
  cases hkind : link.kind with
  | some kind =>
    delta resolve
    dsimp only
    rw [hfollow, hkind]
  | none =>
    delta resolve
    dsimp only
    rw [hfollow, hkind]

end CrateReadme.Scope
