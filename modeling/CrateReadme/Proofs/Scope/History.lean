import CrateReadme.Proofs.Scope.Kinds
import Mathlib.Data.List.Induction
import Mathlib.Data.List.TakeWhile

/-!
# A scope as the history of its inserts

Whatever is done to an empty scope, in whatever order, its table is what the inserts so far amount
to. Every insert decides for itself whether it is still there: it was made before the freeze, did
not bind a name to itself, and no clean-up after it found it to be an import out of a module that
was registered by then. Kinds of paths are never taken back.
-/

namespace CrateReadme.Scope

/-- What can be done to a scope while it is built. -/
inductive Operation where
  | insert (ident : String) (kind : SymbolKind) (path : String)
  | addPrivateModule (name : String)
  | cleanup
  | freeze
  deriving DecidableEq, Repr

/-- Does one operation, unless the scope refuses it. -/
def perform (scope : Scope) : Operation → Except FrozenError Scope
  | .insert ident kind path => scope.insert ident kind path
  | .addPrivateModule name => .ok (scope.addPrivateModule name)
  | .cleanup => scope.removePrivateImports
  | .freeze => .ok scope.freeze

/-- The scope after an operation. One that is refused leaves the scope as it was. -/
def after (scope : Scope) (operation : Operation) : Scope :=
  match scope.perform operation with
  | .ok next => next
  | .error _ => scope

/-- The scope after several operations on an empty one. -/
def run (operations : List Operation) : Scope :=
  operations.foldl after {}

/-! ## History -/

/-- The private modules that some operations register. -/
def registered (operations : List Operation) : List String :=
  operations.filterMap fun
    | .addPrivateModule name => some name
    | _ => none

/-- A relative path leads into one of some modules of the crate. -/
def LeadsInto (modules : List String) (path : String) : Prop :=
  Path.isAbsolute path = false ∧ ∃ first second rest,
    (Path.parts path).dropWhile Path.isRootWord = first :: second :: rest ∧ first ∈ modules

/-- A clean-up after a position finds a binding to be an import out of a module that is registered
by then. -/
def IsRemoved (operations : List Operation) (position : Nat) (binding : Binding) : Prop :=
  ∃ later < operations.length, position < later ∧ operations[later]? = some .cleanup ∧
    .freeze ∉ operations.take later ∧ binding.kind = .imported ∧
    LeadsInto (registered (operations.take later)) binding.path

theorem leadsIntoPrivateModule_iff {scope : Scope} {modules : List String}
    (hmodules : ∀ name, name ∈ scope.privateModules ↔ name ∈ modules) (path : String) :
    scope.leadsIntoPrivateModule path ↔ LeadsInto modules path := by
  rw [leadsIntoPrivateModule, LeadsInto]
  cases Path.isAbsolute path with
  | true => simp
  | false =>
      cases (Path.parts path).dropWhile Path.isRootWord with
      | nil => simp
      | cons first rest =>
          cases rest with
          | nil => simp
          | cons second rest => simp [hmodules]

instance (modules : List String) (path : String) : Decidable (LeadsInto modules path) :=
  let scope : Scope := { privateModules := modules }
  decidable_of_iff (scope.leadsIntoPrivateModule path)
    (leadsIntoPrivateModule_iff (fun _ => Iff.rfl) path)

instance (operations : List Operation) (position : Nat) (binding : Binding) :
    Decidable (IsRemoved operations position binding) :=
  inferInstanceAs (Decidable (∃ later < operations.length, _))

/-- The binding of an identifier that was inserted at a position and is still there. -/
def remaining? (operations : List Operation) (ident : String) (position : Nat) : Option Binding :=
  match operations[position]? with
  | some (.insert name kind path) =>
    if name = ident ∧ path ≠ ident ∧ .freeze ∉ operations.take position ∧
        ¬IsRemoved operations position ⟨kind, path⟩ then
      some ⟨kind, path⟩
    else
      none
  | _ => none

/-- The bindings of an identifier that are still there, the most recent one first. -/
def history (operations : List Operation) (ident : String) : List Binding :=
  ((List.range operations.length).filterMap (remaining? operations ident)).reverse

def Operation.kindAt? (path : String) : Operation → Option SymbolKind
  | .insert ident kind target =>
    if target = path ∧ target ≠ ident ∧ Path.isAbsolute target ∧ kind.isImport = false then
      some kind
    else
      none
  | _ => none

/-- The kind of the first declaration of a path before the freeze. -/
def declaredKind? (operations : List Operation) (path : String) : Option SymbolKind :=
  (operations.takeWhile (· ≠ .freeze)).findSome? (Operation.kindAt? path)

/-! ## One more operation -/

section Step

variable {operations : List Operation} {ident : String} {position : Nat} {binding : Binding}

/-- A clean-up after some operations takes a binding away. -/
def Removes (operations : List Operation) (binding : Binding) : Prop :=
  .freeze ∉ operations ∧ binding.kind = .imported ∧
    LeadsInto (registered operations) binding.path

instance (operations : List Operation) (binding : Binding) :
    Decidable (Removes operations binding) :=
  inferInstanceAs (Decidable (_ ∧ _ ∧ _))

theorem registered_append (operations others : List Operation) :
    registered (operations ++ others) = registered operations ++ registered others :=
  List.filterMap_append

theorem take_append_singleton (hposition : position < operations.length) (operation : Operation) :
    (operations ++ [operation]).take position = operations.take position :=
  List.take_append_of_le_length (Nat.le_of_lt hposition)

/-- One more operation removes a binding only if it cleans up. -/
theorem isRemoved_append_singleton (hposition : position < operations.length)
    (operation : Operation) :
    IsRemoved (operations ++ [operation]) position binding ↔
      IsRemoved operations position binding ∨
        operation = .cleanup ∧ Removes operations binding := by
  rw [IsRemoved, IsRemoved, Removes]
  constructor
  · rintro ⟨later, hlength, hlater, hcleanup, hopen, himported, hleads⟩
    rw [List.length_append, List.length_singleton] at hlength
    rcases Nat.lt_succ_iff_lt_or_eq.mp hlength with hbefore | rfl
    · rw [List.getElem?_append_left hbefore] at hcleanup
      rw [take_append_singleton hbefore] at hopen hleads
      exact Or.inl ⟨later, hbefore, hlater, hcleanup, hopen, himported, hleads⟩
    · rw [List.getElem?_concat_length, Option.some.injEq] at hcleanup
      rw [List.take_left] at hopen hleads
      exact Or.inr ⟨hcleanup, hopen, himported, hleads⟩
  · rintro (⟨later, hbefore, hlater, hcleanup, hopen, himported, hleads⟩ |
      ⟨rfl, hopen, himported, hleads⟩)
    · refine ⟨later, by simp; omega, hlater, ?_, ?_, himported, ?_⟩
      · rwa [List.getElem?_append_left hbefore]
      · rwa [take_append_singleton hbefore]
      · rwa [take_append_singleton hbefore]
    · refine ⟨operations.length, by simp, hposition, List.getElem?_concat_length, ?_, himported, ?_⟩
      · rwa [List.take_left]
      · rwa [List.take_left]

/-- One more operation takes away what a clean-up removes, and nothing else. -/
theorem remaining?_append_singleton (hposition : position < operations.length)
    (operation : Operation) :
    remaining? (operations ++ [operation]) ident position =
      (remaining? operations ident position).filter fun binding =>
        ¬(operation = .cleanup ∧ Removes operations binding) := by
  rw [remaining?, remaining?, List.getElem?_append_left hposition,
    take_append_singleton hposition]
  split
  · rename_i name kind path _
    simp only [isRemoved_append_singleton hposition, not_or]
    by_cases hold : name = ident ∧ path ≠ ident ∧ .freeze ∉ operations.take position ∧
        ¬IsRemoved operations position ⟨kind, path⟩
    · obtain ⟨hname, hself, hopen, hremoved⟩ := hold
      by_cases hremoves : operation = .cleanup ∧ Removes operations ⟨kind, path⟩
      · simp [hname, hself, hopen, hremoved, hremoves, Option.filter]
      · simp only [hname, hself, hopen, hremoved, hremoves, Option.filter, ne_eq,
          not_false_eq_true, and_self, if_true, decide_true]
    · rw [if_neg hold, if_neg fun hnew => hold
        ⟨hnew.1, hnew.2.1, hnew.2.2.1, hnew.2.2.2.1⟩]
      rfl
  · rfl

theorem not_isRemoved_last (operation : Operation) :
    ¬IsRemoved (operations ++ [operation]) operations.length binding := by
  rintro ⟨later, hlength, hlater, -⟩
  rw [List.length_append, List.length_singleton] at hlength
  omega

/-- One more operation adds what it inserts in front and takes away what it removes. -/
theorem history_append_singleton (operations : List Operation) (operation : Operation)
    (ident : String) :
    history (operations ++ [operation]) ident =
      (remaining? (operations ++ [operation]) ident operations.length).toList ++
        (history operations ident).filter fun binding =>
          ¬(operation = .cleanup ∧ Removes operations binding) := by
  have hbefore : (List.range operations.length).filterMap
      (remaining? (operations ++ [operation]) ident) =
        ((List.range operations.length).filterMap (remaining? operations ident)).filter
          fun binding => ¬(operation = .cleanup ∧ Removes operations binding) := by
    rw [List.filter_filterMap]
    apply List.filterMap_congr
    intro position hmem
    exact remaining?_append_singleton (List.mem_range.mp hmem) operation
  rw [history, history, List.length_append, List.length_singleton, List.range_succ,
    List.filterMap_append, List.reverse_append, hbefore, List.filter_reverse]
  cases hlast : remaining? (operations ++ [operation]) ident operations.length with
  | none => simp [hlast]
  | some binding => simp [hlast]

/-- An insertion goes to the front of the history of its name, unless the scope is frozen or the
path is the name. -/
theorem history_insert (operations : List Operation) (name : String) (kind : SymbolKind)
    (path ident : String) :
    history (operations ++ [.insert name kind path]) ident =
      if ident = name ∧ path ≠ name ∧ .freeze ∉ operations then
        ⟨kind, path⟩ :: history operations ident
      else history operations ident := by
  rw [history_append_singleton]
  have hlast : remaining? (operations ++ [.insert name kind path]) ident operations.length =
      if ident = name ∧ path ≠ name ∧ .freeze ∉ operations then some ⟨kind, path⟩ else none := by
    rw [remaining?, List.getElem?_concat_length, List.take_left]
    by_cases hname : ident = name
    · subst hname
      simp [not_isRemoved_last]
    · simp [hname, Ne.symm hname]
  rw [hlast]
  split
  · simp
  · simp

theorem history_cleanup (operations : List Operation) (ident : String) :
    history (operations ++ [.cleanup]) ident =
      (history operations ident).filter fun binding => ¬Removes operations binding := by
  rw [history_append_singleton, remaining?, List.getElem?_concat_length]
  simp

theorem history_append_of_ne {operation : Operation}
    (hinsert : ∀ name kind path, operation ≠ .insert name kind path)
    (hcleanup : operation ≠ .cleanup) (ident : String) :
    history (operations ++ [operation]) ident = history operations ident := by
  rw [history_append_singleton, remaining?, List.getElem?_concat_length]
  cases operation with
  | insert name kind path => exact absurd rfl (hinsert name kind path)
  | cleanup => exact absurd rfl hcleanup
  | addPrivateModule name => simp
  | freeze => simp

/-- The kind of a path is declared by the first operation that gives it one before the scope is
frozen. -/
theorem declaredKind?_append_singleton (operations : List Operation) (operation : Operation)
    (path : String) :
    declaredKind? (operations ++ [operation]) path =
      (declaredKind? operations path).or
        (if .freeze ∈ operations then none else operation.kindAt? path) := by
  rw [declaredKind?, declaredKind?, List.takeWhile_append]
  by_cases hfrozen : .freeze ∈ operations
  · have hshort : (operations.takeWhile (· ≠ .freeze)).length ≠ operations.length := by
      intro hlength
      have hall := (List.takeWhile_prefix (· ≠ Operation.freeze)).eq_of_length hlength
      rw [← hall] at hfrozen
      simpa using List.mem_takeWhile_imp hfrozen
    rw [if_neg hshort, if_pos hfrozen, Option.or_none]
  · have hall : operations.takeWhile (· ≠ .freeze) = operations := by
      rw [List.takeWhile_eq_self_iff]
      intro other hmem
      exact decide_eq_true fun hfreeze => hfrozen (hfreeze ▸ hmem)
    rw [hall, if_pos rfl, if_neg hfrozen, List.findSome?_append]
    cases operation with
    | freeze => simp [Operation.kindAt?]
    | _ => simp

end Step

/-! ## What every operation keeps -/

/-- A scope is what some operations on an empty one come to. -/
structure Reflects (scope : Scope) (operations : List Operation) : Prop where
  frozen : scope.frozen ↔ .freeze ∈ operations
  privateModules : ∀ name, name ∈ scope.privateModules ↔ name ∈ registered operations
  names : scope.names.Nodup
  filled : ∀ entry ∈ scope.entries, entry.2 ≠ []
  get : ∀ ident, scope.get ident = history operations ident
  kind : ∀ path, scope.kindOfPath? path = declaredKind? operations path

theorem filled_bind {scope : Scope} (hfilled : ∀ entry ∈ scope.entries, entry.2 ≠ [])
    (ident : String) (kind : SymbolKind) (path : String) :
    ∀ entry ∈ (scope.bind ident kind path).entries, entry.2 ≠ [] := by
  rw [bind]
  split
  · exact hfilled
  · intro entry hmem
    rcases mem_addBinding hmem with hold | ⟨bindings, rfl, -⟩
    · exact hfilled entry hold
    · exact List.cons_ne_nil _ _

theorem filled_clean (scope : Scope) : ∀ entry ∈ scope.clean.entries, entry.2 ≠ [] := by
  intro entry hmem
  obtain ⟨⟨ident, bindings⟩, -, hkept⟩ := List.mem_filterMap.mp hmem
  simp only at hkept
  split at hkept
  · cases hkept
  · rename_i hne
    cases hkept
    exact hne

/-- Binding a name gives its path a kind if it had none. -/
theorem kindOfPath?_bind_eq (scope : Scope) (ident : String) (kind : SymbolKind)
    (path other : String) :
    (scope.bind ident kind path).kindOfPath? other =
      (scope.kindOfPath? other).or ((Operation.insert ident kind path).kindAt? other) := by
  rw [Operation.kindAt?]
  by_cases hself : path = ident
  · rw [bind, if_pos hself]
    simp [hself]
  · cases habsolute : Path.isAbsolute path with
    | true =>
        rw [kindOfPath?_bind habsolute hself]
        simp [hself]
    | false =>
        rw [bind, if_neg hself]
        simp [kindOfPath?, habsolute]

theorem after_insert (scope : Scope) (ident : String) (kind : SymbolKind) (path : String) :
    scope.after (.insert ident kind path) =
      if scope.frozen then scope else scope.bind ident kind path := by
  rw [after, perform, Scope.insert]
  cases scope.frozen <;> rfl

theorem after_cleanup (scope : Scope) :
    scope.after .cleanup = if scope.frozen then scope else scope.clean := by
  rw [after, perform, removePrivateImports]
  cases scope.frozen <;> rfl

@[simp]
theorem frozen_bind (scope : Scope) (ident : String) (kind : SymbolKind) (path : String) :
    (scope.bind ident kind path).frozen = scope.frozen := by
  rw [bind]
  split <;> rfl

@[simp]
theorem frozen_addPrivateModule (scope : Scope) (name : String) :
    (scope.addPrivateModule name).frozen = scope.frozen := by
  rw [Scope.addPrivateModule]
  split <;> rfl

@[simp]
theorem entries_addPrivateModule (scope : Scope) (name : String) :
    (scope.addPrivateModule name).entries = scope.entries := by
  rw [Scope.addPrivateModule]
  split <;> rfl

@[simp]
theorem kinds_addPrivateModule (scope : Scope) (name : String) :
    (scope.addPrivateModule name).kinds = scope.kinds := by
  rw [Scope.addPrivateModule]
  split <;> rfl

namespace Reflects

variable {scope : Scope} {operations : List Operation}

theorem start : Reflects {} [] where
  frozen := by simp
  privateModules := by simp [registered]
  names := List.nodup_nil
  filled := by simp
  get := fun _ => rfl
  kind := fun _ => rfl

/-- What a frozen scope refuses leaves no trace in the history. -/
theorem refuse (hreflects : Reflects scope operations) (hfrozen : scope.frozen)
    {operation : Operation} (hregistered : registered [operation] = [])
    (hhistory : ∀ ident, history (operations ++ [operation]) ident = history operations ident) :
    Reflects scope (operations ++ [operation]) where
  frozen := by simp [hfrozen, hreflects.frozen.mp hfrozen]
  privateModules := by
    rw [registered_append, hregistered, List.append_nil]
    exact hreflects.privateModules
  names := hreflects.names
  filled := hreflects.filled
  get := fun ident => (hreflects.get ident).trans (hhistory ident).symm
  kind := fun path => by
    rw [declaredKind?_append_singleton, if_pos (hreflects.frozen.mp hfrozen), Option.or_none]
    exact hreflects.kind path

/-- An insertion does to the scope what it does to the history. -/
theorem insert (hreflects : Reflects scope operations) (ident : String) (kind : SymbolKind)
    (path : String) :
    Reflects (scope.after (.insert ident kind path)) (operations ++ [.insert ident kind path]) := by
  rw [after_insert]
  by_cases hfrozen : scope.frozen
  · rw [if_pos hfrozen]
    refine hreflects.refuse hfrozen rfl fun name => ?_
    rw [history_insert, if_neg fun hopen => hopen.2.2 (hreflects.frozen.mp hfrozen)]
  · rw [if_neg hfrozen]
    have hopen : .freeze ∉ operations := mt hreflects.frozen.mpr hfrozen
    exact {
      frozen := by simp [hfrozen, hopen]
      privateModules := by
        rw [privateModules_bind, registered_append]
        simpa [registered] using hreflects.privateModules
      names := nodup_names_bind hreflects.names ident kind path
      filled := filled_bind hreflects.filled ident kind path
      get := fun name => by
        rw [get_bind, history_insert]
        by_cases hname : name = ident
        · simp [hname, hopen, hreflects.get]
        · simp [hname, hreflects.get]
      kind := fun other => by
        rw [kindOfPath?_bind_eq, declaredKind?_append_singleton, if_neg hopen, hreflects.kind] }

/-- A private module does to the scope what it does to the history. -/
theorem addPrivateModule (hreflects : Reflects scope operations) (name : String) :
    Reflects (scope.after (.addPrivateModule name)) (operations ++ [.addPrivateModule name]) where
  frozen := by simpa [after, perform] using hreflects.frozen
  privateModules := by
    intro other
    rw [registered_append, List.mem_append, ← hreflects.privateModules]
    change other ∈ (scope.addPrivateModule name).privateModules ↔ _
    rw [privateModules_addPrivateModule]
    by_cases hknown : name ∈ scope.privateModules
    · rw [if_pos hknown]
      simp only [registered, List.filterMap_cons, List.filterMap_nil, List.mem_singleton]
      exact ⟨Or.inl, fun hother => hother.elim id fun hsame => hsame ▸ hknown⟩
    · rw [if_neg hknown]
      simp [registered]
  names := by simpa [after, perform, Scope.names] using hreflects.names
  filled := by simpa [after, perform] using hreflects.filled
  get := fun ident => by
    rw [history_append_of_ne (by simp) (by simp), ← hreflects.get]
    simp [after, perform, Scope.get]
  kind := fun path => by
    rw [declaredKind?_append_singleton, ← hreflects.kind]
    simp [after, perform, kindOfPath?, Operation.kindAt?]

theorem isPrivateImport_iff (hreflects : Reflects scope operations) (hfrozen : ¬scope.frozen)
    (binding : Binding) : scope.isPrivateImport binding ↔ Removes operations binding := by
  rw [isPrivateImport, Bool.and_eq_true, decide_eq_true_eq,
    leadsIntoPrivateModule_iff hreflects.privateModules, Removes]
  exact ⟨fun hprivate => ⟨mt hreflects.frozen.mpr hfrozen, hprivate⟩, And.right⟩

/-- Cleaning up does to the scope what it does to the history. -/
theorem cleanup (hreflects : Reflects scope operations) :
    Reflects (scope.after .cleanup) (operations ++ [.cleanup]) := by
  rw [after_cleanup]
  by_cases hfrozen : scope.frozen
  · rw [if_pos hfrozen]
    refine hreflects.refuse hfrozen rfl fun ident => ?_
    have hkept (binding : Binding) : ¬Removes operations binding :=
      fun hremoves => hremoves.1 (hreflects.frozen.mp hfrozen)
    rw [history_cleanup]
    simp [hkept]
  · rw [if_neg hfrozen]
    have hopen : .freeze ∉ operations := mt hreflects.frozen.mpr hfrozen
    exact {
      frozen := by simp [clean, hfrozen, hopen]
      privateModules := by
        rw [registered_append]
        simpa [registered, clean] using hreflects.privateModules
      names := nodup_names_clean hreflects.names
      filled := filled_clean scope
      get := fun ident => by
        rw [get_clean hreflects.names, history_cleanup, ← hreflects.get]
        apply List.filter_congr
        intro binding _
        rw [Bool.eq_iff_iff, decide_eq_true_eq, ← hreflects.isPrivateImport_iff hfrozen,
          Bool.not_eq_true, Bool.not_eq_true']
      kind := fun path => by
        rw [declaredKind?_append_singleton, ← hreflects.kind]
        simp [kindOfPath?, clean, Operation.kindAt?] }

/-- Freezing does to the scope what it does to the history. -/
theorem freeze (hreflects : Reflects scope operations) :
    Reflects (scope.after .freeze) (operations ++ [.freeze]) where
  frozen := by simp [after, perform, Scope.freeze]
  privateModules := by
    rw [registered_append]
    simpa [registered, after, perform, Scope.freeze] using hreflects.privateModules
  names := hreflects.names
  filled := hreflects.filled
  get := fun ident => by
    rw [history_append_of_ne (by simp) (by simp), ← hreflects.get]
    rfl
  kind := fun path => by
    rw [declaredKind?_append_singleton, ← hreflects.kind]
    simp [kindOfPath?, after, perform, Scope.freeze, Operation.kindAt?]

theorem run (operations : List Operation) : Reflects (Scope.run operations) operations := by
  induction operations using List.reverseRecOn with
  | nil => exact start
  | append_singleton operations operation ih =>
      rw [Scope.run, List.foldl_append]
      cases operation with
      | insert ident kind path => exact ih.insert ident kind path
      | addPrivateModule name => exact ih.addPrivateModule name
      | cleanup => exact ih.cleanup
      | freeze => exact ih.freeze

end Reflects

/-- A scope without empty entries contains the names that have bindings. -/
theorem contains_iff_of_filled {scope : Scope} (hfilled : ∀ entry ∈ scope.entries, entry.2 ≠ [])
    (ident : String) : scope.contains ident ↔ scope.get ident ≠ [] := by
  rw [contains, List.any_eq_true, get]
  cases hlookup : scope.entries.lookup ident with
  | none =>
      rw [List.lookup_eq_none_iff] at hlookup
      simp only [Option.getD_none, ne_eq, not_true_eq_false, iff_false]
      rintro ⟨entry, hmem, hsame⟩
      have hother := hlookup entry hmem
      rw [eq_of_beq hsame] at hother
      simp at hother
  | some bindings =>
      obtain ⟨front, back, hentries, -⟩ := List.lookup_eq_some_iff.mp hlookup
      have hmem : (ident, bindings) ∈ scope.entries := by simp [hentries]
      exact ⟨fun _ => hfilled _ hmem, fun _ => ⟨_, hmem, beq_self_eq_true ident⟩⟩

theorem path_ne_of_mem_history {operations : List Operation} {ident : String} {binding : Binding}
    (hmem : binding ∈ history operations ident) : binding.path ≠ ident := by
  rw [history, List.mem_reverse, List.mem_filterMap] at hmem
  obtain ⟨position, -, hremaining⟩ := hmem
  rw [remaining?] at hremaining
  split at hremaining
  · split at hremaining
    · rename_i haccepted
      cases hremaining
      exact haccepted.2.1
    · cases hremaining
  · cases hremaining

/-- After any operations on an empty scope, the candidates of every identifier are the history of
its inserts, without a binding to itself; an identifier is in the table exactly if it has a
candidate, and then the first one is its front. The kind of a path is the one of its first
declaration. A frozen scope refuses inserts and clean-ups, which change nothing. -/
theorem run_eq_history (operations : List Operation) :
    (∀ ident, (run operations).get ident = history operations ident) ∧
    (∀ ident, (∀ binding ∈ (run operations).get ident, binding.path ≠ ident) ∧
      ((run operations).contains ident ↔ (run operations).get ident ≠ []) ∧
      ((run operations).get ident ≠ [] ↔
        ∃ first rest, (run operations).get ident = first :: rest ∧
          (run operations).front? ident = some first)) ∧
    (∀ entry ∈ (run operations).entries, entry.2 ≠ []) ∧
    (∀ path, (run operations).kindOfPath? path = declaredKind? operations path) ∧
    (.freeze ∈ operations →
      (∀ ident kind path, (run operations).insert ident kind path = .error (.insert ident) ∧
        run (operations ++ [.insert ident kind path]) = run operations) ∧
      (run operations).removePrivateImports = .error .cleanup ∧
        run (operations ++ [.cleanup]) = run operations) := by
  have hreflects := Reflects.run operations
  refine ⟨hreflects.get, fun ident => ⟨?_, contains_iff_of_filled hreflects.filled ident, ?_⟩,
    hreflects.filled, hreflects.kind, fun hfreeze => ?_⟩
  · intro binding hmem
    rw [hreflects.get] at hmem
    exact path_ne_of_mem_history hmem
  · constructor
    · intro hne
      obtain ⟨first, rest, hcons⟩ := List.exists_cons_of_ne_nil hne
      exact ⟨first, rest, hcons, by rw [front?, hcons, List.head?_cons]⟩
    · rintro ⟨first, rest, hcons, -⟩
      rw [hcons]
      exact List.cons_ne_nil first rest
  · have hfrozen := hreflects.frozen.mpr hfreeze
    have hlast (operation : Operation) :
        run (operations ++ [operation]) = (run operations).after operation := by
      rw [run, List.foldl_append]
      rfl
    refine ⟨fun ident kind path => ⟨if_pos hfrozen, ?_⟩, if_pos hfrozen, ?_⟩
    · rw [hlast, after_insert, if_pos hfrozen]
    · rw [hlast, after_cleanup, if_pos hfrozen]

/-- Two clean-ups with inserts and a new private module between them, and operations that come after
the freeze. -/
theorem run_eq_history_two_cleanups :
    let operations : List Operation := [
      .addPrivateModule "m", .insert "A" .imported "m::A", .insert "A" .struct "::c::A", .cleanup,
      .insert "A" .imported "self::m::A", .insert "A" .reexported "m::A",
      .insert "A" .imported "k::A", .insert "B" .imported "B", .insert "C" .imported "k::C",
      .addPrivateModule "k", .cleanup, .insert "A" .enumeration "::c::A", .freeze,
      .insert "C" .struct "::c::C", .cleanup]
    .freeze ∈ operations ∧
    (run operations).get "A" =
      [⟨.enumeration, "::c::A"⟩, ⟨.reexported, "m::A"⟩, ⟨.struct, "::c::A"⟩] ∧
    (run operations).contains "C" = false ∧
    (run operations).kindOfPath? "::c::A" = some .struct ∧
    run (operations ++ [.cleanup]) = run operations := by
  intro operations
  have hfreeze : .freeze ∈ operations := by decide
  obtain ⟨hget, htable, -, hkind, hrefuses⟩ := run_eq_history operations
  have hcontains := (htable "C").2.1
  rw [hget, show history operations "C" = [] by decide] at hcontains
  exact ⟨hfreeze, (hget "A").trans (by decide), by simpa using hcontains,
    (hkind "::c::A").trans (by decide), (hrefuses hfreeze).2.2⟩

end CrateReadme.Scope
