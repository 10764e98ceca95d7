import CrateReadme.Symbol.Path
import CrateReadme.Symbol.Prelude
import CrateReadme.Text.Printable

/-!
# Scopes

A scope maps identifiers to candidate bindings. A later binding of an identifier hides the earlier
ones without removing them. Once a scope is frozen its bindings cannot change.
-/

namespace CrateReadme

/-- What an identifier may stand for: a kind and a path, absolute or relative to the crate. -/
structure Binding where
  kind : SymbolKind
  path : String
  deriving DecidableEq, Repr, Inhabited

/-- The outcome of resolving a reference: the path that was reached, the kind if it is known, and
the path at which resolving was given up because imports seemed to go round in a circle. -/
structure Resolved where
  path : String
  kind : Option SymbolKind := none
  gaveUpAt : Option String := none
  deriving DecidableEq, Repr, Inhabited

/-- A scope. `entries` holds the candidates of each bound identifier, the most recent one first;
`kinds` holds the kind of each declared absolute path. -/
structure Scope where
  entries : List (String × List Binding) := []
  kinds : List (String × SymbolKind) := []
  privateModules : List String := []
  globs : List String := []
  frozen : Bool := false
  deriving Repr, Inhabited

namespace Scope

/-- A change that a frozen scope refuses. -/
inductive FrozenError where
  | insert (ident : String)
  | cleanup
  deriving DecidableEq, Repr

def FrozenError.message : FrozenError → String
  | insert ident => "cannot insert " ++ Text.quoted ident ++ ": scope is frozen"
  | cleanup => "cannot clean up a frozen scope"

/-- All candidates of an identifier, the most recent one first. -/
def get (scope : Scope) (ident : String) : List Binding :=
  (scope.entries.lookup ident).getD []

/-- The most recent candidate of an identifier. -/
def front? (scope : Scope) (ident : String) : Option Binding :=
  (scope.get ident).head?

def contains (scope : Scope) (ident : String) : Bool :=
  scope.entries.any fun entry => entry.1 == ident

def size (scope : Scope) : Nat :=
  scope.entries.length

/-- The kind of the item declared under an absolute path. -/
def kindOfPath? (scope : Scope) (path : String) : Option SymbolKind :=
  scope.kinds.lookup path

/-- The entries with one more binding at the front of an identifier's candidates. -/
def addBinding (ident : String) (binding : Binding) :
    List (String × List Binding) → List (String × List Binding)
  | [] => [(ident, [binding])]
  | (name, bindings) :: entries =>
    if name == ident then (name, binding :: bindings) :: entries
    else (name, bindings) :: addBinding ident binding entries

/-- The scope with one more binding. A binding of an identifier to itself changes nothing. -/
def bind (scope : Scope) (ident : String) (kind : SymbolKind) (path : String) : Scope :=
  if path = ident then
    scope
  else
    { scope with
      entries := addBinding ident ⟨kind, path⟩ scope.entries
      kinds :=
        if Path.isAbsolute path && !kind.isImport && (scope.kinds.lookup path).isNone then
          scope.kinds ++ [(path, kind)]
        else
          scope.kinds }

def insert (scope : Scope) (ident : String) (kind : SymbolKind) (path : String) :
    Except FrozenError Scope :=
  if scope.frozen then .error (.insert ident) else .ok (scope.bind ident kind path)

def addPrivateModule (scope : Scope) (name : String) : Scope :=
  if name ∈ scope.privateModules then scope
  else { scope with privateModules := scope.privateModules ++ [name] }

def leadsIntoPrivateModule (scope : Scope) (path : String) : Bool :=
  if Path.isAbsolute path then
    false
  else
    match (Path.parts path).dropWhile Path.isRootWord with
    | first :: _ :: _ => first ∈ scope.privateModules
    | _ => false

def isPrivateImport (scope : Scope) (binding : Binding) : Bool :=
  binding.kind = .imported && scope.leadsIntoPrivateModule binding.path

/-- The scope without imports out of private modules, and without identifiers that have no
candidate left. -/
def clean (scope : Scope) : Scope :=
  { scope with
    entries := scope.entries.filterMap fun (ident, bindings) =>
      match bindings.filter fun binding => !scope.isPrivateImport binding with
      | [] => none
      | kept => some (ident, kept) }

def removePrivateImports (scope : Scope) : Except FrozenError Scope :=
  if scope.frozen then .error .cleanup else .ok scope.clean

def freeze (scope : Scope) : Scope :=
  { scope with frozen := true }

/-- A scope without bindings that cannot change. -/
def empty : Scope :=
  { frozen := true }

/-- The scope of a crate of the given edition that declares nothing. -/
def ofPrelude (edition : Option String) : Scope :=
  (Prelude.entries edition).foldl (fun scope entry => scope.bind entry.ident entry.kind entry.path)
    {}

/-- How many times the head of a path may be replaced before a cycle of imports is assumed. -/
def maxReplacements : Nat := 32

/-- Follows a path. Words for the crate root are replaced by the crate. Otherwise a bound head is
replaced by the path of its front binding, again and again until the path is absolute, its head is
unbound, or `remaining` more replacements have been made. -/
def follow (scope : Scope) (crate : String) : (remaining : Nat) → String → Option SymbolKind →
    Resolved
  | remaining, path, kind =>
    if Path.isAbsolute path then
      { path, kind }
    else
      match Path.parts path with
      | [] => { path, kind }
      | head :: tail =>
        if Path.isRootWord head then
          { path := Path.ofParts ((Path.separator ++ crate) :: tail), kind }
        else
          match scope.front? head with
          | none => { path, kind }
          | some binding =>
            let kind := if tail.isEmpty then some binding.kind else kind
            let replaced := Path.ofParts (binding.path :: tail)
            if Path.isAbsolute replaced then
              { path := replaced, kind }
            else
              match remaining with
              | 0 => { path := replaced, kind, gaveUpAt := path }
              | remaining + 1 => follow scope crate remaining replaced kind

/-- Resolves a reference as written. Generic arguments are left out. The kind is the one that the
caller knows, or the one of the name itself, or the one of the item declared under the path. -/
def resolve (scope : Scope) (crate text : String) (kind : Option SymbolKind) : Resolved :=
  let path := String.ofList (Path.withoutGenerics (Text.strip text.toList))
  let link := scope.follow crate maxReplacements path kind
  match link.kind with
  | some _ => link
  | none =>
    if Path.isAbsolute link.path then { link with kind := scope.kindOfPath? link.path } else link

end Scope

end CrateReadme
