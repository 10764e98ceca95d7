import CrateReadme.Symbol.Kind

/-!
# Declarations of a crate root

The top-level items that name lookup needs: declared items with their kind, name and visibility, and
`use` declarations as trees of paths.
-/

namespace CrateReadme

/-- A range of bytes of a source: from `start` up to, but not including, `stop`. -/
structure Span where
  start : Int
  stop : Int
  deriving DecidableEq, Repr, Inhabited

namespace Source

/-- The visibility of a top-level item. -/
inductive Visibility where
  | inherited
  | everywhere
  | restricted
  deriving DecidableEq, Repr, Inhabited

def Visibility.label : Visibility → String
  | inherited => "private"
  | everywhere => "pub"
  | restricted => "pub(restricted)"

def Visibility.ofLabel? (words : String) : Option Visibility :=
  [inherited, everywhere, restricted].find? fun visibility => visibility.label == words

/-- Whether an item is visible without restriction. -/
def Visibility.isPublic (visibility : Visibility) : Bool :=
  visibility = everywhere

/-- What a `use` declaration brings into scope. -/
inductive UseTree where
  | path (head : String) (tail : UseTree)
  | name (ident : String)
  | rename (ident newName : String)
  | glob
  | group (members : List UseTree)
  deriving Repr, Inhabited

/-- A declared item. `exported` marks macros that are visible outside the crate; `aliasOf` names the
crate that an `extern crate` declaration renames. -/
structure Declaration where
  kind : SymbolKind
  ident : String
  visibility : Visibility := .inherited
  exported : Bool := false
  aliasOf : Option String := none
  span : Option Span := none
  deriving DecidableEq, Repr, Inhabited

/-- A `use` declaration. -/
structure Import where
  tree : UseTree
  visibility : Visibility := .inherited
  span : Option Span := none
  deriving Repr, Inhabited

/-- A top-level node of a crate root. -/
inductive Node where
  | item (declaration : Declaration)
  | use (declaration : Import)
  deriving Repr, Inhabited

def items (nodes : List Node) : List Declaration :=
  nodes.filterMap fun
    | .item declaration => some declaration
    | .use _ => none

/-- The `use` declarations among some nodes. -/
def imports (nodes : List Node) : List Import :=
  nodes.filterMap fun
    | .item _ => none
    | .use declaration => some declaration

end Source

end CrateReadme
