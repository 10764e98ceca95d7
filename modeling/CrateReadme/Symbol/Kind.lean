/-!
# Kinds of symbols

What a name of a crate stands for. The kind is fixed when a name enters the scope and decides which
documentation page a reference to it leads to.
-/

namespace CrateReadme

/-- What a name stands for. -/
inductive SymbolKind where
  | constant
  | enumeration
  | crateAlias
  | function
  | textMacro
  | attributeMacro
  | deriveMacro
  | moduleItem
  | staticItem
  | struct
  | trait
  | traitAlias
  | typeAlias
  | union
  | imported
  | reexported
  | primitive
  deriving DecidableEq, Repr, Inhabited

namespace SymbolKind

def label : SymbolKind → String
  | constant => "const"
  | enumeration => "enum"
  | crateAlias => "extern crate"
  | function => "fn"
  | textMacro => "macro"
  | attributeMacro => "attribute macro"
  | deriveMacro => "derive macro"
  | moduleItem => "mod"
  | staticItem => "static"
  | struct => "struct"
  | trait => "trait"
  | traitAlias => "trait alias"
  | typeAlias => "type"
  | union => "union"
  | imported => "use"
  | reexported => "pub use"
  | primitive => "primitive"

def all : List SymbolKind :=
  [constant, enumeration, crateAlias, function, textMacro, attributeMacro, deriveMacro, moduleItem,
   staticItem, struct, trait, traitAlias, typeAlias, union, imported, reexported, primitive]

def ofLabel? (words : String) : Option SymbolKind :=
  all.find? fun kind => kind.label == words

/-- Whether the kind comes from a `use` declaration. -/
def isImport (kind : SymbolKind) : Bool :=
  kind = imported || kind = reexported

/-- What a word in front of `@` in a reference says about the kind. `none` stands for an unknown
word; a known word that leaves the kind open gives `some none`. -/
def disambiguator? : String → Option (Option SymbolKind)
  | "const" => some (some constant)
  | "constant" => some (some constant)
  | "enum" => some (some enumeration)
  | "fn" => some (some function)
  | "function" => some (some function)
  | "method" => some (some function)
  | "macro" => some (some textMacro)
  | "attr" => some (some attributeMacro)
  | "derive" => some (some deriveMacro)
  | "mod" => some (some moduleItem)
  | "module" => some (some moduleItem)
  | "static" => some (some staticItem)
  | "struct" => some (some struct)
  | "trait" => some (some trait)
  | "type" => some (some typeAlias)
  | "union" => some (some union)
  | "prim" => some (some primitive)
  | "primitive" => some (some primitive)
  | "value" => some none
  | "field" => some none
  | "variant" => some none
  | "tyalias" => some (some typeAlias)
  | _ => none

end SymbolKind

end CrateReadme
