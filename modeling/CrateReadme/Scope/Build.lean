import CrateReadme.Scope.Basic
import CrateReadme.Source.Item

/-!
# The scope of a crate root

Declarations and imports enter the scope in order, on top of the prelude. Imports out of private
modules are removed in the end, because only then all private modules are known.
-/

namespace CrateReadme.Scope

open Source

def addItem (crate : String) (scope : Scope) (item : Declaration) : Scope :=
  let path := Path.ofItem crate item.ident
  match item.kind with
  | .moduleItem =>
    if item.visibility.isPublic then scope.bind item.ident item.kind path
    else scope.addPrivateModule item.ident
  | .crateAlias =>
    match item.aliasOf with
    | some name =>
      if name = "" ∨ name = "self" then scope
      else scope.bind item.ident item.kind (Path.separator ++ name)
    | none => scope
  | .textMacro =>
    if item.exported then
      (scope.bind item.ident item.kind path).bind (item.ident ++ "!") item.kind path
    else
      scope
  | .attributeMacro | .deriveMacro =>
    if item.exported then scope.bind item.ident item.kind path else scope
  | .function =>
    if item.visibility.isPublic then
      (scope.bind item.ident item.kind path).bind (item.ident ++ "()") item.kind path
    else
      scope
  | _ => if item.visibility.isPublic then scope.bind item.ident item.kind path else scope

/-- The scope after one imported name. A public import also makes the name an item of the crate. -/
def addImport (crate : String) (visibility : Visibility) (scope : Scope) (path ident : String) :
    Scope :=
  let scope := scope.bind ident .imported path
  if visibility.isPublic then scope.bind ident .reexported (Path.ofItem crate ident) else scope

/-- The path in front of a separator at the end of `start`. -/
def parentPath (start : String) : String :=
  String.ofList (start.toList.dropLast.dropLast)

mutual

/-- The scope after the names of a `use` tree. `start` is the path that leads to the tree; it ends
in a separator unless it is empty. -/
def addUseTree (crate : String) (visibility : Visibility) (scope : Scope) (start : String) :
    UseTree → Scope
  | .path head tail =>
    addUseTree crate visibility scope (start ++ head ++ Path.separator) tail
  | .name ident =>
    if ident = "self" then
      let parent := parentPath start
      match Path.lastPart? parent with
      | some last => addImport crate visibility scope parent last
      | none => if parent = "" then scope else addImport crate visibility scope parent parent
    else if start = "" then
      scope
    else
      addImport crate visibility scope (start ++ ident) ident
  | .rename ident newName =>
    if newName = "_" then
      scope
    else
      let target := if ident = "self" then parentPath start else start ++ ident
      addImport crate visibility scope target newName
  | .glob => { scope with globs := scope.globs ++ [start ++ "*"] }
  | .group members => addUseTrees crate visibility scope start members

/-- The scope after the names of several trees below one path. -/
def addUseTrees (crate : String) (visibility : Visibility) (scope : Scope) (start : String) :
    List UseTree → Scope
  | [] => scope
  | tree :: trees =>
    addUseTrees crate visibility (addUseTree crate visibility scope start tree) start trees

end

/-- Whether a tree imports from the prelude of the standard library, which is in scope already. -/
def isPreludeImport : UseTree → Bool
  | .path head (.path next _) =>
    head ∈ ["std", "core", "::std", "::core"] && next = "prelude"
  | _ => false

def addNode (crate : String) (scope : Scope) : Node → Scope
  | .item declaration => scope.addItem crate declaration
  | .use declaration =>
    if isPreludeImport declaration.tree then scope
    else addUseTree crate declaration.visibility scope "" declaration.tree

/-- The scope of a crate with the given name, edition and top-level nodes. -/
def build (crate : String) (edition : Option String) (nodes : List Node) : Scope :=
  (nodes.foldl (addNode crate) (ofPrelude edition)).clean.freeze

end CrateReadme.Scope
