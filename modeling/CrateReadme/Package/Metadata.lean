import CrateReadme.Package.Basic

/-!
# Reading package metadata

The build tool describes a workspace as one document: its packages, which of them is the root, and
the graph of resolved dependencies. A package is put together from its own description, from the
node of the graph that belongs to it and from the descriptions of the packages this node leads to.
Dependencies that are only needed for development or for building are left out.
-/

namespace CrateReadme.Package

/-- Why a document gives no package. -/
inductive MetadataError where
  | noSuchPackage (name : String)
  | noRootPackage
  | noTarget
  /-- The package lacks a field that it needs. -/
  | missingField (name : String)
  | badVersion (owner : String) (cause : VersionError)
  /-- A resolved dependency lacks a field that it needs. -/
  | missingKey
  /-- The version of the package cannot be required. -/
  | badRequirement (cause : VersionError)
  /-- Something that should be a table is none. -/
  | notATable
  /-- Something that should be a list is none. -/
  | notAList
  deriving Repr

def MetadataError.message : MetadataError → String
  | noSuchPackage name => "Cannot find requested package `" ++ name ++ "`"
  | noRootPackage =>
    "Missing package. Please make sure there is a package here, " ++
      "workspace roots don't contain any documentation."
  | noTarget => "Failed to find a library or binary target"
  | missingField name => "Package metadata lacks " ++ Text.quoted name
  | badVersion owner cause => "Invalid version of " ++ owner ++ ": " ++ cause.message
  | missingKey => "A package lacks a field"
  | badRequirement cause => cause.message
  | notATable => "A table was expected"
  | notAList => "A list was expected"

/-- Reading a document: it may fail, and it may warn before. -/
abbrev Reading (α : Type) :=
  ExceptT MetadataError (StateM (List String)) α

namespace Metadata

def tableOf : Data.Value → Reading Data.Table
  | .table entries => return entries
  | _ => throw .notATable

/-- What a value that must be iterable consists of: a table of its keys, a text of its
characters. -/
def itemsOf : Data.Value → Reading (List Data.Value)
  | .list items => return items
  | .table entries => return entries.map fun entry => .text entry.1
  | .text value => return value.toList.map fun c => .text (String.singleton c)
  | _ => throw .notAList

def optionalItems (table : Data.Table) (key : String) : Reading (List Data.Value) :=
  itemsOf ((table.get key).orElse (.list []))

def optionalTables (table : Data.Table) (key : String) : Reading (List Data.Table) := do
  (← optionalItems table key).mapM tableOf

def optionalTable (table : Data.Table) (key : String) : Reading Data.Table :=
  tableOf ((table.get key).orElse (.table []))

/-- The first of several values that is a table whose entry has the given value. Every value before
it must be a table as well. -/
def findBy (key : String) (wanted : Data.Value) : List Data.Value → Reading (Option Data.Table)
  | [] => return none
  | value :: values => do
    let table ← tableOf value
    if (table.get key).same wanted then return some table else findBy key wanted values

def onlyMember (document : Data.Table) (packages : List Data.Value) : Reading Data.Table := do
  match ← optionalItems document "workspace_members" with
  | [member] =>
    match ← findBy "id" member packages with
    | some package => return package
    | none => throw .noRootPackage
  | _ => throw .noRootPackage

/-- The package with the given name, or else the root of the document. Without a graph, the only
member of the workspace is the root. -/
def findPackage (document : Data.Table) (name : Option String) : Reading Data.Table := do
  let packages ← optionalItems document "packages"
  match name with
  | some name =>
    match ← findBy "name" (.text name) packages with
    | some package => return package
    | none => throw (.noSuchPackage name)
  | none =>
    let root := (← optionalTable document "resolve").get "root"
    if !root.same .null then
      if let some package ← findBy "id" root packages then
        return package
    onlyMember document packages

def versionOf (text owner : String) : Reading Version :=
  match Version.parse text with
  | .ok version => return version
  | .error cause => throw (.badVersion owner cause)

def targetsOf (package : Data.Table) : Reading (List Target) := do
  (← optionalTables package "targets").mapM fun target => do
    let text (key : String) : String := ((target.get? key).getD (.text "")).shown
    let kinds ← optionalItems target "kind"
    return { name := text "name"
             kinds := kinds.map Data.Value.shown
             sourcePath := text "src_path" }

/-- Whether the kind of a dependency says that it is needed to run. -/
def isNormal (kind : Data.Value) : Bool :=
  kind.same .null || kind.same (.text "normal")

/-- The name that the source has for a declared dependency. -/
def declaredIdent (declaration : Data.Table) : String :=
  libNameOf ((declaration.get "rename").orElse ((declaration.get? "name").getD (.text ""))).shown

/-- Adds the requirement of a declared dependency to those by name. One that cannot be read is left
open, with a warning. -/
def addRequirement (table : List Dependency) (declaration : Data.Table) :
    Reading (List Dependency) := do
  if isNormal (declaration.get "kind") then
    let ident := declaredIdent declaration
    let text := ((declaration.get "req").orElse (.text "*")).shown
    match Requirement.parse text with
    | .ok requirement => return Dependency.put { ident, published := "", requirement } table
    | .error cause =>
      let place := "Ignoring the requirement of dependency `" ++ ident ++ "`: "
      modify (· ++ [place ++ cause.message])
      return Dependency.put { ident, published := "" } table
  else
    return table

/-- The requirements of the declared dependencies by name; later ones replace earlier ones. -/
def requirementsOf (declarations : List Data.Table) : Reading (List Dependency) :=
  declarations.foldlM addRequirement []

def neededText (package : Data.Table) (key : String) : Reading String :=
  match package.get? key with
  | some value => return value.shown
  | none => throw .missingKey

/-- Whether one of the edges of a graph that lead to a dependency is needed to run. -/
def hasNormalEdge (edge : Data.Table) : Reading Bool := do
  let kinds ← itemsOf ((edge.get "dep_kinds").orElse (.list [.table [("kind", .null)]]))
  kinds.anyM fun kind => do return isNormal ((← tableOf kind).get "kind")

def addResolved (packages : List Data.Table) (declared : List Dependency) (table : List Dependency)
    (edge : Data.Table) : Reading (List Dependency) := do
  if ← hasNormalEdge edge then
    let ident := ((edge.get? "name").getD (.text "")).shown
    let package? := packages.reverse.find? fun package =>
      (package.get "id").same (edge.get "pkg")
    match package? with
    | some package =>
      if ident = "" then
        return table
      else
        let published ← neededText package "name"
        let version ← versionOf (← neededText package "version") ("`" ++ published ++ "`")
        let requirement := (Dependency.find? declared ident).bind Dependency.requirement
        return Dependency.put { ident, published, requirement, version } table
    | none => return table
  else
    return table

def addDeclared (declared table : List Dependency) (declaration : Data.Table) : List Dependency :=
  let ident := declaredIdent declaration
  match Dependency.find? table ident, Dependency.find? declared ident with
  | none, some row =>
    let published := ((declaration.get? "name").getD (.text ident)).shown
    Dependency.put { ident, published, requirement := row.requirement } table
  | _, _ => table

/-- The edges that leave a package in the graph of resolved dependencies. -/
def resolvedEdges (document package : Data.Table) : Reading (List Data.Table) := do
  let nodes ← optionalItems (← optionalTable document "resolve") "nodes"
  match ← findBy "id" (package.get "id") nodes with
  | some node => optionalTables node "deps"
  | none => return []

def dependenciesOf (document package : Data.Table) (name : String) (version : Version) :
    Reading (List Dependency) := do
  let declarations ← optionalTables package "dependencies"
  let declared ← requirementsOf declarations
  let packages ← optionalTables document "packages"
  let edges ← resolvedEdges document package
  let resolved ← edges.foldlM (addResolved packages declared) []
  let table := declarations.foldl (addDeclared declared) resolved
  match Dependency.own name version with
  | .ok row => return Dependency.put row table
  | .error cause => throw (.badRequirement cause)

def optionalText (package : Data.Table) (key : String) : Option String :=
  match package.get key with
  | .null => none
  | value => some value.shown

def fieldText (package : Data.Table) (key : String) : Reading String :=
  match package.get? key with
  | some value => return value.shown
  | none => throw (.missingField key)

/-- Reads the package with the given name, or else the root, from a document. -/
def read (document : Data.Table) (name : Option String) : Reading Package := do
  let package ← findPackage document name
  let name ← fieldText package "name"
  let version ← versionOf (← fieldText package "version") ("package `" ++ name ++ "`")
  return {
    name
    version
    manifestPath := ((package.get? "manifest_path").getD (.text "")).shown
    edition := ((package.get "edition").orElse (.text "2015")).shown
    license := optionalText package "license"
    repository := optionalText package "repository"
    rustVersion := optionalText package "rust_version"
    targets := ← targetsOf package
    dependencies := ← dependenciesOf document package name version
    metadata := match package.get "metadata" with
      | .table entries => entries
      | _ => [] }

end Metadata

/-- Reads the package with the given name, or else the root, from a document, together with the
warnings that arise. -/
def ofMetadata (document : Data.Table) (name : Option String) :
    Except MetadataError Package × List String :=
  (Metadata.read document name).run.run []

/-- The target whose documentation becomes the readme. -/
def selectTarget (package : Package) (preferBinary : Bool) :
    Except MetadataError (Target × Artifact) :=
  match package.selectTarget? preferBinary with
  | some choice => .ok choice
  | none => .error .noTarget

end CrateReadme.Package
