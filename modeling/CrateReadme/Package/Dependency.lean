import CrateReadme.Version.Requirement

/-!
# Dependencies

A package refers to its dependencies by names of its own. The table of dependencies has one row for
every such name, in the order in which the names appear; the package itself is one of the rows.
-/

namespace CrateReadme

/-- A dependency as the source sees it: the name it has there, the name of the published package,
the requirement of the manifest and the version that was chosen. -/
structure Dependency where
  ident : String
  published : String
  requirement : Option Requirement := none
  version : Option Version := none
  deriving DecidableEq, Repr, Inhabited

def libNameOf (package : String) : String :=
  String.ofList (package.toList.map fun c => if c = '-' then '_' else c)

namespace Dependency

def libName (dependency : Dependency) : String :=
  libNameOf dependency.published

def find? (table : List Dependency) (ident : String) : Option Dependency :=
  table.find? fun dependency => dependency.ident == ident

/-- The table with a row added. A row with the same name is replaced where it stands. -/
def put (dependency : Dependency) : List Dependency → List Dependency
  | [] => [dependency]
  | row :: table =>
    if row.ident = dependency.ident then dependency :: table
    else row :: put dependency table

/-- The row of a package in its own table: exactly its own version is required. -/
def own (name : String) (version : Version) : Except VersionError Dependency := do
  let requirement ← Requirement.parse ("=" ++ version.render)
  return { ident := libNameOf name, published := name, requirement, version }

def table (name : String) (version : Version) (dependencies : List Dependency) :
    Except VersionError (List Dependency) := do
  return put (← own name version) (dependencies.foldl (fun table row => put row table) [])

end Dependency

end CrateReadme
