import CrateReadme.Data.Value
import CrateReadme.Files.Store
import CrateReadme.Package.Dependency

/-!
# Packages

A package has targets that are built from it and dependencies. The documentation of one target, a
library or a program, becomes the readme. Command lines make the build tool describe a workspace or
print a crate root with its macros expanded.
-/

namespace CrateReadme

/-- What is built from a target. -/
inductive Artifact where
  | library
  | binary
  deriving DecidableEq, Repr, Inhabited

def Artifact.label : Artifact → String
  | library => "lib"
  | binary => "bin"

def Artifact.ofLabel? (word : String) : Option Artifact :=
  [library, binary].find? fun artifact => artifact.label == word

/-- A target of a package: its name, what it is built as, and the file with its root. -/
structure Target where
  name : String
  kinds : List String
  sourcePath : String
  deriving DecidableEq, Repr, Inhabited

namespace Target

def isLibrary (target : Target) : Bool :=
  target.kinds.any (· ∈ ["lib", "rlib", "dylib", "cdylib", "staticlib", "proc-macro"])

def isBinary (target : Target) : Bool :=
  "bin" ∈ target.kinds

end Target

structure Package where
  name : String
  version : Version
  manifestPath : String := ""
  edition : String := "2015"
  license : Option String := none
  repository : Option String := none
  rustVersion : Option String := none
  targets : List Target := []
  dependencies : List Dependency := []
  metadata : Data.Table := []

namespace Package

def libName (package : Package) : String :=
  libNameOf package.name

/-- The targets whose documentation may become the readme, the most wanted one first. -/
def candidates (package : Package) (preferBinary : Bool) : List (Target × Artifact) :=
  let library :=
    (package.targets.find? Target.isLibrary).map fun target => (target, Artifact.library)
  let binary (accept : Target → Bool) : Option (Target × Artifact) :=
    (package.targets.find? fun target => target.isBinary && accept target).map
      fun target => (target, Artifact.binary)
  let main := binary fun target => target.name == package.name
  let order := if preferBinary then [main, library] else [library, main]
  (order ++ [binary fun _ => true]).filterMap id

/-- The target whose documentation becomes the readme. -/
def selectTarget? (package : Package) (preferBinary : Bool) : Option (Target × Artifact) :=
  (package.candidates preferBinary).head?

/-! ### Commands for the build tool -/

def metadataCommand (manifest : Option Files.Location) : List String :=
  ["cargo", "metadata", "--format-version=1", "--all-features"] ++
    (match manifest with
      | some place => ["--manifest-path", place.render]
      | none => [])

/-- Which features are active while macros are expanded. -/
structure FeatureChoice where
  features : List String := []
  all : Bool := false
  noDefault : Bool := false
  deriving DecidableEq, Repr, Inhabited

/-- The command that prints the root of a target with its macros expanded. -/
def expansionCommand (target : String) (artifact : Artifact) (manifest : Option Files.Location)
    (choice : FeatureChoice) : List String :=
  ["cargo", "+nightly", "rustc"] ++
    (match manifest with
      | some place => ["--manifest-path", place.render]
      | none => []) ++
    (match artifact with
      | .library => ["--lib"]
      | .binary => ["--bin", target]) ++
    (if choice.features.isEmpty then [] else ["--features", ",".intercalate choice.features]) ++
    (if choice.all then ["--all-features"] else []) ++
    (if choice.noDefault then ["--no-default-features"] else []) ++
    ["--", "-Zunpretty=expanded"]

end Package

end CrateReadme
