import CrateReadme.Diagnostic.Report
import CrateReadme.Package.Basic
import CrateReadme.Scope.Build
import CrateReadme.Source.Outline

/-!
# What a readme is made from

The documentation of a crate root and the names in its scope, together with what the package says
about itself.
-/

namespace CrateReadme.Readme

structure Input where
  crate : String
  version : Version
  artifact : Artifact
  docs : String
  scope : Scope
  dependencies : List Dependency
  repository : Option String
  license : Option String
  rustVersion : Option String

namespace Input

def ofPackage (package : Package) (artifact : Artifact) (docs : String) (scope : Scope) :
    Input where
  crate := package.name
  version := package.version
  artifact := artifact
  docs := docs
  scope := scope
  dependencies := package.dependencies
  repository := package.repository
  license := package.license
  rustVersion := package.rustVersion

/-- Reads the code of a log, which is the crate root of a package. A malformed root is reported as a
syntax error and gives no documentation; macros that were not expanded and glob imports are
reported too. -/
def read (package : Package) (artifact : Artifact) (log : DiagnosticLog) :
    Except Source.ReadError (Input × DiagnosticLog) :=
  match Source.read log.code with
  | .ok unit =>
    let scope := Scope.build package.libName (some package.edition) unit.nodes
    let log := log.extend (unit.unexpanded.map .unexpandedMacro)
    let log := log.extend (scope.globs.map .globImport)
    .ok (ofPackage package artifact unit.docs scope, log)
  | .error (.malformed fault index) =>
    let offset := Source.byteOffset log.code.toList index
    .ok (ofPackage package artifact "" .empty, log.syntaxError fault.message offset)
  | .error error => .error error

end Input

end CrateReadme.Readme
