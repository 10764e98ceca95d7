import CrateReadme.Diagnostic.Basic
import CrateReadme.Link.Reference
import CrateReadme.Package.Dependency
import CrateReadme.Scope.Basic
import CrateReadme.Snapshot.Basic
import CrateReadme.Text.Utf8

/-!
# Addresses of documentation pages

A reference leads into the standard library, to the page of a crate, or to a page inside the
documentation of a crate. Every crate that a link leads to is recorded in a snapshot.
-/

namespace CrateReadme

namespace Link

/-- What links are made from: the package itself, its scope and its dependencies. -/
structure Context where
  crate : String
  version : Version
  scope : Scope
  dependencies : List Dependency

def Context.libName (context : Context) : String :=
  libNameOf context.crate

/-- What making links leaves behind: the snapshot of the crates they lead to, the unknown crates
that have been reported, the reports, and the paths at which resolving was given up. -/
structure Trace where
  snapshot : Snapshot
  unknown : List String := []
  diagnostics : List Diagnostic := []
  gaveUp : List String := []

/-- The crates that belong to the standard library. -/
def isStd (crate : String) : Bool :=
  crate ∈ ["std", "core", "alloc"]

/-- The name of the page of an item, for kinds that have pages of their own. -/
def pageName? (kind : SymbolKind) (name : String) : Option String :=
  match kind with
  | .attributeMacro => some ("attr." ++ name ++ ".html")
  | .constant => some ("constant." ++ name ++ ".html")
  | .deriveMacro => some ("derive." ++ name ++ ".html")
  | .enumeration => some ("enum." ++ name ++ ".html")
  | .textMacro => some ("macro." ++ name ++ ".html")
  | .moduleItem => some (name ++ "/index.html")
  | .primitive => some ("primitive." ++ name ++ ".html")
  | .staticItem => some ("static." ++ name ++ ".html")
  | .struct => some ("struct." ++ name ++ ".html")
  | .trait => some ("trait." ++ name ++ ".html")
  | .typeAlias => some ("type." ++ name ++ ".html")
  | _ => none

def stdAddress (rest : List String) (kind : Option SymbolKind) : String :=
  let root := "https://doc.rust-lang.org/stable/std"
  match rest, kind with
  | [name], some .primitive => root ++ "/primitive." ++ name ++ ".html"
  | [name], some .textMacro => root ++ "/macro." ++ name ++ ".html"
  | [], _ => root ++ "/"
  | rest, _ => root ++ "/?search=" ++ Path.ofParts rest

def crateAddress (crate : String) (version : Option Version) : String :=
  let page := "https://crates.io/crates/" ++ crate
  match version with
  | some version => page ++ "/" ++ version.render
  | none => page

/-- A page inside the documentation of a crate. `rest` is the path to the item in the crate. -/
def docsAddress (crate : String) (version : Option Version) (libName : String)
    (rest : List String) (kind : Option SymbolKind) : String :=
  let shownVersion := (version.map Version.render).getD "latest"
  let base := "https://docs.rs/" ++ crate ++ "/" ++ shownVersion ++ "/" ++ libName ++ "/"
  match kind.bind fun kind => pageName? kind (rest.getLast?.getD "") with
  | some page => base ++ String.join (rest.dropLast.map (· ++ "/")) ++ page
  | none => base ++ "?search=" ++ Path.ofParts rest

/-- A crate that a link leads to: its name, version and library name. -/
structure Target where
  crate : String
  version : Option Version
  libName : String
  deriving DecidableEq, Repr

/-- The crate that the first segment of a path means, if it is the package itself or one of its
dependencies. -/
def Context.target? (context : Context) (first : String) : Option Target :=
  if Path.isRootWord first || first = context.libName || first = context.crate then
    some ⟨context.crate, some context.version, context.libName⟩
  else
    (Dependency.find? context.dependencies first).map fun dependency =>
      ⟨dependency.published, dependency.version, dependency.libName⟩

/-- The crate that the first segment of a path means. An unknown crate is reported once. -/
def Context.target (context : Context) (trace : Trace) (first : String) : Target × Trace :=
  match context.target? first with
  | some target => (target, trace)
  | none =>
    let target := ⟨first, none, libNameOf first⟩
    if first ∈ trace.unknown then
      (target, trace)
    else
      (target,
        { trace with
          unknown := trace.unknown ++ [first]
          diagnostics := trace.diagnostics ++ [.unknownCrate first] })

/-- The non-empty segments of a resolved path, the last one without `()` or `!`. -/
def pathSegments (path : String) : List String :=
  let segments := (Path.segments path).filter (· ≠ "")
  match segments.getLast? with
  | some last =>
    segments.dropLast ++ [String.ofList (Reference.withoutCall last.toList)]
  | none => []

def Context.address (context : Context) (trace : Trace) (link : Resolved) : String × Trace :=
  match pathSegments link.path with
  | [] => (link.path, trace)
  | first :: rest =>
    if isStd first then
      (stdAddress rest link.kind, trace)
    else
      let (target, trace) := context.target trace first
      let snapshot := trace.snapshot.addLink target.crate target.version target.libName
      let address :=
        if rest.isEmpty then crateAddress target.crate target.version
        else docsAddress target.crate target.version target.libName rest link.kind
      (address, { trace with snapshot })

/-- The address that a link destination leads to. What is no reference stays as it is. -/
def Context.resolve (context : Context) (trace : Trace) (raw : String) : String × Trace :=
  match Reference.parse? (String.ofList (Text.Percent.decode raw.toList)) with
  | none => (raw, trace)
  | some reference =>
    let link := context.scope.resolve context.libName reference.path reference.kind
    context.address { trace with gaveUp := trace.gaveUp ++ link.gaveUpAt.toList } link

/-- The addresses of several link destinations, made one after the other. -/
def Context.resolveAll (context : Context) (trace : Trace) : List String → List String × Trace
  | [] => ([], trace)
  | raw :: raws =>
    let (address, trace) := context.resolve trace raw
    let (addresses, trace) := context.resolveAll trace raws
    (address :: addresses, trace)

end Link

end CrateReadme
