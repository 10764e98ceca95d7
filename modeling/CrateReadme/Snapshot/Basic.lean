import CrateReadme.Digest.Blake3
import CrateReadme.Text.Utf8
import CrateReadme.Version.Requirement

/-!
# Snapshots

A snapshot records what a readme was made from: the schema of the document, digests of the template
and of the documentation, and the crates that links lead to, with the versions used. A later check
compares it with the current state.
-/

namespace CrateReadme

/-- A crate that links lead to. The library name is given only if it differs from the name of the
crate. -/
structure LinkedCrate where
  name : String
  version : Option Version := none
  libAlias : Option String := none
  deriving DecidableEq, Repr, Inhabited

/-- The name under which the library of a crate is documented. -/
def LinkedCrate.libName (entry : LinkedCrate) : String :=
  entry.libAlias.getD entry.name

/-- A snapshot. No two of its crates have the same name. -/
structure Snapshot where
  schema : Int
  template : List UInt8
  docs : List UInt8
  crates : List LinkedCrate := []
  deriving DecidableEq, Repr, Inhabited

namespace Snapshot

/-- The schema of the documents that this library writes. -/
def currentSchema : Int := 1

def digest (text : String) : List UInt8 :=
  Digest.blake3 (Text.utf8 text)

/-- The snapshot of a template and a documentation, without any crates. -/
def start (template docs : String) : Snapshot :=
  { schema := currentSchema, template := digest template, docs := digest docs }

def find? (snapshot : Snapshot) (name : String) : Option LinkedCrate :=
  snapshot.crates.find? fun entry => entry.name == name

/-- The entries with one more; an entry of the same name is replaced where it stands. -/
def putEntry (entry : LinkedCrate) : List LinkedCrate → List LinkedCrate
  | [] => [entry]
  | other :: entries =>
    if other.name == entry.name then entry :: entries else other :: putEntry entry entries

/-- The snapshot with an entry for a crate, whatever was there before. -/
def put (snapshot : Snapshot) (entry : LinkedCrate) : Snapshot :=
  { snapshot with crates := putEntry entry snapshot.crates }

/-- Whether a version says more than another: a known one more than none, a higher one more than a
lower one. -/
def moreSpecific (new old : Option Version) : Bool :=
  match new, old with
  | none, _ => false
  | some _, none => true
  | some new, some old => new.precedence old = .gt

/-- The snapshot after a link to a crate. Of several versions the most specific one is kept. -/
def addLink (snapshot : Snapshot) (name : String) (version : Option Version) (libName : String) :
    Snapshot :=
  let entry := { name, version, libAlias := if libName = name then none else some libName }
  match snapshot.find? name with
  | none => snapshot.put entry
  | some current =>
    if moreSpecific version current.version then snapshot.put entry else snapshot

def isEmpty (snapshot : Snapshot) : Bool :=
  snapshot.crates.isEmpty

/-- Whether the snapshot was made for another schema. -/
def isOutdated (snapshot : Snapshot) : Bool :=
  snapshot.schema ≠ currentSchema

/-- Whether the snapshot was made from this template and documentation. -/
def isOf (snapshot : Snapshot) (template docs : String) : Bool :=
  snapshot.template = digest template && snapshot.docs = digest docs

/-- Whether the entry for a crate agrees with its current library name and requirement. A crate
without an entry gives `missing`. -/
def accepts (snapshot : Snapshot) (name : String) (requirement : Option Requirement)
    (libName : String) (missing : Bool) : Bool :=
  match snapshot.find? name with
  | none => missing
  | some entry =>
    if entry.libName ≠ libName then
      false
    else
      match requirement with
      | none => true
      | some requirement =>
        match entry.version with
        | none => false
        | some version => requirement.accepts version

end Snapshot

end CrateReadme
