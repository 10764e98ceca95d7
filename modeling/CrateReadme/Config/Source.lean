import CrateReadme.Config.Basic
import CrateReadme.Data.Toml.Document
import CrateReadme.Files.Store

/-!
# Sources of settings

Settings are read from the manifest of the package, from a file next to it, and from a file that is
named on the command line. A source without settings does not count.
-/

namespace CrateReadme.Config

def parse (text source : String) : Except ConfigError Data.Table :=
  match Data.Toml.parse text.toList with
  | .ok table => .ok table
  | .error (.clash cause) => .error (.clash cause)
  | .error _ => .error (.malformed source)

/-- The table in a file. A file that is not there is like an empty one, unless it is required. -/
def load (files : Files.Store) (place : Files.Location) (required : Bool) :
    Except ConfigError Data.Table :=
  if files.holds place then
    match files.read place with
    | .error _ => .error (.unreadable place.render)
    | .ok content =>
      match Files.text? content with
      | some text => parse text place.render
      | none => .error (.unreadable place.render)
  else if required then
    .error (.notFound place.render)
  else
    .ok []

/-- The table of settings in a manifest: the innermost of three nested tables. If an outer one is no
table, there are no settings. -/
def toolTable (manifest : Data.Table) : Except ConfigError Data.Table :=
  let inner (value : Data.Value) (key : String) : Data.Value :=
    match value with
    | .table entries => (Data.Table.get? entries key).getD (.table [])
    | _ => .table []
  match inner (inner (inner (.table manifest) "package") "metadata") "doc2readme" with
  | .table entries => .ok entries
  | _ => .error .noToolTable

def mergeGiven (table : Data.Table) (base : Files.Location) (source : String) : Merging Unit :=
  if table.isEmpty then return else mergeTable table base source

def mergeManifest (files : Files.Store) (place : Files.Location) : Merging Unit := do
  let table ← ofExcept (load files place false >>= toolTable)
  mergeGiven table place.parent (place.render ++ " [metadata]")

def mergeFile (files : Files.Store) (place : Files.Location) (required : Bool) : Merging Unit := do
  let table ← ofExcept (load files place required)
  mergeGiven table place.parent place.render

/-- Merges all sources but the command line: the manifest, the file next to it, and the file that
was named. -/
def mergeSources (files : Files.Store) (base : Files.Location) (manifest extra : Option String) :
    Merging Unit := do
  let place := base.under (.ofText (manifest.getD "Cargo.toml"))
  mergeManifest files place
  mergeFile files (place.parent.under (.ofText "doc2readme.toml")) false
  match extra with
  | some extra => mergeFile files (base.under (.ofText extra)) true
  | none => return

end CrateReadme.Config
