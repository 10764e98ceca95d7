import CrateReadme.Data.Value
import CrateReadme.Link.Address
import CrateReadme.Link.Host
import CrateReadme.Markdown.Printer
import CrateReadme.Readme.Input
import CrateReadme.Snapshot.Token
import CrateReadme.Template.Bundled
import CrateReadme.Template.Render

/-!
# Making a readme

The documentation is rewritten with numbered link placeholders, the destinations of its links are
turned into addresses, and a template puts the parts together.
-/

namespace CrateReadme.Readme

/-! ### Trailers

A readme ends in the definitions of its links. The first line of the trailer carries the token of a
snapshot, so that a later run can tell whether the readme is still up to date without making it
anew.
-/

def marker : String :=
  " [__doc2readme_dependencies_info]: "

def definition (label address : String) : String :=
  " [" ++ label ++ "]: " ++ address

/-- The trailer: the token of the snapshot, then a line for every link. -/
def trailer (snapshot : Snapshot) (links : List (String × String)) : String :=
  "\n".intercalate ((marker ++ snapshot.token) :: links.map fun link => definition link.1 link.2)

def endsToken (c : Char) : Bool :=
  c = ' ' || c = '\n'

/-- The token in a readme: what follows the first marker up to a space or the end of the line. -/
def token? (readme : String) : Option String :=
  (Text.breakOn? marker.toList readme.toList).map fun (_, rest) =>
    String.ofList (rest.takeWhile fun c => !endsToken c)

/-! ### Readmes -/

/-- A finished readme: its text, the snapshot in it, its links by placeholder, and what was reported
about them. -/
structure Rendering where
  text : String
  snapshot : Snapshot
  links : List (String × String)
  diagnostics : List Diagnostic

/-- Why no readme could be made. -/
inductive RenderError where
  | template (error : Template.TemplateError)
  | badRepository
  deriving Repr

def Input.linkContext (input : Input) : Link.Context where
  crate := input.crate
  version := input.version
  scope := input.scope
  dependencies := input.dependencies

/-- The addresses of the links of a body by placeholder, with the trace of making them. -/
def resolveLinks (input : Input) (body : Markdown.Body) (trace : Link.Trace) :
    List (String × String) × Link.Trace :=
  let (labels, raws) := body.namedLinks.unzip
  let (addresses, trace) := input.linkContext.resolveAll trace (raws.map String.ofList)
  (labels.zip addresses, trace)

/-- A text that may be missing, as a template sees it. -/
def optionalValue : Option String → Data.Value
  | some text => .text text
  | none => .null

def templateValues (input : Input) (host : Option String) (readme : List Char) (links : String) :
    List (String × Data.Value) :=
  [("crate", .text input.crate),
   ("crate_version", .text input.version.render),
   ("target", .text input.artifact.label),
   ("repository", optionalValue input.repository),
   ("repository_host", optionalValue host),
   ("license", optionalValue input.license),
   ("rust_version", optionalValue input.rustVersion),
   ("readme", .text (String.ofList readme)),
   ("links", .text links)]

/-- What goes into a readme before the template puts it together: the rewritten documentation, the
links by placeholder, and the trace of making them. -/
structure Draft where
  body : List Char
  links : List (String × String)
  trace : Link.Trace

/-- Rewrites the documentation of an input and makes its links. -/
def draft (input : Input) (template : String) : Draft :=
  let body := Markdown.normalize input.docs.toList
  let start : Link.Trace := { snapshot := .start template input.docs }
  let (links, trace) := resolveLinks input body start
  { body := Text.trimEnd (· = '\n') body.text, links, trace }

def render (input : Input) (template : String) (standIns : Text.StandIns := .usual) :
    Except RenderError Rendering :=
  let draft := draft input template
  match Host.ofRepository? input.repository with
  | none => .error .badRepository
  | some host =>
    let snapshot := draft.trace.snapshot
    let values := templateValues input host draft.body (trailer snapshot draft.links)
    match Template.render template.toList values standIns with
    | .error error => .error (.template error)
    | .ok text => .ok ⟨String.ofList text, snapshot, draft.links, draft.trace.diagnostics⟩

/-- The input with characters of another block in the place of the surrogates in its metadata. -/
def Input.respelled (input : Input) (standIns : Text.StandIns) : Input :=
  { input with
    crate := standIns.respell input.crate
    repository := input.repository.map standIns.respell
    license := input.license.map standIns.respell
    rustVersion := input.rustVersion.map standIns.respell }

/-- Whether the readme of an input has bytes. It has none if it holds a surrogate, that is, if it
depends on which characters stand for them. -/
def isEncodable (input : Input) (template : String) : Bool :=
  match render input template, render (input.respelled .other) template .other with
  | .ok rendering, .ok other => rendering.text = other.text
  | _, _ => true

end CrateReadme.Readme
