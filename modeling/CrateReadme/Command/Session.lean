import CrateReadme.Command.Usage
import CrateReadme.Data.Toml.Tree
import CrateReadme.Files.Store
import CrateReadme.Logging.Level
import CrateReadme.Package.Metadata
import CrateReadme.Readme.Check
import CrateReadme.Terminal.Style

/-!
# Sessions

What a run of the command can see, what it leaves behind, and how it can stop. Files change in one
step at the very end, which a run stops in only if its text has no bytes.
-/

namespace CrateReadme.Command

/-- What the build tool answers: what it prints, and its status, which is zero if all went well. -/
structure ToolAnswer where
  output : List UInt8 := []
  messages : String := ""
  status : Int := 0
  deriving Repr, Inhabited

/-- What a run can see: the files, the working directory, the answers of the build tool (none if it
cannot be started), the log level that the environment sets, whether messages go to a terminal, and
the marks that are drawn for the name of a temporary file. -/
structure World where
  files : Files.Store
  directory : Files.Location
  metadata : Option ToolAnswer := none
  expansion : Option ToolAnswer := none
  logSetting : Option String := none
  terminal : Bool := false
  marks : List String := []
  deriving Inhabited

/-- Something that a run does not deal with and that ends it. -/
inductive Crash where
  | source (cause : Source.ReadError)
  | template (cause : Template.Fault)
  | metadata (cause : Package.MetadataError)
  | settings (cause : Data.Toml.Clash)
  | badRepository
  | undecodable
  | unencodable
  | logSetting
  deriving Repr

/-- The kinds of errors that the command reports, with the status that each ends in. -/
inductive ErrorKind where
  | usage
  | data
  | notFound
  | external
  | io
  | config
  deriving DecidableEq, Repr

def ErrorKind.status : ErrorKind → Nat
  | usage => 64
  | data => 65
  | notFound => 66
  | external => 70
  | io => 74
  | config => 78

/-- How a run stops before its end. -/
inductive Stop where
  | misuse (error : UsageError)
  | error (kind : ErrorKind) (message : String)
  | exit (status : Nat)
  | crash (cause : Crash)
  deriving Repr

def Stop.status : Stop → Nat
  | misuse _ => 2
  | error kind _ => kind.status
  | exit status => status
  | crash _ => 1

/-- What a run has done so far. -/
structure Session where
  console : Terminal.Console
  level : Nat := Logging.warningLevel
  commands : List (List String) := []
  files : Files.Store
  deriving Inhabited

/-- Part of a run: it sees the world, changes the session, and may stop. -/
abbrev Run (α : Type) :=
  ExceptT Stop (ReaderT World (StateM Session)) α

def fail {α : Type} (kind : ErrorKind) (message : String) : Run α :=
  throw (.error kind message)

/-- Stops where the run cannot go on. -/
def crash {α : Type} (cause : Crash) : Run α :=
  throw (.crash cause)

def message (text : String) (newline : Bool) : Run Unit :=
  modify fun session => { session with console := session.console.message text newline }

def print (text : String) : Run Unit :=
  modify fun session => { session with console := session.console.print text false }

/-- Writes a line to the log, if its level is wanted. Levels below that of information are for
tracing the program itself; nothing is written then. -/
def log (level : Nat) (text : String) : Run Unit :=
  modify fun session =>
    if session.level ≤ level ∧ Logging.infoLevel ≤ session.level then
      let line := Logging.line level text ++ "\n"
      { session with console := { session.console with err := session.console.err ++ line } }
    else
      session

def showDiagnostics (diagnostics : DiagnosticLog) : Run Unit := do
  unless diagnostics.items.isEmpty do
    message (diagnostics.report (← get).console.colored) false

/-- Notes that the build tool was called, and looks at its answer. -/
def callTool (command : List String) (answer : Option ToolAnswer) : Run ToolAnswer := do
  modify fun session => { session with commands := session.commands ++ [command] }
  match answer with
  | some answer => return answer
  | none => fail .external "Failed to run cargo"

/-- Stops because of the build tool, after showing what it had to say. -/
def failTool {α : Type} (messages text : String) : Run α := do
  if messages ≠ "" then
    message (String.ofList (Text.trimEnd (· = '\n') messages.toList)) true
  fail .external text

/-- The location that a text gives, seen from the working directory. -/
def locate (text : String) : Run Files.Location := do
  return (← read).directory.under (.ofText text)

end CrateReadme.Command
