import CrateReadme.Command.Options
import CrateReadme.Patch.Matching
import CrateReadme.Text.Basic
import CrateReadme.Text.Printable

/-!
# Help and usage errors

The notices about the command itself, and what is wrong with a command line that cannot be
understood.
-/

namespace CrateReadme.Command

def commandName : String :=
  "doc2readme"

def versionNotice : String :=
  commandName ++ ", version 0.4.2\n"

def usageLine : String :=
  "Usage: " ++ commandName ++ " [OPTIONS] [doc2readme]\n"

/-- The lines of the help for an option, in two columns. -/
def switchHelp (width : Nat) (switch : Switch) : List String :=
  match switch.help with
  | [] => []
  | first :: rest =>
    ("  " ++ Text.padRight width switch.shown ++ "  " ++ first) ::
      rest.map fun line => Text.repeated (width + 4) ' ' ++ line

def helpNotice : String :=
  let width := (switches.map fun switch => switch.shown.length).foldl max 0
  let lines := switches.flatMap (switchHelp width)
  usageLine ++ "\n  Create a readme file from the crate-level rustdoc of a Rust package.\n\n" ++
    "Options:\n" ++ String.join (lines.map (· ++ "\n"))

/-- The long names of options that are spelled much like a name, at most three. -/
def suggestions (name : String) : List String :=
  let word := name.toList.toArray
  let rated := switches.filterMap fun switch =>
    let other := switch.long.toList.toArray
    let common := Patch.matchCount other word
    let total := other.size + word.size
    if 3 * total ≤ 10 * common then some (switch.long, common, total) else none
  let better (a b : String × Nat × Nat) : Bool :=
    let left := a.2.1 * b.2.2
    let right := b.2.1 * a.2.2
    right < left || (left = right && !(a.1 < b.1))
  let best := ((rated.mergeSort better).take 3).map (·.1)
  best.mergeSort fun a b => !(b < a)

/-- What is wrong with a command line. -/
inductive UsageError where
  | noSuchOption (name : String) (similar : List String)
  | missingValue (name : String)
  | needlessValue (name : String)
  | isDirectory (option file : String)
  | extraArguments (arguments : List String)
  deriving DecidableEq, Repr

namespace UsageError

def message : UsageError → String
  | noSuchOption name similar =>
    let hint := match similar with
      | [] => ""
      | [other] => " Did you mean " ++ Text.quoted other ++ "?"
      | others => " (Did you mean one of: " ++ ", ".intercalate (others.map Text.quoted) ++ "?)"
    "No such option " ++ Text.quoted name ++ "." ++ hint
  | missingValue name => "Option " ++ Text.quoted name ++ " requires an argument."
  | needlessValue name => "Option " ++ Text.quoted name ++ " does not take a value."
  | isDirectory option file =>
    "Invalid value for '" ++ option ++ "': File " ++ Text.quoted file ++ " is a directory."
  | extraArguments arguments =>
    "Got unexpected extra " ++ (if arguments.length = 1 then "argument" else "arguments") ++
      " (" ++ " ".intercalate arguments ++ ")"

/-- Whether the usage of the command is shown with an error. It is not where only the value of an
option is wrong. -/
def showsUsage : UsageError → Bool
  | missingValue _ | needlessValue _ => false
  | _ => true

def report (error : UsageError) : String :=
  let usage :=
    if error.showsUsage then
      usageLine ++ "Try '" ++ commandName ++ " --help' for help.\n\n"
    else
      ""
  usage ++ "Error: " ++ error.message ++ "\n"

end UsageError

end CrateReadme.Command
