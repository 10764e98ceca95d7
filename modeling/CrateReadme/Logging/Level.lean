import CrateReadme.Terminal.Style
import CrateReadme.Text.Case
import CrateReadme.Text.Integer

/-!
# Log levels

How much the program reports while it works. A level is a number; the usual ones have names. The
environment may set it by name or number, and otherwise the command line counts how often more or
less detail was asked for.
-/

namespace CrateReadme.Logging

def traceLevel : Nat := 5
def debugLevel : Nat := 10
def infoLevel : Nat := 20
def warningLevel : Nat := 30
def errorLevel : Nat := 40
def criticalLevel : Nat := 50

def levelWord (level : Int) : String :=
  let known : List (Int × String) :=
    [(0, "NOTSET"), (5, "TRACE"), (10, "DEBUG"), (20, "INFO"), (30, "WARNING"), (40, "ERROR"),
     (50, "CRITICAL")]
  (known.lookup level).getD ("Level " ++ Text.integerString level)

def levelOfWord? (word : String) : Option Nat :=
  [("TRACE", traceLevel), ("DEBUG", debugLevel), ("INFO", infoLevel), ("WARNING", warningLevel),
   ("WARN", warningLevel), ("ERROR", errorLevel), ("CRITICAL", criticalLevel),
   ("FATAL", criticalLevel), ("NOTSET", 0)].lookup word

/-- What the environment says about the level. -/
inductive Setting where
  | unset
  | level (value : Nat)
  /-- The setting is made of digits that make no number. -/
  | noNumber
  deriving DecidableEq, Repr

/-- Reads the level from the environment. What is neither a name nor a number counts as unset. -/
def Setting.ofText (text : Option String) : Setting :=
  match text with
  | none => .unset
  | some text =>
    let word := Text.upper (Text.strip text.toList)
    if word ≠ [] ∧ word.all Text.isDigitLike then
      match Text.natural? 10 word with
      | some value => .level value
      | none => .noNumber
    else
      match levelOfWord? (String.ofList word) with
      | some value => .level value
      | none => .unset

/-- The level for the counts of the options for more and for less detail; `none` if both were
given. -/
def levelOfCounts? (verbose quiet : Nat) : Option Nat :=
  if 0 < verbose ∧ 0 < quiet then none
  else if 3 ≤ verbose then some traceLevel
  else if verbose = 2 then some debugLevel
  else if verbose = 1 then some infoLevel
  else if 1 ≤ quiet then some errorLevel
  else some warningLevel

def levelStyle (level : Int) : Terminal.Style :=
  if level ≥ criticalLevel then .brightRed
  else if level ≥ errorLevel then .red
  else if level ≥ warningLevel then .yellow
  else if level ≥ infoLevel then .green
  else if level ≥ debugLevel then .gray
  else if level ≥ traceLevel then .blue
  else Terminal.Style.dim ++ Terminal.Style.red

def line (level : Int) (message : String) : String :=
  "[" ++ levelWord level ++ "] " ++ message

def format (level : Int) (message : String) : String :=
  (levelStyle level).paint (line level message)

end CrateReadme.Logging
