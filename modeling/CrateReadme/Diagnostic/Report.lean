import CrateReadme.Diagnostic.Basic
import CrateReadme.Terminal.Style
import CrateReadme.Text.Utf8

/-!
# Printing diagnostics

A diagnostic prints as a headline; if it points into the source, the line follows with the place
underlined. Places are given in bytes and shown in characters.

A log holds the diagnostics that were collected for one source. Only a syntax error makes it a
failure; diagnostics that are taken over from elsewhere do not.
-/

namespace CrateReadme

/-- A place in a text: the number of its line, the column in characters, both from one on, and the
line. -/
structure Place where
  line : Nat
  column : Nat
  text : List Char
  deriving DecidableEq, Repr

def lineFeed : UInt8 :=
  10

/-- The place of a byte of a text. Offsets outside the text mean its ends; the bytes of a character
that is cut through count as one character. -/
def Place.ofOffset (code : String) (offset : Int) : Place :=
  let bytes := Text.utf8 code
  let before := bytes.take offset.toNat
  let after := bytes.drop offset.toNat
  let start := (before.reverse.takeWhile (· ≠ lineFeed)).reverse
  let rest := after.takeWhile (· ≠ lineFeed)
  { line := before.count lineFeed + 1
    column := (Text.lossyUtf8 start).length + 1
    text := Text.lossyUtf8 (start ++ rest) }

def Level.style : Level → Terminal.Style
  | info => .green
  | warning => .yellow
  | error => .brightRed

namespace Diagnostic

/-- How many characters of a line are underlined: as many as the span has bytes, at least one and
not beyond the end of the line. -/
def underlineWidth (span : Span) (place : Place) : Nat :=
  let room : Int := place.text.length - place.column + 1
  (max 1 (min (span.stop - span.start) room)).toNat

def reportLines (diagnostic : Diagnostic) (filename code : String) (colored : Bool) : List String :=
  let style := diagnostic.level.style
  let headline := style.paintIf colored diagnostic.level.label ++ ": " ++
    Terminal.Style.bold.paintIf colored diagnostic.message
  let hint (lead help : String) : String :=
    lead ++ " = " ++ Terminal.Style.cyan.paintIf colored "help" ++ ": " ++ help
  let help? := diagnostic.help.filter (· ≠ "")
  match (if code = "" then none else diagnostic.span) with
  | some span =>
    let place := Place.ofOffset code span.start
    let number := Text.decimalString place.line
    let gutter := Text.repeated number.length ' '
    let underline := style.paintIf colored (Text.repeated (underlineWidth span place) '^')
    let label := match diagnostic.label.filter (· ≠ "") with
      | some label => " " ++ style.paintIf colored label
      | none => ""
    [headline,
      gutter ++ "--> " ++ filename ++ ":" ++ number ++ ":" ++ Text.decimalString place.column,
      gutter ++ " |",
      number ++ " | " ++ String.ofList place.text,
      gutter ++ " | " ++ Text.repeated (place.column - 1) ' ' ++ underline ++ label] ++
      (match help? with
        | some help => [gutter ++ " |", hint gutter help]
        | none => [])
  | none => headline :: (help?.map (hint " ")).toList

def report (diagnostic : Diagnostic) (filename code : String) (colored : Bool) : String :=
  "\n".intercalate (diagnostic.reportLines filename code colored) ++ "\n"

/-- Diagnostics as they print, with blank lines between them. -/
def reportAll (diagnostics : List Diagnostic) (filename code : String) (colored : Bool) : String :=
  "\n".intercalate (diagnostics.map fun diagnostic => diagnostic.report filename code colored)

end Diagnostic

/-! ### Logs -/

/-- The diagnostics of a source, in the order in which they arose. -/
structure DiagnosticLog where
  filename : String
  code : String := ""
  items : List Diagnostic := []
  failed : Bool := false
  deriving Repr, Inhabited

namespace DiagnosticLog

def add (log : DiagnosticLog) (diagnostic : Diagnostic) : DiagnosticLog :=
  { log with items := log.items ++ [diagnostic] }

def extend (log : DiagnosticLog) (diagnostics : List Diagnostic) : DiagnosticLog :=
  { log with items := log.items ++ diagnostics }

def syntaxError (log : DiagnosticLog) (message : String) (offset : Int) : DiagnosticLog :=
  { log.add (.syntaxError log.code.utf8ByteSize message offset) with failed := true }

def holds (log : DiagnosticLog) (level : Level) : Bool :=
  log.items.any fun diagnostic => diagnostic.level = level

def report (log : DiagnosticLog) (colored : Bool) : String :=
  Diagnostic.reportAll log.items log.filename log.code colored

end DiagnosticLog

end CrateReadme
