import CrateReadme.Source.Item

/-!
# Diagnostics

What reading and linking have to report: a message with a level, and possibly a place in the source,
a label for that place and a hint.
-/

namespace CrateReadme

inductive Level where
  | info
  | warning
  | error
  deriving DecidableEq, Repr, Inhabited

def Level.label : Level → String
  | info => "info"
  | warning => "warning"
  | error => "error"

def Level.ofLabel? (word : String) : Option Level :=
  [info, warning, error].find? fun level => level.label == word

structure Diagnostic where
  level : Level
  message : String
  span : Option Span := none
  label : Option String := none
  help : Option String := none
  deriving DecidableEq, Repr, Inhabited

namespace Diagnostic

def warningAt (message : String) (span : Span) (label : String) : Diagnostic :=
  { level := .warning, message, span, label }

/-- The warning for a documentation attribute whose value is a macro call. -/
def unexpandedMacro (span : Span) : Diagnostic :=
  { warningAt "Macro not expanded" span "This macro was not expanded" with
    help := some "You can use `--expand-macros` on a nightly Rust toolchain to expand macros." }

/-- The error for a source of `size` bytes that is malformed at a byte offset. It covers the byte at
the offset, if there is one. -/
def syntaxError (size : Nat) (message : String) (offset : Int) : Diagnostic :=
  { level := .error
    message := "Syntax Error"
    span := some ⟨offset, max offset (min (offset + 1) size)⟩
    label := some message }

def globImport (path : String) : Diagnostic :=
  { level := .info
    message := "Glob import `" ++ path ++ "` is not expanded; links through it stay as written" }

def unknownCrate (name : String) : Diagnostic :=
  { level := .warning
    message := "Unable to find dependency `" ++ name ++ "`; linking to it without a version" }

def count (level : Level) (diagnostics : List Diagnostic) : Nat :=
  diagnostics.countP fun diagnostic => diagnostic.level = level

end Diagnostic

end CrateReadme
