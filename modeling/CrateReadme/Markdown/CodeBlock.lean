import CrateReadme.Text.Basic
import CrateReadme.Text.Numeral

/-!
# Code blocks

The words behind the fence of a code block name its language and steer how the block is tested. A
block of the documented language may hold lines that are only there for the test; they are hidden.
-/

namespace CrateReadme.Markdown.CodeBlock

def defaultLanguage : List Char :=
  "rust".toList

def testWords : List String :=
  ["allow_fail", "compile_fail", "ignore", "no_run", "should_panic", "standalone_crate",
   "test_harness"]

/-- Whether a text is four decimal digits; a line end behind them does not count. -/
def isFourDigits (text : List Char) : Bool :=
  let text := if text.getLast? = some '\n' then text.dropLast else text
  text.length = 4 && text.all Text.isDecimal

/-- Whether `c` may stand in the name of a platform. -/
def isPlatformChar (c : Char) : Bool :=
  Text.isLetterOrNumeric c || c = '_' || c = '-'

/-- Whether a word steers the test of a block: an edition, the code of an expected error, or one of
the test words. -/
def isTestWord (word : List Char) : Bool :=
  let isPlatform (text : List Char) : Bool :=
    let text := if text.getLast? = some '\n' then text.dropLast else text
    text ≠ [] && text.all isPlatformChar
  String.ofList word ∈ testWords || (Text.after? "edition".toList word).any isFourDigits ||
    (Text.after? ['E'] word).any isFourDigits || (Text.after? "ignore-".toList word).any isPlatform

/-- What the words behind a fence say. -/
structure Info where
  language : List Char
  isDefault : Bool
  isIgnored : Bool
  deriving DecidableEq, Repr

def Info.hidesLines (info : Info) : Bool :=
  info.isDefault && !info.isIgnored

/-- Reads the words behind a fence, which white space and commas separate. The first that neither
steers the test nor is an attribute in braces is the language; without one, or if the default
language is among them, the block is in the default language. -/
def Info.ofText (text : List Char) : Info :=
  let words := Text.runsOf (fun c => !Text.isBlank c && c ≠ ',') text
  let isIgnored := words.any fun word =>
    word = "ignore".toList || Text.startsWith "ignore-".toList word
  let languages := words.filter fun word => !isTestWord word && word.head? ≠ some '\x7b'
  match languages with
  | language :: _ =>
    if defaultLanguage ∈ languages then ⟨defaultLanguage, true, isIgnored⟩
    else ⟨language, false, isIgnored⟩
  | [] => ⟨defaultLanguage, true, isIgnored⟩

/-- Whether `c` belongs to the usual line ends. -/
def isLineEnd (c : Char) : Bool :=
  c = '\n' || c = '\r'

/-- What a line with its line end shows: nothing if a number sign alone or with white space behind
it starts it, and one number sign less if two start it. -/
def visibleLine (line : List Char) : List Char :=
  let body := Text.trimEnd isLineEnd line
  let code := Text.trimStart Text.isBlank body
  match code with
  | ['#'] => []
  | '#' :: c :: rest =>
    if Text.isBlank c then []
    else if c = '#' then body.take (body.length - code.length) ++ c :: rest ++ line.drop body.length
    else line
  | _ => line

def visible (code : List Char) : List Char :=
  (Text.linesWithBreaks code).flatMap visibleLine

/-- A fence of the given marks, at least three, that nothing in the code closes. -/
def fence (mark : Char) (code : List Char) : List Char :=
  let longest := ((Text.runsOf (· = mark) code).map List.length).foldl max 0
  List.replicate (max 3 (longest + 1)) mark

def render (info : Info) (code : List Char) : List Char :=
  let code := if info.hidesLines then visible code else code
  let code := if code = [] ∨ code.getLast? = some '\n' then code else code ++ ['\n']
  let fence := fence '`' code
  fence ++ info.language ++ '\n' :: code ++ fence

end CrateReadme.Markdown.CodeBlock
