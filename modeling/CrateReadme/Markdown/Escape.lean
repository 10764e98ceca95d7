import CrateReadme.Markdown.Entity
import CrateReadme.Text.Numeral

/-!
# Writing plain text and code spans

Plain text is written so that reading it gives it back: what could start emphasis, code, links, tags
or character references is escaped, and at the start of a line also what could start a block.
-/

namespace CrateReadme.Markdown.Escape

def isSpecial (c : Char) : Bool :=
  c ∈ ['\\', '`', '*', '[', ']', '<']

/-- Whether a text, which follows an ampersand, completes a character reference. -/
def completesReference (text : List Char) : Bool :=
  let closes (keep : Char → Bool) (text : List Char) : Bool :=
    text.head?.any keep && (text.dropWhile keep).head? = some ';'
  match text with
  | '#' :: rest =>
    closes Text.isDecimal rest ||
      match rest with
      | mark :: digits => (mark = 'x' || mark = 'X') && closes Entity.isHexDigit digits
      | [] => false
  | c :: _ => c.isAlpha && closes Char.isAlphanum text
  | [] => false

/-- How a character is written that stands behind `before` and in front of `after`. -/
def char (inTable : Bool) (before : Option Char) (c : Char) (after : List Char) : List Char :=
  let isEscaped :=
    isSpecial c || (c = '|' && inTable) ||
      (c = '_' && !(before.any Text.isLetterOrNumeric && after.head?.any Text.isLetterOrNumeric)) ||
      (c = '~' && (before = some '~' || after.head? = some '~')) ||
      (c = '&' && completesReference after)
  if isEscaped then ['\\', c] else [c]

/-- How the characters of a text are written that stands behind `before`. -/
def chars (inTable : Bool) : (before : Option Char) → List Char → List Char
  | _, [] => []
  | before, c :: text => char inTable before c text ++ chars inTable (some c) text

/-- Whether a text is empty or starts with white space. -/
def isBreak (text : List Char) : Bool :=
  text.head?.all Text.isBlank

/-- Whether a line that starts with `text` would start another block: a heading, a quote, a list, or
the line under a heading. -/
def startsBlock (text : List Char) : Bool :=
  let signs := (text.takeWhile (· = '#')).length
  let digits := (text.takeWhile Text.isDecimal).length
  match text with
  | [] => false
  | c :: rest =>
    c = '>' || (c = '#' && signs ≤ 6 && isBreak (text.drop signs)) ||
      (c ∈ ['-', '+', '*'] && isBreak rest) ||
      (c = '=' && (text.dropWhile (· = '=')).all Text.isBlank) ||
      (1 ≤ digits && digits ≤ 9 &&
        match text.drop digits with
        | mark :: rest => (mark = '.' || mark = ')') && isBreak rest
        | [] => false)

/-- Plain text as it is written. At the start of a line the character that would start a block is
escaped: the one behind a number, or the first. -/
def text (inTable atLineStart : Bool) (content : List Char) : List Char :=
  let escaped := chars inTable none content
  if atLineStart && startsBlock escaped then
    let digits := escaped.takeWhile Text.isDecimal
    digits ++ '\\' :: escaped.drop digits.length
  else
    escaped

/-- The least number from `from` on that is not in `used`, of which `left` are still to be tried. -/
def leastUnused (used : List Nat) : (left candidate : Nat) → Nat
  | 0, candidate => candidate
  | left + 1, candidate =>
    if candidate ∈ used then leastUnused used left (candidate + 1) else candidate

/-- A code span. Its marks are as few as possible but not as many as a run inside it, and spaces
keep a mark or a space inside it apart from them. -/
def codeSpan (inTable : Bool) (content : List Char) : List Char :=
  let runs := (Text.runsOf (· = '`') content).map List.length
  let marks := List.replicate (leastUnused runs runs.length 1) '`'
  let body :=
    if inTable then content.flatMap fun c => if c = '|' then ['\\', c] else [c] else content
  let isPadded := body.head? = some '`' || body.getLast? = some '`' ||
    (body.head? = some ' ' && body.getLast? = some ' ' && Text.strip body ≠ [])
  marks ++ (if isPadded then ' ' :: body ++ [' '] else body) ++ marks

end CrateReadme.Markdown.Escape
