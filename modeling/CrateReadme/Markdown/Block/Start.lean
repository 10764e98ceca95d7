import CrateReadme.Markdown.Block.Basic
import CrateReadme.Markdown.Html
import CrateReadme.Text.Integer

/-!
# Starts of blocks

How the first lines of blocks look. The same tests decide which block a line starts and which lines
interrupt a paragraph, a quote or a list that could go on.
-/

namespace CrateReadme.Markdown

/-- The lines that are read together with the margins of the blocks around them: content is indented
by at least `margin` columns, and the list around it, if any, by `listMargin`. Paragraphs do not
reach beyond the line `limit`. -/
structure Region where
  lines : Array Line
  margin : Nat
  listMargin : Option Nat
  limit : Nat

namespace Region

def line (region : Region) (index : Nat) : Line :=
  region.lines[index]?.getD Line.blank

/-- Whether a line is indented so far that it is code. -/
def isCode (region : Region) (index : Nat) : Bool :=
  (region.line index).indent - region.margin ≥ 4

/-- Whether a line is indented less than the content around it. -/
def isOutdented (region : Region) (index : Nat) : Bool :=
  (region.line index).indent < region.margin

end Region

/-- The mark, its length and the words behind it of a line that opens a code fence. -/
def fenceStart? (content : List Char) : Option (Char × Nat × List Char) :=
  match content with
  | c :: _ =>
    let length := (content.takeWhile (· = c)).length
    let info := content.drop length
    if (c = '`' ∨ c = '~') ∧ 3 ≤ length ∧ ¬(c = '`' ∧ '`' ∈ info) then some (c, length, info)
    else none
  | [] => none

/-- Whether a line closes a code fence of `length` marks `mark`. -/
def closesFence (mark : Char) (length : Nat) (content : List Char) : Bool :=
  let run := (content.takeWhile (· = mark)).length
  length ≤ run && (content.drop run).all isSpace

/-- Whether a line is a thematic break: three equal marks or more, with spaces anywhere. -/
def isRule (content : List Char) : Bool :=
  match content with
  | c :: rest =>
    c ∈ ['*', '-', '_'] && rest.all (fun d => d = c || isSpace d) && 3 ≤ content.count c
  | [] => false

/-- The level and the content of a heading marked by number signs. Number signs at its end, behind
a space, are dropped. -/
def heading? (content : List Char) : Option (Nat × List Char) :=
  let level := (content.takeWhile (· = '#')).length
  let rest := content.drop level
  if 1 ≤ level && level ≤ 6 && rest.head?.all isSpace then
    let trimmed := Text.trimEnd isSpace rest
    let front := Text.trimEnd (· = '#') trimmed
    let kept := if front.getLast?.any isSpace then front else trimmed
    some (level, trimWhite kept)
  else
    none

/-- The level of the heading that a line underlines. -/
def underline? (content : List Char) : Option Nat :=
  match content with
  | c :: _ =>
    if (c = '=' || c = '-') && (content.dropWhile (· = c)).all isSpace then
      some (if c = '=' then 1 else 2)
    else
      none
  | [] => none

inductive ListMarker where
  | bullet (mark : Char)
  | number (value : Nat) (mark : Char)
  deriving DecidableEq, Repr

namespace ListMarker

/-- The character that ends the marker; it is the same in all items of a list. -/
def mark : ListMarker → Char
  | .bullet mark => mark
  | .number _ mark => mark

def isNumber : ListMarker → Bool
  | .bullet _ => false
  | .number _ _ => true

/-- The marker at the start of a line and its length. White space or nothing follows it. -/
def ofContent? (content : List Char) : Option (ListMarker × Nat) :=
  let digits := content.takeWhile Char.isDigit
  match digits, content.drop digits.length with
  | [], mark :: rest =>
    if mark ∈ ['*', '-', '+'] ∧ rest.head?.all isSpace then some (.bullet mark, 1) else none
  | _, mark :: rest =>
    if digits.length ≤ 9 ∧ (mark = '.' ∨ mark = ')') ∧ rest.head?.all isSpace then
      some (.number ((Text.natural? 10 digits).getD 0) mark, digits.length + 1)
    else
      none
  | _, [] => none

end ListMarker

/-- The marker of a list that starts on a line. Inside a paragraph, a list must start with one and
its first item must not be empty. -/
def listStart? (region : Region) (index : Nat) (inParagraph : Bool) : Option (ListMarker × Nat) :=
  let line := region.line index
  let isNested := region.listMargin.any fun margin =>
    line.indent - margin ≥ 4 && region.isOutdented index
  if region.isCode index || isNested then
    none
  else
    match ListMarker.ofContent? line.content with
    | some (marker, width) =>
      let isLimited := inParagraph && !region.isOutdented index
      let isFirst := match marker with
        | .bullet _ => true
        | .number value _ => value = 1
      if isLimited && (!isFirst || (line.content.drop width).all isSpace) then none
      else some (marker, width)
    | none => none

/-- The cells of a table row. A pipe behind a backslash belongs to its cell, which loses the
backslash. `cell` holds the cell so far in reverse. -/
def splitCells : (cell : List Char) → List Char → List (List Char)
  | cell, [] => [cell.reverse]
  | cell, '\\' :: '|' :: text => splitCells ('|' :: cell) text
  | cell, c :: text =>
    if c = '|' then cell.reverse :: splitCells [] text else splitCells (c :: cell) text

/-- The cells of a line of a table, without the empty ones outside the outer pipes. -/
def cellsOf (content : List Char) : List (List Char) :=
  let cells := splitCells [] (trimWhite content)
  let cells := if cells.head? = some [] then cells.tail else cells
  if cells.getLast? = some [] then cells.dropLast else cells

/-- The alignment that a cell of the line under the header of a table spells. -/
def alignment? (cell : List Char) : Option Alignment :=
  let isLeft := cell.head? = some ':'
  let rest := if isLeft then cell.tail else cell
  let isRight := rest.getLast? = some ':'
  let dashes := if isRight then rest.dropLast else rest
  if dashes ≠ [] ∧ dashes.all (· = '-') then
    some (if isRight then (if isLeft then .center else .right) else if isLeft then .left else .none)
  else
    none

/-- The alignments of cells that pipes separate; only the first and the last may be blank. -/
def alignments? : (isFirst : Bool) → List (List Char) → Option (List Alignment)
  | _, [] => some []
  | isFirst, cell :: cells => do
    let cell := trimWhite cell
    if cell.isEmpty then
      if isFirst || cells.isEmpty then alignments? false cells else none
    else
      let first ← alignment? cell
      return first :: (← alignments? false cells)

/-- Whether a line may be the one under the header of a table. -/
def isDelimiterRow (content : List Char) : Bool :=
  let isMark (c : Char) : Bool := c = '|' || c = '-' || c = ':'
  match content with
  | first :: second :: rest =>
    isMark first && (isMark second || isSpace second) && !(first = '-' && isSpace second) &&
      rest.all fun c => isMark c || isSpace c
  | _ => false

/-- The alignments and the header cells of a table that starts on a line and ends before the line
`stop`. -/
def tableStart? (region : Region) (index stop : Nat) : Option (List Alignment × List (List Char)) :=
  if index + 2 > stop || region.isOutdented (index + 1) || region.isCode (index + 1) then
    none
  else
    let under := (region.line (index + 1)).content
    let header := (region.line index).content
    if !isDelimiterRow under || region.isCode index || '|' ∉ trimWhite header then
      none
    else
      match alignments? true ((trimWhite under).splitOn '|') with
      | some alignments =>
        let cells := cellsOf header
        if cells.isEmpty || cells.length ≠ alignments.length then none
        else some (alignments, cells.map trimWhite)
      | none => none

/-- Whether a line starts a fence, a quote or a thematic break: these interrupt lists. -/
def interruptsList (region : Region) (index : Nat) : Bool :=
  let content := (region.line index).content
  !region.isCode index &&
    ((fenceStart? content).isSome || content.head? = some '>' || isRule content)

def interruptsQuote (region : Region) (index : Nat) (inParagraph : Bool) : Bool :=
  let content := (region.line index).content
  interruptsList region index || (listStart? region index inParagraph).isSome ||
    (!region.isCode index && ((heading? content).isSome ||
      (Html.blockKind? content).any (· ≠ .lone)))

/-- Whether a line starts a block that interrupts a paragraph; tables end before the line `stop`. -/
def interruptsParagraph (region : Region) (index stop : Nat) (inParagraph : Bool) : Bool :=
  interruptsQuote region index inParagraph || (tableStart? region index stop).isSome

end CrateReadme.Markdown
