import CrateReadme.Markdown.Block.Definition

/-!
# Reading blocks

Blocks are read line by line. Each line that belongs to no block yet starts one, and the block says
how many lines it takes. Quotes and list items hold blocks themselves; they are read by the same
rules within new margins. Blocks nest at most twenty deep, where a list counts twice; what lies
deeper is dropped.
-/

namespace CrateReadme.Markdown.BlockReader

/-- Blocks whose inline content is not read yet. -/
abbrev RawBlock :=
  Block (List Char)

/-- What was read: the blocks, the line behind them, whether no blank line stands between them and
all definitions so far. -/
structure Reading where
  blocks : List RawBlock
  next : Nat
  isTight : Bool
  definitions : Definitions

/-- Reads the blocks from one line up to another. -/
abbrev Reader :=
  Region → (start stop : Nat) → Definitions → Reading

/-- The lines from `start` up to `stop` without `indent` columns; all but perhaps the last keep
their line end. -/
def cut (region : Region) (start stop indent : Nat) (keepLast : Bool) : List Char :=
  (List.range' start (stop - start)).flatMap fun index =>
    let line := region.line index
    let ending := if line.isEnded ∧ (index + 1 < stop ∨ keepLast) then ['\n'] else []
    line.unindented indent ++ ending

/-- The first line from `index` on that is not empty. -/
def skipEmpty (region : Region) : (left index : Nat) → Nat
  | 0, index => index
  | left + 1, index =>
    if (region.line index).isEmpty then skipEmpty region left (index + 1) else index

/-- Where an indented code block ends, if its last line so far is before `last`. -/
def codeEnd (region : Region) (stop : Nat) : (left last index : Nat) → Nat
  | 0, last, _ => last
  | left + 1, last, index =>
    if stop ≤ index then last
    else if (region.line index).isEmpty then codeEnd region stop left last (index + 1)
    else if region.isCode index then codeEnd region stop left (index + 1) (index + 1)
    else last

/-- Where the content of a fence ends and where the fence itself ends. -/
def fenceEnd (region : Region) (mark : Char) (length stop : Nat) : (left index : Nat) → Nat × Nat
  | 0, index => (index, index)
  | left + 1, index =>
    let line := region.line index
    if stop ≤ index || (!line.isEmpty && region.isOutdented index) then (index, index)
    else if line.isEmpty && !line.isEnded then (index, index)
    else if !region.isCode index && closesFence mark length line.content then (index, index + 1)
    else fenceEnd region mark length stop left (index + 1)

/-- Where a block of HTML ends. A line that is indented less ends it, an empty one only if its kind
says so. -/
def htmlEnd (region : Region) (kind : Html.BlockKind) (stop : Nat) : (left index : Nat) → Nat
  | 0, index => index
  | left + 1, index =>
    let content := (region.line index).content
    if stop ≤ index || (!content.isEmpty && region.isOutdented index) then index
    else if kind.endsAt content then (if content.isEmpty then index else index + 1)
    else htmlEnd region kind stop left (index + 1)

/-- Where a paragraph ends. A line that is indented like code or that only continues a quote cannot
interrupt it. -/
def paragraphEnd (region : Region) : (left index : Nat) → Nat
  | 0, index => index
  | left + 1, index =>
    let line := region.line index
    if region.limit ≤ index || line.isEmpty then index
    else if region.isCode index || line.indent < 0 then paragraphEnd region left (index + 1)
    else if interruptsParagraph region index region.limit true then index
    else paragraphEnd region left (index + 1)

/-- The line that makes a paragraph a heading by underlining it, and the level. -/
def underlineAt? (region : Region) (stop : Nat) : (left index : Nat) → Option (Nat × Nat)
  | 0, _ => none
  | left + 1, index =>
    let line := region.line index
    if stop ≤ index || line.isEmpty then none
    else if region.isCode index then underlineAt? region stop left (index + 1)
    else
      match (if region.isOutdented index then none else underline? line.content) with
      | some level => some (index, level)
      | none =>
        if line.indent < 0 then underlineAt? region stop left (index + 1)
        else if interruptsParagraph region index stop true then none
        else underlineAt? region stop left (index + 1)

/-- The rows of a table. `surplus` counts the cells that were missing in rows before; with too many
of them the table ends. -/
def tableRows (region : Region) (width stop : Nat) : (left index : Nat) → (surplus : Int) →
    List (List (List Char)) × Nat
  | 0, index, _ => ([], index)
  | left + 1, index, surplus =>
    let content := (region.line index).content
    if stop ≤ index || region.isOutdented index || interruptsQuote region index false ||
        (trimWhite content).isEmpty || region.isCode index then
      ([], index)
    else
      let cells := cellsOf content
      let surplus := surplus + (width - cells.length : Int)
      if surplus > 0x10000 then
        ([], index)
      else
        let row := (List.range width).map fun column => trimWhite (cells[column]?.getD [])
        let (rows, next) := tableRows region width stop left (index + 1) surplus
        (row :: rows, next)

/-- The lines of a quote as lines inside it, from the line `index` on, the line behind the quote and
the line beyond which its paragraphs do not reach. `lastEmpty` says whether the last line is empty
inside the quote. Other lines belong to the quote as long as they can continue a paragraph. -/
def quoteLines (region : Region) (stop : Nat) : (left index : Nat) → (lastEmpty : Bool) →
    (lines : Array Line) → Array Line × Nat × Nat
  | 0, index, _, lines => (lines, index, region.limit)
  | left + 1, index, lastEmpty, lines =>
    let line := region.line index
    if stop ≤ index || line.isEmpty then
      (lines, index, region.limit)
    else if line.content.head? = some '>' && !region.isOutdented index then
      let inner := line.quoted
      quoteLines region stop left (index + 1) inner.isEmpty (lines.setIfInBounds index inner)
    else if lastEmpty then
      (lines, index, region.limit)
    else if interruptsQuote region index false then
      (lines, index, index)
    else
      quoteLines region stop left (index + 1) false
        (lines.setIfInBounds index { line with indent := -1 })

/-- The first line of a list item as a line inside it, the margin of the item and whether nothing
follows the marker. One column behind the marker belongs to it; four at most may. -/
def itemLine (line : Line) (width : Nat) : Line × Nat × Bool :=
  let start := line.indent.toNat + width
  let behind := line.content.drop width
  let white := behind.takeWhile isSpace
  let column := columnAfter line.base start white
  let isEmpty := white.length = behind.length
  let space := if isEmpty || 4 < column - start then 1 else column - start
  let shift := line.shift + width + white.length
  ({ line with shift, indent := column }, start + space, isEmpty)

/-- The items of a list. `endsEmpty` says whether the item before ended with a blank line. -/
def listItems (region : Region) (readItem : Reader) (mark : Char) (isNumber : Bool) (stop : Nat) :
    (left index width : Nat) → (endsEmpty : Bool) → Definitions → List (List RawBlock) × Reading
  | 0, index, _, _, definitions => ([], ⟨[], index, true, definitions⟩)
  | left + 1, index, width, endsEmpty, definitions =>
    let (line, margin, isEmpty) := itemLine (region.line index) width
    let inner : Region :=
      { region with
        lines := region.lines.setIfInBounds index line
        margin
        listMargin := some region.margin }
    let item : Reading :=
      if isEmpty && (region.line (index + 1)).isEmpty then
        ⟨[], min (index + 2) stop, true, definitions⟩
      else
        readItem inner index stop definitions
    let isTight := item.isTight && !endsEmpty
    let endsEmpty := 1 < item.next - index && (region.line (item.next - 1)).isEmpty
    let isOver := stop ≤ item.next || region.isOutdented item.next || region.isCode item.next ||
      interruptsList region item.next
    match (if isOver then none else ListMarker.ofContent? (region.line item.next).content) with
    | some (marker, width) =>
      if marker.mark = mark && marker.isNumber = isNumber then
        let (items, rest) :=
          listItems region readItem mark isNumber stop left item.next width endsEmpty
            item.definitions
        (item.blocks :: items, { rest with isTight := isTight && rest.isTight })
      else
        ([item.blocks], ⟨[], item.next, isTight, item.definitions⟩)
    | none => ([item.blocks], ⟨[], item.next, isTight, item.definitions⟩)

/-- A block that was read, if the lines were not a definition, and the line behind it. -/
structure Step where
  block : Option RawBlock
  next : Nat
  definitions : Definitions

/-- Reads the block that starts on a line. `readQuote` and `readItem` read the blocks inside quotes
and list items. -/
def readBlock (region : Region) (readQuote readItem : Reader) (index stop : Nat)
    (definitions : Definitions) : Step :=
  let line := region.line index
  let content := line.content
  let left := region.lines.size + 1
  match tableStart? region index stop with
  | some (alignments, header) =>
    let (rows, next) := tableRows region header.length stop left (index + 2) 0
    ⟨some (.table alignments header rows), next, definitions⟩
  | none =>
  if region.isCode index then
    let next := codeEnd region stop left (index + 1) (index + 1)
    ⟨some (.indentedCode (cut region index next (4 + region.margin) false ++ ['\n'])), next,
      definitions⟩
  else
  match fenceStart? content with
  | some (mark, length, info) =>
    let (last, next) := fenceEnd region mark length stop left (index + 1)
    ⟨some (.fence info (cut region (index + 1) last line.indent.toNat true)), next, definitions⟩
  | none =>
  if content.head? = some '>' then
    let first := line.quoted
    let (lines, next, limit) := quoteLines region stop left (index + 1) first.isEmpty
      (region.lines.setIfInBounds index first)
    let reading := readQuote { region with lines, margin := 0, limit } index next definitions
    ⟨some (.quote reading.blocks), reading.next, reading.definitions⟩
  else if isRule content then
    ⟨some .rule, index + 1, definitions⟩
  else
  match listStart? region index false with
  | some (marker, width) =>
    let (items, reading) := listItems region readItem marker.mark marker.isNumber stop left index
      width false definitions
    let block : RawBlock :=
      match marker with
      | .bullet _ => .bulletList reading.isTight items
      | .number start _ => .orderedList start reading.isTight items
    ⟨some block, reading.next, reading.definitions⟩
  | none =>
  match DefinitionReader.read? region index with
  | some (key, definition, next) => ⟨none, next, definitions.add key definition⟩
  | none =>
  match Html.blockKind? content with
  | some kind =>
    let next := if kind.endsAt content then index + 1 else htmlEnd region kind stop left (index + 1)
    ⟨some (.html (cut region index next region.margin true)), next, definitions⟩
  | none =>
  match heading? content with
  | some (level, text) => ⟨some (.heading level text), index + 1, definitions⟩
  | none =>
  match underlineAt? region stop left (index + 1) with
  | some (last, level) =>
    let text := trimWhite (cut region index last region.margin false)
    ⟨some (.heading level text), last + 1, definitions⟩
  | none =>
    let next := paragraphEnd region left (index + 1)
    ⟨some (.paragraph (trimWhite (cut region index next region.margin false))), next, definitions⟩

/-- Reads blocks up to the line `stop`. `hadBlank` says whether a blank line was met and `isTight`
whether none was met before the last block. Every block takes a line at least, so that the number of
lines bounds the steps. -/
def readLoop (region : Region) (readQuote readItem : Reader) (stop : Nat) : (left index : Nat) →
    (hadBlank isTight : Bool) → Definitions → Reading
  | 0, index, _, isTight, definitions => ⟨[], index, isTight, definitions⟩
  | left + 1, index, hadBlank, isTight, definitions =>
    if stop ≤ index then
      ⟨[], index, isTight, definitions⟩
    else
      let index := skipEmpty region (region.limit - index) index
      if stop ≤ index || region.isOutdented index then
        ⟨[], index, isTight, definitions⟩
      else
        let step := readBlock region readQuote readItem index stop definitions
        let eatsBlank := step.next - 1 < stop && (region.line (step.next - 1)).isEmpty
        let meetsBlank := step.next < stop && (region.line step.next).isEmpty
        let rest := readLoop region readQuote readItem stop left
          (if meetsBlank then step.next + 1 else step.next) (hadBlank || eatsBlank || meetsBlank)
          (!hadBlank) step.definitions
        { rest with blocks := step.block.toList ++ rest.blocks }

/-- Reads blocks that may nest `depth` deep. -/
def readAt : (depth : Nat) → Reader
  | 0, region, start, stop, definitions =>
    let index := skipEmpty region (region.limit - start) start
    let isOver := stop ≤ start || stop ≤ index || region.isOutdented index
    ⟨[], if isOver then index else stop, true, definitions⟩
  | 1, region, start, stop, definitions =>
    readLoop region (readAt 0) (readAt 0) stop (region.lines.size + 1) start false true definitions
  | depth + 2, region, start, stop, definitions =>
    readLoop region (readAt (depth + 1)) (readAt depth) stop (region.lines.size + 1) start false
      true definitions

end CrateReadme.Markdown.BlockReader
