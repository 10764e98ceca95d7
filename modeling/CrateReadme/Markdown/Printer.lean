import CrateReadme.Markdown.Block.Reader
import CrateReadme.Markdown.CodeBlock
import CrateReadme.Markdown.Escape
import CrateReadme.Markdown.Inline.Reader
import CrateReadme.Text.Integer

/-!
# Documents

A document is written in one fixed style. Headings move down one level, so that a title fits on top.
Every link and image refers to a numbered placeholder; what the placeholders stand for is collected
in the order in which the links are met, a link before what is inside it.
-/

namespace CrateReadme.Markdown

/-! ### Reading

Reading a markdown text: line ends are made uniform, the blocks are read, and then their inline
content with all definitions at hand.
-/

def maxBlockDepth : Nat :=
  20

/-- A text with uniform line ends and without the character that stands for nothing. -/
def clean (text : List Char) : List Char :=
  (Text.universalNewlines text).map fun c => if c = '\x00' then '\ufffd' else c

structure Document where
  blocks : List (Block (List Inline))
  definitions : Definitions

namespace Document

/-- The document that a text spells. If it is open, references need no definition. -/
def read (isOpen : Bool) (text : List Char) : Document :=
  let lines := (linesOf (clean text)).toArray
  let region : Region := ⟨lines, 0, none, lines.size⟩
  let reading := BlockReader.readAt maxBlockDepth region 0 lines.size []
  let references : References := ⟨reading.definitions, isOpen⟩
  ⟨Block.mapAll (readInline references) reading.blocks, reading.definitions⟩

end Document

/-! ### Writing -/

def placeholder (number : Nat) : String :=
  "__link" ++ Text.decimalString number

/-- What a placeholder stands for: the destination as it is; for a reference without definition its
label as written; for an empty destination the label or else the title. -/
def Target.raw (target : Target) : List Char :=
  match target.destination with
  | .undefined key => target.label.getD key
  | .address [] =>
    match target.label with
    | some (c :: label) => c :: label
    | _ => target.title
  | .address text => text

/-- Whether a link leads to a place in the document itself. -/
def Target.isLocal (target : Target) : Bool :=
  match target.destination with
  | .address ('#' :: _) => true
  | _ => false

namespace Printer

/-- Where inline content stands. -/
inductive Place where
  | paragraph
  | heading
  | cell
  deriving DecidableEq, Repr

/-- What the writer keeps in mind: the links so far and whether the next character starts a line. -/
structure Pen where
  links : List (List Char)
  atLineStart : Bool

/-- A line break: only paragraphs have lines. -/
def lineBreak (place : Place) (mark : List Char) (pen : Pen) : List Char × Pen :=
  if place = .paragraph then (mark ++ ['\n'], { pen with atLineStart := true })
  else ([' '], { pen with atLineStart := false })

/-- The placeholder of a link or image, in brackets. -/
def reference (number : Nat) : List Char :=
  '[' :: (placeholder number).toList ++ [']']

mutual

def inline (place : Place) : Inline → Pen → List Char × Pen
  | .softBreak, pen => lineBreak place [] pen
  | .hardBreak, pen => lineBreak place ['\\'] pen
  | .text content, pen =>
    (Escape.text (place = .cell) pen.atLineStart content, { pen with atLineStart := false })
  | .code content, pen =>
    (Escape.codeSpan (place = .cell) content, { pen with atLineStart := false })
  | .html content, pen => (content, { pen with atLineStart := false })
  | .emphasis children, pen =>
    let (text, pen) := inlines place children pen
    ('*' :: text ++ ['*'], { pen with atLineStart := false })
  | .strong children, pen =>
    let (text, pen) := inlines place children pen
    (['*', '*'] ++ text ++ ['*', '*'], { pen with atLineStart := false })
  | .struck children, pen =>
    let (text, pen) := inlines place children pen
    (['~', '~'] ++ text ++ ['~', '~'], { pen with atLineStart := false })
  | .link target children, pen =>
    if target.isLocal then
      let (text, pen) := inlines place children pen
      ('[' :: text ++ ']' :: '(' :: target.raw ++ [')'], { pen with atLineStart := false })
    else
      let (text, after) := inlines place children { pen with links := pen.links ++ [target.raw] }
      ('[' :: text ++ ']' :: reference pen.links.length, { after with atLineStart := false })
  | .image target children, pen =>
    let (text, after) := inlines place children { pen with links := pen.links ++ [target.raw] }
    ('!' :: '[' :: text ++ ']' :: reference pen.links.length, { after with atLineStart := false })
  | .autolink shown, pen => ('<' :: shown ++ ['>'], { pen with atLineStart := false })

/-- Writes pieces of inline content one after the other. -/
def inlines (place : Place) : List Inline → Pen → List Char × Pen
  | [], pen => ([], pen)
  | first :: rest, pen =>
    let (text, pen) := inline place first pen
    let (more, pen) := inlines place rest pen
    (text ++ more, pen)

end

/-- Writes the content of a block; the links are those collected so far. -/
def content (place : Place) (inlineContent : List Inline) (links : List (List Char)) :
    List Char × List (List Char) :=
  let (text, pen) := inlines place inlineContent ⟨links, true⟩
  (text, pen.links)

def cells : List (List Inline) → List (List Char) → List (List Char) × List (List Char)
  | [], links => ([], links)
  | cell :: more, links =>
    let (text, links) := content .cell cell links
    let (texts, links) := cells more links
    (text :: texts, links)

def row (cells : List (List Char)) : List Char :=
  "| ".toList ++ Text.joinWith " | ".toList cells ++ " |".toList

def rows : List (List (List Inline)) → List (List Char) → List (List Char) × List (List Char)
  | [], links => ([], links)
  | first :: more, links =>
    let (texts, links) := cells first links
    let (lines, links) := rows more links
    (row texts :: lines, links)

/-- The cell under the header of a column. -/
def alignment : Alignment → List Char
  | .none => "---".toList
  | .left => ":---".toList
  | .center => ":---:".toList
  | .right => "---:".toList

/-- A text whose lines, the first apart, are indented; empty lines stay empty. -/
def itemLines (marker : List Char) (text : List Char) : List Char :=
  match Text.lines text with
  | [] => Text.trimEnd Text.isBlank marker
  | first :: rest =>
    let indented := rest.map fun line =>
      if line.isEmpty then [] else List.replicate marker.length ' ' ++ line
    Text.unlines (Text.trimEnd Text.isBlank (marker ++ first) :: indented)

def quoteLines (text : List Char) : List Char :=
  Text.unlines ((Text.lines text).map fun line =>
    if line.isEmpty then ['>'] else '>' :: ' ' :: line)

/-- Between the parts of a list whose items stand close together, and of other sequences. -/
def separator (isTight : Bool) : List Char :=
  if isTight then ['\n'] else ['\n', '\n']

/-- The marker of the item with the given number in a list that starts with `start`; a list behind
another one of its kind takes the other marker. -/
def marker (start : Option Nat) (alternate : Bool) (number : Nat) : List Char :=
  match start with
  | some first => Text.decimal (first + number) ++ [if alternate then ')' else '.', ' ']
  | none => [if alternate then '*' else '-', ' ']

/-- Whether the items of a list stand close together: it was written so, or no item holds a
paragraph. -/
def isClose {Content : Type} (isTight : Bool) (items : List (List (Block Content))) : Bool :=
  isTight || items.all fun item => item.all fun block => !block.isParagraph

mutual

/-- Writes a block; `alternate` says that a list takes the other marker. -/
def block (alternate : Bool) : Block (List Inline) → List (List Char) → List Char × List (List Char)
  | .paragraph inlineContent, links => content .paragraph inlineContent links
  | .heading level inlineContent, links =>
    let (text, links) := content .heading inlineContent links
    (Text.trimEnd Text.isBlank (List.replicate (level + 1) '#' ++ ' ' :: text), links)
  | .quote children, links =>
    let (parts, links) := blocks none false children links
    (quoteLines (Text.joinWith (separator false) parts), links)
  | .bulletList isTight children, links =>
    let close := isClose isTight children
    let (parts, links) := items close none alternate 0 children links
    (Text.joinWith (separator close) parts, links)
  | .orderedList start isTight children, links =>
    let close := isClose isTight children
    let (parts, links) := items close (some start) alternate 0 children links
    (Text.joinWith (separator close) parts, links)
  | .fence info code, links => (CodeBlock.render (.ofText info) code, links)
  | .indentedCode code, links => (CodeBlock.render (.ofText []) code, links)
  | .rule, links => ("---".toList, links)
  | .html source, links => (Text.trimEnd (· = '\n') source, links)
  | .table alignments header body, links =>
    let (first, links) := cells header links
    let (lines, links) := rows body links
    (Text.unlines (row first :: row (alignments.map alignment) :: lines), links)

/-- Writes blocks. `previous` is the block before them, and `alternate` says whether it took the
other marker. -/
def blocks (previous : Option (Block (List Inline))) (alternate : Bool) :
    List (Block (List Inline)) → List (List Char) → List (List Char) × List (List Char)
  | [], links => ([], links)
  | first :: rest, links =>
    let alternate := previous.any first.sameKind && !alternate
    let (text, links) := block alternate first links
    let (texts, links) := blocks (some first) alternate rest links
    (text :: texts, links)

def items (isTight : Bool) (start : Option Nat) (alternate : Bool) (number : Nat) :
    List (List (Block (List Inline))) → List (List Char) → List (List Char) × List (List Char)
  | [], links => ([], links)
  | first :: rest, links =>
    let (parts, links) := blocks none false first links
    let text := itemLines (marker start alternate number)
      (Text.joinWith (separator isTight) parts)
    let (texts, links) := items isTight start alternate (number + 1) rest links
    (text :: texts, links)

end

end Printer

/-- A documentation text in the fixed style, with what its placeholders stand for. -/
structure Body where
  text : List Char
  links : List (List Char)

def Body.namedLinks (body : Body) : List (String × List Char) :=
  body.links.zipIdx.map fun (raw, number) => (placeholder number, raw)

/-- Writes a document; it ends in exactly one line end. -/
def Document.render (document : Document) : Body :=
  let (parts, links) := Printer.blocks none false document.blocks []
  ⟨Text.trimEnd (· = '\n') (Text.joinWith (Printer.separator false) parts) ++ ['\n'], links⟩

/-- Brings a documentation text into the fixed style. Its references need no definition. -/
def normalize (text : List Char) : Body :=
  (Document.read true text).render

end CrateReadme.Markdown
