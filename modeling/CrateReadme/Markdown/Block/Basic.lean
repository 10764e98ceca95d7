import CrateReadme.Markdown.Char
import CrateReadme.Markdown.Inline.Basic
import CrateReadme.Text.Basic

/-!
# Blocks and lines

A document is a sequence of blocks. They are read before the inline content in them, since only
then all definitions are known; so blocks are given over the kind of content they hold.
-/

namespace CrateReadme.Markdown

/-- How the cells of a table column are aligned. -/
inductive Alignment where
  | none
  | left
  | center
  | right
  deriving DecidableEq, Repr, Inhabited

/-- Blocks with inline content of type `Content`. -/
inductive Block (Content : Type) where
  | paragraph (content : Content)
  | heading (level : Nat) (content : Content)
  | quote (children : List (Block Content))
  | bulletList (isTight : Bool) (items : List (List (Block Content)))
  | orderedList (start : Nat) (isTight : Bool) (items : List (List (Block Content)))
  | fence (info : List Char) (code : List Char)
  | indentedCode (code : List Char)
  | rule
  | html (source : List Char)
  | table (alignments : List Alignment) (header : List Content) (rows : List (List Content))
  deriving Repr, Inhabited

namespace Block

variable {Content Other : Type}

mutual

/-- A block whose content is changed by `change`. -/
def map (change : Content → Other) : Block Content → Block Other
  | .paragraph content => .paragraph (change content)
  | .heading level content => .heading level (change content)
  | .quote children => .quote (mapAll change children)
  | .bulletList isTight items => .bulletList isTight (mapItems change items)
  | .orderedList start isTight items => .orderedList start isTight (mapItems change items)
  | .fence info code => .fence info code
  | .indentedCode code => .indentedCode code
  | .rule => .rule
  | .html source => .html source
  | .table alignments header rows =>
    .table alignments (header.map change) (rows.map fun row => row.map change)

/-- Blocks whose content is changed by `change`. -/
def mapAll (change : Content → Other) : List (Block Content) → List (Block Other)
  | [] => []
  | block :: blocks => map change block :: mapAll change blocks

/-- List items whose content is changed by `change`. -/
def mapItems (change : Content → Other) : List (List (Block Content)) → List (List (Block Other))
  | [] => []
  | item :: items => mapAll change item :: mapItems change items

end

/-- Whether two blocks are of one kind, so that a blank line alone would join them if they are
lists. -/
def sameKind : Block Content → Block Content → Bool
  | .paragraph _, .paragraph _ => true
  | .heading _ _, .heading _ _ => true
  | .quote _, .quote _ => true
  | .bulletList _ _, .bulletList _ _ => true
  | .orderedList _ _ _, .orderedList _ _ _ => true
  | .fence _ _, .fence _ _ => true
  | .indentedCode _, .indentedCode _ => true
  | .rule, .rule => true
  | .html _, .html _ => true
  | .table _ _ _, .table _ _ _ => true
  | _, _ => false

def isParagraph : Block Content → Bool
  | .paragraph _ => true
  | _ => false

end Block

/-! ### Lines of a document

Every line knows how much of it belongs to the blocks around: quotes cut their marker off its
start, and list items count theirs as indentation. Columns are counted from the start of the line
in the document, and a tab reaches to the next multiple of four.
-/

/-- A line inside the blocks that hold it. -/
structure Line where
  /-- The characters behind the markers of the enclosing quotes. -/
  text : List Char
  /-- How many characters stand before the content. -/
  shift : Nat
  /-- The indentation of the content. It is negative for a line that only continues a paragraph. -/
  indent : Int
  /-- The column where `text` starts. -/
  base : Nat
  /-- Whether a line end follows. -/
  isEnded : Bool
  deriving Repr, Inhabited

/-- The column behind white space that starts in column `column`. Tabs are measured from `base`. -/
def columnAfter (base : Nat) : (column : Nat) → List Char → Nat
  | column, [] => column
  | column, c :: text =>
    columnAfter base (if c = '\t' then column + (4 - (column + base) % 4) else column + 1) text

namespace Line

def blank : Line :=
  ⟨[], 0, 0, 0, false⟩

def ofText (text : List Char) (isEnded : Bool) : Line :=
  let white := text.takeWhile isSpace
  ⟨text, white.length, columnAfter 0 0 white, 0, isEnded⟩

/-- What stands on the line behind its indentation. -/
def content (line : Line) : List Char :=
  line.text.drop line.shift

def isEmpty (line : Line) : Bool :=
  line.content.isEmpty

def contentWithEnd (line : Line) : List Char :=
  line.content ++ if line.isEnded then ['\n'] else []

/-- Passes over at most `indent` columns in front of `text`. Characters before the content count as
one column; a tab that reaches further leaves spaces. -/
def dropColumns (base shift indent : Nat) : (passed column : Nat) → List Char → List Char
  | _, column, [] => List.replicate (column - indent) ' '
  | passed, column, c :: text =>
    if indent ≤ column then
      List.replicate (column - indent) ' ' ++ c :: text
    else if c = '\t' then
      dropColumns base shift indent (passed + 1) (column + (4 - (column + base) % 4)) text
    else if c = ' ' ∨ passed < shift then
      dropColumns base shift indent (passed + 1) (column + 1) text
    else
      c :: text

/-- The line without at most `indent` columns of indentation. -/
def unindented (line : Line) (indent : Nat) : List Char :=
  dropColumns line.base line.shift indent 0 0 line.text

/-- The content of a line that starts with the marker of a quote, as a line inside the quote. One
space behind the marker belongs to it. -/
def quoted (line : Line) : Line :=
  let behind := line.content.tail
  let column := line.indent.toNat + 1
  let isTabbed := behind.head? = some '\t'
  let isSpaced := behind.head? = some ' ' || (isTabbed && (line.base + column) % 4 = 3)
  let text := if isSpaced then behind.tail else behind
  let start := if isSpaced then column + 1 else column
  let white := text.takeWhile isSpace
  let base := if isTabbed && !isSpaced then line.base + 1 else line.base
  { text
    shift := white.length
    indent := (columnAfter base start white - start : Nat)
    base := line.indent.toNat + 1 + if behind.head?.any isSpace then 1 else 0
    isEnded := line.isEnded }

end Line

/-- The lines of a document. Spaces and tabs behind the last line end are no line. -/
def linesOf (text : List Char) : List Line :=
  let rec pieces : List (List Char) → List Line
    | [] => []
    | [last] => if last.all isSpace then [] else [Line.ofText last false]
    | text :: more => Line.ofText text true :: pieces more
  pieces (Text.lines text)

end CrateReadme.Markdown
