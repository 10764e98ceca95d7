import CrateReadme.Markdown.Block.Start
import CrateReadme.Markdown.Destination
import CrateReadme.Markdown.LinkParts

/-!
# Reference definitions

A definition `[label]: destination "title"` may spread over several lines, as long as none of them
is empty or starts another block. What is no title on the lines behind the destination is left to
the blocks that follow.
-/

namespace CrateReadme.Markdown.DefinitionReader

/-- The text behind what was read of a definition and the line that comes next. -/
structure Cursor where
  rest : List Char
  next : Nat

/-- The line `index`, with its end, if it continues a definition. -/
def continuation? (region : Region) (index : Nat) : Option (List Char) :=
  let line := region.line index
  let isOver := region.limit ≤ index || line.isEmpty
  let isLazy := region.isCode index || line.indent < 0
  if isOver || (!isLazy && interruptsParagraph region index region.limit false) then none
  else some line.contentWithEnd

/-- Goes on to the next line when the end of one was read. -/
def Cursor.refill (region : Region) (cursor : Cursor) : Cursor :=
  match continuation? region cursor.next with
  | some text => ⟨cursor.rest ++ text, cursor.next + 1⟩
  | none => cursor

/-- Reads a label up to its closing bracket. `left` bounds the characters read. -/
def label? (region : Region) : (left : Nat) → (taken : List Char) → Cursor →
    Option (List Char × Cursor)
  | 0, _, _ => none
  | left + 1, taken, cursor =>
    match cursor.rest with
    | [] => none
    | c :: rest =>
      if c = '[' then none
      else if c = ']' then some (taken.reverse, ⟨rest, cursor.next⟩)
      else if c = '\n' then
        label? region left (c :: taken) (Cursor.refill region ⟨rest, cursor.next⟩)
      else if c = '\\' then
        match rest with
        | [] => none
        | d :: rest =>
          let cursor : Cursor := ⟨rest, cursor.next⟩
          label? region left (d :: c :: taken) (if d = '\n' then cursor.refill region else cursor)
      else label? region left (c :: taken) ⟨rest, cursor.next⟩

/-- Passes over spaces, tabs and line ends. -/
def skipWhite (region : Region) : (left : Nat) → Cursor → Cursor
  | 0, cursor => cursor
  | left + 1, cursor =>
    match cursor.rest with
    | [] => cursor
    | c :: rest =>
      if c = '\n' then skipWhite region left (Cursor.refill region ⟨rest, cursor.next⟩)
      else if isSpace c then skipWhite region left ⟨rest, cursor.next⟩
      else cursor

/-- Reads a title up to the mark `closing`, line by line; `before` is the title so far. -/
def titleLines? (region : Region) (closing : Char) : (left : Nat) → (before : List Char) →
    (isContinued : Bool) → Cursor → Option (List Char × Bool × Cursor)
  | 0, _, _, _ => none
  | left + 1, before, isContinued, cursor =>
    match LinkParts.scanTitle closing [] cursor.rest with
    | .closed title rest => some (before ++ title, isContinued, ⟨rest, cursor.next⟩)
    | .broken => none
    | .unclosed title =>
      match continuation? region cursor.next with
      | some text => titleLines? region closing left (before ++ title) true ⟨text, cursor.next + 1⟩
      | none => none

/-- The title at the cursor, if there is one. A title that ends on the line where it starts must be
separated from the destination; `isSpaced` says whether it is. -/
def title? (region : Region) (left : Nat) (isSpaced : Bool) (cursor : Cursor) :
    Option (List Char × Cursor) := do
  match cursor.rest with
  | [] => none
  | c :: rest =>
    let closing ← LinkParts.closingMark? c
    let (title, isContinued, after) ← titleLines? region closing left [] false ⟨rest, cursor.next⟩
    if isSpaced || isContinued then return (title, after) else none

/-- Whether only spaces stand before the end of the line. -/
def isLineEnd (rest : List Char) : Bool :=
  (rest.dropWhile isSpace).head?.all (· = '\n')

/-- The definition that starts on a line: the normal form of its label, the definition and the line
behind it. A title with something behind it is no title. -/
def read? (region : Region) (index : Nat) : Option (List Char × Definition × Nat) := do
  if region.isCode index then
    none
  let line := region.line index
  let left := (region.lines.foldl (fun total line => total + line.text.length + 1) 1)
  match line.contentWithEnd with
  | '[' :: rest =>
    let (label, behind) ← label? region left [] ⟨rest, index + 1⟩
    match behind.rest with
    | ':' :: rest =>
      let start := skipWhite region left ⟨rest, behind.next⟩
      let (raw, rest) ← LinkParts.destination? start.rest
      let destination := normalizeDestination raw
      let after : Cursor := ⟨rest, start.next⟩
      let spaced := skipWhite region left after
      let isSpaced := spaced.rest.length ≠ after.rest.length || spaced.next ≠ after.next
      let titled := (title? region left isSpaced spaced).filter fun (title, cursor) =>
        isLineEnd cursor.rest || title.isEmpty
      let (title, last) := titled.getD ([], after)
      let key := Label.normalize label
      if isSafeDestination destination && isLineEnd last.rest && !key.isEmpty then
        return (key, ⟨destination, title⟩, last.next)
      none
    | _ => none
  | _ => none

end CrateReadme.Markdown.DefinitionReader
