import CrateReadme.Markdown.Inline.Scan

/-!
# Reading inline content

A text is read from left to right. At each position the construct that starts there is taken; where
none starts, the character is plain text. To find the end of a link's label the reader skips over
the constructs inside it. Where a construct that starts at a position ends is remembered, and
constructs nest at most twenty deep.
-/

namespace CrateReadme.Markdown

namespace Reader

/-- How deep constructs may nest. -/
def maxDepth : Nat :=
  20

/-- A text with the references that it may use. -/
structure Source where
  chars : Array Char
  references : References

/-- Where the constructs end that start at the positions of a text, as far as that is known. -/
abbrev Memo :=
  Array (Option Nat)

namespace Memo

/-- Nothing is known about a text of the given size. -/
def empty (size : Nat) : Memo :=
  Array.replicate (size + 1) none

/-- Where the construct that starts at `pos` ends, if that is known. -/
def end? (memo : Memo) (pos : Nat) : Option Nat :=
  memo[pos]?.join

/-- Notes where the construct that starts at `pos` ends. -/
def setEnd (memo : Memo) (pos next : Nat) : Memo :=
  memo.setIfInBounds pos (some next)

end Memo

/-- Goes from a position over the construct that starts there. -/
abbrev Skipper :=
  (pos : Nat) → Memo → Nat × Memo

/-- The position of the bracket that closes a label in which `depth` brackets are open. With
`simple`, a label that holds a link is none. Every step moves on, so that the length of the text
bounds their number. -/
def labelLoop (source : Source) (skipper : Skipper) (stop : Nat) (simple : Bool) :
    (left depth pos : Nat) → Memo → Option Nat × Memo
  | 0, _, _, memo => (none, memo)
  | left + 1, depth, pos, memo =>
    match Scan.charBefore? source.chars stop pos with
    | none => (none, memo)
    | some c =>
      if c = ']' ∧ depth = 1 then
        (some pos, memo)
      else
        let depth := if c = ']' then depth - 1 else depth
        let (next, memo) := skipper pos memo
        if c = '[' then
          if next = pos + 1 then labelLoop source skipper stop simple left (depth + 1) next memo
          else if simple then (none, memo)
          else labelLoop source skipper stop simple left depth next memo
        else
          labelLoop source skipper stop simple left depth next memo

/-- The position of the bracket that closes the label whose opening bracket is at `pos`. -/
def labelEnd (source : Source) (skipper : Skipper) (stop : Nat) (simple : Bool) (pos : Nat)
    (memo : Memo) : Option Nat × Memo :=
  labelLoop source skipper stop simple (source.chars.size + 1) 1 (pos + 1) memo

/-- A link or image: where it leads, where its label ends and where it ends itself. -/
structure Match where
  destination : Destination
  title : List Char
  labelEnd : Nat
  next : Nat

/-- Completes a reference. Its text lies between `start` and `close`; a second label may stand at
`pos`. -/
def referenceAt (source : Source) (skipper : Skipper) (stop start close pos : Nat) (memo : Memo) :
    Option Match × Memo :=
  let (second, memo) :=
    if Scan.charBefore? source.chars stop pos = some '[' then
      labelEnd source skipper stop false pos memo
    else
      (none, memo)
  let (label, next) :=
    match second with
    | some last => (Scan.slice source.chars (pos + 1) last, last + 1)
    | none => ([], close + 1)
  let label := if label.isEmpty then Scan.slice source.chars start close else label
  match source.references.find? label with
  | some (destination, title) => (some ⟨destination, title, close, next⟩, memo)
  | none => (none, memo)

/-- The link whose opening bracket is at `pos`. What looks like a destination in parentheses and is
none leaves a reference, whose second label is looked for behind the failure. -/
def linkAt (source : Source) (skipper : Skipper) (stop pos : Nat) (memo : Memo) :
    Option Match × Memo :=
  match labelEnd source skipper stop true pos memo with
  | (none, memo) => (none, memo)
  | (some close, memo) =>
    if Scan.charBefore? source.chars stop (close + 1) = some '(' then
      match Scan.resource? (Scan.slice source.chars (close + 2) stop) with
      | none => (none, memo)
      | some resource =>
        let next := stop - resource.rest.length + 1
        if resource.rest.head? = some ')' then
          (some ⟨.address resource.destination, resource.title, close, next⟩, memo)
        else
          referenceAt source skipper stop (pos + 1) close next memo
    else
      referenceAt source skipper stop (pos + 1) close (close + 1) memo

/-- The image whose exclamation mark is at `pos`. -/
def imageAt (source : Source) (skipper : Skipper) (stop pos : Nat) (memo : Memo) :
    Option Match × Memo :=
  if Scan.charBefore? source.chars stop (pos + 1) = some '[' then
    match labelEnd source skipper stop false (pos + 1) memo with
    | (none, memo) => (none, memo)
    | (some close, memo) =>
      if Scan.charBefore? source.chars stop (close + 1) = some '(' then
        match Scan.resource? (Scan.slice source.chars (close + 2) stop) with
        | none => (none, memo)
        | some resource =>
          if resource.rest.head? = some ')' then
            let next := stop - resource.rest.length + 1
            (some ⟨.address resource.destination, resource.title, close, next⟩, memo)
          else
            (none, memo)
      else
        referenceAt source skipper stop (pos + 2) close (close + 1) memo
  else
    (none, memo)

/-- Where the construct that starts with `c` at `pos` ends. `skipper` goes over constructs inside
labels. -/
def skipConstruct (source : Source) (skipper : Skipper) (stop pos : Nat) (c : Char) (memo : Memo) :
    Nat × Memo :=
  let chars := source.chars
  if !endsText c then
    (Scan.skip chars stop (fun d => !endsText d) pos, memo)
  else
    match c with
    | '\n' => (Scan.skip chars stop isSpace (pos + 1), memo)
    | '\\' =>
      match Scan.charBefore? chars stop (pos + 1) with
      | some '\n' => (Scan.skip chars stop isSpace (pos + 2), memo)
      | some _ => (pos + 2, memo)
      | none => (pos + 1, memo)
    | '`' =>
      let found := Scan.codeSpan? chars stop pos
      (found.elim (Scan.skip chars stop (· = '`') pos) Prod.snd, memo)
    | '[' =>
      let (found, memo) := linkAt source skipper stop pos memo
      (found.elim (pos + 1) Match.next, memo)
    | '!' =>
      let (found, memo) := imageAt source skipper stop pos memo
      (found.elim (pos + 1) Match.next, memo)
    | '<' =>
      match Scan.autolink? chars stop pos <|> Scan.html? chars stop pos with
      | some (_, next) => (next, memo)
      | none => (pos + 1, memo)
    | '&' =>
      match Scan.entity? chars stop pos with
      | some (_, next) => (next, memo)
      | none => (pos + 1, memo)
    | _ => (pos + 1, memo)

/-- Goes over the construct that starts at a position, in which constructs may nest `depth` deep.
When none may nest any more, the rest of the text is given up. -/
def skipAt (source : Source) : (depth stop : Nat) → Skipper
  | 0, stop, pos, memo =>
    match memo.end? pos with
    | some next => (next, memo)
    | none => (stop + 1, memo.setEnd pos (stop + 1))
  | depth + 1, stop, pos, memo =>
    match memo.end? pos with
    | some next => (next, memo)
    | none =>
      let (next, memo) :=
        skipConstruct source (skipAt source depth stop) stop pos (source.chars[pos]?.getD ' ') memo
      (next, memo.setEnd pos next)

/-- The pieces read so far, the last first, and the plain text behind them, its last character
first. -/
structure Progress where
  pieces : List Piece
  pending : List Char

namespace Progress

/-- Makes the plain text a piece. -/
def flush (progress : Progress) : Progress :=
  if progress.pending.isEmpty then progress
  else { pieces := .text progress.pending.reverse :: progress.pieces, pending := [] }

/-- Adds a piece behind the plain text. -/
def push (progress : Progress) (piece : Piece) : Progress :=
  let flushed := progress.flush
  { flushed with pieces := piece :: flushed.pieces }

def write (progress : Progress) (text : List Char) : Progress :=
  { progress with pending := text.reverse ++ progress.pending }

/-- Adds a line break. Two spaces or more in front of it make it a hard one; spaces in front of it
go. -/
def lineBreak (progress : Progress) : Progress :=
  let isHard := progress.pending.take 2 = [' ', ' ']
  let kept := { progress with pending := progress.pending.dropWhile (· = ' ') }
  kept.push (.node (if isHard then .hardBreak else .softBreak))

/-- Adds `count` marks that stand in a run. -/
def marks (progress : Progress) (delimiter : Delimiter) : (count : Nat) → Progress
  | 0 => progress
  | count + 1 => (progress.push (.mark delimiter)).marks delimiter count

end Progress

/-- How nested content is read: the text of a link, which is part of the same text, and the
description of an image, which is a text of its own. -/
structure Nested where
  linkText : (stop pos : Nat) → Memo → List Piece × Memo
  imageText : List Char → List Inline

/-- Reads the construct at `pos`, which starts with `c`: the pieces with it, where it ends and what
is known then. -/
def readConstruct (source : Source) (joined : Bool) (skipper : Skipper) (nested : Nested)
    (stop pos : Nat) (c : Char) (progress : Progress) (memo : Memo) : Progress × Nat × Memo :=
  let chars := source.chars
  let asText := (progress.write [c], pos + 1, memo)
  let targetOf (found : Match) : Target :=
    ⟨found.destination, found.title, Label.ofSource? (Scan.slice chars pos found.next)⟩
  if !endsText c then
    let next := Scan.skip chars stop (fun d => !endsText d) pos
    (progress.write (Scan.slice chars pos next), next, memo)
  else
    match c with
    | '\n' => (progress.lineBreak, Scan.skip chars stop isSpace (pos + 1), memo)
    | '\\' =>
      match Scan.charBefore? chars stop (pos + 1) with
      | some '\n' =>
        (progress.push (.node .hardBreak), Scan.skip chars stop isSpace (pos + 2), memo)
      | some d =>
        let content := if isAsciiPunctuation d then [d] else ['\\', d]
        (progress.push (.special content), pos + 2, memo)
      | none => asText
    | '`' =>
      match Scan.codeSpan? chars stop pos with
      | some (code, next) => (progress.push (.node (.code code)), next, memo)
      | none =>
        let next := Scan.skip chars stop (· = '`') pos
        (progress.write (Scan.slice chars pos next), next, memo)
    | '~' =>
      let (canOpen, canClose, length) := Scan.delimiterRun chars stop pos true
      if length < 2 then
        asText
      else
        let start := if length % 2 = 1 then progress.push (.text ['~']) else progress
        (start.marks ⟨'~', 0, canOpen, canClose⟩ (length / 2), pos + length, memo)
    | '*' | '_' =>
      let (canOpen, canClose, length) := Scan.delimiterRun chars stop pos (c = '*')
      (progress.marks ⟨c, length, canOpen, canClose⟩ length, pos + length, memo)
    | '[' =>
      match linkAt source skipper stop pos memo with
      | (some found, memo) =>
        let (pieces, memo) := nested.linkText found.labelEnd (pos + 1) memo
        let link := Inline.link (targetOf found) (balance joined pieces)
        (progress.push (.node link), found.next, memo)
      | (none, memo) => (progress.write [c], pos + 1, memo)
    | '!' =>
      match imageAt source skipper stop pos memo with
      | (some found, memo) =>
        let children := nested.imageText (Scan.slice chars (pos + 2) found.labelEnd)
        (progress.push (.node (.image (targetOf found) children)), found.next, memo)
      | (none, memo) => (progress.write [c], pos + 1, memo)
    | '<' =>
      match Scan.autolink? chars stop pos with
      | some (shown, next) => (progress.push (.node (.autolink shown)), next, memo)
      | none =>
        match Scan.html? chars stop pos with
        | some (tag, next) => (progress.push (.node (.html tag)), next, memo)
        | none => asText
    | '&' =>
      match Scan.entity? chars stop pos with
      | some (content, next) => (progress.push (.special content), next, memo)
      | none => asText
    | _ => asText

/-- Reads constructs up to `stop`. Each takes a character at least, so that `left`, the distance to
`stop`, bounds their number. -/
def readLoop (source : Source) (joined : Bool) (skipper : Skipper) (nested : Nested) (stop : Nat) :
    (left pos : Nat) → Progress → Memo → List Piece × Memo
  | 0, _, progress, memo => (progress.flush.pieces.reverse, memo)
  | left + 1, pos, progress, memo =>
    match Scan.charBefore? source.chars stop pos with
    | none => (progress.flush.pieces.reverse, memo)
    | some c =>
      let (progress, next, memo) :=
        readConstruct source joined skipper nested stop pos c progress memo
      readLoop source joined skipper nested stop left next progress memo

/-- Reads the part of a text between `pos` and `stop`, in which constructs may nest `depth` deep. -/
def piecesAt (source : Source) (joined : Bool) (imageText : List Char → List Inline) :
    (depth stop pos : Nat) → Memo → List Piece × Memo
  | 0, stop, pos, memo =>
    ((Progress.write ⟨[], []⟩ (Scan.slice source.chars pos stop)).flush.pieces, memo)
  | depth + 1, stop, pos, memo =>
    let nested : Nested := ⟨piecesAt source joined imageText depth, imageText⟩
    readLoop source joined (skipAt source (depth + 1) stop) nested stop (stop - pos) pos ⟨[], []⟩
      memo

/-- Reads a text in which images nest at most `size` deep. -/
def readNested (references : References) : (size : Nat) → (joined : Bool) → List Char → List Inline
  | 0, _, _ => []
  | size + 1, joined, text =>
    let source : Source := ⟨text.toArray, references⟩
    let (pieces, _) := piecesAt source joined (readNested references size false) maxDepth
      source.chars.size 0 (Memo.empty source.chars.size)
    balance joined pieces

end Reader

/-- The inline content that a text spells. The description of an image is shorter than the text, so
its length bounds how deep images nest. -/
def readInline (references : References) (text : List Char) : List Inline :=
  Reader.readNested references (text.length + 1) true text

end CrateReadme.Markdown
