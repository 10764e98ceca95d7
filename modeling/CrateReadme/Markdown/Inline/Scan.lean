import CrateReadme.Markdown.Destination
import CrateReadme.Markdown.Html
import CrateReadme.Markdown.Inline.Balance
import CrateReadme.Markdown.LinkParts

/-!
# Constructs inside a text

Each function here says whether a construct starts at a position of a text and where it ends. A
text is an array of characters, and `stop` is the position where the part under consideration ends.
Nothing here depends on links; those need the reader itself to find the end of their label.
-/

namespace CrateReadme.Markdown.Scan

/-- The characters from `start` up to `stop`. -/
def slice (source : Array Char) (start stop : Nat) : List Char :=
  (source.extract start stop).toList

/-- The character at a position before `stop`. -/
def charBefore? (source : Array Char) (stop pos : Nat) : Option Char :=
  if pos < stop then source[pos]? else none

/-- The first position from `pos` on where `keep` fails, at most `left` positions ahead. -/
def skipWhile (source : Array Char) (keep : Char → Bool) : (left pos : Nat) → Nat
  | 0, pos => pos
  | left + 1, pos =>
    match source[pos]? with
    | some c => if keep c then skipWhile source keep left (pos + 1) else pos
    | none => pos

/-- The first position from `pos` on, before `stop`, where `keep` fails. -/
def skip (source : Array Char) (stop : Nat) (keep : Char → Bool) (pos : Nat) : Nat :=
  skipWhile source keep (stop - pos) pos

/-- The start and the end of the first run of exactly `length` backquotes from `pos` on. -/
def closingTicks? (source : Array Char) (length : Nat) : (left pos : Nat) → Option (Nat × Nat)
  | 0, _ => none
  | left + 1, pos =>
    let start := skip source source.size (· ≠ '`') pos
    if start < source.size then
      let after := skip source source.size (· = '`') (start + 1)
      if after - start = length then some (start, after)
      else closingTicks? source length left after
    else
      none

/-- The code in a code span: line ends count as spaces, and one space on each side goes if there is
one on both and anything else than spaces in between. -/
def codeOf (raw : List Char) : List Char :=
  let content := raw.map fun c => if c = '\n' then ' ' else c
  if content.head? = some ' ' ∧ content.getLast? = some ' ' ∧ content.any (· ≠ ' ') then
    content.tail.dropLast
  else
    content

/-- A code span at `pos`: its code and where it ends. -/
def codeSpan? (source : Array Char) (stop pos : Nat) : Option (List Char × Nat) :=
  let inner := skip source stop (· = '`') pos
  (closingTicks? source (inner - pos) (source.size + 1) inner).map fun (start, after) =>
    (codeOf (slice source inner start), after)

/-- A run of marks at `pos`: whether it may open and close emphasis, and its length. Inside a word
it may do so only if `splitsWords` is set. -/
def delimiterRun (source : Array Char) (stop pos : Nat) (splitsWords : Bool) : Bool × Bool × Nat :=
  let marker := source[pos]?.getD ' '
  let after := skip source stop (· = marker) pos
  let last := if pos = 0 then ' ' else source[pos - 1]?.getD ' '
  let next := (charBefore? source stop after).getD ' '
  let opensLeft := !(isGap next || (isPunctuation next && !(isGap last || isPunctuation last)))
  let closesRight := !(isGap last || (isPunctuation last && !(isGap next || isPunctuation next)))
  (opensLeft && (splitsWords || !closesRight || isPunctuation last),
    closesRight && (splitsWords || !opensLeft || isPunctuation next), after - pos)

/-- Whether a text is an address with a protocol. A line end behind it does not count. -/
def isUri (text : List Char) : Bool :=
  let text := if text.getLast? = some '\n' then text.dropLast else text
  match text.span fun c => c.isAlphanum || c ∈ ['+', '.', '-'] with
  | (c :: scheme, ':' :: rest) =>
    c.isAlpha && 1 ≤ scheme.length && scheme.length ≤ 31 &&
      rest.all fun d => 0x20 < d.toNat && d ≠ '<' && d ≠ '>'
  | _ => false

def isMailLabel (label : List Char) : Bool :=
  label.length ≤ 63 && label.head?.any Char.isAlphanum && label.getLast?.any Char.isAlphanum &&
    label.all fun c => c.isAlphanum || c = '-'

/-- Whether a text is a mail address. A line end behind it does not count. -/
def isMail (text : List Char) : Bool :=
  let text := if text.getLast? = some '\n' then text.dropLast else text
  match text.span (· ≠ '@') with
  | (c :: user, '@' :: domain) =>
    (c :: user).all (fun d => d.isAlphanum || d ∈ ['.', '!', '#', '$', '%', '&', '\x27', '*', '+',
      '/', '=', '?', '^', '_', '`', '\x7b', '|', '\x7d', '~', '-']) &&
      (domain.splitOn '.').all isMailLabel
  | _ => false

/-- An address in angle brackets at `pos`: how it shows and where it ends. -/
def autolink? (source : Array Char) (stop pos : Nat) : Option (List Char × Nat) :=
  let inner := (slice source (pos + 1) stop).takeWhile fun c => c ≠ '<' && c ≠ '>'
  let after := pos + 1 + inner.length
  if charBefore? source stop after = some '>' then
    let address? :=
      if isUri inner then some inner
      else if isMail inner then some ("mailto:".toList ++ inner)
      else none
    match address? with
    | some address =>
      if isSafeDestination (normalizeDestination address) then
        some (displayDestination inner, after + 1)
      else
        none
    | none => none
  else
    none

/-- A tag or the like at `pos`: its source and where it ends. -/
def html? (source : Array Char) (stop pos : Nat) : Option (List Char × Nat) :=
  if pos + 2 < stop then
    (Html.inline? (slice source pos source.size)).map fun rest =>
      (slice source pos (source.size - rest.length), source.size - rest.length)
  else
    none

/-- A character reference at `pos`: what it stands for and where it ends. -/
def entity? (source : Array Char) (stop pos : Nat) : Option (List Char × Nat) :=
  if pos + 1 < stop then
    (Entity.atStart? (slice source pos (pos + 40))).map fun (chars, length) => (chars, pos + length)
  else
    none

def isLinkSpace (c : Char) : Bool :=
  isSpace c || c = '\n'

/-- What was read behind the opening parenthesis of a link, and the text left. -/
structure Resource where
  destination : List Char
  title : List Char
  rest : List Char

/-- Reads the destination and the title of a link from the text behind its opening parenthesis;
`none` if there is only white space. A destination that is not safe is left unread. -/
def resource? (text : List Char) : Option Resource :=
  match text.dropWhile isLinkSpace with
  | [] => none
  | c :: start =>
    let start := c :: start
    match LinkParts.destination? start with
    | none => some ⟨[], [], start⟩
    | some (raw, behind) =>
      let address := normalizeDestination raw
      let (address, behind) := if isSafeDestination address then (address, behind) else ([], start)
      let spaced := behind.dropWhile isLinkSpace
      match LinkParts.title? spaced with
      | some (title, rest) =>
        if spaced.length < behind.length then
          some ⟨address, title, rest.dropWhile isLinkSpace⟩
        else
          some ⟨address, [], spaced⟩
      | none => some ⟨address, [], spaced⟩

end CrateReadme.Markdown.Scan
