import CrateReadme.Text.Basic
import CrateReadme.Text.Identifier

/-!
# Wrapping lines

A text is cut into chunks, which are white space, words, parts of words up to a hyphen, and dashes
between words. The chunks are put into lines of a given width; white space is dropped where a line
starts or ends. A word that is longer than a line is cut, on demand.
-/

namespace CrateReadme.Text.Wrap

/-- Whether `c` is white space between chunks. -/
def isGap (c : Char) : Bool :=
  c ∈ ['\t', '\n', '\x0b', '\x0c', '\r', ' ']

/-- Whether `c` may stand right before a dash between words. -/
def isWordPart (c : Char) : Bool :=
  isWordChar c || c ∈ ['!', '"', '\x27', '&', '.', ',', '?']

/-- Whether `c` counts as a letter at a hyphen. -/
def isLetterLike (c : Char) : Bool :=
  isWordChar c && !isDecimal c

/-- The dash at the start of a text, if a word follows it. -/
def dash? (text : List Char) : Option (List Char × List Char) :=
  match text.span (· = '-') with
  | (dashes, c :: rest) =>
    if 2 ≤ dashes.length && isWordChar c then some (dashes, c :: rest) else none
  | _ => none

/-- Whether a word may be cut behind the hyphen at the end of a text, which is given in reverse. -/
def endsWithHyphen : List Char → Bool
  | '-' :: c :: d :: before =>
    (isLetterLike c && isLetterLike d) ||
      (isWordPart c && d = '-' && before.head?.any isLetterLike)
  | _ => false

/-- Whether two letters start a text, possibly with a hyphen between them. -/
def startsWithLetters : List Char → Bool
  | c :: '-' :: d :: _ => isLetterLike c && isLetterLike d
  | c :: d :: _ => isLetterLike c && isLetterLike d
  | _ => false

/-- Continues a word. `before` is all that stands before the text, in reverse; `word` is the word so
far, in reverse. -/
def word : (before word : List Char) → List Char → List Char × List Char
  | _, found, [] => (found.reverse, [])
  | before, found, c :: text =>
    let isEnd := !found.isEmpty &&
      (isGap c || (before.head?.any isWordPart && (dash? (c :: text)).isSome))
    let isHyphen := !found.isEmpty && c = '-' && endsWithHyphen (c :: before) &&
      startsWithLetters text
    if isHyphen then ((c :: found).reverse, text)
    else if isEnd then (found.reverse, c :: text)
    else word (c :: before) (c :: found) text

/-- The chunks of a text behind another one, given in reverse. `left` bounds the chunks. -/
def chunksFrom : (left : Nat) → (before : List Char) → List Char → List (List Char)
  | 0, _, _ => []
  | _, _, [] => []
  | left + 1, before, c :: text =>
    let (chunk, rest) : List Char × List Char :=
      if isGap c then (c :: text).span isGap
      else
        match if before.head?.any isWordPart then dash? (c :: text) else none with
        | some found => found
        | none => word before [] (c :: text)
    chunk :: chunksFrom left (chunk.reverse ++ before) rest

/-- Words and the white space between them. -/
def plainChunks : (left : Nat) → List Char → List (List Char)
  | 0, _ => []
  | _, [] => []
  | left + 1, c :: text =>
    let (chunk, rest) := (c :: text).span fun d => isGap d = isGap c
    chunk :: plainChunks left rest

/-- How lines are wrapped. -/
structure Options where
  width : Nat
  /-- Whether long words are cut. -/
  cutsWords : Bool
  /-- Whether words are cut at hyphens. -/
  usesHyphens : Bool
  /-- Whether long words are cut at hyphens. -/
  prefersHyphens : Bool

/-- The chunks at the start that fit into a line of which `used` characters are in use, in reverse
behind those that are there, and the rest. -/
def fitting (width : Nat) : (used : Nat) → (line : List (List Char)) → List (List Char) →
    Nat × List (List Char) × List (List Char)
  | used, line, [] => (used, line, [])
  | used, line, chunk :: chunks =>
    if used + chunk.length ≤ width then fitting width (used + chunk.length) (chunk :: line) chunks
    else (used, line, chunk :: chunks)

/-- Where a long word is cut if `room` characters of it fit. -/
def cutAt (options : Options) (room : Nat) (chunk : List Char) : Nat :=
  if options.prefersHyphens && room < chunk.length then
    let start := (chunk.take room).reverse.dropWhile (· ≠ '-')
    match start with
    | _ :: before => if before.any (· ≠ '-') then start.length else room
    | [] => room
  else
    room

def isEmptyChunk (chunk : List Char) : Bool :=
  chunk.all isBlank

/-- The lines for chunks. `left` bounds the lines. -/
def linesOf (options : Options) : (left : Nat) → (isFirst : Bool) → List (List Char) →
    List (List Char)
  | 0, _, _ => []
  | _, _, [] => []
  | left + 1, isFirst, chunk :: chunks =>
    let all := if !isFirst && isEmptyChunk chunk then chunks else chunk :: chunks
    let (used, line, rest) := fitting options.width 0 [] all
    let (line, rest) : List (List Char) × List (List Char) :=
      match rest with
      | long :: others =>
        if long.length ≤ options.width then (line, rest)
        else if options.cutsWords then
          let place := cutAt options (options.width - used) long
          (long.take place :: line, long.drop place :: others)
        else if line.isEmpty then ([long], others)
        else (line, rest)
      | [] => (line, [])
    let line :=
      match line with
      | last :: before => if isEmptyChunk last then before else line
      | [] => []
    if line.isEmpty then linesOf options left isFirst rest
    else line.reverse.flatten :: linesOf options left false rest

def lines (options : Options) (text : List Char) : List (List Char) :=
  let chunks := if options.usesHyphens then chunksFrom text.length [] text
    else plainChunks text.length text
  linesOf options (2 * text.length + 2) true chunks

end CrateReadme.Text.Wrap
