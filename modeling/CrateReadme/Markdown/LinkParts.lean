import CrateReadme.Markdown.Entity

/-!
# Parts of a link

The destination and the title as they stand inside the parentheses of a link or behind the colon of
a definition. Each reader gives the part without its escapes and the text that follows it.
-/

namespace CrateReadme.Markdown.LinkParts

/-- Reads a destination up to the closing angle bracket. `taken` is what was read so far, in
reverse. -/
def angled? : (taken : List Char) → List Char → Option (List Char × List Char)
  | _, [] => none
  | taken, ['\\'] => angled? ('\\' :: taken) []
  | taken, '\\' :: c :: text => angled? (c :: '\\' :: taken) text
  | taken, c :: text =>
    if c = '>' then some (taken.reverse, text)
    else if c = '\n' ∨ c = '<' then none
    else angled? (c :: taken) text

/-- Whether `c` ends a destination that stands without brackets: a space or a control character. -/
def endsBare (c : Char) : Bool :=
  c.toNat ≤ 0x20 || c.toNat = 0x7f

/-- Reads a destination without brackets, in which `depth` parentheses are open. Parentheses must
balance, and at most 32 may be open. -/
def bare? : (depth : Nat) → (taken : List Char) → List Char → Option (List Char × List Char)
  | depth, taken, [] => if depth = 0 then some (taken.reverse, []) else none
  | depth, taken, ['\\'] => if depth = 0 then some (('\\' :: taken).reverse, []) else none
  | depth, taken, '\\' :: c :: text =>
    if c = ' ' then
      if depth = 0 then some (taken.reverse, '\\' :: c :: text) else none
    else
      bare? depth (c :: '\\' :: taken) text
  | depth, taken, c :: text =>
    if endsBare c || (c = ')' && depth = 0) then
      if depth = 0 then some (taken.reverse, c :: text) else none
    else if c = '(' then
      if depth < 32 then bare? (depth + 1) (c :: taken) text else none
    else if c = ')' then
      bare? (depth - 1) (c :: taken) text
    else
      bare? depth (c :: taken) text

/-- The destination at the start of a text, and the text behind it. Without brackets it is not
empty. -/
def destination? : List Char → Option (List Char × List Char)
  | '<' :: text => (angled? [] text).map fun found => (Entity.unescape found.1, found.2)
  | text =>
    match bare? 0 [] text with
    | some (c :: raw, rest) => some (Entity.unescape (c :: raw), rest)
    | _ => none

/-- What became of a title whose opening mark was read. -/
inductive TitleScan where
  /-- The closing mark was found: the title and the text behind the mark. -/
  | closed (title rest : List Char)
  /-- The text ended first: the title so far. -/
  | unclosed (title : List Char)
  /-- A character was found that may not stand in the title. -/
  | broken

/-- Reads a title up to the mark `closing`. `taken` is what was read so far, in reverse. -/
def scanTitle (closing : Char) : (taken : List Char) → List Char → TitleScan
  | taken, [] => .unclosed (Entity.unescape taken.reverse)
  | taken, ['\\'] => .unclosed (Entity.unescape ('\\' :: taken).reverse)
  | taken, '\\' :: c :: text => scanTitle closing (c :: '\\' :: taken) text
  | taken, c :: text =>
    if c = closing then .closed (Entity.unescape taken.reverse) text
    else if c = '(' ∧ closing = ')' then .broken
    else scanTitle closing (c :: taken) text

/-- The closing mark of a title that `c` opens. -/
def closingMark? (c : Char) : Option Char :=
  if c = '"' ∨ c = '\x27' then some c
  else if c = '(' then some ')'
  else none

/-- The title at the start of a text, and the text behind it. -/
def title? : List Char → Option (List Char × List Char)
  | [] => none
  | c :: text =>
    match closingMark? c with
    | some closing =>
      match scanTitle closing [] text with
      | .closed title rest => some (title, rest)
      | _ => none
    | none => none

end CrateReadme.Markdown.LinkParts
