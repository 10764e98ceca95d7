import CrateReadme.Markdown.Char
import CrateReadme.Markdown.EntityTable
import CrateReadme.Text.Integer

/-!
# Character references

A character may be written by its name or by its number between an ampersand and a semicolon, and
an ASCII punctuation character by a backslash in front of it. Inside texts both are read by the
inline rules; destinations, titles and the words after a code fence undo them all at once.
-/

namespace CrateReadme.Markdown.Entity

/-- Whether `c` is an ASCII hexadecimal digit. -/
def isHexDigit (c : Char) : Bool :=
  c.isDigit || ('a' ≤ c && c ≤ 'f') || ('A' ≤ c && c ≤ 'F')

/-- Whether a number may stand for a character: not for a surrogate, for a code point that is never
used or for a control code, and not beyond the last code point. -/
def isAllowed (code : Nat) : Bool :=
  !(0xd800 ≤ code && code ≤ 0xdfff) && !(0xfdd0 ≤ code && code ≤ 0xfdef) &&
    code % 0x10000 ≠ 0xffff && code % 0x10000 ≠ 0xfffe && !(code ≤ 0x08) && code ≠ 0x0b &&
    !(0x0e ≤ code && code ≤ 0x1f) && !(0x7f ≤ code && code ≤ 0x9f) && code ≤ 0x10ffff

def named? (name : List Char) : Option (List Char) :=
  match name with
  | [] => none
  | c :: _ =>
    ((namesFrom c).find? fun entry => entry.1.toList = name).map fun entry =>
      entry.2.map Char.ofNat

/-- The number in `#12` or `#xc`, with at most `decimals` or `hexadecimals` digits. -/
def number? (decimals hexadecimals : Nat) : List Char → Option Nat
  | '#' :: mark :: digits =>
    if mark = 'x' ∨ mark = 'X' then
      if digits ≠ [] ∧ digits.length ≤ hexadecimals ∧ digits.all isHexDigit then
        Text.natural? 16 digits
      else
        none
    else if digits.length < decimals ∧ (mark :: digits).all Char.isDigit then
      Text.natural? 10 (mark :: digits)
    else
      none
  | _ => none

/-- The text before the first semicolon if it has at most `limit` characters and `keep` holds for
all of them, and what follows the semicolon. -/
def untilSemicolon? (keep : Char → Bool) : (limit : Nat) → List Char →
    Option (List Char × List Char)
  | _, ';' :: text => some ([], text)
  | limit + 1, c :: text =>
    if keep c then
      (untilSemicolon? keep limit text).map fun found => (c :: found.1, found.2)
    else
      none
  | _, _ => none

/-- The reference at the start of a text, read by the inline rules: what it stands for and how many
characters it takes. A number that stands for no character gives the replacement character. -/
def atStart? : List Char → Option (List Char × Nat)
  | '&' :: text => do
    let isNumeric := text.head? = some '#'
    let found ← untilSemicolon? (fun c => c.isAlphanum || (isNumeric && c = '#')) 32 text
    let length := found.1.length + 2
    if isNumeric then
      let code ← number? 7 6 found.1
      return ([if isAllowed code then Char.ofNat code else '\ufffd'], length)
    if found.1.head?.any Char.isAlpha && 2 ≤ found.1.length then
      let chars ← named? found.1
      return (chars, length)
    none
  | _ => none

/-- The reference at the start of a text in a destination or title. A number that stands for no
character is left as it is. -/
def inAttribute? : List Char → Option (List Char × List Char)
  | '&' :: text => do
    let found ← untilSemicolon? (fun c => c.isAlphanum || c = '#') 32 text
    match found.1 with
    | first :: rest =>
      if (first.isAlpha || first = '#') && rest ≠ [] && rest.all Char.isAlphanum then
        match named? found.1 with
        | some chars => return (chars, found.2)
        | none =>
          let code ← number? 8 8 found.1
          if isAllowed code then return ([Char.ofNat code], found.2) else none
      else
        none
    | [] => none
  | _ => none

/-- A text whose backslash escapes and character references are undone. `skip` counts the characters
of a reference that are still to be passed over. -/
def unescapeLoop : (skip : Nat) → List Char → List Char
  | _, [] => []
  | skip + 1, _ :: text => unescapeLoop skip text
  | 0, c :: text =>
    if c = '\\' ∧ text.head?.any isAsciiPunctuation then
      text.head?.toList ++ unescapeLoop 1 text
    else
      match inAttribute? (c :: text) with
      | some (chars, rest) => chars ++ unescapeLoop (text.length - rest.length) text
      | none => c :: unescapeLoop 0 text

/-- A text whose backslash escapes and character references are undone. -/
def unescape (text : List Char) : List Char :=
  unescapeLoop 0 text

end CrateReadme.Markdown.Entity
