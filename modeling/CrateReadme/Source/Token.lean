import CrateReadme.Text.Numeral
import CrateReadme.Text.Basic

/-!
# Tokens of a crate root

The lexical units of Rust source that matter for reading declarations: words, literals, lifetimes,
brackets, punctuation and documentation comments. A token remembers the characters it covers.

A source that cannot be cut into tokens is rejected. Most reasons are syntax errors that point at a
character; the other three concern number-like spellings and carry no position.
-/

namespace CrateReadme.Source

inductive TokenClass where
  | word
  | lifetime
  | literal
  | punctuation
  | opening
  | closing
  | innerDoc
  | outerDoc
  deriving DecidableEq, Repr, Inhabited

def TokenClass.label : TokenClass → String
  | word => "ident"
  | lifetime => "lifetime"
  | literal => "literal"
  | punctuation => "punct"
  | opening => "open"
  | closing => "close"
  | innerDoc => "inner doc"
  | outerDoc => "outer doc"

/-- A token covers the characters of the source from index `start` up to, but not including, index
`stop`. String literals and documentation comments carry the text they stand for. -/
structure Token where
  cls : TokenClass
  text : List Char
  start : Nat
  stop : Nat
  value : Option (List Char) := none
  deriving DecidableEq, Repr, Inhabited

/-- Whether a token is written exactly as `text`. -/
def Token.reads (token : Token) (text : String) : Bool :=
  token.text = text.toList

/-- The closing bracket that belongs to an opening one. -/
def partner? : Char → Option Char
  | '(' => some ')'
  | '[' => some ']'
  | '{' => some '}'
  | _ => none

/-- Whether `c` is a closing bracket. -/
def isClosing (c : Char) : Bool :=
  c = ')' || c = ']' || c = '}'

/-- Whether `c` may start a word. -/
def isWordStart (c : Char) : Bool :=
  c = '_' || Text.isLetter c

/-- Whether `c` may continue a word. -/
def isWordPart (c : Char) : Bool :=
  c = '_' || Text.isLetterOrNumeric c

/-- A word without the mark of a raw identifier. -/
def plainName (word : List Char) : List Char :=
  match word with
  | 'r' :: '#' :: rest => rest
  | _ => word

/-- The number of bytes that the first `index` characters of a source take up in UTF-8. -/
def byteOffset : (code : List Char) → (index : Nat) → Nat
  | [], _ => 0
  | _ :: _, 0 => 0
  | c :: code, index + 1 => c.utf8Size + byteOffset code index

/-! ### What can be wrong with a source -/

/-- A syntax error, without its place. -/
inductive SyntaxFault where
  | unexpectedClosing (bracket : Char)
  | mismatchedClosing (bracket opening : Char)
  | unclosed (opening : Char)
  | unterminatedComment
  | unterminatedUnicodeEscape
  | invalidUnicodeEscape
  | unknownEscape (char? : Option Char)
  | unterminatedLiteral (quote : Char)
  | unterminatedRawString
  deriving DecidableEq, Repr

namespace SyntaxFault

def message : SyntaxFault → String
  | unexpectedClosing bracket => s!"unexpected closing delimiter `{bracket}`"
  | mismatchedClosing bracket opening =>
    s!"mismatched closing delimiter `{bracket}` for `{opening}`"
  | unclosed opening => s!"unclosed delimiter `{opening}`"
  | unterminatedComment => "unterminated block comment"
  | unterminatedUnicodeEscape => "unterminated unicode escape"
  | invalidUnicodeEscape => "invalid unicode escape"
  | unknownEscape (some char) => s!"unknown character escape `\\{char}`"
  | unknownEscape none => "unknown character escape `\\`"
  | unterminatedLiteral quote =>
    if quote = '"' then "unterminated string literal" else "unterminated character literal"
  | unterminatedRawString => "unterminated raw string"

end SyntaxFault

/-- Why a source cannot be read. -/
inductive ReadError where
  /-- A syntax error at the character with the given index. -/
  | malformed (fault : SyntaxFault) (index : Nat)
  /-- The two characters after `\x` are no hexadecimal number. -/
  | hexEscape
  /-- The number in a Unicode escape does not fit into 32 bits. -/
  | hugeEscape
  /-- A digit that is not an ASCII digit starts a token. -/
  | strayDigit
  deriving DecidableEq, Repr

end CrateReadme.Source
