import CrateReadme.Symbol.Kind
import CrateReadme.Symbol.Path

/-!
# References to items

A link destination may name an item of the language: a path, possibly in backquotes, with a word in
front of `@` that says which kind of item is meant, and with `()` or `!` at its end.
-/

namespace CrateReadme

/-- A path with the kind that its spelling implies. The path keeps `()` or `!` at its end. -/
structure Reference where
  path : String
  kind : Option SymbolKind := none
  deriving DecidableEq, Repr, Inhabited

namespace Reference

/-- Whether `c` may start an identifier. -/
def isIdentStart (c : Char) : Bool :=
  c.isAlpha || c = '_'

/-- Whether `c` may continue an identifier. -/
def isIdentPart (c : Char) : Bool :=
  c.isAlphanum || c = '_'

/-- Whether a text is an ASCII identifier without the mark of a raw one. -/
def isPlainIdent (text : List Char) : Bool :=
  match text with
  | [] => false
  | c :: rest => isIdentStart c && rest.all isIdentPart

def isIdent (text : List Char) : Bool :=
  match text with
  | 'r' :: '#' :: rest => isPlainIdent rest
  | _ => isPlainIdent text

/-- A path without `()` or `!` at its end. -/
def withoutCall (path : List Char) : List Char :=
  match path.reverse with
  | ')' :: '(' :: front => front.reverse
  | '!' :: front => front.reverse
  | _ => path

/-- Whether a text is a path: identifiers separated by `::`, possibly with `::` in front, and with
`()` or `!` at its end. -/
def isPath (text : List Char) : Bool :=
  let body := withoutCall text
  let relative := (Text.after? [':', ':'] body).getD body
  (Text.splitOn [':', ':'] relative).all isIdent

def kindOfCall (path : List Char) : Option SymbolKind :=
  match path.reverse with
  | ')' :: '(' :: _ => some .function
  | '!' :: _ => some .textMacro
  | _ => none

/-- A text without the white space around it and one pair of backquotes. -/
def withoutBackquotes (text : List Char) : List Char :=
  match Text.strip text with
  | '`' :: rest =>
    match rest.reverse with
    | '`' :: inner => Text.strip inner.reverse
    | _ => '`' :: rest
  | stripped => stripped

/-- The kind that a word in front of `@` gives, and the text after it. Fails for an unknown word. -/
def splitDisambiguator? (text : List Char) : Option (Option SymbolKind × List Char) :=
  if '@' ∈ text then
    let word := text.takeWhile (· ≠ '@')
    (SymbolKind.disambiguator? (String.ofList word)).map fun kind =>
      (kind, text.drop (word.length + 1))
  else
    some (none, text)

/-- Reads a link destination as a reference. Addresses, files and free text are none. -/
def parse? (raw : String) : Option Reference := do
  let (kind, text) ← splitDisambiguator? (withoutBackquotes raw.toList)
  let path := Text.strip (Path.withoutGenerics text)
  if isPath path then
    return { path := String.ofList path, kind := kind.or (kindOfCall path) }
  else
    none

end Reference

end CrateReadme
