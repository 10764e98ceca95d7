import CrateReadme.Text.Basic

/-!
# HTML in markdown

Tags, comments and the like inside a line, and the lines that start a block of HTML, each kind with
the condition on the line that ends it.
-/

namespace CrateReadme.Markdown.Html

/-- Whether `c` may continue the name of a tag. -/
def isTagChar (c : Char) : Bool :=
  c.isAlphanum || c = '-'

/-- Whether `c` may stand in an attribute value without quotes. White space beyond ASCII may. -/
def isPlain (c : Char) : Bool :=
  !(c ∈ ['"', '\x27', '=', '<', '>', '`']) && 0x20 < c.toNat

/-- The texts behind the white space in front of a text, behind all of it first. -/
def blankEnds : List Char → List (List Char)
  | [] => [[]]
  | c :: text => (if Text.isBlank c then blankEnds text else []) ++ [c :: text]

/-- The texts behind an attribute value without quotes, the shortest text first. The value is taken
whole or ends before white space inside it. -/
def plainEnds : List Char → List (List Char)
  | [] => []
  | c :: text =>
    if isPlain c then
      plainEnds text ++ if text.head?.all fun d => !isPlain d || Text.isBlank d then [text] else []
    else
      []

/-- The texts that may stand behind an attribute value. -/
def valueEnds (text : List Char) : List (List Char) :=
  match text with
  | '"' :: quoted => ((quoted.dropWhile (· ≠ '"')).tail?).toList
  | '\x27' :: quoted => ((quoted.dropWhile (· ≠ '\x27')).tail?).toList
  | _ => plainEnds text

/-- The texts that may stand behind an attribute: white space, a name and perhaps a value. -/
def attributeEnds (text : List Char) : List (List Char) :=
  match text.span Text.isBlank with
  | ([], _) | (_, []) => []
  | (_, c :: text) =>
    if c.isAlpha || c = '_' || c = ':' then
      let rest := text.dropWhile fun d => d.isAlphanum || d ∈ [':', '.', '_', '-']
      match rest.dropWhile Text.isBlank with
      | '=' :: text => (blankEnds text).flatMap valueEnds
      | _ => [rest]
    else
      []

/-- The text behind the attributes and the closing bracket of a tag. Each attribute takes a
character at least, so that `left`, the length of the text, bounds their number. -/
def tagEnd? : (left : Nat) → List Char → Option (List Char)
  | 0, _ => none
  | left + 1, text =>
    (attributeEnds text).findSome? (fun rest => tagEnd? left rest) <|>
      match text.dropWhile Text.isBlank with
      | '/' :: '>' :: rest => some rest
      | '>' :: rest => some rest
      | _ => none

def openTag? : List Char → Option (List Char)
  | '<' :: c :: text => if c.isAlpha then tagEnd? text.length (text.dropWhile isTagChar) else none
  | _ => none

def closeTag? : List Char → Option (List Char)
  | '<' :: '/' :: c :: text =>
    if c.isAlpha then
      match (text.dropWhile isTagChar).dropWhile Text.isBlank with
      | '>' :: rest => some rest
      | _ => none
    else
      none
  | _ => none

/-- The text behind the end of a comment whose start was read. Two hyphens pass only together with
the character behind them. -/
def commentEnd? : List Char → Option (List Char)
  | '-' :: '-' :: '>' :: rest => some rest
  | '-' :: '-' :: _ :: text => commentEnd? text
  | ['-', '-'] => none
  | '-' :: _ :: text => commentEnd? text
  | ['-'] => none
  | _ :: text => commentEnd? text
  | [] => none

def comment? (text : List Char) : Option (List Char) :=
  match Text.after? "<!--".toList text with
  | some ('>' :: rest) => some rest
  | some ('-' :: '>' :: rest) => some rest
  | some body => commentEnd? body
  | none => none

/-- The text behind `start`, anything, and the first `stop` after it. -/
def enclosed? (start stop : String) (text : List Char) : Option (List Char) := do
  let body ← Text.after? start.toList text
  let parts ← Text.breakOn? stop.toList body
  return parts.2

def declaration? : List Char → Option (List Char)
  | '<' :: '!' :: c :: text =>
    if c.isAlpha then
      match text.dropWhile (· ≠ '>') with
      | _ :: rest => some rest
      | [] => none
    else
      none
  | _ => none

/-- The text behind the tag or the like at the start of a text. -/
def inline? (text : List Char) : Option (List Char) :=
  openTag? text <|> closeTag? text <|> comment? text <|> enclosed? "<?" "?>" text <|>
    declaration? text <|> enclosed? "<![CDATA[" "]]>" text

inductive BlockKind where
  /-- Tags whose content is no markdown: scripts, styles and preformatted text. -/
  | verbatim
  | comment
  | instruction
  | declaration
  | characterData
  /-- A tag that makes up a block of a page. -/
  | block
  /-- Any other tag that stands alone on its line. -/
  | lone
  deriving DecidableEq, Repr

/-- Names of the tags whose content is no markdown. -/
def verbatimNames : List String :=
  ["script", "pre", "style", "textarea"]

/-- Names of the tags that make up blocks of a page. -/
def blockNames : List String :=
  ["address", "article", "aside", "base", "basefont", "blockquote", "body", "caption", "center",
   "col", "colgroup", "dd", "details", "dialog", "dir", "div", "dl", "dt", "fieldset", "figcaption",
   "figure", "footer", "form", "frame", "frameset", "h1", "h2", "h3", "h4", "h5", "h6", "head",
   "header", "hr", "html", "iframe", "legend", "li", "link", "main", "menu", "menuitem", "nav",
   "noframes", "ol", "optgroup", "option", "p", "param", "search", "section", "summary", "table",
   "tbody", "td", "tfoot", "th", "thead", "title", "tr", "track", "ul"]

/-- The lowercase name in front of a text, and the rest. -/
def splitName (text : List Char) : String × List Char :=
  let (name, rest) := text.span Char.isAlphanum
  (String.ofList (name.map Char.toLower), rest)

/-- Whether a name may end before `rest`; `/` counts only if `slash` is set. -/
def endsName (slash : Bool) : List Char → Bool
  | [] => true
  | '/' :: '>' :: _ => slash
  | c :: _ => c = '>' || Text.isBlank c

/-- Whether a line starts with the tag of some name in `names`. -/
def startsTag (names : List String) (slash : Bool) (text : List Char) : Bool :=
  let (name, rest) := splitName text
  name ∈ names && endsName slash rest

def blockKind? (line : List Char) : Option BlockKind :=
  match line with
  | '<' :: text =>
    if startsTag verbatimNames false text then some .verbatim
    else if Text.startsWith "!--".toList text then some .comment
    else if Text.startsWith ['?'] text then some .instruction
    else if (Text.after? ['!'] text).any fun rest => rest.head?.any Char.isAlpha then
      some .declaration
    else if Text.startsWith "![CDATA[".toList text then some .characterData
    else if startsTag blockNames true ((Text.after? ['/'] text).getD text) then some .block
    else if ((openTag? line <|> closeTag? line).any fun rest => rest.all Text.isBlank) then
      some .lone
    else none
  | _ => none

/-- Whether a line holds the closing tag of some verbatim name. -/
def closesVerbatim (line : List Char) : Bool :=
  let lowered := line.map Char.toLower
  verbatimNames.any fun name => Text.occursIn ("</" ++ name ++ ">").toList lowered

/-- Whether `line` is the last line of a block. Blocks of tags end before an empty line. -/
def BlockKind.endsAt (kind : BlockKind) (line : List Char) : Bool :=
  match kind with
  | .verbatim => closesVerbatim line
  | .comment => Text.occursIn "-->".toList line
  | .instruction => Text.occursIn "?>".toList line
  | .declaration => Text.occursIn ['>'] line
  | .characterData => Text.occursIn "]]>".toList line
  | .block | .lone => line.isEmpty

end CrateReadme.Markdown.Html
