import CrateReadme.Markdown.Char
import CrateReadme.Text.Case

/-!
# Inline content

What a paragraph, a heading or a table cell holds: text, code, emphasis, links and images. A link
or image knows where it leads and, if it is a reference, the label as it was written.
-/

namespace CrateReadme.Markdown

/-! ### Reference labels

A reference names its definition by a label. Labels are compared without regard to letter case and
to the amount of white space; the label as it was written is kept beside the link.
-/

namespace Label

def normalize (label : List Char) : List Char :=
  Text.upper (Text.lower (Text.joinWith [' '] (Text.runsOf (fun c => !isWhite c) label)))

/-- The text up to a closing bracket that ends the whole text; brackets in between must be escaped,
and an escape does not reach over the end of a line. -/
def closing? : List Char → Option (List Char)
  | [] => none
  | '\\' :: c :: text => if c = '\n' then none else (closing? text).map ('\\' :: c :: ·)
  | c :: text =>
    if c = ']' then
      if text = [] ∨ text = ['\n'] then some [] else none
    else if c = '[' ∨ c = '\\' then none
    else (closing? text).map (c :: ·)

/-- The first label in brackets that ends at the end of a text. -/
def last? : List Char → Option (List Char)
  | [] => none
  | c :: text =>
    if c = '[' then
      match closing? text with
      | some label => some label
      | none => last? text
    else
      last? text

/-- The label, as written, in the source of a link or image: `[text][label]`, `[label][]` or
`[label]`. A link with its destination in parentheses has none. -/
def ofSource? (source : List Char) : Option (List Char) :=
  if Text.endsWith [')'] source then none
  else if Text.endsWith ['[', ']'] source then last? source.dropLast.dropLast
  else last? source

end Label

/-! ### Content -/

/-- What a reference label was defined to be. -/
structure Definition where
  destination : List Char
  title : List Char
  deriving DecidableEq, Repr, Inhabited

/-- The definitions of a document, by the normal form of their labels. Of several definitions of
one label the first counts. -/
abbrev Definitions :=
  List (List Char × Definition)

/-- Adds a definition unless its label has one. -/
def Definitions.add (definitions : Definitions) (key : List Char) (definition : Definition) :
    Definitions :=
  if (definitions.lookup key).isSome then definitions else definitions ++ [(key, definition)]

/-- Where a link or image leads. -/
inductive Destination where
  | address (text : List Char)
  /-- The reference has no definition; `key` is the normal form of its label. -/
  | undefined (key : List Char)
  deriving DecidableEq, Repr, Inhabited

/-- The end of a link or image, with the label that the reference was written with. -/
structure Target where
  destination : Destination
  title : List Char
  label : Option (List Char)
  deriving DecidableEq, Repr, Inhabited

inductive Inline where
  | text (content : List Char)
  | softBreak
  | hardBreak
  | code (content : List Char)
  | html (content : List Char)
  | emphasis (children : List Inline)
  | strong (children : List Inline)
  | struck (children : List Inline)
  | link (target : Target) (children : List Inline)
  | image (target : Target) (children : List Inline)
  /-- An address in angle brackets. -/
  | autolink (shown : List Char)
  deriving Repr, Inhabited

/-- The references that a document may use: its definitions and, if it is `open`, every other label
that is not blank. -/
structure References where
  definitions : Definitions
  isOpen : Bool
  deriving Repr, Inhabited

/-- Where a reference with the given label leads, and its title. -/
def References.find? (references : References) (label : List Char) :
    Option (Destination × List Char) :=
  let key := Label.normalize label
  match references.definitions.lookup key with
  | some definition => some (.address definition.destination, definition.title)
  | none => if references.isOpen && !key.isEmpty then some (.undefined key, []) else none

end CrateReadme.Markdown
