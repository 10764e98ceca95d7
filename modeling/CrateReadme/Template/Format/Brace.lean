import CrateReadme.Template.Format.Layout

/-!
# Patterns with braces

A pattern has fields in braces at which values are inserted. A field names an argument by its place
or its name, or takes the next one; behind that come members and items, then a way of conversion,
then a layout, in which there may be fields again. In markup, what is inserted is escaped.
-/

namespace CrateReadme.Template.Brace

/-- What the fields of a pattern refer to. -/
inductive Source where
  | arguments (arguments : Arguments)
  /-- Names are keys of a value, and there are no places. -/
  | keyed (value : Value)

/-- How the fields so far have referred to places: not at all, in order up to a place, or by
number. -/
inductive Numbering where
  | unknown
  | automatic (next : Nat)
  | manual
  deriving DecidableEq

/-- A field: the argument with the members and items behind it, a conversion and a layout. -/
structure Field where
  path : List Char
  conversion : Option Char
  layout : List Char

/-- Splits the text of a field behind its path, which ends at a colon, an exclamation mark or a
closing brace outside of brackets. -/
def splitPath? : (inBrackets : Bool) → List Char → Option (List Char × List Char)
  | _, [] => none
  | inBrackets, c :: text =>
    if !inBrackets && c ∈ ['!', ':', '\x7d'] then some ([], c :: text)
    else if !inBrackets && c = '\x7b' then none
    else
      (splitPath? (if inBrackets then c ≠ ']' else c = '[') text).map fun found =>
        (c :: found.1, found.2)

/-- Splits a text behind a layout, which ends at a closing brace. Braces in it are balanced. -/
def splitLayout? : (depth : Nat) → List Char → Option (List Char × List Char)
  | _, [] => none
  | 0, '\x7d' :: text => some ([], text)
  | depth, c :: text =>
    let depth := if c = '\x7b' then depth + 1 else if c = '\x7d' then depth - 1 else depth
    (splitLayout? depth text).map fun found => (c :: found.1, found.2)

/-- The field at the front of a text, and the text behind its closing brace. -/
def field? (text : List Char) : Option (Field × List Char) := do
  let (path, text) ← splitPath? false text
  match text with
  | '!' :: conversion :: '\x7d' :: text => return (⟨path, some conversion, []⟩, text)
  | '!' :: conversion :: ':' :: text =>
    let (layout, text) ← splitLayout? 0 text
    return (⟨path, some conversion, layout⟩, text)
  | ':' :: text =>
    let (layout, text) ← splitLayout? 0 text
    return (⟨path, none, layout⟩, text)
  | '\x7d' :: text => return (⟨path, none, []⟩, text)
  | _ => none

/-- The largest place that a field can name. -/
def maxPlace : Nat :=
  0x7fffffffffffffff

def place? (name : List Char) : Run (Option Nat) := do
  let (digits, rest) := name.span Text.isDecimal
  match Text.natural? 10 digits with
  | none => return none
  | some place =>
    if maxPlace < place then
      Run.fault .value
    return if rest.isEmpty then some place else none

def argument (source : Source) (numbering : Numbering) (name : List Char) :
    Run (Value × Numbering) := do
  let (place?, numbering) : Option Nat × Numbering ←
    match ← place? name, name.isEmpty, numbering with
    | _, true, .manual | some _, false, .automatic _ => Run.fault .value
    | _, true, .automatic next => pure (some next, .automatic (next + 1))
    | _, true, .unknown => pure (some 0, .automatic 1)
    | some place, false, _ => pure (some place, .manual)
    | none, false, numbering => pure (none, numbering)
  match source, place? with
  | .arguments given, some place =>
    match given.positional[place]? with
    | some value => return (value, numbering)
    | none => Run.fault .index
  | .arguments given, none =>
    match given.named.lookup (String.ofList name) with
    | some value => return (value, numbering)
    | none => Run.fault .key
  | .keyed _, some _ => Run.fault .value
  | .keyed value, none => return (← value.subscript (.text name), numbering)

/-- The part of a value to which members and items lead. Each passes a character, so that the length
of the text bounds them. -/
def follow (value : Value) : (left : Nat) → List Char → Run Value
  | _, [] => return value
  | 0, _ => return value
  | left + 1, '.' :: text => do
    let (word, text) := text.span fun c => c ≠ '.' && c ≠ '['
    if word.isEmpty then
      Run.fault .value
    match ← value.member? (String.ofList word) with
    | some found => follow found left text
    | none => Run.fault .member
  | left + 1, '[' :: text => do
    match text.span (· ≠ ']') with
    | (key, ']' :: text) =>
      let place? ← place? key
      if key.isEmpty then
        Run.fault .value
      let found ← value.subscript (place?.elim (.text key) fun place => .int place)
      follow found left text
    | _ => Run.fault .value
  | _ + 1, _ :: _ => Run.fault .value

def convert (value : Value) : Option Char → Run Value
  | none => return value
  | some 's' => return .text (← value.shown)
  | some 'r' => return .text (← value.quoted)
  | some 'a' => return .text (Text.asciiText (← value.quoted))
  | some _ => Run.fault .value

/-- What is inserted for a value. Markup has no layout other than its own inside of markup. -/
def insertion (inMarkup : Bool) (value : Value) (layout : List Char) : Run (List Char) := do
  match inMarkup, value with
  | true, .markup chars =>
    if layout.isEmpty then return chars else Run.fault .value
  | true, value => return escapedText (← value.inLayout layout)
  | false, value => value.inLayout layout

/-- Fills in a pattern behind what is written already, given in reverse. Layouts are filled in
`depth` deep. `left` bounds the characters. -/
def fill (inMarkup : Bool) (source : Source) : (depth left : Nat) → Numbering →
    (done : List Char) → List Char → Run (List Char × Numbering)
  | 0, _, _, _, _ => Run.fault .value
  | _, _, numbering, done, [] => return (done.reverse, numbering)
  | _, 0, numbering, done, _ => return (done.reverse, numbering)
  | depth + 1, left + 1, numbering, done, '\x7b' :: '\x7b' :: text =>
    fill inMarkup source (depth + 1) left numbering ('\x7b' :: done) text
  | depth + 1, left + 1, numbering, done, '\x7d' :: '\x7d' :: text =>
    fill inMarkup source (depth + 1) left numbering ('\x7d' :: done) text
  | depth + 1, left + 1, numbering, done, '\x7b' :: text => do
    match field? text with
    | none => Run.fault .value
    | some (field, rest) =>
      let (name, steps) := field.path.span fun c => c ≠ '.' && c ≠ '['
      let (value, numbering) ← argument source numbering name
      let value ← follow value steps.length steps
      let value ← convert value field.conversion
      let (layout, numbering) ←
        if '\x7b' ∈ field.layout then
          fill false source depth field.layout.length numbering [] field.layout
        else
          pure (field.layout, numbering)
      let written ← insertion inMarkup value layout
      fill inMarkup source (depth + 1) left numbering (written.reverse ++ done) rest
  | _ + 1, _ + 1, _, _, '\x7d' :: _ => Run.fault .value
  | depth + 1, left + 1, numbering, done, c :: text =>
    fill inMarkup source (depth + 1) left numbering (c :: done) text
termination_by depth left => (depth, left)

def format (inMarkup : Bool) (pattern : List Char) (source : Source) : Run (List Char) := do
  let (written, _) ← fill inMarkup source 2 pattern.length .unknown [] pattern
  return written

end CrateReadme.Template.Brace
