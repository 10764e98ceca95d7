import CrateReadme.Template.Sequence
import CrateReadme.Text.Printable

/-!
# How values show

A value shows in two ways: as the text that it writes, and quoted, as inside of a list. A list or
table that contains itself shows there as an ellipsis.
-/

namespace CrateReadme.Template

def nestingLimit : Nat :=
  1000

/-- The least number that has too many digits to be shown. -/
def digitLimit : Nat :=
  Nat.pow 10 4300

def integerText (value : Int) : Run (List Char) :=
  if digitLimit ≤ value.natAbs then Run.fault .value
  else return (Text.integerString value).toList

def quotedByte (quote : Char) (byte : UInt8) : List Char :=
  let c := Char.ofNat byte.toNat
  if c = '\n' then ['\\', 'n']
  else if c = '\r' then ['\\', 'r']
  else if c = '\t' then ['\\', 't']
  else if c = '\\' || c = quote then ['\\', c]
  else if 0x20 ≤ byte.toNat && byte.toNat < 0x7f then [c]
  else '\\' :: 'x' :: Text.hexadecimal 2 byte.toNat

def quotedBytes (bytes : List UInt8) : List Char :=
  let holds (c : Char) : Bool := bytes.any fun byte => byte.toNat = c.toNat
  let quote := if holds '\x27' && !holds '"' then '"' else '\x27'
  'b' :: quote :: bytes.flatMap (quotedByte quote) ++ [quote]

def quotedText (text : List Char) : List Char :=
  (Text.quoted (String.ofList text)).toList

namespace Value

/-- How a value shows inside of another one. `active` are the lists and tables that are being shown;
values may be nested `left` deep. -/
def quotedWithin : (left : Nat) → (active : List Nat) → Value → Run (List Char)
  | _, _, none => return "None".toList
  | _, _, bool value => return (if value then "True" else "False").toList
  | _, _, int value => integerText value
  | _, _, float value => return value.render.toList
  | _, _, text value => return quotedText value
  | _, _, markup value => return "Markup(".toList ++ quotedText value ++ [')']
  | _, _, bytes value => return quotedBytes value
  | _, _, range start stop step => do
    let bounds := (← integerText start) ++ ',' :: ' ' :: (← integerText stop)
    let ending ← if step = 1 then pure [] else do pure (',' :: ' ' :: (← integerText step))
    return "range(".toList ++ bounds ++ ending ++ [')']
  | _, _, undefined _ | _, _, blank _ => return "Undefined".toList
  | _, _, loop ref => do
    let count ← LoopState.count ref
    let state ← Run.loopState ref
    return "<LoopContext ".toList ++ (Text.integerString (state.index + 1)).toList ++
      '/' :: Text.decimal count ++ ['>']
  | _, _, kind "lipsum" => return "<function generate_lorem_ipsum>".toList
  | _, _, kind word => return "<class ".toList ++ quotedText word.toList ++ ['>']
  | _, _, routine definition _ =>
    let word := definition.signature.word.elim "anonymous" Text.quoted
    return "<Macro ".toList ++ word.toList ++ ['>']
  | _, _, whole _ => return "<TemplateReference None>".toList
  | _, _, method _ word => return "<built-in method ".toList ++ word.toList ++ ['>']
  | _, _, part word _ => return "<BlockReference ".toList ++ quotedText word.toList ++ ['>']
  | _, _, iterator _ => return "<generator object>".toList
  | _, _, cycler _ => return "<jinja2.utils.Cycler object>".toList
  | _, _, joiner _ => return "<jinja2.utils.Joiner object>".toList
  | 0, _, _ => Run.fault .depth
  | left + 1, active, list ref => do
    if ref ∈ active then
      return "[...]".toList
    let items ← (← Run.listItems ref).mapM (quotedWithin left (ref :: active))
    return '[' :: Text.joinWith [',', ' '] items ++ [']']
  | left + 1, active, tuple items => do
    let shown ← items.mapM (quotedWithin left active)
    return '(' :: Text.joinWith [',', ' '] shown ++ (if items.length = 1 then [',', ')'] else [')'])
  | left + 1, active, group key members => do
    let shown ← [key, members].mapM (quotedWithin left active)
    return '(' :: Text.joinWith [',', ' '] shown ++ [')']
  | left + 1, active, table ref => do
    if ref ∈ active then
      return "\x7b...\x7d".toList
    let entries ← (← Run.entries ref).mapM fun entry => do
      let key ← quotedWithin left (ref :: active) entry.1
      return key ++ ':' :: ' ' :: (← quotedWithin left (ref :: active) entry.2)
    return '\x7b' :: Text.joinWith [',', ' '] entries ++ ['\x7d']
  | left + 1, active, record ref => do
    return "<Namespace ".toList ++ (← quotedWithin left active (table ref)) ++ ['>']
  | left + 1, active, view side ref => do
    if ref ∈ active then
      return "...".toList
    let items := (← Run.entries ref).map (Cursor.ofEntry side)
    let shown ← items.mapM (quotedWithin left (ref :: active))
    return (view side ref).kindWord.toList ++ ['(', '['] ++ Text.joinWith [',', ' '] shown ++
      [']', ')']

def quoted (value : Value) : Run (List Char) :=
  quotedWithin nestingLimit [] value

def shown : Value → Run (List Char)
  | text value | markup value => return value
  | undefined message => Run.fail message
  | blank _ => return []
  | value => value.quoted

/-- A text or markup as it is, and any other value as the text that it writes. -/
def soft : Value → Run Value
  | text value => return text value
  | markup value => return markup value
  | value => return text (← value.shown)

end Value

/-- A text in which the characters with a meaning in markup are written as references. -/
def escapedText (text : List Char) : List Char :=
  text.flatMap fun c =>
    match c with
    | '&' => "&amp;".toList
    | '<' => "&lt;".toList
    | '>' => "&gt;".toList
    | '"' => "&#34;".toList
    | '\x27' => "&#39;".toList
    | c => [c]

/-- The markup that a value writes; what is markup already is not escaped again. -/
def Value.escaped : Value → Run (List Char)
  | markup value => return value
  | value => return escapedText (← value.shown)

end CrateReadme.Template
