import CrateReadme.Template.Filter.Text

/-!
# Values in data notation

A value as a document of lists and tables, in which the characters with a meaning in markup are
escaped. Tables are sorted by their keys.
-/

namespace CrateReadme.Template.Filter

/-- A code unit as an escape of four hexadecimal digits. -/
def unitEscape (code : Nat) : List Char :=
  '\\' :: 'u' :: Text.hexadecimal 4 code

/-- A character inside a text in data notation. -/
def jsonChar (c : Char) : List Char :=
  match c with
  | '"' => ['\\', '"']
  | '\\' => ['\\', '\\']
  | '\n' => ['\\', 'n']
  | '\r' => ['\\', 'r']
  | '\t' => ['\\', 't']
  | '\x08' => ['\\', 'b']
  | '\x0c' => ['\\', 'f']
  | c =>
    let code := c.toNat
    if 0x10000 ≤ code then
      unitEscape (0xd800 + (code - 0x10000) / 0x400) ++
        unitEscape (0xdc00 + (code - 0x10000) % 0x400)
    else if code < 0x20 ∨ 0x7f < code ∨ c ∈ ['<', '>', '&', '\x27'] then
      unitEscape code
    else
      [c]

def jsonText (text : List Char) : List Char :=
  '"' :: text.flatMap jsonChar ++ ['"']

/-- A floating-point number in data notation. -/
def jsonReal : Binary64 → List Char
  | .notANumber => "NaN".toList
  | .infinite negative => (if negative then "-Infinity" else "Infinity").toList
  | number => number.render.toList

def jsonKey (key : Value) : Run (List Char) := do
  match key, key.chars? with
  | _, some text => return jsonText text
  | .none, _ => return jsonText "null".toList
  | .bool value, _ => return jsonText (if value then "true" else "false").toList
  | .int value, _ => return jsonText (← integerText value)
  | .float value, _ => return jsonText (jsonReal value)
  | _, _ => Run.fault .kind

/-- Parts between brackets, each on a line of its own if there is an indentation. -/
def jsonGroup (indent : Option (List Char)) (depth : Nat) (start close : Char)
    (parts : List (List Char)) : List Char :=
  match indent, parts with
  | _, [] => [start, close]
  | none, parts => start :: Text.joinWith [',', ' '] parts ++ [close]
  | some pad, parts =>
    let newLine (depth : Nat) : List Char := '\n' :: (List.replicate depth pad).flatten
    start :: newLine (depth + 1) ++ Text.joinWith (',' :: newLine (depth + 1)) parts ++
      newLine depth ++ [close]

/-- A value in data notation, inside of the lists and tables that are `active`. Values may be nested
`left` deep. -/
def jsonWithin (indent : Option (List Char)) : (left : Nat) → (active : List Nat) → (depth : Nat) →
    Value → Run (List Char)
  | _, _, _, .none => return "null".toList
  | _, _, _, .bool value => return (if value then "true" else "false").toList
  | _, _, _, .int value => integerText value
  | _, _, _, .float value => return jsonReal value
  | _, _, _, .text value | _, _, _, .markup value => return jsonText value
  | 0, _, _, _ => Run.fault .depth
  | left + 1, active, depth, .table ref => do
    if ref ∈ active then
      Run.fault .value
    let sorted ← Run.sortBy (fun a b => a.1.ordered .lt b.1) (← Run.entries ref)
    let parts ← sorted.mapM fun (key, value) => do
      let key ← jsonKey key
      return key ++ ':' :: ' ' :: (← jsonWithin indent left (ref :: active) (depth + 1) value)
    return jsonGroup indent depth '\x7b' '\x7d' parts
  | left + 1, active, depth, .list ref => do
    if ref ∈ active then
      Run.fault .value
    let parts ← (← Run.listItems ref).mapM (jsonWithin indent left (ref :: active) (depth + 1))
    return jsonGroup indent depth '[' ']' parts
  | left + 1, active, depth, value =>
    match value.tupleItems? with
    | some items => do
      let parts ← items.mapM (jsonWithin indent left active (depth + 1))
      return jsonGroup indent depth '[' ']' parts
    | none => Run.fault .kind

/-- Writes a value in data notation. -/
def tojson : Action := fun value arguments => do
  let bound ← arguments.bind 0 ["indent"]
  let indent ←
    match bound.optional? "indent" with
    | none => pure none
    | some indent =>
      match indent.chars?, indent.integer? with
      | some pad, _ => pure (some pad)
      | _, some width => pure (some (List.replicate width.toNat ' '))
      | _, _ => Run.reject indent
  return .markup (← jsonWithin indent nestingLimit [] 0 value)

end CrateReadme.Template.Filter
