import CrateReadme.Template.Error
import CrateReadme.Template.Syntax
import CrateReadme.Text.Utf8

/-!
# Values of templates

Values are texts, numbers and the like, and what a template can change: lists, tables, records and
the states of loops, which are kept in a store and referred to by number. What is not defined is a
value too: it carries the message with which its use fails. Markup is text in which the characters
with a meaning are already escaped.
-/

namespace CrateReadme.Template

/-- Whether written values are escaped in a region of a template. -/
inductive Escaping where
  | off
  | on
  /-- This is only known when the template is filled in. -/
  | dynamic
  deriving DecidableEq, Repr, Inhabited

/-- From where a statement sees names: the frames of the scopes around it, from the inside to the
outside, and the names of the whole template. `isTop` says that what it binds is a name of the whole
template. -/
structure Scope where
  frames : List Nat
  context : Nat
  escaping : Escaping
  isTop : Bool
  deriving DecidableEq, Repr, Inhabited

inductive TablePart where
  | keys
  | values
  | items
  deriving DecidableEq, Repr

inductive Value where
  | none
  | bool (value : Bool)
  | int (value : Int)
  | float (value : Binary64)
  | text (value : List Char)
  | markup (value : List Char)
  | bytes (value : List UInt8)
  | list (ref : Nat)
  | tuple (items : List Value)
  /-- A pair of a key and the list of the items that have it. -/
  | group (key members : Value)
  | table (ref : Nat)
  /-- A record with fields that can be assigned. -/
  | record (ref : Nat)
  | range (start stop step : Int)
  | view (part : TablePart) (ref : Nat)
  /-- Items that can be taken once. -/
  | iterator (ref : Nat)
  /-- Nothing; `message` says what was looked for. -/
  | undefined (message : String)
  /-- Nothing, where nothing may be shown; `message` says why it is there. -/
  | blank (message : String)
  /-- The state of a loop. -/
  | loop (ref : Nat)
  | cycler (ref : Nat)
  | joiner (ref : Nat)
  | method (receiver : Value) (word : String)
  /-- A kind of values, by its full name. -/
  | kind (word : String)
  /-- A body with parameters, and the place where it stands. -/
  | routine (definition : Routine) (scope : Scope)
  /-- The template itself, with the names of the whole template. -/
  | whole (context : Nat)
  /-- A block of the template. -/
  | part (word : String) (context : Nat)
  deriving Repr, Inhabited

/-- What is left of a sequence whose items are taken one after the other. -/
inductive Cursor where
  | items (left : List Value)
  | list (ref place : Nat)
  /-- A table, which must keep its size. -/
  | table (part : TablePart) (ref place size : Nat)
  | range (next step : Int) (left : Nat)
  | iterator (ref : Nat)
  deriving Repr, Inhabited

/-- The state of a loop: how many items were taken before the current one, that item and its
neighbours, and how it can be run again for other items. -/
structure LoopState where
  source : Value
  cursor : Cursor
  index : Int
  previous : Value
  current : Value
  next : Option Value
  length : Option Nat
  depth : Nat
  lastSeen : Option (List Value)
  again : Option (LoopBody × Scope)
  deriving Inhabited

/-- What the store holds. -/
inductive Object where
  | list (items : List Value)
  /-- The entries of a table or record. -/
  | table (entries : List (Value × Value))
  /-- The items of an iterator, and why there are no more of them. -/
  | iterator (items : List Value) (failure : Option TemplateError)
  | loop (state : LoopState)
  | cycler (items : List Value) (place : Nat)
  | joiner (separator : Value) (isUsed : Bool)
  deriving Inhabited

/-- The names of a scope with their values; a name may have none. -/
abbrev Frame :=
  List (String × Option Value)

/-- The names of the whole template: those that it binds and those that are given to it. -/
structure Context where
  bound : List (String × Value)
  given : List (String × Value)
  deriving Inhabited

/-- What there is while a template is filled in. What is written is kept in pieces; a piece that is
no text is missing. Characters of the block `standIns` are in the place of surrogates. -/
structure State where
  blocks : List (String × Block)
  objects : Array Object
  frames : Array Frame
  contexts : Array Context
  escapes : Bool
  output : Array (Option (List Char))
  standIns : Text.StandIns
  deriving Inhabited

abbrev Run :=
  StateT State (Except TemplateError)

namespace Run

/-- Fails with a mistake that is not reported as one of the template. -/
def fault {α : Type} (cause : Fault) : Run α :=
  throw (.fault cause)

def fail {α : Type} (message : String) : Run α :=
  throw (.failed message)

def char (code : Nat) : Run Char := do
  return (← get).standIns.char code

def allocate (object : Object) : Run Nat := do
  let state ← get
  set { state with objects := state.objects.push object }
  return state.objects.size

def replace (ref : Nat) (object : Object) : Run Unit :=
  modify fun state => { state with objects := state.objects.setIfInBounds ref object }

def listItems (ref : Nat) : Run (List Value) := do
  match (← get).objects[ref]? with
  | some (.list items) => return items
  | _ => return []

def entries (ref : Nat) : Run (List (Value × Value)) := do
  match (← get).objects[ref]? with
  | some (.table entries) => return entries
  | _ => return []

def loopState (ref : Nat) : Run LoopState := do
  match (← get).objects[ref]? with
  | some (.loop state) => return state
  | _ => return default

def newList (items : List Value) : Run Value := do
  return .list (← allocate (.list items))

def newTable (entries : List (Value × Value)) : Run Value := do
  return .table (← allocate (.table entries))

def newIterator (items : List Value) : Run Value := do
  return .iterator (← allocate (.iterator items none))

/-- The outcome of a run that does not end with its failure. -/
def attempt {α : Type} (run : Run α) : Run (Except TemplateError α) := fun state =>
  match run.run state with
  | .ok (value, state) => .ok (.ok value, state)
  | .error cause => .ok (.error cause, state)

/-- An iterator whose items are made one by one until that fails. The failure comes behind the items
that were made before. -/
def newIteratorFrom {α : Type} (make : α → Run (Option Value)) (source : List α) : Run Value := do
  let (items, failure) ← go [] source
  return .iterator (← allocate (.iterator items failure))
where
  /-- Continues behind the items that are already made, given in reverse. -/
  go (done : List Value) : List α → Run (List Value × Option TemplateError)
    | [] => return (done.reverse, none)
    | first :: rest => do
      match ← attempt (make first) with
      | .ok (some item) => go (item :: done) rest
      | .ok none => go done rest
      | .error cause => return (done.reverse, some cause)

def brokenIterator (cause : TemplateError) : Run Value := do
  return .iterator (← allocate (.iterator [] (some cause)))

end Run

namespace Value

def ofLiteral : Literal → Value
  | .none => none
  | .bool value => bool value
  | .int value => int value
  | .float value => float value
  | .text value => text value

def kindWord : Value → String
  | none => "NoneType"
  | bool _ => "bool"
  | int _ => "int"
  | float _ => "float"
  | text _ => "str"
  | markup _ => "markupsafe.Markup"
  | bytes _ => "bytes"
  | list _ => "list"
  | tuple _ => "tuple"
  | group _ _ => "jinja2.filters._GroupTuple"
  | table _ => "dict"
  | record _ => "jinja2.utils.Namespace"
  | range _ _ _ => "range"
  | view .keys _ => "dict_keys"
  | view .values _ => "dict_values"
  | view .items _ => "dict_items"
  | iterator _ => "generator"
  | undefined _ => "jinja2.runtime.StrictUndefined"
  | blank _ => "jinja2.runtime.Undefined"
  | loop _ => "jinja2.runtime.LoopContext"
  | cycler _ => "jinja2.utils.Cycler"
  | joiner _ => "jinja2.utils.Joiner"
  | method (markup _) _ | method (cycler _) _ | method (loop _) _ => "method"
  | method _ _ => "builtin_function_or_method"
  | kind "lipsum" => "function"
  | kind _ => "type"
  | routine _ _ => "jinja2.runtime.Macro"
  | whole _ => "jinja2.runtime.TemplateReference"
  | part _ _ => "jinja2.runtime.BlockReference"

def kindName : Value → String
  | none => "None"
  | value => value.kindWord ++ " object"

def chars? : Value → Option (List Char)
  | text value | markup value => some value
  | _ => Option.none

def integer? : Value → Option Int
  | int value => some value
  | bool value => some (if value then 1 else 0)
  | _ => Option.none

def isNumber : Value → Bool
  | int _ | bool _ | float _ => true
  | _ => false

def isDefined : Value → Bool
  | undefined _ | blank _ => false
  | _ => true

def undefinedMessage? : Value → Option String
  | undefined message | blank message => some message
  | _ => Option.none

end Value

namespace Run

/-- Fails if a value is not defined, with its message, and otherwise because of its kind. -/
def reject {α : Type} (value : Value) : Run α :=
  match value.undefinedMessage? with
  | some message => fail message
  | none => fault .kind

/-- Fails if one of two values is not defined, with its message, and otherwise because of their
kinds. -/
def rejectBoth {α : Type} (left right : Value) : Run α :=
  match left.undefinedMessage? with
  | some message => fail message
  | none => reject right

end Run

end CrateReadme.Template
