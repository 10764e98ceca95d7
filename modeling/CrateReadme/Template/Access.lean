import CrateReadme.Template.Compare

/-!
# Parts of values

What stands behind a value with a dot or in brackets: its members, its items, and the part of a
sequence between two bounds. What is not there is an undefined value that knows what was looked for.
-/

namespace CrateReadme.Template

/-- The item at an index of a sequence; a negative index counts from the end. -/
def itemAt? {α : Type} (sequence : List α) (index : Int) : Option α :=
  if 0 ≤ index then sequence[index.toNat]?
  else if index.natAbs ≤ sequence.length then sequence[sequence.length - index.natAbs]?
  else none

/-- Every item of a sequence whose place is a multiple of `step + 1`. `skip` items are passed over
first. -/
def everyNth {α : Type} (step : Nat) : (skip : Nat) → List α → List α
  | _, [] => []
  | 0, item :: items => item :: everyNth step step items
  | skip + 1, _ :: items => everyNth step skip items

/-- The part of a sequence between two bounds, in steps; a negative bound counts from the end, and a
negative step goes backwards. -/
def between {α : Type} (sequence : List α) (start stop : Option Int) (step : Int) : List α :=
  let place (bound : Int) : Nat :=
    if 0 ≤ bound then min bound.toNat sequence.length else sequence.length - bound.natAbs
  if 0 < step then
    let first := (start.map place).getD 0
    let last := (stop.map place).getD sequence.length
    everyNth (step.toNat - 1) 0 ((sequence.take last).drop first)
  else
    -- one more than the place of the first item, and of the last one that is left out
    let above (bound : Int) : Nat :=
      if 0 ≤ bound then min (bound.toNat + 1) sequence.length
      else sequence.length + 1 - bound.natAbs
    let first := (start.map above).getD sequence.length
    let last := (stop.map above).getD 0
    everyNth (step.natAbs - 1) 0 ((sequence.take first).drop last).reverse

def textMethods : List String :=
  ["capitalize", "casefold", "center", "count", "encode", "endswith", "expandtabs", "find",
   "format", "format_map", "index", "isalnum", "isalpha", "isascii", "isdecimal", "isdigit",
   "isidentifier", "islower", "isnumeric", "isprintable", "isspace", "istitle", "isupper", "join",
   "ljust", "lower", "lstrip", "maketrans", "partition", "removeprefix", "removesuffix", "replace",
   "rfind", "rindex", "rjust", "rpartition", "rsplit", "rstrip", "split", "splitlines",
   "startswith", "strip", "swapcase", "title", "translate", "upper", "zfill"]

def markupMethods : List String :=
  ["escape", "striptags", "unescape"]

def listMethods : List String :=
  ["append", "clear", "copy", "count", "extend", "index", "insert", "pop", "remove", "reverse",
   "sort"]

def tableMethods : List String :=
  ["clear", "copy", "fromkeys", "get", "items", "keys", "pop", "popitem", "setdefault", "update",
   "values"]

def integerMethods : List String :=
  ["as_integer_ratio", "bit_count", "bit_length", "conjugate"]

def floatMethods : List String :=
  ["as_integer_ratio", "conjugate", "is_integer"]

namespace Run

/-- The outcome of a run, which is missing if it fails because of a kind, an index, a key or a
member. -/
def lookUp {α : Type} (run : Run α) : Run (Option α) := do
  match ← attempt run with
  | .ok value => return some value
  | .error (.fault .kind) | .error (.fault .index) | .error (.fault .key)
  | .error (.fault .member) => return none
  | .error cause => throw cause

end Run

def LoopState.member? (ref : Nat) (word : String) : Run (Option Value) := do
  let state ← Run.loopState ref
  match word with
  | "index" => return some (.int (state.index + 1))
  | "index0" => return some (.int state.index)
  | "revindex" => return some (.int ((← count ref) - state.index))
  | "revindex0" => return some (.int ((← count ref) - state.index - 1))
  | "first" => return some (.bool (state.index = 0))
  | "last" => return some (.bool (← peek ref).isNone)
  | "length" => return some (.int (← count ref))
  | "depth" => return some (.int (state.depth + 1))
  | "depth0" => return some (.int state.depth)
  | "previtem" =>
    if state.index = 0 then return some (.undefined "there is no previous item")
    else return some state.previous
  | "nextitem" => return some ((← peek ref).getD (.undefined "there is no next item"))
  | "cycle" | "changed" => return some (.method (.loop ref) word)
  | _ => return none

namespace Value

def member? (value : Value) (word : String) : Run (Option Value) := do
  let among (methods : List String) : Option Value :=
    if word ∈ methods then some (method value word) else Option.none
  if word = "__class__" then
    return some (kind value.kindWord)
  match value with
  | undefined message | blank message => Run.fail message
  | text _ => return among textMethods
  | markup _ => return among (textMethods ++ markupMethods)
  | bytes _ => return among ["decode", "hex"]
  | list _ => return among listMethods
  | table _ => return among tableMethods
  | tuple _ => return among ["count", "index"]
  | group key members =>
    match word with
    | "grouper" => return some key
    | "list" => return some members
    | _ => return among ["count", "index"]
  | bool _ | int _ =>
    match word, value.integer? with
    | "real", some number | "numerator", some number => return some (int number)
    | "imag", _ => return some (int 0)
    | "denominator", _ => return some (int 1)
    | _, _ => return among integerMethods
  | float _ =>
    match word with
    | "real" => return some value
    | "imag" => return some (float (.zero false))
    | _ => return among floatMethods
  | record ref => Entries.search (text word.toList) (← Run.entries ref)
  | range start stop step =>
    match word with
    | "start" => return some (int start)
    | "stop" => return some (int stop)
    | "step" => return some (int step)
    | _ => return among ["count", "index"]
  | loop ref => LoopState.member? ref word
  | cycler ref =>
    match word, (← get).objects[ref]? with
    | "current", some (.cycler items place) => return items[place]?
    | "items", some (.cycler items _) => return some (tuple items)
    | "pos", some (.cycler _ place) => return some (int place)
    | _, _ => return among ["next", "reset"]
  | joiner ref =>
    match word, (← get).objects[ref]? with
    | "sep", some (.joiner separator _) => return some separator
    | "used", some (.joiner _ isUsed) => return some (bool isUsed)
    | _, _ => return Option.none
  | kind full =>
    match word with
    | "__name__" => return some (text (((full.splitOn ".").getLastD full).toList))
    | _ => return Option.none
  | routine definition _ =>
    let signature := definition.signature
    match word with
    | "name" => return some (signature.word.elim none fun word => text word.toList)
    | "arguments" => return some (tuple (signature.parameters.map fun word => text word.toList))
    | "catch_kwargs" => return some (bool signature.takesNamed)
    | "catch_varargs" => return some (bool signature.takesRest)
    | "caller" => return some (bool signature.takesCaller)
    | "explicit_caller" => return some (bool ("caller" ∈ signature.parameters))
    | _ => return Option.none
  | part block _ =>
    match word with
    | "name" => return some (text block.toList)
    | "super" =>
      return some (undefined ("there is no parent block called " ++ Text.quoted block ++ "."))
    | _ => return Option.none
  | _ => return Option.none

/-- The item of a value under a key; it fails where there is none. -/
def subscript (object key : Value) : Run Value := do
  let orIndex : Option Value → Run Value
    | some item => return item
    | Option.none => Run.fault .index
  match object, key.integer? with
  | undefined message, _ | blank message, _ => Run.fail message
  | table ref, _ =>
    match ← Entries.find? (← Run.entries ref) key with
    | some value => return value
    | Option.none => Run.fault .key
  | text chars, some index => orIndex ((itemAt? chars index).map fun c => text [c])
  | markup chars, some index => orIndex ((itemAt? chars index).map fun c => markup [c])
  | bytes chars, some index => orIndex ((itemAt? chars index).map fun byte => int byte.toNat)
  | list ref, some index => orIndex (itemAt? (← Run.listItems ref) index)
  | tuple items, some index => orIndex (itemAt? items index)
  | group first members, some index => orIndex (itemAt? [first, members] index)
  | range start stop step, some index =>
    orIndex (itemAt? (rangeItems start step (rangeLength start stop step)) index)
  | whole context, _ =>
    match key.chars? with
    | some word =>
      let word := String.ofList word
      if ((← get).blocks.lookup word).isSome then return part word context else Run.fault .key
    | Option.none => Run.fault .key
  | _, _ => Run.fault .kind

def withoutMember (object : Value) (word : String) : Value :=
  undefined (Text.quoted object.kindName ++ " has no attribute " ++ Text.quoted word)

/-- What stands behind a value with a dot: its member, or else its item. -/
def member (object : Value) (word : String) : Run Value := do
  match ← object.member? word with
  | some value => return value
  | Option.none =>
    return (← Run.lookUp (object.subscript (text word.toList))).getD (object.withoutMember word)

/-- What stands behind a value in brackets: its item, or else its member. -/
def item (object key : Value) : Run Value := do
  match ← Run.lookUp (object.subscript key), key.chars? with
  | some value, _ => return value
  | Option.none, some word =>
    let word := String.ofList word
    return (← object.member? word).getD (object.withoutMember word)
  | Option.none, Option.none =>
    let shown ← key.quoted
    return undefined (object.kindName ++ " has no element " ++ String.ofList shown)

def bound? : Value → Run (Option Int)
  | none => return Option.none
  | value =>
    match value.integer? with
    | some number => return some number
    | Option.none => Run.fault .kind

/-- The part of a value between two bounds, in steps. -/
def slice (object start stop step : Value) : Run Value := do
  let cut {α : Type} (sequence : List α) : Run (List α) := do
    let start ← start.bound?
    let stop ← stop.bound?
    let step := (← step.bound?).getD 1
    if step = 0 then
      Run.fault .value
    return between sequence start stop step
  match object with
  | text chars => return text (← cut chars)
  | markup chars => return markup (← cut chars)
  | bytes chars => return bytes (← cut chars)
  | tuple items => return tuple (← cut items)
  | group key members => return tuple (← cut [key, members])
  | list ref => Run.newList (← cut (← Run.listItems ref))
  | range first last stride =>
    let count := rangeLength first last stride
    let _ ← cut [()]
    let step := (← step.bound?).getD 1
    let place (bound : Option Int) (default : Int) : Int :=
      bound.elim default fun bound =>
        let bound := if bound < 0 then bound + count else bound
        if 0 < step then max 0 (min bound count) else max (-1) (min bound (count - 1))
    let begin := place (← start.bound?) (if 0 < step then 0 else count - 1)
    let ending := place (← stop.bound?) (if 0 < step then count else -1)
    return range (first + begin * stride) (first + ending * stride) (stride * step)
  | value => Run.reject value

end Value

end CrateReadme.Template
