import CrateReadme.Template.Method.Text

/-!
# Methods of lists, tables and numbers

What values other than texts can be asked to do with a dot behind them. Lists and tables change
where they stand in the store.
-/

namespace CrateReadme.Template.Method

def findItem? (value : Value) : (place : Nat) → List Value → Run (Option Nat)
  | _, [] => return none
  | place, item :: items => do
    if ← item.equal value then return some place else findItem? value (place + 1) items

def countItem (items : List Value) (arguments : Arguments) : Run Value := do
  let value ← arguments.single
  return .int (← items.filterM fun item => item.equal value).length

/-- The place of the first item between two bounds that equals a value. -/
def indexOfItem (items : List Value) (arguments : Arguments) : Run Value := do
  let given ← arguments.plain 1 3
  let value := given.getD 0 Value.none
  let place (bound : Value) : Run Nat := do
    let bound ← bound.index
    return if 0 ≤ bound then bound.toNat else items.length - bound.natAbs
  let start ← place (given.getD 1 (.int 0))
  let stop ← place (given.getD 2 (.int items.length))
  match ← findItem? value start ((items.take stop).drop start) with
  | some found => return .int found
  | none => Run.fault .value

def existingPlace (items : List Value) (index : Int) : Run Nat :=
  let place : Int := if 0 ≤ index then index else items.length + index
  if 0 ≤ place && place < items.length then return place.toNat else Run.fault .index

def onList (ref : Nat) (word : String) (arguments : Arguments) : Run Value := do
  let items ← Run.listItems ref
  let becomes (items : List Value) : Run Value := do
    Run.replace ref (.list items)
    return .none
  match word with
  | "append" => becomes (items ++ [← arguments.single])
  | "clear" =>
    arguments.nothing
    becomes []
  | "copy" =>
    arguments.nothing
    Run.newList items
  | "count" => countItem items arguments
  | "index" => indexOfItem items arguments
  | "extend" => becomes (items ++ (← (← arguments.single).items))
  | "insert" =>
    match ← arguments.plain 2 2 with
    | [place, item] =>
      let before := between items none (some (← place.index)) 1
      becomes (before ++ item :: items.drop before.length)
    | _ => Run.fault .kind
  | "pop" =>
    let given ← arguments.plain 0 1
    let place ← existingPlace items (← (given.getD 0 (.int (-1))).index)
    Run.replace ref (.list (items.eraseIdx place))
    return items.getD place .none
  | "remove" =>
    match ← findItem? (← arguments.single) 0 items with
    | some place => becomes (items.eraseIdx place)
    | none => Run.fault .value
  | "reverse" =>
    arguments.nothing
    becomes items.reverse
  | "sort" =>
    unless arguments.positional.isEmpty do
      Run.fault .kind
    let bound ← arguments.bind 0 ["key", "reverse"]
    if (bound.optional? "key").isSome then
      Run.fault .kind
    let pairs := items.map fun item => (item, item)
    becomes (← Filter.sortPairs (Value.ordered .lt) (← bound.flag "reverse") pairs)
  | _ => Run.fault .kind

/-- The entries that a value gives: those of a table, or pairs. -/
def entriesOf (value : Value) : Run Entries := do
  match value with
  | .table ref => Run.entries ref
  | value => (← value.items).mapM Filter.pairOf

def givenEntries (arguments : Arguments) : Run Entries := do
  let first ←
    match arguments.positional with
    | [] => pure []
    | [value] => entriesOf value
    | _ => Run.fault .kind
  return first ++ arguments.named.map fun (word, value) => (.text word.toList, value)

def onTable (ref : Nat) (word : String) (arguments : Arguments) : Run Value := do
  let entries : Entries ← Run.entries ref
  let view (part : TablePart) : Run Value := do
    arguments.nothing
    return .view part ref
  match word with
  | "items" => view .items
  | "keys" => view .keys
  | "values" => view .values
  | "copy" =>
    arguments.nothing
    Run.newTable entries
  | "clear" =>
    arguments.nothing
    Run.replace ref (.table [])
    return .none
  | "get" =>
    let given ← arguments.plain 1 2
    return (← entries.find? (given.getD 0 .none)).getD (given.getD 1 .none)
  | "setdefault" =>
    let given ← arguments.plain 1 2
    let key := given.getD 0 .none
    match ← entries.find? key with
    | some value => return value
    | none =>
      let value := given.getD 1 .none
      Run.replace ref (.table (entries ++ [(key, value)]))
      return value
  | "pop" =>
    let given ← arguments.plain 1 2
    let key := given.getD 0 .none
    let found? ← if entries.isEmpty then pure none else entries.find? key
    match found?, given[1]? with
    | some value, _ =>
      Run.replace ref (.table (← entries.erase key))
      return value
    | none, some default => return default
    | none, none => Run.fault .key
  | "popitem" =>
    arguments.nothing
    match entries.getLast? with
    | some entry =>
      Run.replace ref (.table entries.dropLast)
      return .tuple [entry.1, entry.2]
    | none => Run.fault .key
  | "update" =>
    Run.replace ref (.table (← entries.putAll (← givenEntries arguments)))
    return .none
  | "fromkeys" =>
    let given ← arguments.plain 1 2
    let value := given.getD 1 .none
    let keys ← (given.getD 0 .none).items
    Run.newTable (← Entries.putAll [] (keys.map fun key => (key, value)))
  | _ => Run.fault .kind

def onNumber (value : Value) (word : String) (arguments : Arguments) : Run Value := do
  arguments.nothing
  match value, value.integer?, word with
  | .float number, _, "is_integer" =>
    return .bool (number.fraction?.any fun fraction => fraction.num % (fraction.den : Int) = 0)
  | .float number, _, "as_integer_ratio" =>
    match number, number.fraction? with
    | _, some fraction =>
      let divisor := Nat.gcd fraction.num.natAbs fraction.den
      return .tuple [.int (fraction.num / (divisor : Int)), .int (fraction.den / divisor : Nat)]
    | .infinite _, _ => Run.fault .overflow
    | _, _ => Run.fault .value
  | .float _, _, _ => return value
  | _, some number, "bit_length" =>
    return .int (if number = 0 then 0 else Nat.log2 number.natAbs + 1 : Nat)
  | _, some number, "bit_count" => return .int ((Nat.toDigits 2 number.natAbs).count '1')
  | _, some number, "as_integer_ratio" => return .tuple [.int number, .int 1]
  | _, some number, _ => return .int number
  | _, _, _ => Run.fault .kind

def decoded (bytes : List UInt8) (arguments : Arguments) : Run Value := do
  let _ ← arguments.bind 0 ["encoding", "errors"]
  match Text.ofUtf8? bytes with
  | some text => return .text text.toList
  | none => Run.fault .value

def onLoop (ref : Nat) (word : String) (arguments : Arguments) : Run Value := do
  unless arguments.named.isEmpty do
    Run.fault .kind
  let state ← Run.loopState ref
  let given := arguments.positional
  match word with
  | "cycle" =>
    match given[(state.index % given.length).toNat]? with
    | some value => return value
    | none => Run.fault .kind
  | "changed" =>
    let isSame ←
      match state.lastSeen with
      | some seen => (Value.tuple seen).equal (.tuple given)
      | none => pure false
    unless isSame do
      Run.replace ref (.loop { state with lastSeen := some given })
    return .bool !isSame
  | _ => Run.fault .kind

def onCycler (ref : Nat) (word : String) (arguments : Arguments) : Run Value := do
  arguments.nothing
  match (← get).objects[ref]?, word with
  | some (.cycler items place), "next" =>
    Run.replace ref (.cycler items ((place + 1) % items.length))
    return items.getD place .none
  | some (.cycler items _), _ =>
    Run.replace ref (.cycler items 0)
    return .none
  | _, _ => Run.fault .kind

def call (receiver : Value) (word : String) (arguments : Arguments) : Run Value := do
  match receiver with
  | .text text => onText false text word arguments
  | .markup text => onText true text word arguments
  | .list ref => onList ref word arguments
  | .table ref => onTable ref word arguments
  | .loop ref => onLoop ref word arguments
  | .cycler ref => onCycler ref word arguments
  | .bytes bytes =>
    if word = "hex" then
      arguments.nothing
      return .text (bytes.flatMap fun byte => Text.hexadecimal 2 byte.toNat)
    else decoded bytes arguments
  | .bool _ | .int _ | .float _ => onNumber receiver word arguments
  | receiver =>
    if receiver matches .range _ _ _ then
      let _ ← arguments.single
    let items ← receiver.items
    if word = "count" then countItem items arguments else indexOfItem items arguments

def make (kind : String) (arguments : Arguments) : Run Value := do
  match kind with
  | "range" =>
    match ← (← arguments.plain 1 3).mapM Value.index with
    | [stop] => return .range 0 stop 1
    | [start, stop] => return .range start stop 1
    | [start, stop, step] =>
      if step = 0 then Run.fault .value else return .range start stop step
    | _ => Run.fault .kind
  | "dict" => Run.newTable (← Entries.putAll [] (← givenEntries arguments))
  | "jinja2.utils.Namespace" =>
    return .record (← Run.allocate (.table (← Entries.putAll [] (← givenEntries arguments))))
  | "jinja2.utils.Cycler" =>
    unless arguments.named.isEmpty do
      Run.fault .kind
    if arguments.positional.isEmpty then
      Run.fault .state
    return .cycler (← Run.allocate (.cycler arguments.positional 0))
  | "jinja2.utils.Joiner" =>
    let bound ← arguments.bind 0 ["sep"]
    return .joiner (← Run.allocate (.joiner (bound.get "sep" (.text [',', ' '])) false))
  | "lipsum" =>
    let bound ← arguments.bind 0 ["n", "html", "min", "max"]
    return if ← (bound.get "html" (.bool true)).truth then .markup [] else .text []
  | "str" =>
    match ← arguments.plain 0 1 with
    | [value] => return .text (← value.shown)
    | _ => return .text []
  | "list" =>
    match ← arguments.plain 0 1 with
    | [value] => Run.newList (← value.items)
    | _ => Run.newList []
  | "tuple" =>
    match ← arguments.plain 0 1 with
    | [value] => return .tuple (← value.items)
    | _ => return .tuple []
  | "bool" =>
    match ← arguments.plain 0 1 with
    | [value] => return .bool (← value.truth)
    | _ => return .bool false
  | _ => Run.fault .kind

def callValue (function : Value) (arguments : Arguments) : Run Value := do
  match function with
  | .method receiver word => call receiver word arguments
  | .kind word => make word arguments
  | .joiner ref =>
    arguments.nothing
    match (← get).objects[ref]? with
    | some (.joiner separator false) =>
      Run.replace ref (.joiner separator true)
      return .text []
    | some (.joiner separator true) => return separator
    | _ => Run.fault .kind
  | function => Run.reject function

end CrateReadme.Template.Method
