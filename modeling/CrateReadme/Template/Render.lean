import CrateReadme.Data.Value
import CrateReadme.Template.Evaluate
import CrateReadme.Template.Program

/-!
# Filling in templates

A template is filled in statement by statement. A loop, a captured text and the like have scopes of
their own; the branches of a condition have not. A routine sees the names of the place where it is
defined, a block only those of the whole template. Routines, loops that run again and blocks call
each other at most to a fixed depth.
-/

namespace CrateReadme.Template

def write (text : List Char) : Run Unit :=
  modify fun state => { state with output := state.output.push (some text) }

/-- Writes the result of a call or filter. If it is no text, this fails where the written pieces are
put together. -/
def writeResult (value : Value) : Run Unit :=
  modify fun state => { state with output := state.output.push value.chars? }

/-- The pieces that were written, put together. -/
def joinedOutput (output : Array (Option (List Char))) : Run (List Char) :=
  if output.all Option.isSome then return (output.toList.filterMap id).flatten
  else Run.fault .kind

/-- What a run writes, instead of writing it. -/
def capturing (run : Run Unit) : Run (List Char) := do
  let before := (← get).output
  modify fun state => { state with output := #[] }
  run
  let written := (← get).output
  modify fun state => { state with output := before }
  joinedOutput written

def textValue (isMarkup : Bool) (text : List Char) : Value :=
  if isMarkup then .markup text else .text text

/-- Runs something in a scope with names of its own. -/
def inScope (here : Here) (locals : Locals) (run : Here → Run Unit) : Run Unit := do
  let (ref, scope) ← here.scope.enter locals
  run { here with scope }
  Scope.leave ref

/-- How many items a loop may take. -/
def loopLimit : Nat :=
  100000000

/-- The next item of a loop that passes its guard, and what is left behind it. `left` bounds the
items. -/
def nextPassing (guard : Value → Run Bool) : (left : Nat) → Cursor → Run (Option (Value × Cursor))
  | 0, _ => return none
  | left + 1, cursor => do
    match ← cursor.next? with
    | none => return none
    | some (item, cursor) =>
      if ← guard item then return some (item, cursor) else nextPassing guard left cursor

/-- Runs the body of a loop for the items behind a cursor; says whether there was one. `left` bounds
the items. -/
def repeatPlain (guard : Value → Run Bool) (body : Value → Run Unit) :
    (left : Nat) → (ran : Bool) → Cursor → Run Bool
  | 0, ran, _ => return ran
  | left + 1, ran, cursor => do
    match ← nextPassing guard loopLimit cursor with
    | some (item, cursor) =>
      body item
      repeatPlain guard body left true cursor
    | none => return ran

/-- Runs the body of a loop whose state can be asked for. `left` bounds the items. -/
def repeatWithState (ref : Nat) (body : Value → Run Unit) : (left : Nat) → (ran : Bool) → Run Bool
  | 0, ran => return ran
  | left + 1, ran => do
    match ← LoopState.advance ref with
    | some item =>
      body item
      repeatWithState ref body left true
    | none => return ran

/-- The state of a loop in front of its first item. -/
def LoopState.start (source : Value) (cursor : Cursor) (depth : Nat)
    (again : Option (LoopBody × Scope)) : LoopState where
  source := source
  cursor := cursor
  depth := depth
  again := again
  index := -1
  previous := .none
  current := .none
  next := none
  length := none
  lastSeen := none

/-- Runs a loop for the items of a value. What its guard, its body and its last part do is given. -/
def runLoop (here : Here) (shape : LoopShape) (again : Option (LoopBody × Scope))
    (guard : Here → Run Bool) (body otherwise : Here → Run Unit) (source : Value) (depth : Nat) :
    Run Unit := do
  let cursor ← source.cursor
  let scope := here.scope
  let passes : Value → Run Bool ←
    if shape.hasGuard then do
      let (_, guardScope) ← scope.enter shape.guardLocals
      pure fun item => do
        guardScope.bindPattern guardScope.bind shape.pattern item
        guard { here with scope := guardScope }
    else
      pure fun _ => return true
  let (ref, bodyScope) ← scope.enter (shape.bodyLocals.map fun entry => (entry.1, .parameter))
  let step (item : Value) : Run Unit := do
    bodyScope.bindPattern bodyScope.bind shape.pattern item
    scope.refresh ref shape.bodyLocals
    body { here with scope := bodyScope }
  let ran ←
    if shape.usesState then do
      let state ←
        if shape.hasGuard then do
          let items ← (← cursor.rest).filterM passes
          pure (LoopState.start .none (.items items) depth again)
        else
          pure (LoopState.start source cursor depth again)
      let loop ← Run.allocate (.loop state)
      bodyScope.bind "loop" (.loop loop)
      repeatWithState loop step loopLimit false
    else
      repeatPlain passes step loopLimit false cursor
  Scope.leave ref
  unless ran do
    inScope here shape.otherwiseLocals otherwise

/-- Fails unless the records whose fields a pattern binds are records. -/
def requireRecords (scope : Scope) (pattern : Pattern) : Run Unit :=
  pattern.records.forM fun word => do
    match ← scope.value? word with
    | some (.record _) => pure ()
    | _ => Run.fail "cannot assign attribute on non-namespace object"

/-- Whether values that are written in a region are escaped, and where this is known. -/
def Escaping.within (outer : Escaping) (isConstant value : Bool) : Escaping :=
  if outer = .dynamic || !isConstant then .dynamic else if value then .on else .off

/-- Looks for a template by a value that is its name or a list of names. There are no other
templates. -/
def lookForTemplate (ignoresMissing : Bool) (value : Value) : Run Unit := do
  match value with
  | .text _ | .markup _ | .undefined _ | .blank _ => Run.fault .kind
  | value =>
    if ← value.truth then
      Run.fault .kind
    unless ignoresMissing do
      Run.fail "Tried to select from an empty list of templates."

mutual

def execute (here : Here) : Statement → Run Unit
  | .text content => write content
  | .output values => writeAll here values
  | .cond condition body otherwise => do
    if ← (← evaluate here condition).truth then executeAll here body
    else executeAll here otherwise
  | .loop shape source guard body otherwise => do
    let value ← evaluate here source
    let again : Option (LoopBody × Scope) :=
      if shape.isRecursive then some (⟨shape, guard, body, otherwise⟩, here.scope) else none
    runLoop here shape again (fun here => do (← evaluate here guard).truth)
      (fun here => executeAll here body) (fun here => executeAll here otherwise) value 0
  | .assign pattern value => do
    requireRecords here.scope pattern
    here.scope.bindPattern here.scope.assign pattern (← evaluate here value)
  | .capture locals pattern value body => do
    inScope here locals fun inside => do
      let text ← capturing (executeAll inside body)
      let captured := textValue (← inside.escapes) text
      let found ←
        match value with
        | .captured => pure (.text text)
        | value => evaluate { inside with captured } value
      let found ← if (← get).escapes then do pure (.markup (← found.shown)) else pure found
      here.scope.bindPattern here.scope.assign pattern found
  | .scope locals patterns values body => do
    inScope here locals fun inside => do
      bindEach here inside.scope patterns values
      executeAll inside body
  | .routine _ signature defaults body => do
    let value : Value := .routine ⟨signature, defaults, body⟩ here.scope
    here.scope.assign (signature.word.getD "") value
  | .callBlock _ signature defaults function arguments passing body => do
    let caller : Value := .routine ⟨signature, defaults, body⟩ here.scope
    let function ← evaluate here function
    let given ← evaluateArguments here ⟨[], []⟩ arguments passing
    writeResult (← here.calls.value function (← given.add caller (.named "caller")))
  | .changed locals value body => do
    inScope here locals fun inside => do
      let text ← capturing (executeAll inside body)
      let captured := textValue (← inside.escapes) text
      writeResult (← evaluate { inside with captured } value)
  | .block shape _ => do
    if shape.isRequired then
      Run.fail ("Required block " ++ Text.quoted shape.word ++ " not found")
    let context ←
      if shape.isScoped then do pure (← here.scope.apart shape.passed).context
      else pure here.scope.context
    writeResult (← here.calls.block shape.word context)
  | .escaping locals value body => do
    inScope here locals fun inside => do
      let isOn ← (← evaluate inside value).truth
      let before := (← get).escapes
      modify fun state => { state with escapes := isOn }
      let escaping := inside.scope.escaping.within value.isConstant isOn
      executeAll { inside with scope := { inside.scope with escaping } } body
      modify fun state => { state with escapes := before }
  | .external use source => do
    let value ← evaluate here source
    match use with
    | .insertion ignoresMissing => lookForTemplate ignoresMissing value
    | _ => Run.fault .kind

def executeAll (here : Here) : List Statement → Run Unit
  | [] => return
  | first :: rest => do
    execute here first
    executeAll here rest

def writeAll (here : Here) : List Expr → Run Unit
  | [] => return
  | first :: rest => do
    let value ← evaluate here first
    let isPlain := here.scope.escaping = .dynamic && first.isConstant
    write (← if !isPlain && (← here.escapes) then value.escaped else value.shown)
    writeAll here rest

/-- Gives the names of patterns the values of expressions, which do not see these names. -/
def bindEach (here : Here) (scope : Scope) : List Pattern → List Expr → Run Unit
  | pattern :: patterns, first :: rest => do
    scope.bindPattern scope.bind pattern (← evaluate here first)
    bindEach here scope patterns rest
  | _, _ => return

end

/-- The arguments of a routine by its parameters, and those that are left. -/
def takeArguments (parameters : List String) (arguments : Arguments) :
    List (String × Option Value) × Arguments :=
  let given := parameters.zip arguments.positional
  let missing := parameters.drop given.length
  let named := missing.map fun word => (word, arguments.named.lookup word)
  (given.map (fun entry => (entry.1, some entry.2)) ++ named,
    ⟨arguments.positional.drop given.length,
     arguments.named.filter fun entry => entry.1 ∉ missing⟩)

/-- Gives the parameters of a routine that have no arguments their defaults. The first `required`
parameters have none. -/
def bindDefaults (here : Here) : (required : Nat) → List (String × Option Value) → List Expr →
    Run Unit
  | _, [], _ => return
  | required, (word, value?) :: parameters, defaults => do
    match value?, required, defaults with
    | some _, _, _ => pure ()
    | none, 0, default :: _ => here.scope.bind word (← evaluate here default)
    | none, _, _ =>
      here.scope.bind word (.undefined ("parameter " ++ Text.quoted word ++ " was not provided"))
    match required with
    | 0 => bindDefaults here 0 parameters defaults.tail
    | required + 1 => bindDefaults here required parameters defaults

def callRoutine (calls : Calls) (routine : Routine) (scope : Scope) (arguments : Arguments) :
    Run Value := do
  let signature := routine.signature
  let parameters := signature.parameters
  let (bound, left) := takeArguments parameters arguments
  let isExplicit : Bool := "caller" ∈ parameters
  let foundCaller : Bool :=
    if arguments.positional.length < parameters.length then
      "caller" ∈ parameters.drop arguments.positional.length
    else isExplicit
  let takesCaller := signature.takesCaller && !foundCaller
  if takesCaller && isExplicit then
    Run.fault .kind
  let caller : Value :=
    match left.named.lookup "caller" with
    | some .none | none => .undefined "No caller defined"
    | some caller => caller
  let others := left.named.filter fun entry => !(takesCaller && entry.1 = "caller")
  let isTooMuch := (!signature.takesNamed && !others.isEmpty) ||
    (!signature.takesRest && !left.positional.isEmpty)
  if isTooMuch then
    Run.fault .kind
  let (_, inside) ← scope.enter signature.locals
  let here : Here := ⟨calls, inside, .none⟩
  bound.forM fun (word, value?) =>
    match value? with
    | some value => inside.bind word value
    | none => pure ()
  if takesCaller then
    inside.bind "caller" caller
  if signature.takesNamed then
    inside.bind "kwargs" (← Run.newTable (others.map fun (word, value) =>
      (.text word.toList, value)))
  if signature.takesRest then
    inside.bind "varargs" (.tuple left.positional)
  let text ← capturing do
    bindDefaults here (parameters.length - routine.defaults.length) bound routine.defaults
    executeAll here routine.body
  return textValue (← get).escapes text

/-- Runs a loop again for the items of a value. What it writes is the result. -/
def callLoop (calls : Calls) (body : LoopBody) (scope : Scope) (source : Value) (depth : Nat) :
    Run Value := do
  let here : Here := ⟨calls, scope, .none⟩
  let text ← capturing <|
    runLoop here body.shape (some (body, scope)) (fun here => do (← evaluate here body.guard).truth)
      (fun here => executeAll here body.body) (fun here => executeAll here body.otherwise) source
      depth
  return textValue (← here.escapes) text

/-- Fills in a block. What it writes is the result. -/
def callBlock (calls : Calls) (word : String) (context : Nat) : Run Value := do
  match (← get).blocks.lookup word with
  | none => Run.fault .key
  | some block =>
    let (_, scope) ← (Scope.mk [] context .off false).enter block.locals
    let text ← capturing (executeAll ⟨calls, scope, .none⟩ block.body)
    return textValue (← get).escapes text

/-- What calls do that are nested `left` deep. -/
def callsWithin : (left : Nat) → Calls
  | 0 => ⟨fun _ _ _ => Run.fault .depth, fun _ _ _ _ => Run.fault .depth,
      fun _ _ => Run.fault .depth⟩
  | left + 1 =>
    ⟨fun routine scope arguments => callRoutine (callsWithin left) routine scope arguments,
     fun body scope source depth => callLoop (callsWithin left) body scope source depth,
     fun word context => callBlock (callsWithin left) word context⟩

def callDepth : Nat :=
  245

mutual

def valueOfData : Data.Value → Run Value
  | .null => return .none
  | .bool value => return .bool value
  | .int value => return .int value
  | .float value => return .float value
  | .text value | .moment _ value => return .text value.toList
  | .list items => do Run.newList (← valuesOfData items)
  | .table entries => do Run.newTable (← entriesOfData entries)

def valuesOfData : List Data.Value → Run (List Value)
  | [] => return []
  | item :: items => do
    let value ← valueOfData item
    return value :: (← valuesOfData items)

def entriesOfData : List (String × Data.Value) → Run Entries
  | [] => return []
  | (word, item) :: entries => do
    let value ← valueOfData item
    return (.text word.toList, value) :: (← entriesOfData entries)

end

def Program.run (program : Program) (values : List (String × Data.Value)) : Run (List Char) := do
  let given ← values.mapM fun (word, data) => do return (word, ← valueOfData data)
  let functions := functionKinds.map fun (word, kind) => (word, Value.kind kind)
  modify fun state => { state with contexts := #[⟨[], given ++ functions⟩] }
  let (_, scope) ← (Scope.mk [] 0 .off true).enter program.locals
  let here : Here := ⟨callsWithin callDepth, { scope with isTop := true }, .none⟩
  capturing (executeAll here program.body)

def render (template : List Char) (values : List (String × Data.Value))
    (standIns : Text.StandIns := .usual) : Except TemplateError (List Char) := do
  let program ← Program.ofText template standIns
  let start : State := { (default : State) with blocks := program.blocks, standIns }
  let (text, _) ← (program.run values).run start
  return text

end CrateReadme.Template
