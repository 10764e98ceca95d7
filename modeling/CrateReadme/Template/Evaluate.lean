import CrateReadme.Template.Filter
import CrateReadme.Template.Method.Container
import CrateReadme.Template.Scope

/-!
# Evaluating expressions

The value of an expression at a place of a template. What a call of a routine, of a loop or of a
block does is given from outside, so that the evaluation follows the expression.
-/

namespace CrateReadme.Template

/-- What calls of the parts of a template do. A loop is run again for the items of a value, at some
depth. -/
structure Calls where
  routine : Routine → Scope → Arguments → Run Value
  loop : LoopBody → Scope → (source : Value) → (depth : Nat) → Run Value
  block : String → (context : Nat) → Run Value

/-- A place of a template: what calls do, the names that it sees, and the text that was captured. -/
structure Here where
  calls : Calls
  scope : Scope
  captured : Value

namespace Here

def escapes (here : Here) : Run Bool := do
  match here.scope.escaping with
  | .off => return false
  | .on => return true
  | .dynamic => return (← get).escapes

end Here

mutual

/-- Whether an expression has the same value wherever it stands. -/
def Expr.isConstant : Expr → Bool
  | .literal _ => true
  | .name _ | .call _ _ _ | .missing _ | .captured => false
  | .list items | .tuple items | .table items | .concat items => allConstant items
  | .member object _ => object.isConstant
  | .item object key => object.isConstant && key.isConstant
  | .bounds start stop step => start.isConstant && stop.isConstant && step.isConstant
  | .filter _ word value arguments _ =>
    word ∉ ["map", "select", "reject", "selectattr", "rejectattr", "random"] &&
      value.isConstant && allConstant arguments
  | .test _ _ value arguments _ => value.isConstant && allConstant arguments
  | .not value | .sign _ value => value.isConstant
  | .and left right | .or left right | .binary _ left right =>
    left.isConstant && right.isConstant
  | .compare first _ rest => first.isConstant && allConstant rest
  | .choose condition yes no => condition.isConstant && yes.isConstant && no.isConstant

/-- Whether expressions have the same values wherever they stand. -/
def allConstant : List Expr → Bool
  | [] => true
  | item :: items => item.isConstant && allConstant items

end

def Calls.value (calls : Calls) (function : Value) (arguments : Arguments) : Run Value := do
  match function with
  | .routine definition scope => calls.routine definition scope arguments
  | .part word context =>
    arguments.nothing
    calls.block word context
  | .loop ref =>
    let bound ← arguments.bind 1 ["iterable"]
    let state ← Run.loopState ref
    match state.again with
    | some (body, scope) => calls.loop body scope (bound.get "iterable" .none) (state.depth + 1)
    | none => Run.fault .kind
  | function => Method.callValue function arguments

def Arguments.add (arguments : Arguments) (value : Value) : Passing → Run Arguments
  | .plain => return { arguments with positional := arguments.positional ++ [value] }
  | .spread => do
    return { arguments with positional := arguments.positional ++ (← value.items) }
  | .named word =>
    let others := arguments.named.filter fun entry => entry.1 ≠ word
    return { arguments with named := others ++ [(word, value)] }
  | .spreadNamed => do
    match value with
    | .table ref =>
      (← Run.entries ref).foldlM (fun arguments (key, value) => do
        let word := String.ofList (← key.chars)
        if (arguments.named.lookup word).isSome then Run.fault .kind
        else return { arguments with named := arguments.named ++ [(word, value)] }) arguments
    | value => Run.reject value

/-- The texts of values, one after the other. If one of them is markup, the others are escaped, as
far as values are escaped here. -/
def joinedTexts (escapes : Bool) (values : List Value) : Run Value := do
  let values ← if escapes then values.mapM Value.soft else pure values
  if escapes && values.any Filter.isMarkup then
    return .markup (← values.mapM Value.escaped).flatten
  else
    return .text (← values.mapM Value.shown).flatten

def entriesInTurn : List Value → Entries
  | key :: value :: rest => (key, value) :: entriesInTurn rest
  | _ => []

mutual

def evaluate (here : Here) : Expr → Run Value
  | .literal value => return .ofLiteral value
  | .name word => here.scope.lookup word
  | .list items => do Run.newList (← evaluateAll here items)
  | .tuple items => return .tuple (← evaluateAll here items)
  | .table entries => do
    Run.newTable (← Entries.putAll [] (entriesInTurn (← evaluateAll here entries)))
  | .member object word => do (← evaluate here object).member word
  | .item object (.bounds start stop step) => do
    let object ← evaluate here object
    let start ← evaluate here start
    let stop ← evaluate here stop
    object.slice start stop (← evaluate here step)
  | .item object key => do
    let object ← evaluate here object
    object.item (← evaluate here key)
  | .bounds _ _ _ => Run.fault .form
  | .call function arguments passing => do
    let function ← evaluate here function
    here.calls.value function (← evaluateArguments here ⟨[], []⟩ arguments passing)
  | .filter _ word value arguments passing => do
    let value ← evaluate here value
    Filter.apply word value (← evaluateArguments here ⟨[], []⟩ arguments passing)
  | .test _ word value arguments passing => do
    let value ← evaluate here value
    let arguments ← evaluateArguments here ⟨[], []⟩ arguments passing
    if word ∈ testNames then return .bool (← Test.apply word value arguments)
    else if arguments.named.isEmpty then
      Run.fail ("No test named " ++ Text.quoted word ++ " found.")
    else Run.fault .kind
  | .not value => do return .bool !(← (← evaluate here value).truth)
  | .and left right => do
    let first ← evaluate here left
    if ← first.truth then evaluate here right else return first
  | .or left right => do
    let first ← evaluate here left
    if ← first.truth then return first else evaluate here right
  | .sign isNegative value => do signed isNegative (← evaluate here value)
  | .binary op left right => do
    let first ← evaluate here left
    binary op first (← evaluate here right)
  | .concat parts => do
    let values ← evaluateAll here parts
    joinedTexts (!allConstant parts && (← here.escapes)) values
  | .compare first ops rest => do
    return .bool (← compareChain here (← evaluate here first) ops rest)
  | .choose condition yes no => do
    if ← (← evaluate here condition).truth then evaluate here yes else evaluate here no
  | .missing line =>
    return .blank ("the inline if-expression on line " ++ Text.decimalString line ++
      " evaluated to false and no else section was defined.")
  | .captured => return here.captured

/-- The values of expressions, from left to right. -/
def evaluateAll (here : Here) : List Expr → Run (List Value)
  | [] => return []
  | first :: rest => do
    let value ← evaluate here first
    return value :: (← evaluateAll here rest)

/-- Adds the values of expressions to the arguments of a call. -/
def evaluateArguments (here : Here) (given : Arguments) :
    List Expr → List Passing → Run Arguments
  | first :: rest, passing => do
    let value ← evaluate here first
    evaluateArguments here (← given.add value (passing.headD .plain)) rest passing.tail
  | [], _ => return given

/-- Compares values pairwise, from left to right, up to the first comparison that does not hold. -/
def compareChain (here : Here) (value : Value) : List CompareOp → List Expr → Run Bool
  | op :: ops, next :: rest => do
    let other ← evaluate here next
    if ← value.compare op other then compareChain here other ops rest else return false
  | _, _ => return true

end

end CrateReadme.Template
