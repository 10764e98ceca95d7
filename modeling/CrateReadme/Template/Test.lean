import CrateReadme.Template.Operator
import CrateReadme.Template.Syntax
import CrateReadme.Text.Case

/-!
# Tests

What can be asked about values behind the word `is`.
-/

namespace CrateReadme.Template.Test

/-- Whether two values that hold no others are one and the same. -/
def isSameItem : Value → Value → Bool
  | .none, .none => true
  | .bool a, .bool b => a = b
  | .float a, .float b => a = b
  | .list a, .list b | .table a, .table b => a = b
  | .undefined _, _ | .blank _, _ => false
  | a, b => a.kindWord = b.kindWord && a.plainEqual b

def isSame : Value → Value → Bool
  | .tuple a, .tuple b =>
    a.length = b.length && (a.zip b).all fun pair => isSameItem pair.1 pair.2
  | a, b => isSameItem a b

def isCallable : Value → Bool
  | .method _ _ | .kind _ | .routine _ _ | .part _ _ | .joiner _ | .loop _ | .undefined _
  | .blank _ => true
  | _ => false

/-- Whether a value has a number of items and can be asked for single ones. -/
def isSequence : Value → Bool
  | .text _ | .markup _ | .bytes _ | .list _ | .tuple _ | .group _ _ | .table _ | .range _ _ _
  | .blank _ => true
  | _ => false

def isWordOf (words : List String) (value : Value) : Run Bool := do
  value.requireKey
  return value.chars?.any fun chars => String.ofList chars ∈ words

def comparison? : String → Option CompareOp
  | "==" | "eq" | "equalto" => some .eq
  | "!=" | "ne" => some .ne
  | ">" | "gt" | "greaterthan" => some .gt
  | ">=" | "ge" => some .ge
  | "<" | "lt" | "lessthan" => some .lt
  | "<=" | "le" => some .le
  | "in" => some .isIn
  | _ => none

def applySimple (word : String) (value : Value) : Run Bool := do
  let leaves (rest : Int) : Run Bool := do
    (← binary .mod value (.int 2)).equal (.int rest)
  match word, value with
  | "defined", value => return value.isDefined
  | "undefined", value => return !value.isDefined
  | "none", .none | "boolean", .bool _ | "true", .bool true | "false", .bool false
  | "integer", .int _ | "float", .float _ | "mapping", .table _ | "escaped", .markup _ =>
    return true
  | "none", _ | "boolean", _ | "true", _ | "false", _ | "integer", _ | "float", _ | "mapping", _
  | "escaped", _ => return false
  | "string", value => return value.chars?.isSome
  | "number", value => return value.isNumber
  | "callable", value => return isCallable value
  | "sequence", .loop _ => return false
  | "sequence", value => return isSequence value
  | "iterable", .undefined message => Run.fail message
  | "iterable", .view _ _ | "iterable", .iterator _ | "iterable", .loop _ => return true
  | "iterable", .whole _ => return true
  | "iterable", value => return isSequence value
  | "odd", _ => leaves 1
  | "even", _ => leaves 0
  | "lower", value => return Text.isLowerText (← value.shown)
  | "upper", value => return Text.isUpperText (← value.shown)
  | "filter", value => isWordOf filterNames value
  | "test", value => isWordOf testNames value
  | _, _ => Run.fault .kind

def apply (word : String) (value : Value) (arguments : Arguments) : Run Bool := do
  match comparison? word with
  | some op =>
    let other ← if op = .isIn then do
        match (← arguments.bind 1 ["seq"]).get? "seq" with
        | some other => pure other
        | none => Run.fault .kind
      else arguments.single
    value.compare op other
  | none =>
    match word with
    | "divisibleby" =>
      let divisor := (← arguments.bind 1 ["num"]).get "num" .none
      (← binary .mod value divisor).equal (.int 0)
    | "sameas" => return isSame value ((← arguments.bind 1 ["other"]).get "other" .none)
    | word =>
      arguments.nothing
      applySimple word value

end CrateReadme.Template.Test
