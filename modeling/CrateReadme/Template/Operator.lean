import CrateReadme.Template.Format.Percent
import CrateReadme.Text.Power

/-!
# Operators

Sums, products and the like of values. The quotient of integers is a floating-point number, and so
is a power with a negative exponent. Texts, lists and tuples can be added to each other and
multiplied by integers; what is added to markup is escaped. A text divided with a remainder is a
pattern that is filled in.
-/

namespace CrateReadme.Template

def onIntegers (op : BinaryOp) (m n : Int) : Run Value := do
  let isByZero : Bool := n = 0
  let quotient (a b : Int) : Run Value := do
    let number := Binary64.ofFraction (decide (a < 0) != decide (b < 0)) (.div ⟨a, 1⟩ ⟨b, 1⟩)
    if number.isFinite then return .float number else Run.fault .overflow
  match op with
  | .add => return .int (m + n)
  | .sub => return .int (m - n)
  | .mul => return .int (m * n)
  | .div => if isByZero then Run.fault .zeroDivision else quotient m n
  | .floorDiv => if isByZero then Run.fault .zeroDivision else return .int (m.fdiv n)
  | .mod => if isByZero then Run.fault .zeroDivision else return .int (m.fmod n)
  | .pow =>
    if 0 ≤ n then return .int (Int.pow m n.toNat)
    else if m = 0 then Run.fault .zeroDivision
    else
      match Binary64.power (← Value.realOfInt m) (← Value.realOfInt n) with
      | .number value => return .float value
      | _ => Run.fault .overflow

/-- The result of an operator on floating-point numbers. -/
def onReals (op : BinaryOp) (a b : Binary64) : Run Value :=
  let divided (result : Binary64) : Run Value :=
    if b.isZero then Run.fault .zeroDivision else return .float result
  match op with
  | .add => return .float (a.add b)
  | .sub => return .float (a.sub b)
  | .mul => return .float (a.mul b)
  | .div => divided (a.div b)
  | .floorDiv => divided (a.floorDiv b)
  | .mod => divided (a.modulo b)
  | .pow =>
    match a.power b with
    | .number value => return .float value
    | .divisionByZero => Run.fault .zeroDivision
    | .overflow => Run.fault .overflow
    | .notReal => Run.fault .kind

def onNumbers (op : BinaryOp) (left right : Value) : Run Value := do
  match left.integer?, right.integer? with
  | some m, some n => onIntegers op m n
  | _, _ =>
    if left.isNumber && right.isNumber then onReals op (← left.real) (← right.real)
    else Run.rejectBoth left right

/-- A sequence, several times. -/
def repeatedItems {α : Type} (items : List α) (count : Int) : List α :=
  (List.replicate count.toNat items).flatten

/-- A value that is a sequence, several times. -/
def repeatedValue? (value : Value) (count : Int) : Run (Option Value) := do
  match value with
  | .text chars => return some (.text (repeatedItems chars count))
  | .markup chars => return some (.markup (repeatedItems chars count))
  | .bytes all => return some (.bytes (repeatedItems all count))
  | .list ref => return some (← Run.newList (repeatedItems (← Run.listItems ref) count))
  | value => return value.tupleItems?.map fun items => .tuple (repeatedItems items count)

def sumOf (left right : Value) : Run Value := do
  match left, right with
  | .text a, .text b => return .text (a ++ b)
  | .markup a, .markup b => return .markup (a ++ b)
  | .markup a, .text b => return .markup (a ++ escapedText b)
  | .text a, .markup b => return .markup (escapedText a ++ b)
  | .bytes a, .bytes b => return .bytes (a ++ b)
  | .list a, .list b => Run.newList ((← Run.listItems a) ++ (← Run.listItems b))
  | left, right =>
    match left.tupleItems?, right.tupleItems? with
    | some a, some b => return .tuple (a ++ b)
    | _, _ => onNumbers .add left right

def productOf (left right : Value) : Run Value := do
  let times (value count : Value) : Run (Option Value) :=
    match count.integer? with
    | some count => repeatedValue? value count
    | none => return none
  match ← times left right with
  | some value => return value
  | none =>
    match ← times right left with
    | some value => return value
    | none => onNumbers .mul left right

def binary (op : BinaryOp) (left right : Value) : Run Value := do
  match op, left with
  | .add, _ => sumOf left right
  | .mul, _ => productOf left right
  | .mod, .text pattern => return .text (← Percent.format false pattern right)
  | .mod, .markup pattern => return .markup (← Percent.format true pattern right)
  | op, left => onNumbers op left right

def signed (isNegative : Bool) (value : Value) : Run Value :=
  match value, value.integer? with
  | .float number, _ => return .float (if isNegative then number.negated else number)
  | _, some number => return .int (if isNegative then -number else number)
  | _, none => Run.reject value

end CrateReadme.Template
