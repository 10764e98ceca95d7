import CrateReadme.Template.Filter.Text

/-!
# Filters on numbers

Filters that make numbers of values, round them and write them as sizes.
-/

namespace CrateReadme.Template.Filter

/-- The integer that a text spells, or else the integer part of the number that it spells. -/
def integerOfText? (base : Value) (text : List Char) : Option Int :=
  let whole? : Option Int := do
    let base ← base.integer?
    if base = 0 || (2 ≤ base && base ≤ 36) then Text.integer? base.toNat text else none
  match whole? with
  | some number => some number
  | none => (Text.real? text).bind Binary64.truncated?

def toInteger : Action := fun value arguments => do
  let bound ← arguments.bind 0 ["default", "base"]
  let default := bound.get "default" (.int 0)
  match value, value.chars?, value.integer? with
  | .undefined message, _, _ | .blank message, _, _ => Run.fail message
  | .float (.infinite _), _, _ => Run.fault .overflow
  | .float number, _, _ => return number.truncated?.elim default .int
  | _, some text, _ => return (integerOfText? (bound.get "base" (.int 10)) text).elim default .int
  | _, _, some number => return .int number
  | _, _, _ => return default

/-- The floating-point number that a value spells or is, if it is one. -/
def real? (value : Value) : Run (Option Binary64) :=
  match value, value.chars? with
  | _, some text => return Text.real? text
  | .undefined message, _ | .blank message, _ => Run.fail message
  | value, none => do if value.isNumber then return some (← value.real) else return none

/-- Makes a floating-point number of a value. -/
def toReal : Action := fun value arguments => do
  let bound ← arguments.bind 0 ["default"]
  return (← real? value).elim (bound.get "default" (.float (.zero false))) .float

def absolute (value : Value) : Run Value :=
  match value, value.integer? with
  | .float number, _ => return .float number.magnitude
  | _, some number => return .int number.natAbs
  | _, none => Run.fault .kind

/-- The least integer that is not less than a number, or the greatest that is not greater. -/
def wholeNumber (isUp : Bool) (value : Value) : Run Value :=
  match value, value.integer? with
  | .float number, _ =>
    match number, number.fraction? with
    | _, some fraction => return .int (if isUp then -fraction.neg.floor else fraction.floor)
    | .infinite _, _ => Run.fault .overflow
    | _, _ => Run.fault .value
  | _, some number => return .int number
  | _, none => Run.reject value

/-- The number nearest to another one that has the given number of decimal places; without such a
number, the nearest integer. -/
def nearest (value : Value) (places : Option Int) : Run Value :=
  match value, value.integer?, places with
  | .float number, _, some places =>
    let rounded := number.roundedTo places
    if number.isFinite && !rounded.isFinite then Run.fault .overflow else return .float rounded
  | .float number, _, none =>
    match number, (number.roundedTo 0).truncated? with
    | _, some whole => return .int whole
    | .infinite _, _ => Run.fault .overflow
    | _, _ => Run.fault .value
  | _, some number, some places =>
    return .int (if 0 ≤ places then number else Binary64.roundInt places.natAbs number)
  | _, some number, none => return .int number
  | _, none, _ => Run.fault .kind

def round : Action := fun value arguments => do
  let bound ← arguments.bind 0 ["precision", "method"]
  let precision := bound.get "precision" (.int 0)
  let method := bound.get "method" (.text "common".toList)
  method.requireKey
  match method.chars?.map String.ofList with
  | some "common" =>
    match precision with
    | .none => nearest value none
    | precision =>
      unless value.isNumber do
        Run.fault .kind
      nearest value (some (← precision.index))
  | some "ceil" | some "floor" =>
    let unit ← binary .pow (.int 10) precision
    let isUp := method.chars? = some "ceil".toList
    binary .div (← wholeNumber isUp (← binary .mul value unit)) unit
  | _ => Run.fail "method must be common, ceil or floor"

/-- A number of bytes in the largest unit of which there is at least one. -/
def sizeText (isBinary : Bool) (size : Binary64) : List Char :=
  let base : Int := if isBinary then 1024 else 1000
  let units := if isBinary then ["KiB", "MiB", "GiB", "TiB", "PiB", "EiB", "ZiB", "YiB"]
    else ["kB", "MB", "GB", "TB", "PB", "EB", "ZB", "YB"]
  let isBelow (limit : Int) : Bool := compareWithInt size limit = some .lt
  let inUnit (place : Nat) (word : String) : List Char :=
    let scaled := ((Binary64.ofInt base).mul size).div (.ofInt (Int.pow base (place + 2)))
    (if scaled.isNegative then ['-'] else []) ++ scaled.textIn .fixed false 1 ++ ' ' :: word.toList
  if compareWithInt size 1 = some .eq then "1 Byte".toList
  else if isBelow base then
    (Text.integerString (size.truncated?.getD 0)).toList ++ " Bytes".toList
  else
    let places := units.zip (List.range units.length)
    match places.find? fun (_, place) => isBelow (Int.pow base (place + 2)) with
    | some (word, place) => inUnit place word
    | none => inUnit 7 (if isBinary then "YiB" else "YB")

def filesizeformat : Action := fun value arguments => do
  let bound ← arguments.bind 0 ["binary"]
  let size ←
    match value.chars?, ← real? value with
    | _, some size => pure size
    | some _, none => Run.fault .value
    | none, none => Run.fault .kind
  let isBinary ← bound.flag "binary"
  match size with
  | .infinite true => Run.fault .overflow
  | size => return .text (sizeText isBinary size)

def onNumber? : String → Option Action
  | "abs" => some (simple absolute)
  | "int" => some toInteger
  | "float" => some toReal
  | "round" => some round
  | "filesizeformat" => some filesizeformat
  | _ => none

end CrateReadme.Template.Filter
