import CrateReadme.Template.Access

/-!
# Arguments

What a call passes on: values without names and values with names. Most callees have parameters with
names, to which the arguments are bound one by one; a call that does not fit fails because of its
kind.
-/

namespace CrateReadme.Template

/-- The arguments of a call: those without names and those with names. -/
structure Arguments where
  positional : List Value
  named : List (String × Value)

/-- Arguments by the names of the parameters they are bound to. -/
structure Bound where
  values : List (String × Value)

namespace Arguments

/-- Binds arguments to parameters, of which the first `required` have no default. -/
def bind (arguments : Arguments) (required : Nat) (parameters : List String) : Run Bound := do
  let values := parameters.zip arguments.positional
  let isFree (word : String) : Bool := word ∈ parameters && (values.lookup word).isNone
  let all := values ++ arguments.named
  let fits := arguments.positional.length ≤ parameters.length &&
    arguments.named.all (fun entry => isFree entry.1) &&
    (parameters.take required).all fun word => (all.lookup word).isSome
  if fits then return ⟨all⟩ else Run.fault .kind

/-- The arguments of a callee that takes between `least` and `most` of them, all without names. -/
def plain (arguments : Arguments) (least most : Nat) : Run (List Value) :=
  let count := arguments.positional.length
  if arguments.named.isEmpty && least ≤ count && count ≤ most then return arguments.positional
  else Run.fault .kind

def single (arguments : Arguments) : Run Value := do
  match ← arguments.plain 1 1 with
  | [value] => return value
  | _ => Run.fault .kind

/-- Fails unless there are no arguments. -/
def nothing (arguments : Arguments) : Run Unit := do
  let _ ← arguments.plain 0 0

end Arguments

namespace Bound

def get? (bound : Bound) (word : String) : Option Value :=
  bound.values.lookup word

def get (bound : Bound) (word : String) (default : Value) : Value :=
  (bound.get? word).getD default

def optional? (bound : Bound) (word : String) : Option Value :=
  match bound.get? word with
  | some .none => none
  | found => found

/-- Whether the argument for a parameter is given and counts as true. -/
def flag (bound : Bound) (word : String) : Run Bool :=
  (bound.get word (.bool false)).truth

end Bound

namespace Value

def index (value : Value) : Run Int :=
  match value.integer? with
  | some number => return number
  | Option.none => Run.fault .kind

def chars (value : Value) : Run (List Char) :=
  match value.chars? with
  | some found => return found
  | Option.none => Run.fault .kind

/-- The floating-point number of an integer. -/
def realOfInt (value : Int) : Run Binary64 :=
  let number := Binary64.ofInt value
  if number.isFinite then return number else Run.fault .overflow

def real : Value → Run Binary64
  | float number => return number
  | value =>
    match value.integer? with
    | some number => realOfInt number
    | Option.none => Run.reject value

end Value

end CrateReadme.Template
