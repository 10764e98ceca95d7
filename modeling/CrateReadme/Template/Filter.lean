import CrateReadme.Template.Filter.Layout
import CrateReadme.Template.Filter.Number
import CrateReadme.Template.Filter.Sequence

/-!
# Filters

What can be done with values behind a bar. One filter applies another one, given by its name, to
every item of a sequence.
-/

namespace CrateReadme.Template.Filter

def plain? (word : String) : Option Action :=
  match word with
  | "tojson" => some tojson
  | "pprint" => some (simple pprint)
  | word => onText? word <|> onNumber? word <|> onSequence? word

/-- Applies a filter to every item, or takes a member of every item. `apply` is what a filter of a
name does. -/
def map (apply : String → Action) : Action := fun value arguments => do
  let source : Run (List Value × (Value → Run Value)) := do
    unless ← value.truth do
      return ([], fun item => return item)
    match arguments.positional, arguments.named.lookup "attribute" with
    | [], some description =>
      let others := arguments.named.filter fun (word, _) =>
        word ≠ "attribute" && word ≠ "default"
      match others with
      | (word, _) :: _ => Run.fail ("Unexpected keyword argument " ++ Text.quoted word)
      | [] =>
        let steps ← memberSteps description
        let default := (Bound.mk arguments.named).optional? "default"
        return (← value.items, fun item => follow default item steps)
    | name :: rest, _ =>
      let change (item : Value) : Run Value := do
        name.requireKey
        match name.chars?.map String.ofList with
        | some word =>
          if word ∈ filterNames then apply word item ⟨rest, arguments.named⟩
          else Run.fail ("No filter named " ++ Text.quoted word ++ ".")
        | none => Run.fail ("No filter named " ++ String.ofList (← name.quoted) ++ ".")
      return (← value.items, change)
    | [], none => Run.fail "map requires a filter argument"
  match ← Run.attempt source with
  | .error cause => Run.brokenIterator cause
  | .ok (found, change) =>
    Run.newIteratorFrom (fun item => do return some (← change item)) found

/-- Applies a filter; filters may apply each other `left` deep. -/
def applyWithin : (left : Nat) → String → Action
  | 0, _, _, _ => Run.fault .depth
  | left + 1, word, value, arguments =>
    match plain? word with
    | some action => action value arguments
    | none =>
      if word = "map" then map (applyWithin left) value arguments
      else if arguments.named.isEmpty then
        Run.fail ("No filter named " ++ Text.quoted word ++ " found.")
      else Run.fault .kind

def apply : String → Action :=
  applyWithin nestingLimit

end CrateReadme.Template.Filter
