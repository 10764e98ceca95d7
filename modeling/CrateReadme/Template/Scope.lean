import CrateReadme.Template.Arguments

/-!
# Scopes

Where the names of a template have their values: every scope that is entered gets a frame with its
names, and the names of the whole template are kept apart. What stands in a scope sees its frame and
those of the scopes around it. The names of a scope lose their values when it is left, also for the
routines that were defined there.
-/

namespace CrateReadme.Template.Scope

/-- The frame that has a name, and the value of the name. -/
def cell? (scope : Scope) (word : String) : Run (Option (Nat × Option Value)) := do
  let frames := (← get).frames
  return scope.frames.findSome? fun ref =>
    (frames[ref]?.bind (List.lookup word)).map fun value => (ref, value)

def value? (scope : Scope) (word : String) : Run (Option Value) := do
  match ← scope.cell? word with
  | some (_, value) => return value
  | none => return none

def lookup (scope : Scope) (word : String) : Run Value := do
  return (← scope.value? word).getD (.undefined (Text.quoted word ++ " is undefined"))

def names (scope : Scope) : Run Context := do
  return (← get).contexts.getD scope.context default

def given? (scope : Scope) (word : String) : Run (Option Value) := do
  let context ← scope.names
  return context.bound.lookup word <|> context.given.lookup word

/-- What a name starts with when a scope inside of this one is entered. -/
def start (scope : Scope) (word : String) : Load → Run (Option Value)
  | .parameter | .unset => return none
  | .given => scope.given? word
  | .outer => scope.value? word
  | .itself => return some (.whole scope.context)
  | .inherited block =>
    return some (.undefined ("there is no parent block called " ++ Text.quoted block ++ "."))

def setFrame (ref : Nat) (frame : Frame) : Run Unit :=
  modify fun state => { state with frames := state.frames.setIfInBounds ref frame }

/-- Enters a scope with the given names: its frame and the scope. -/
def enter (scope : Scope) (locals : Locals) : Run (Nat × Scope) := do
  let frame ← locals.mapM fun (word, load) => do return (word, ← scope.start word load)
  let state ← get
  let ref := state.frames.size
  set { state with frames := state.frames.push frame }
  return (ref, { scope with frames := ref :: scope.frames, isTop := false })

/-- Gives the names of a frame their first values again, except for those that are bound when the
scope is entered. -/
def refresh (scope : Scope) (ref : Nat) (locals : Locals) : Run Unit := do
  let old := (← get).frames.getD ref []
  let frame ← locals.mapM fun (word, load) => do
    if load = .parameter then return (word, (old.lookup word).join)
    else return (word, ← scope.start word load)
  setFrame ref frame

/-- Leaves a scope: the names of its frame lose their values. -/
def leave (ref : Nat) : Run Unit := do
  let frame := (← get).frames.getD ref []
  setFrame ref (frame.map fun entry => (entry.1, none))

def bind (scope : Scope) (word : String) (value : Value) : Run Unit := do
  match ← scope.cell? word with
  | some (ref, _) =>
    let frame := (← get).frames.getD ref []
    setFrame ref (frame.map fun entry => if entry.1 = word then (word, some value) else entry)
  | none => pure ()

def bindWhole (scope : Scope) (word : String) (value : Value) : Run Unit := do
  let context ← scope.names
  let bound := (word, value) :: context.bound.filter fun entry => entry.1 ≠ word
  modify fun state => { state with
    contexts := state.contexts.setIfInBounds scope.context { context with bound } }

/-- Gives a name a value, and if nothing is around the scope, also for the whole template. -/
def assign (scope : Scope) (word : String) (value : Value) : Run Unit := do
  scope.bind word value
  if scope.isTop then
    scope.bindWhole word value

/-- A scope that sees nothing but the names of the whole template, to which the given names of this
scope are added. -/
def apart (scope : Scope) (passed : List String) : Run Scope := do
  let context ← scope.names
  let values ← passed.filterMapM fun word => do
    return (← scope.value? word).map fun value => (word, value)
  let state ← get
  set { state with
    contexts := state.contexts.push ⟨[], values ++ context.bound ++ context.given⟩ }
  return ⟨[], state.contexts.size, .off, false⟩

mutual

/-- Gives the names of a pattern the parts of a value. `put` gives a name a value. -/
def bindPattern (scope : Scope) (put : String → Value → Run Unit) : Pattern → Value → Run Unit
  | .name _ word, value => put word value
  | .field object word, value => do
    match ← scope.value? object with
    | some (.record ref) | some (.table ref) =>
      let entries : Entries ← Run.entries ref
      Run.replace ref (.table (← entries.put (.text word.toList) value))
    | some value => Run.reject value
    | none => Run.fault .kind
  | .tuple patterns, value => do
    let items ← value.items
    if items.length ≠ patterns.length then
      Run.fault .value
    bindPatterns scope put patterns items

/-- Gives the names of patterns the parts of values, one by one. -/
def bindPatterns (scope : Scope) (put : String → Value → Run Unit) :
    List Pattern → List Value → Run Unit
  | pattern :: patterns, value :: values => do
    bindPattern scope put pattern value
    bindPatterns scope put patterns values
  | _, _ => return

end

end CrateReadme.Template.Scope
